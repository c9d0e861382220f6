/-
# The way up

The supertypes of an entity are followed in two places.  Resolution goes from place to place and
stops where it has been before (`followChain`).  A question about a loaded schema goes from entity
to entity and stops at a canonical name that it has seen (`ancestors`).  `Climbs` is the way up by
itself, with nothing that limits its length.  Every entity of a schema has one, and it has only
one; both walks follow it to its end.
-/
import ExpressSchema.Proofs.Inheritance.Registered
import Mathlib.Data.List.Nodup
import Mathlib.Data.List.Perm.Subperm

namespace ExpressSchema
namespace Schema

variable {s : Schema}

/-- From the entity, with these canonical names seen, the way leads up to these supertypes, the
nearest first, and ends: with an entity that has no declared supertype, or with one whose supertype
has been seen. -/
inductive Climbs (s : Schema) : List String → Entity → List Entity → Prop
  | top {seen : List String} {e : Entity} (h : s.supertype? e = none) : Climbs s seen e []
  | back {seen : List String} {e parent : Entity} (h : s.supertype? e = some parent)
      (hseen : parent.key ∈ seen) : Climbs s seen e []
  | up {seen : List String} {e parent : Entity} {above : List Entity}
      (h : s.supertype? e = some parent) (hnew : parent.key ∉ seen)
      (habove : Climbs s (parent.key :: seen) parent above) : Climbs s seen e (parent :: above)

/-- The one entity is a supertype of the other, directly or by way of others. -/
def IsBelow (s : Schema) : Entity → Entity → Prop :=
  Relation.TransGen fun e parent => s.supertype? e = some parent

/-- An entity with its supertypes, the furthest first. -/
def lineage (s : Schema) (e : Entity) : List Entity := (s.ancestors e).reverse ++ [e]

namespace Climbs

variable {seen : List String} {e : Entity} {above : List Entity}

/-- There is one way up. -/
lemma unique {above' : List Entity} (h : s.Climbs seen e above) (h' : s.Climbs seen e above') :
    above = above' := by
  induction h generalizing above' with
  | top htop =>
    cases h' with
    | top => rfl
    | back hparent => simp [htop] at hparent
    | up hparent => simp [htop] at hparent
  | back hparent hseen =>
    cases h' with
    | top htop => simp [htop] at hparent
    | back => rfl
    | up hparent' hnew =>
      obtain rfl := Option.some.inj (hparent.symm.trans hparent')
      exact absurd hseen hnew
  | up hparent hnew habove ih =>
    cases h' with
    | top htop => simp [htop] at hparent
    | back hparent' hseen =>
      obtain rfl := Option.some.inj (hparent.symm.trans hparent')
      exact absurd hseen hnew
    | up hparent' _ habove' =>
      obtain rfl := Option.some.inj (hparent.symm.trans hparent')
      rw [ih habove']

/-- With fuel for the whole way, the walk from entity to entity comes to its end. -/
lemma ancestorsFrom_eq (h : s.Climbs seen e above) {fuel : Nat} (hfuel : above.length ≤ fuel) :
    s.ancestorsFrom fuel seen e = above := by
  induction h generalizing fuel with
  | top htop =>
    cases fuel with
    | zero => rfl
    | succ fuel => simp only [ancestorsFrom, htop]
  | back hparent hseen =>
    cases fuel with
    | zero => rfl
    | succ fuel => simp only [ancestorsFrom, hparent, if_pos hseen]
  | up hparent hnew _ ih =>
    cases fuel with
    | zero => simp at hfuel
    | succ fuel =>
      have hrest := ih (Nat.le_of_succ_le_succ hfuel)
      simp only [ancestorsFrom, hparent, if_neg hnew, hrest]

/-- No canonical name comes twice, and none that has been seen comes again. -/
lemma nodup (h : s.Climbs seen e above) (hseen : seen.Nodup) :
    (above.map (·.key) ++ seen).Nodup := by
  induction h with
  | top => exact hseen
  | back => exact hseen
  | up _ hnew _ ih => exact List.nodup_middle.1 (ih (List.nodup_cons.2 ⟨hnew, hseen⟩))

/-- It makes no difference to have seen names that are not on the way. -/
lemma of_subset {seen' : List String} (h : s.Climbs seen e above) (hsub : seen ⊆ seen')
    (hnew : ∀ key ∈ seen', key ∉ seen → ∀ a, s.IsBelow e a → a.key ≠ key) :
    s.Climbs seen' e above := by
  induction h generalizing seen' with
  | top htop => exact .top htop
  | back hparent hseen => exact .back hparent (hsub hseen)
  | @up seen e parent above hparent hfresh _ ih =>
    refine .up hparent (fun hmem => hnew _ hmem hfresh _ (.single hparent) rfl) ?_
    refine ih (List.cons_subset_cons _ hsub) fun key hkey hfar a ha => ?_
    have hne : key ≠ parent.key := fun heq => hfar (heq ▸ List.mem_cons_self)
    have hmem : key ∈ seen' := (List.mem_cons.1 hkey).resolve_left hne
    exact hnew key hmem (fun hin => hfar (List.mem_cons_of_mem _ hin)) a (.head hparent ha)

end Climbs

/-! ## The walks -/

/-- A supertype stands where its name stands. -/
lemma exists_entityAt?_of_supertype? {e parent : Entity} (h : s.supertype? e = some parent) :
    ∃ name i, e.supertype = some name ∧
      s.entities.indexOf? (Name.canonical name) = some i ∧ s.entityAt? ⟨i⟩ = some parent := by
  obtain ⟨name, hname, hparent⟩ := Option.bind_eq_some_iff.1 h
  cases hi : s.entities.indexOf? (Name.canonical name) with
  | none =>
    rw [entity?_of_indexOf?_eq_none hi] at hparent
    cases hparent
  | some i =>
    rw [entity?_of_indexOf? hi] at hparent
    exact ⟨name, i, hname, hi, hparent⟩

lemma exists_entityAt?_of_isBelow {e a : Entity} (h : s.IsBelow e a) :
    ∃ id, s.entityAt? id = some a := by
  obtain ⟨b, -, hb⟩ := Relation.TransGen.tail'_iff.1 h
  obtain ⟨-, i, -, -, ha⟩ := exists_entityAt?_of_supertype? hb
  exact ⟨⟨i⟩, ha⟩

/-- What the way leads to stands in the schema. -/
lemma Climbs.exists_entityAt? {seen : List String} {e : Entity} {above : List Entity}
    (h : s.Climbs seen e above) : ∀ a ∈ above, ∃ id, s.entityAt? id = some a := by
  induction h with
  | top => simp
  | back => simp
  | up hparent _ _ ih =>
    obtain ⟨-, i, -, -, ha⟩ := exists_entityAt?_of_supertype? hparent
    exact List.forall_mem_cons.2 ⟨⟨⟨i⟩, ha⟩, ih⟩

/-- The walk from place to place starts with the supertype that stands where its name stands. -/
lemma supertype?_eq_bind {id : EntityId} {e : Entity} (he : s.entityAt? id = some e) :
    s.supertype? e = (s.supertypeName? id).bind s.entity? := by
  rw [supertypeName?, he]
  rfl

lemma supertype?_of_indexOf? {id : EntityId} {e : Entity} {name : String} {next : Nat}
    (he : s.entityAt? id = some e) (hname : s.supertypeName? id = some name)
    (hnext : s.entities.indexOf? (Name.canonical name) = some next) :
    ∃ parent, s.entityAt? ⟨next⟩ = some parent ∧ s.supertype? e = some parent := by
  have hlt : next < s.entities.entries.length := Table.lt_size_of_indexOf? hnext
  have hat : s.entityAt? ⟨next⟩ = some s.entities.entries[next].2 := by
    simp [entityAt?, Table.at?, Table.entryAt?, hlt]
  refine ⟨_, hat, ?_⟩
  rw [supertype?_eq_bind he, hname, Option.bind_some, entity?_of_indexOf? hnext, hat]

namespace Registered

variable (h : s.Registered)
include h

/-- The walk from place to place follows the way up, if where it has been is what has been seen. -/
lemma climbs_followChain (id : EntityId) (visited : List EntityId) {e : Entity}
    {seen : List String} (he : s.entityAt? id = some e)
    (hseen : ∀ id a, s.entityAt? id = some a → (id ∈ visited ↔ a.key ∈ seen)) :
    ∃ (ids : List EntityId) (above : List Entity), s.Climbs seen e above ∧
      (s.followChain id visited).members = ids.reverse ++ visited ∧
      ids.map s.entityAt? = above.map some := by
  fun_induction s.followChain id visited generalizing e seen with
  | case1 id visited hname =>
    have htop : s.supertype? e = none := by
      rw [supertype?_eq_bind he, hname, Option.bind_none]
    exact ⟨[], [], .top htop, rfl, rfl⟩
  | case2 id visited supertype hname hnone =>
    have htop : s.supertype? e = none := by
      rw [supertype?_eq_bind he, hname, Option.bind_some, entity?_of_indexOf?_eq_none hnone]
    exact ⟨[], [], .top htop, rfl, rfl⟩
  | case3 id visited supertype hname next hnext hmem =>
    obtain ⟨parent, hat, hparent⟩ := supertype?_of_indexOf? he hname hnext
    exact ⟨[], [], .back hparent ((hseen _ _ hat).1 hmem), rfl, rfl⟩
  | case4 id visited supertype hname next hnext hmem ih =>
    obtain ⟨parent, hat, hparent⟩ := supertype?_of_indexOf? he hname hnext
    -- the place is new exactly if the canonical name of what stands there is
    have hcons : ∀ id a, s.entityAt? id = some a →
        (id ∈ ⟨next⟩ :: visited ↔ a.key ∈ parent.key :: seen) := by
      intro id a ha
      rw [List.mem_cons, List.mem_cons, hseen id a ha]
      refine or_congr_left ⟨?_, h.eq_of_key_eq ha hat⟩
      rintro rfl
      rw [Option.some.inj (ha.symm.trans hat)]
    obtain ⟨ids, above, hclimbs, hmembers, hids⟩ := ih hat hcons
    have hnew : parent.key ∉ seen := fun hin => hmem ((hseen _ _ hat).2 hin)
    refine ⟨⟨next⟩ :: ids, parent :: above, .up hparent hnew hclimbs, ?_, ?_⟩
    · rw [hmembers, List.reverse_cons, List.append_assoc, List.singleton_append]
    · rw [List.map_cons, List.map_cons, hids, hat]

/-- The way up meets fewer entities than there are. -/
lemma length_lt_of_climbs {e : Entity} {above : List Entity} {id : EntityId}
    (he : s.entityAt? id = some e) (hclimbs : s.Climbs [e.key] e above) :
    above.length < s.entities.size := by
  have hnodup := hclimbs.nodup (List.nodup_singleton _)
  have hsub : above.map (·.key) ++ [e.key] ⊆ s.entities.keys := by
    intro key hkey
    rcases List.mem_append.1 hkey with hkey | hkey
    · obtain ⟨a, ha, rfl⟩ := List.mem_map.1 hkey
      obtain ⟨i, hi⟩ := hclimbs.exists_entityAt? a ha
      exact List.mem_of_getElem? (h.key_eq hi)
    · rw [List.mem_singleton.1 hkey]
      exact List.mem_of_getElem? (h.key_eq he)
  have hle := (hnodup.subperm hsub).length_le
  rw [List.length_append, List.length_map, List.length_singleton, Table.length_keys] at hle
  exact hle

/-- Both walks follow the way up to its end: the one lists the places of what the other lists. -/
theorem climbs_ancestors {id : EntityId} {e : Entity} (he : s.entityAt? id = some e) :
    s.Climbs [e.key] e (s.ancestors e) ∧
      (s.chain id).members.map s.entityAt? = (s.lineage e).map some := by
  have hseen : ∀ i a, s.entityAt? i = some a → (i ∈ [id] ↔ a.key ∈ [e.key]) := by
    intro i a ha
    rw [List.mem_singleton, List.mem_singleton]
    refine ⟨?_, h.eq_of_key_eq ha he⟩
    rintro rfl
    rw [Option.some.inj (ha.symm.trans he)]
  obtain ⟨ids, above, hclimbs, hmembers, hids⟩ := h.climbs_followChain id [id] he hseen
  have hancestors : s.ancestors e = above :=
    hclimbs.ancestorsFrom_eq (h.length_lt_of_climbs he hclimbs).le
  rw [hancestors]
  refine ⟨hclimbs, ?_⟩
  rw [chain, hmembers, lineage, hancestors, List.map_append, List.map_append, List.map_reverse,
    hids, List.map_reverse, List.map_singleton, he, List.map_singleton]

/-- The supertypes of an entity that is not its own supertype are its direct supertype and the
supertypes of that. -/
theorem ancestors_eq_cons {id : EntityId} {e parent : Entity} (he : s.entityAt? id = some e)
    (hparent : s.supertype? e = some parent) (hcycle : ¬ s.IsBelow e e) :
    s.ancestors e = parent :: s.ancestors parent := by
  -- nothing on the way up has the canonical name of the entity, as that would be the entity
  have hkey : ∀ a, s.IsBelow e a → a.key ≠ e.key := by
    intro a ha heq
    obtain ⟨i, hi⟩ := exists_entityAt?_of_isBelow ha
    obtain rfl := h.eq_of_key_eq hi he heq
    obtain rfl := Option.some.inj (hi.symm.trans he)
    exact hcycle ha
  obtain ⟨-, i, -, -, hi⟩ := exists_entityAt?_of_supertype? hparent
  have hrest : s.Climbs [parent.key, e.key] parent (s.ancestors parent) := by
    refine (h.climbs_ancestors hi).1.of_subset (by simp) fun key hmem hne a ha => ?_
    obtain rfl : key = e.key := by simpa [List.mem_singleton.not.1 hne] using hmem
    exact hkey a (.head hparent ha)
  have hnew : parent.key ∉ [e.key] :=
    List.mem_singleton.not.2 (hkey parent (.single hparent))
  exact (h.climbs_ancestors he).1.unique (.up hparent hnew hrest)

end Registered

end Schema
end ExpressSchema
