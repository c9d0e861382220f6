/-
# What is known of selects in the end

Resolution tells every member of every select to what it stands for, in the order in which the
selects are declared, and reports the members that stand for nothing.  Reading has noted nothing of
the kind, so that after resolution the lists of selects are exactly what the members come to:
nothing is lost and nothing made up, and the lists and the reports together are as long as there
are members.
-/
import ExpressSchema.Proofs.Reading.Ranges
import ExpressSchema.Proofs.Resolution.Problems
import Mathlib.Algebra.BigOperators.Group.Finset.Basic
import Mathlib.Algebra.GroupWithZero.Nat

namespace ExpressSchema

/-- Values can be gone through by their keys. -/
lemma Table.map_values_eq_map_keys {κ α β : Type} [DecidableEq κ] {t : Table κ α} {f : α → β}
    {g : κ → β} (h : ∀ k a, t.get? k = some a → f a = g k) : t.values.map f = t.keys.map g := by
  rw [values, keys, List.map_map, List.map_map]
  exact List.map_congr_left fun e he => h e.1 e.2 (get?_eq_some_iff.2 he)

/-- If a list has all that occurs in another one, it counts everything in there once. -/
lemma sum_map_count {α : Type} [DecidableEq α] {T l : List α} (hT : T.Nodup)
    (h : ∀ a ∈ l, a ∈ T) : (T.map fun a => l.count a).sum = l.length := by
  have hcard : ∑ a ∈ T.toFinset, Multiset.count a (l : Multiset α) = (l : Multiset α).card :=
    Multiset.sum_count_eq_card fun a ha => List.mem_toFinset.2 (h a (Multiset.mem_coe.1 ha))
  rw [List.sum_toFinset _ hT] at hcard
  simpa using hcard

namespace Schema

variable {s : Schema}

/-! ## Nothing is noted before -/

/-- Nothing knows of a select that lists it. -/
structure SelectsUnnoted (s : Schema) : Prop where
  type : ∀ x ∈ s.types.values, x.selects = []
  entity : ∀ e ∈ s.entities.values, e.selects = []
  builtin : s.builtinSelects = Table.empty

lemma Edit.selectsUnnoted {s t : Schema} (h : Edit s t) (hs : s.SelectsUnnoted) :
    t.SelectsUnnoted := by
  cases h with
  | declareEntity name =>
    refine ⟨hs.type, fun e he => ?_, hs.builtin⟩
    rcases Table.mem_values_findOrInsert he with he | rfl
    · exact hs.entity e he
    · rfl
  | declareType name =>
    refine ⟨fun x hx => ?_, hs.entity, hs.builtin⟩
    rcases Table.mem_values_findOrInsert hx with hx | rfl
    · exact hs.type x hx
    · rfl
  | settleType | addMembers | addValues =>
    refine ⟨fun x hx => ?_, hs.entity, hs.builtin⟩
    rcases Table.mem_values_modifyAt hx with hx | ⟨y, hy, rfl⟩
    · exact hs.type x hx
    · exact hs.type y hy
  | setAbstract | setSupertype | setSubtypes | addAttribute | addInverse | markUnique =>
    refine ⟨hs.type, fun e he => ?_, hs.builtin⟩
    rcases Table.mem_values_modifyAt he with he | ⟨e', he', rfl⟩
    · exact hs.entity e he
    · exact hs.entity e' he'
  | _ => exact ⟨hs.type, hs.entity, hs.builtin⟩

lemma Edits.selectsUnnoted {s t : Schema} (h : Edits s t) (hs : s.SelectsUnnoted) :
    t.SelectsUnnoted := by
  induction h with
  | refl => exact hs
  | tail _ hedit ih => exact hedit.selectsUnnoted ih

/-- What comes before selects in resolution notes none. -/
lemma SelectsUnnoted.pairInverses (hs : s.SelectsUnnoted) :
    s.makeProperties.pairInverses.SelectsUnnoted where
  type := by
    rw [types_pairInverses_makeProperties]
    exact hs.type
  entity := by
    have hselects : s.makeProperties.pairInverses.entities.values.map (·.selects) =
        s.entities.values.map (·.selects) :=
      (s.map_values_pairInverses _ (·.selects) (fun _ _ _ => rfl) fun _ _ => rfl).trans
        (map_values_congr (readEntities_inherit s) _ fun _ => rfl)
    intro e he
    have hmem := List.mem_map_of_mem (f := (·.selects)) he
    rw [hselects] at hmem
    obtain ⟨e', he', heq⟩ := List.mem_map.1 hmem
    rw [← heq, hs.entity e' he']
  builtin := by
    rw [apply_pairInverses_makeProperties (·.builtinSelects) fun _ _ _ _ => rfl, inherit_eq]
    exact hs.builtin

/-! ## What is noted -/

/-- The selects that list something: its canonical name for each time that a member of it stands
for this. -/
def listings (s : Schema) (m : SelectMember) : List String := s.listingsIn s.selectMembers m

/-- What is known of selects in a resolved schema is what the members of the selects come to that
were read. -/
structure SelectsTold (read resolved : Schema) : Prop where
  /-- Every member stands for one thing. -/
  standsFor : ∀ member m, read.StandsFor member m ↔ read.selectMember member = m
  /-- A type knows the selects that list it. -/
  type : ∀ key x, resolved.types.get? key = some x → x.selects = read.listings (.type key)
  /-- An entity knows the selects that list it. -/
  entity : ∀ key e, resolved.entities.get? key = some e → e.selects = read.listings (.entity key)
  /-- The selects that list a built-in type are known. -/
  builtin : ∀ b, resolved.selectsOf b = read.listings (.builtin b)
  /-- Each member that stands for nothing is reported once, in order. -/
  unknown : (resolved.diagnostics.filter fun d => d.kind = .unresolvedSelectMember) =
    ((read.selectMembers.filter fun p => read.selectMember p.2 = .unknown).map
      fun p => (Problem.unknownMember p.2 p.1).toDiagnostic)
  /-- All lists and reports together are as long as there are members. -/
  total : (resolved.types.values.map (·.selects.length)).sum +
      (resolved.entities.values.map (·.selects.length)).sum +
      (resolved.builtinSelects.values.map List.length).sum +
      resolved.countDiagnostics .unresolvedSelectMember =
    (read.types.values.map (·.members.length)).sum

lemma length_selectMembers (s : Schema) :
    s.selectMembers.length = (s.types.values.map (·.members.length)).sum := by
  simp [selectMembers, List.length_flatMap]

/-- The things that the members of selects stand for, in order. -/
def meanings (s : Schema) : List SelectMember := s.selectMembers.map fun p => s.selectMember p.2

lemma length_listings (s : Schema) (m : SelectMember) :
    (s.listings m).length = s.meanings.count m := by
  rw [listings, listingsIn, List.length_map, meanings, List.count, List.countP_map,
    List.countP_eq_length_filter]
  congr 1

/-! ## What resolution notes -/

/-- What resolution notes of selects, it notes last. -/
lemma noted_resolve (s : Schema) :
    s.makeProperties.pairInverses.Noted s.selectMembers s.resolve := by
  rw [resolve, noteSelects, selectMembers_pairInverses]
  exact noted_foldl _ _

lemma listingsIn_pairInverses (s : Schema) (ps : List (String × String)) (m : SelectMember) :
    s.makeProperties.pairInverses.listingsIn ps m = s.listingsIn ps m := by
  simp only [listingsIn, selectMember_pairInverses]

/-- Where nothing was known before, what is known is what has been added. -/
lemma eq_of_map_append {α β : Type} {f : α → List β} {t u : Table String α} {key : String}
    {xs : List β} (hmap : (u.get? key).map f = (t.get? key).map fun a => f a ++ xs)
    (hempty : ∀ a ∈ t.values, f a = []) {a : α} (ha : u.get? key = some a) : f a = xs := by
  rw [ha, Option.map_some] at hmap
  obtain ⟨b, hb, heq⟩ := Option.map_eq_some_iff.1 hmap.symm
  have hmem : b ∈ t.values := List.mem_map_of_mem (f := Prod.snd) (Table.get?_eq_some_iff.1 hb)
  rw [← heq, hempty b hmem, List.nil_append]

section

variable (hs : s.SelectsUnnoted)
include hs

lemma selects_type_resolve {key : String} {x : TypeDecl}
    (hx : s.resolve.types.get? key = some x) : x.selects = s.listings (.type key) := by
  rw [eq_of_map_append ((noted_resolve s).type key) hs.pairInverses.type hx,
    listingsIn_pairInverses, listings]

lemma selects_entity_resolve {key : String} {e : Entity}
    (he : s.resolve.entities.get? key = some e) : e.selects = s.listings (.entity key) := by
  rw [eq_of_map_append ((noted_resolve s).entity key) hs.pairInverses.entity he,
    listingsIn_pairInverses, listings]

lemma selectsOf_resolve (b : Builtin) : s.resolve.selectsOf b = s.listings (.builtin b) := by
  have hempty : s.makeProperties.pairInverses.selectsOf b = [] := by
    rw [selectsOf, hs.pairInverses.builtin]
    rfl
  rw [(noted_resolve s).builtin, hempty, List.nil_append, listingsIn_pairInverses, listings]

end

/-- What resolution says of members of selects that stand for nothing. -/
lemma unknown_resolve (hs : s.Unresolved) :
    (s.resolve.diagnostics.filter fun d => d.kind = .unresolvedSelectMember) =
      (s.unknownIn s.selectMembers).map Problem.toDiagnostic := by
  have hother : ∀ ps : List Problem, (∀ p ∈ ps, p.kind ≠ .unresolvedSelectMember) →
      ((ps.map Problem.toDiagnostic).filter fun d => d.kind = .unresolvedSelectMember) = [] := by
    intro ps hps
    refine List.filter_eq_nil_iff.2 fun d hd => ?_
    obtain ⟨p, hp, rfl⟩ := List.mem_map.1 hd
    exact fun hkind => hps p hp (of_decide_eq_true hkind)
  have hread : (s.diagnostics.filter fun d => d.kind = .unresolvedSelectMember) = [] := by
    refine List.filter_eq_nil_iff.2 fun d hd hkind => ?_
    have hreading := hs.isOfReading d hd
    rw [of_decide_eq_true hkind] at hreading
    exact Bool.false_ne_true hreading
  have hselect : (((s.unknownIn s.selectMembers).map Problem.toDiagnostic).filter
      fun d => d.kind = .unresolvedSelectMember) =
        (s.unknownIn s.selectMembers).map Problem.toDiagnostic := by
    refine List.filter_eq_self.2 fun d hd => ?_
    obtain ⟨p, hp, rfl⟩ := List.mem_map.1 hd
    exact decide_eq_true (kind_of_mem_unknownIn hp)
  rw [diagnostics_resolve, laterProblems, ← List.append_assoc, List.map_append, List.filter_append,
    List.filter_append, hread, hselect, hother, List.nil_append, List.nil_append]
  intro p hp
  rcases List.mem_append.1 hp with hp | hp
  · rcases kind_of_mem_supertypeProblems hp with h | h <;> simp [h]
  · rcases List.mem_append.1 hp with hp | hp
    · obtain ⟨name, -, rfl⟩ := List.mem_map.1 hp
      exact DiagnosticKind.noConfusion
    · rcases Pairing.kind_of_mem_problems hp with h | h | h
      · exact absurd h List.not_mem_nil
      · simp [h]
      · simp [h]

/-! ## Nothing is lost -/

/-- What there is in a schema that a member of a select may stand for: its types, its entities and
the built-in types that it lists, and nothing at last. -/
def targets (s : Schema) : List SelectMember :=
  s.types.keys.map .type ++ s.entities.keys.map .entity ++ s.builtinSelects.keys.map .builtin ++
    [.unknown]

lemma nodup_targets (s : Schema) : s.targets.Nodup := by
  have htypes := s.types.nodup_keys.map (f := SelectMember.type) fun _ _ h => SelectMember.type.inj h
  have hentities := s.entities.nodup_keys.map (f := SelectMember.entity)
    fun _ _ h => SelectMember.entity.inj h
  have hbuiltins := s.builtinSelects.nodup_keys.map (f := SelectMember.builtin)
    fun _ _ h => SelectMember.builtin.inj h
  refine ((htypes.append hentities fun m hm hm' => ?_).append hbuiltins fun m hm hm' => ?_).append
    (List.nodup_singleton _) fun m hm hm' => ?_
  · obtain ⟨key, -, rfl⟩ := List.mem_map.1 hm
    simp at hm'
  · obtain ⟨b, -, rfl⟩ := List.mem_map.1 hm'
    simp at hm
  · obtain rfl := List.mem_singleton.1 hm'
    simp at hm

/-- Whatever a member of a select stands for is there in the end. -/
lemma mem_targets_resolve (hs : s.SelectsUnnoted)
    (htypes : ∀ x ∈ s.types.values, x.underlying ≠ .entity) {m : SelectMember}
    (h : m ∈ s.meanings) : m ∈ s.resolve.targets := by
  obtain ⟨p, hp, rfl⟩ := List.mem_map.1 h
  rw [targets]
  cases hm : s.selectMember p.2 with
  | type key =>
    have hkey : key ∈ s.types.keys := by
      have hstands := hm ▸ standsFor_selectMember htypes p.2
      cases hstands
      assumption
    simp [keys_types_resolve, hkey]
  | entity key =>
    have hkey : key ∈ s.entities.keys := by
      have hstands := hm ▸ standsFor_selectMember htypes p.2
      cases hstands
      assumption
    simp [s.sameDescent_resolve.keys, hkey]
  | builtin b =>
    -- the list of selects that list it has an entry, and so is not the default
    have hlisted : p.1 ∈ s.resolve.selectsOf b := by
      rw [selectsOf_resolve hs]
      exact List.mem_map_of_mem (List.mem_filter.2 ⟨hp, decide_eq_true hm⟩)
    have hkey : b ∈ s.resolve.builtinSelects.keys := by
      by_contra hkey
      rw [selectsOf, Table.get?_eq_none_iff.2 hkey] at hlisted
      exact List.not_mem_nil hlisted
    simp [hkey]
  | unknown => simp

/-- All lists and reports together are as long as there are members of selects. -/
lemma total_resolve (hs : s.SelectsUnnoted) (hunresolved : s.Unresolved)
    (htypes : ∀ x ∈ s.types.values, x.underlying ≠ .entity) :
    (s.resolve.types.values.map (·.selects.length)).sum +
        (s.resolve.entities.values.map (·.selects.length)).sum +
        (s.resolve.builtinSelects.values.map List.length).sum +
        s.resolve.countDiagnostics .unresolvedSelectMember =
      (s.types.values.map (·.members.length)).sum := by
  have htype : s.resolve.types.values.map (·.selects.length) =
      s.resolve.types.keys.map fun key => s.meanings.count (.type key) :=
    Table.map_values_eq_map_keys fun key x hx => by
      rw [selects_type_resolve hs hx, length_listings]
  have hentity : s.resolve.entities.values.map (·.selects.length) =
      s.resolve.entities.keys.map fun key => s.meanings.count (.entity key) :=
    Table.map_values_eq_map_keys fun key e he => by
      rw [selects_entity_resolve hs he, length_listings]
  have hbuiltin : s.resolve.builtinSelects.values.map List.length =
      s.resolve.builtinSelects.keys.map fun b => s.meanings.count (.builtin b) :=
    Table.map_values_eq_map_keys fun b selects hb => by
      rw [← length_listings, ← selectsOf_resolve hs, selectsOf, hb, Option.getD_some]
  have hunknown : s.resolve.countDiagnostics .unresolvedSelectMember =
      s.meanings.count .unknown := by
    have hcount : s.resolve.countDiagnostics .unresolvedSelectMember =
        (s.resolve.diagnostics.filter fun d => d.kind = .unresolvedSelectMember).length := by
      rw [countDiagnostics, List.count, List.countP_map, List.countP_eq_length_filter]
      rfl
    rw [hcount, unknown_resolve hunresolved, ← length_listings, listings, listingsIn, unknownIn,
      List.length_map, List.length_map, List.length_map]
  have hlength : s.meanings.length = (s.types.values.map (·.members.length)).sum := by
    rw [meanings, List.length_map, length_selectMembers]
  rw [htype, hentity, hbuiltin, hunknown, ← hlength,
    ← sum_map_count (nodup_targets s.resolve) fun m => mem_targets_resolve hs htypes]
  simp [targets, Function.comp_def, Nat.add_assoc]

/-- After resolution everything knows the selects that list it. -/
theorem selectsTold_resolve (hs : s.SelectsUnnoted) (hunresolved : s.Unresolved)
    (htypes : ∀ x ∈ s.types.values, x.underlying ≠ .entity) : s.SelectsTold s.resolve where
  standsFor member m := by
    have hstands := standsFor_selectMember htypes member
    exact ⟨hstands.unique, fun h => h ▸ hstands⟩
  type _ _ := selects_type_resolve hs
  entity _ _ := selects_entity_resolve hs
  builtin := selectsOf_resolve hs
  unknown := by
    rw [unknown_resolve hunresolved, unknownIn, List.map_map]
    rfl
  total := total_resolve hs hunresolved htypes

end Schema

/-- Whatever text is loaded, everything that a member of a select stands for knows of it, members
that stand for nothing are reported, and there is nothing else. -/
theorem Load.selects_told (strips : Bool) (builtins : Catalogue) (text : String) :
    (Load.text ⟨false, strips⟩ builtins text).schema.SelectsTold
      (Load.text ⟨true, strips⟩ builtins text).schema := by
  have hunnoted : ({} : Schema).SelectsUnnoted :=
    ⟨fun _ hx => absurd hx List.not_mem_nil, fun _ he => absurd he List.not_mem_nil, rfl⟩
  rw [schema_text_resolves]
  exact Schema.selectsTold_resolve ((edits_lines builtins strips _).selectsUnnoted hunnoted)
    (unresolved builtins strips _) (knowsRanges builtins strips _).types

end ExpressSchema
