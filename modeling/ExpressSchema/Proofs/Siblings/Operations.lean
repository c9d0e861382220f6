/-
# Operations on the index of siblings

The index of siblings is built by two operations: groups are opened, and members are added to groups
that are open.  Every addition is a member of its group, but in the index a member goes with the
group to which it was added first.  A group tells its members apart by the case of the letters `A`
to `Z` only, the index by the canonical forms of names; that a group has a member of each canonical
form that leads to it is therefore an invariant of its own (`SiblingIndex.KeepsFirst`).
-/
import Mathlib.Data.List.Basic
import ExpressSchema.Sibling

namespace ExpressSchema

/-! ## Names and members -/

/-- A value at the end of a list is erased if it stands before. -/
lemma eraseDups_append_singleton {α : Type} [DecidableEq α] (xs : List α) (a : α) :
    (xs ++ [a]).eraseDups = if a ∈ xs then xs.eraseDups else xs.eraseDups ++ [a] := by
  rw [List.eraseDups_append, List.removeAll]
  by_cases h : a ∈ xs
  · simp [h]
  · have hkept : [a].filter (fun b => !xs.elem b) = [a] := by simp [h]
    rw [hkept, if_neg h]
    rfl

/-- Names that differ in the case of the letters `A` to `Z` only have one canonical form. -/
lemma Name.canonical_eq_of_sameLetters {m n : String}
    (h : Text.sameLetters m.toList n.toList = true) : canonical m = canonical n := by
  have hchar : ∀ c : Char, Text.capitals (bare [c.toLower]) = Text.capitals (bare [c]) :=
    Text.rel_toLower (r := fun c d => Text.capitals (bare [d]) = Text.capitals (bare [c]))
      (fun _ => rfl) (by decide +kernel)
  have hlower : ∀ cs : List Char, Text.capitals (bare (cs.map Char.toLower)) =
      Text.capitals (bare cs) := fun cs => by
    induction cs with
    | nil => rfl
    | cons c cs ih =>
      have hcons : ∀ d ds, bare (d :: ds) = bare [d] ++ bare ds := fun d ds => bare_append [d] ds
      rw [List.map_cons, hcons, hcons c, Text.capitals_append, Text.capitals_append, hchar, ih]
  rw [canonical, canonical, ← hlower m.toList, Text.sameLetters_iff.1 h, hlower]

namespace SiblingSet

lemma mem_insert {g : SiblingSet} {m : String} (name : String) (h : m ∈ g.members) :
    m ∈ (g.insert name).members := by
  unfold insert
  split_ifs
  · exact h
  · exact List.mem_append_left _ h

/-- After a name has been added there is a member of its canonical form. -/
lemma exists_mem_insert (g : SiblingSet) (name : String) :
    ∃ m ∈ (g.insert name).members, Name.canonical m = Name.canonical name := by
  unfold insert
  split_ifs with h
  · obtain ⟨m, hm, hsame⟩ := List.any_eq_true.1 h
    exact ⟨m, hm, Name.canonical_eq_of_sameLetters hsame⟩
  · exact ⟨name, List.mem_append_right _ List.mem_cons_self, rfl⟩

end SiblingSet

namespace SiblingIndex

/-! ## Operations -/

/-- An operation on the index. -/
inductive Operation where
  /-- Open a group. -/
  | openSet
  /-- Add a member to a group. -/
  | add (set : SiblingSetId) (member : String)
deriving DecidableEq, Repr

/-- The index after an operation. -/
def Operation.apply (s : SiblingIndex) : Operation → SiblingIndex
  | openSet => s.openSet.2
  | add set member => (s.add set member).2

/-- The index after several operations. -/
def after (s : SiblingIndex) (operations : List Operation) : SiblingIndex :=
  operations.foldl Operation.apply s

/-- Each member is added to a group that is open by then.  The groups are numbered as they are
opened, so these are the identifiers that `openSet` has given out. -/
def Issued (s : SiblingIndex) : List Operation → Prop
  | [] => True
  | .openSet :: operations => Issued s.openSet.2 operations
  | .add set member :: operations =>
    set.index < s.sets.length ∧ Issued (s.add set member).2 operations

/-- The members that are added and the groups to which they are, in order. -/
def additions (operations : List Operation) : List (SiblingSetId × String) :=
  operations.filterMap fun
    | .openSet => none
    | .add set member => some (set, member)

/-- The canonical forms of the members that are added, in order. -/
def keysOf (listed : List (SiblingSetId × String)) : List String :=
  listed.map fun a => Name.canonical a.2

variable {s : SiblingIndex} {listed : List (SiblingSetId × String)} {xs ys : List Operation}

lemma after_append (s : SiblingIndex) (xs ys : List Operation) :
    s.after (xs ++ ys) = (s.after xs).after ys := List.foldl_append

lemma issued_append : s.Issued (xs ++ ys) ↔ s.Issued xs ∧ (s.after xs).Issued ys := by
  induction xs generalizing s with
  | nil => exact iff_of_eq (true_and _).symm
  | cons a xs ih =>
    cases a with
    | openSet => exact ih
    | add set member => exact (and_congr_right fun _ => ih).trans (and_assoc).symm

lemma additions_append (xs ys : List Operation) :
    additions (xs ++ ys) = additions xs ++ additions ys := List.filterMap_append

/-! ## One operation -/

section
variable {set : SiblingSetId} {member : String}

lemma byMember_add_of_mem (h : Name.canonical member ∈ s.byMember.keys) :
    (s.add set member).2.byMember = s.byMember := by
  simp [add, h]

lemma byMember_add_of_notMem (h : Name.canonical member ∉ s.byMember.keys) :
    (s.add set member).2.byMember = s.byMember.insert (Name.canonical member) set := by
  simp [add, h]

/-- A key leads where it led before, and a new one to the group of the addition. -/
lemma get?_add (key : String) : (s.add set member).2.byMember.get? key =
    (s.byMember.get? key).or (if Name.canonical member = key then some set else none) := by
  by_cases hknown : Name.canonical member ∈ s.byMember.keys
  · rw [byMember_add_of_mem hknown]
    split_ifs with hkey
    · cases hget : s.byMember.get? key with
      | none => exact absurd (hkey ▸ hknown) (Table.get?_eq_none_iff.1 hget)
      | some id => rfl
    · rw [Option.or_none]
  · rw [byMember_add_of_notMem hknown, Table.get?_insert]
    by_cases hkey : key = Name.canonical member
    · rw [if_pos hkey, if_pos hkey.symm, Table.get?_eq_none_iff.2 (hkey ▸ hknown), Option.none_or]
    · rw [if_neg hkey, if_neg (Ne.symm hkey), Option.or_none]

lemma set?_add (id : SiblingSetId) : (s.add set member).2.set? id =
    (s.set? id).map fun group => if set.index = id.index then group.insert member else group :=
  List.getElem?_modify _ _ _ _

end

/-- The index of members that were added in this order. -/
structure KeepsFirst (listed : List (SiblingSetId × String)) (s : SiblingIndex) : Prop where
  /-- The keys are the different canonical forms, in order of first addition. -/
  keys : s.byMember.keys = (keysOf listed).eraseDups
  /-- A key leads to the group of its first addition. -/
  first : ∀ key, s.byMember.get? key =
    (listed.find? fun a => Name.canonical a.2 = key).map Prod.fst
  /-- A key leads to a group with a member of that canonical form. -/
  coherent : ∀ key id, s.byMember.get? key = some id →
    ∃ group, s.set? id = some group ∧ ∃ m ∈ group.members, Name.canonical m = key

namespace KeepsFirst

lemma empty : KeepsFirst [] {} where
  keys := rfl
  first _ := rfl
  coherent _ _ h := by cases h

lemma openSet (h : KeepsFirst listed s) : KeepsFirst listed s.openSet.2 where
  keys := h.keys
  first := h.first
  coherent key id hid := by
    obtain ⟨group, hgroup, hmember⟩ := h.coherent key id hid
    have hlt : id.index < s.sets.length := (List.getElem?_eq_some_iff.1 hgroup).1
    exact ⟨group, (List.getElem?_append_left hlt).trans hgroup, hmember⟩

/-- A member that is in the index keeps its group; a new one gets the group to which it is added. -/
lemma add (h : KeepsFirst listed s) {set : SiblingSetId} (hset : set.index < s.sets.length)
    (member : String) : KeepsFirst (listed ++ [(set, member)]) (s.add set member).2 where
  keys := by
    have hkeys : keysOf (listed ++ [(set, member)]) = keysOf listed ++ [Name.canonical member] :=
      List.map_append
    rw [keys_byMember_add, hkeys, eraseDups_append_singleton, h.keys]
    simp only [List.mem_eraseDups]
  first key := by
    rw [get?_add, h.first, List.find?_append, Option.map_or, List.find?_singleton]
    by_cases hkey : Name.canonical member = key <;> simp [hkey]
  coherent key id hid := by
    rw [get?_add, Option.or_eq_some_iff] at hid
    rcases hid with hid | ⟨-, hid⟩
    · obtain ⟨group, hgroup, m, hm, hkey⟩ := h.coherent key id hid
      refine ⟨_, by rw [set?_add, hgroup]; rfl, m, ?_, hkey⟩
      split_ifs
      · exact SiblingSet.mem_insert member hm
      · exact hm
    · obtain ⟨hkey, rfl⟩ : Name.canonical member = key ∧ set = id := by
        split_ifs at hid with hkey
        · exact ⟨hkey, Option.some.inj hid⟩
      have hgroup : s.set? set = some s.sets[set.index] := List.getElem?_eq_getElem hset
      obtain ⟨m, hm, hcanonical⟩ := SiblingSet.exists_mem_insert s.sets[set.index] member
      refine ⟨_, by rw [set?_add, hgroup]; rfl, m, ?_, hcanonical.trans hkey⟩
      simpa using hm

end KeepsFirst

lemma KeepsFirst.after (h : KeepsFirst listed s) {operations : List Operation}
    (hissued : s.Issued operations) :
    KeepsFirst (listed ++ additions operations) (s.after operations) := by
  induction operations generalizing listed s with
  | nil => rwa [additions, List.filterMap_nil, List.append_nil]
  | cons a operations ih =>
    cases a with
    | openSet => exact ih h.openSet hissued
    | add set member =>
      have hrest := ih (h.add hissued.1 member) hissued.2
      rwa [List.append_assoc] at hrest

/-- What is in the index stays there. -/
lemma entries_prefix_after (s : SiblingIndex) (operations : List Operation) :
    s.byMember.entries <+: (s.after operations).byMember.entries := by
  induction operations generalizing s with
  | nil => exact List.prefix_rfl
  | cons a operations ih =>
    refine List.IsPrefix.trans ?_ (ih (a.apply s))
    cases a with
    | openSet => exact List.prefix_rfl
    | add set member =>
      by_cases hknown : Name.canonical member ∈ s.byMember.keys
      · have hsame : (s.add set member).2.byMember = s.byMember := byMember_add_of_mem hknown
        exact hsame ▸ List.prefix_rfl
      · have hentries : (s.add set member).2.byMember.entries = _ :=
          (congrArg Table.entries (byMember_add_of_notMem hknown)).trans
            (Table.entries_insert hknown set)
        exact ⟨_, hentries.symm⟩

/-! ## Any number of operations -/

/-- What several operations on an empty index come to. -/
structure FirstListing (operations : List Operation) (s : SiblingIndex) : Prop
    extends KeepsFirst (additions operations) s where
  /-- What is in the index at some time is there at the end, at the same place. -/
  kept : ∀ xs ys, operations = xs ++ ys → (after {} xs).byMember.entries <+: s.byMember.entries
  /-- Adding a member is answered in the negative just when the key is in the index. -/
  answer : ∀ xs set member ys, operations = xs ++ .add set member :: ys →
    (((after {} xs).add set member).1 = false ↔
      Name.canonical member ∈ (after {} xs).byMember.keys)
  /-- Every key is listed once, with the group to which it leads. -/
  pairs : s.toList.map Prod.fst = s.byMember.keys ∧
    ∀ e ∈ s.toList, (s.byMember.get? e.1).bind s.set? = some e.2

lemma firstListing_after {operations : List Operation} (h : Issued {} operations) :
    FirstListing operations (after {} operations) := by
  have hkeeps : KeepsFirst (additions operations) (after {} operations) := KeepsFirst.empty.after h
  refine { hkeeps with kept := ?_, answer := ?_, pairs := ?_ }
  · rintro xs ys rfl
    rw [after_append]
    exact entries_prefix_after _ ys
  · intro xs set member ys _
    simp [SiblingIndex.add]
  · have hset : ∀ e ∈ (after {} operations).byMember.entries, ∃ group,
        (after {} operations).set? e.2 = some group := fun e he => by
      obtain ⟨group, hgroup, -⟩ := hkeeps.coherent e.1 e.2 (Table.get?_eq_some_iff.2 he)
      exact ⟨group, hgroup⟩
    refine ⟨?_, fun e he => ?_⟩
    · have hfirst : ∀ e ∈ (after {} operations).byMember.entries,
          (((after {} operations).set? e.2).map fun group => (e.1, group)).map Prod.fst =
            some e.1 := fun e he => by
        obtain ⟨group, hgroup⟩ := hset e he
        rw [hgroup]
        rfl
      rw [toList, List.map_filterMap, List.filterMap_congr hfirst, List.filterMap_eq_map']
      rfl
    · obtain ⟨p, hp, hpair⟩ := List.mem_filterMap.1 he
      obtain ⟨group, hgroup, rfl⟩ := Option.map_eq_some_iff.1 hpair
      exact (Table.get?_eq_some_iff.2 hp) ▸ hgroup

end SiblingIndex

end ExpressSchema
