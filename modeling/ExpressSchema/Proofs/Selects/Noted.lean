/-
# Members of selects, one after the other

A member of a select stands for a type, an entity or a built-in type, looked for in this order, or
for nothing.  What it stands for learns of the select, and a member that stands for nothing is
reported.  The tables are changed while they are asked, but never in what they are asked for: what
the next member stands for does not depend on the members before it (`selectMember_noteSelect`).
So what is noted in the course of a run can be told from the schema with which the run began
(`noted_foldl`).
-/
import ExpressSchema.Lookup
import ExpressSchema.Proofs.Resolution.Reported

namespace ExpressSchema
namespace Schema

variable {s t u : Schema}

/-! ## What a member stands for -/

/-- What a member of a select stands for: of a type, an entity and a built-in type the first that
there is. -/
inductive StandsFor (s : Schema) (member : String) : SelectMember → Prop
  | type (h : Name.canonical member ∈ s.types.keys) :
      StandsFor s member (.type (Name.canonical member))
  | entity (htype : Name.canonical member ∉ s.types.keys)
      (h : Name.canonical member ∈ s.entities.keys) :
      StandsFor s member (.entity (Name.canonical member))
  | builtin {b : Builtin} (htype : Name.canonical member ∉ s.types.keys)
      (hentity : Name.canonical member ∉ s.entities.keys)
      (h : Builtin.ofText? member.toList = some b) : StandsFor s member (.builtin b)
  | unknown (htype : Name.canonical member ∉ s.types.keys)
      (hentity : Name.canonical member ∉ s.entities.keys)
      (h : Builtin.ofText? member.toList = none) : StandsFor s member .unknown

lemma StandsFor.unique {member : String} {m m' : SelectMember} (h : s.StandsFor member m)
    (h' : s.StandsFor member m') : m = m' := by
  cases h <;> cases h' <;> simp_all

/-- If no type stands for an entity, a type is found wherever one is registered. -/
lemma standsFor_selectMember (hs : ∀ x ∈ s.types.values, x.underlying ≠ .entity)
    (member : String) : s.StandsFor member (s.selectMember member) := by
  unfold selectMember selectMemberUnder
  cases htype : s.types.get? (Name.canonical member) with
  | some x =>
    have hentry := Table.get?_eq_some_iff.1 htype
    have hne : (x.underlying != .entity) = true :=
      bne_iff_ne.2 (hs x (List.mem_map_of_mem (f := Prod.snd) hentry))
    rw [Option.any_some, hne, if_pos rfl]
    exact .type (List.mem_map_of_mem (f := Prod.fst) hentry)
  | none =>
    have hkey := Table.get?_eq_none_iff.1 htype
    rw [Option.any_none, if_neg Bool.false_ne_true]
    by_cases hentity : Name.canonical member ∈ s.entities.keys
    · rw [if_pos (Table.contains_iff.2 hentity)]
      exact .entity hkey hentity
    · rw [if_neg fun h => hentity (Table.contains_iff.1 h)]
      cases hbuiltin : Builtin.ofText? member.toList with
      | some b => exact .builtin hkey hentity hbuiltin
      | none => exact .unknown hkey hentity hbuiltin

/-- What a member is found to be depends on what the types stand for and on the names of entities. -/
lemma selectMember_congr (htypes : ∀ key, (t.types.get? key).map (·.underlying) =
      (s.types.get? key).map (·.underlying)) (hentities : t.entities.keys = s.entities.keys)
    (member : String) : t.selectMember member = s.selectMember member := by
  have hany : ∀ o : Option TypeDecl, o.any (·.underlying != .entity) =
      (o.map (·.underlying)).any (· != .entity) := by
    intro o
    cases o <;> rfl
  unfold selectMember selectMemberUnder
  rw [hany, hany, htypes, Table.contains, Table.contains, hentities]

/-- Noting a select with one member makes no difference to what another one is found to be. -/
lemma selectMember_noteSelect (s : Schema) (p : String × String) (member : String) :
    (s.noteSelect p).selectMember member = s.selectMember member := by
  refine selectMember_congr (fun key => ?_) ?_ member
  · unfold noteSelect
    cases s.selectMember p.2 with
    | type other =>
      dsimp only
      rw [Table.get?_modify]
      split_ifs
      · rw [Option.map_map]
        rfl
      · rfl
    | entity other | builtin b | unknown => rfl
  · unfold noteSelect
    cases s.selectMember p.2 with
    | entity other => exact Table.keys_modify _ _ _
    | type other | builtin b | unknown => rfl

/-! ## The selects that list something -/

/-- The selects among these members that list something: its canonical name for each time that a
member of it stands for this. -/
def listingsIn (s : Schema) (ps : List (String × String)) (m : SelectMember) : List String :=
  (ps.filter fun p => s.selectMember p.2 = m).map Prod.fst

/-- What is reported of these members. -/
def unknownIn (s : Schema) (ps : List (String × String)) : List Problem :=
  (ps.filter fun p => s.selectMember p.2 = .unknown).map fun p => .unknownMember p.2 p.1

lemma listingsIn_append (s : Schema) (ps qs : List (String × String)) (m : SelectMember) :
    s.listingsIn (ps ++ qs) m = s.listingsIn ps m ++ s.listingsIn qs m := by
  simp [listingsIn]

lemma unknownIn_append (s : Schema) (ps qs : List (String × String)) :
    s.unknownIn (ps ++ qs) = s.unknownIn ps ++ s.unknownIn qs := by
  simp [unknownIn]

lemma listingsIn_singleton (s : Schema) (p : String × String) (m : SelectMember) :
    s.listingsIn [p] m = if s.selectMember p.2 = m then [p.1] else [] := by
  unfold listingsIn
  split_ifs with h <;> simp [h]

lemma unknownIn_singleton (s : Schema) (p : String × String) :
    s.unknownIn [p] = if s.selectMember p.2 = .unknown then [.unknownMember p.2 p.1] else [] := by
  unfold unknownIn
  split_ifs with h <;> simp [h]

/-- What `t` knows of selects is what `s` knew of them, followed by what these members tell. -/
structure Noted (s : Schema) (ps : List (String × String)) (t : Schema) : Prop where
  selectMember : ∀ member, t.selectMember member = s.selectMember member
  type : ∀ key, (t.types.get? key).map (·.selects) =
    (s.types.get? key).map fun x => x.selects ++ s.listingsIn ps (.type key)
  entity : ∀ key, (t.entities.get? key).map (·.selects) =
    (s.entities.get? key).map fun e => e.selects ++ s.listingsIn ps (.entity key)
  builtin : ∀ b, t.selectsOf b = s.selectsOf b ++ s.listingsIn ps (.builtin b)
  diagnostics : t.diagnostics = s.diagnostics ++ (s.unknownIn ps).map Problem.toDiagnostic

/-- Noting a select with one member. -/
lemma noted_noteSelect (s : Schema) (p : String × String) : s.Noted [p] (s.noteSelect p) := by
  refine ⟨selectMember_noteSelect s p, ?_, ?_, ?_, ?_⟩
  · intro key
    rw [listingsIn_singleton]
    unfold noteSelect
    cases s.selectMember p.2 with
    | type other =>
      dsimp only
      rw [Table.get?_modify]
      by_cases h : key = other
      · simp [h, Function.comp_def]
      · simp [h, Ne.symm h]
    | entity other | builtin b | unknown => simp [addBuiltinSelect]
  · intro key
    rw [listingsIn_singleton]
    unfold noteSelect
    cases s.selectMember p.2 with
    | entity other =>
      dsimp only
      rw [Table.get?_modify]
      by_cases h : key = other
      · simp [h, Function.comp_def]
      · simp [h, Ne.symm h]
    | type other | builtin b | unknown => simp [addBuiltinSelect]
  · intro b
    rw [listingsIn_singleton]
    unfold noteSelect
    cases s.selectMember p.2 with
    | builtin other =>
      dsimp only
      rw [selectsOf, addBuiltinSelect, Table.get?_insert]
      by_cases h : b = other
      · simp [h, selectsOf]
      · simp [h, Ne.symm h, selectsOf]
    | type other | entity other | unknown => simp [selectsOf, reportAll]
  · rw [unknownIn_singleton]
    unfold noteSelect
    cases s.selectMember p.2 with
    | unknown => simp
    | type other | entity other | builtin b => simp [addBuiltinSelect]

lemma Noted.refl (s : Schema) : s.Noted [] s where
  selectMember _ := rfl
  type key := by simp [listingsIn]
  entity key := by simp [listingsIn]
  builtin b := by simp [listingsIn]
  diagnostics := by simp [unknownIn]

/-- What is put at the end of a list, and then something more. -/
lemma map_append_trans {α β : Type} {f : α → List β} {o o' o'' : Option α} {xs ys : List β}
    (h₁ : o'.map f = o.map fun a => f a ++ xs) (h₂ : o''.map f = o'.map fun a => f a ++ ys) :
    o''.map f = o.map fun a => f a ++ (xs ++ ys) := by
  have hlast : (o'.map fun a => f a ++ ys) = (o'.map f).map (· ++ ys) := by
    rw [Option.map_map]
    rfl
  rw [h₂, hlast, h₁, Option.map_map]
  simp only [Function.comp_def, List.append_assoc]

/-- What is noted first is followed by what is noted then. -/
lemma Noted.trans {ps qs : List (String × String)} (h₁ : s.Noted ps t) (h₂ : t.Noted qs u) :
    s.Noted (ps ++ qs) u := by
  have hlistings : t.listingsIn qs = s.listingsIn qs := by
    funext m
    simp only [listingsIn, h₁.selectMember]
  have hunknown : t.unknownIn qs = s.unknownIn qs := by
    simp only [unknownIn, h₁.selectMember]
  refine ⟨fun member => (h₂.selectMember member).trans (h₁.selectMember member), fun key => ?_,
    fun key => ?_, fun b => ?_, ?_⟩
  · rw [listingsIn_append]
    exact map_append_trans (h₁.type key) (hlistings ▸ h₂.type key)
  · rw [listingsIn_append]
    exact map_append_trans (h₁.entity key) (hlistings ▸ h₂.entity key)
  · rw [h₂.builtin, h₁.builtin, hlistings, listingsIn_append, List.append_assoc]
  · rw [h₂.diagnostics, h₁.diagnostics, hunknown, unknownIn_append, List.map_append,
      List.append_assoc]

/-- Noting selects with any number of members. -/
lemma noted_foldl (s : Schema) (ps : List (String × String)) :
    s.Noted ps (ps.foldl noteSelect s) := by
  induction ps generalizing s with
  | nil => exact .refl s
  | cons p ps ih => exact (noted_noteSelect s p).trans (ih (s.noteSelect p))

/-! ## What is reported of members -/

lemma diagnostics_noteSelects (s : Schema) :
    s.noteSelects.diagnostics =
      s.diagnostics ++ (s.unknownIn s.selectMembers).map Problem.toDiagnostic :=
  (noted_foldl s s.selectMembers).diagnostics

lemma kind_of_mem_unknownIn {ps : List (String × String)} {p : Problem} (h : p ∈ s.unknownIn ps) :
    p.kind = .unresolvedSelectMember := by
  obtain ⟨q, -, rfl⟩ := List.mem_map.1 h
  rfl

/-- Of anything but unknown members noting selects reports nothing. -/
lemma countDiagnostics_noteSelects (s : Schema) {kind : DiagnosticKind}
    (h : kind ≠ .unresolvedSelectMember) :
    s.noteSelects.countDiagnostics kind = s.countDiagnostics kind := by
  rw [countDiagnostics_of_diagnostics_eq s.diagnostics_noteSelects, countProblems_eq_zero]
  · rfl
  · intro p hp
    rw [kind_of_mem_unknownIn hp]
    exact h.symm

end Schema
end ExpressSchema
