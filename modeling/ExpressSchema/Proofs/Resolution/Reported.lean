/-
# What the passes of resolution report

Each pass of resolution reports problems of its own kinds, after those that are already listed, so
that the number of diagnostics of a kind can be told pass by pass.
-/
import ExpressSchema.Proofs.Resolution.Declared

namespace ExpressSchema

/-- How often problems of this kind are listed. -/
def countProblems (kind : DiagnosticKind) (problems : List Problem) : Nat :=
  (problems.map Problem.kind).count kind

lemma countProblems_eq_zero {kind : DiagnosticKind} {ps : List Problem}
    (h : ∀ p ∈ ps, p.kind ≠ kind) : countProblems kind ps = 0 := by
  rw [countProblems, List.count_eq_zero]
  intro hmem
  obtain ⟨p, hp, hkind⟩ := List.mem_map.1 hmem
  exact h p hp hkind

lemma countProblems_append (kind : DiagnosticKind) (ps qs : List Problem) :
    countProblems kind (ps ++ qs) = countProblems kind ps + countProblems kind qs := by
  simp [countProblems]

lemma PropertyTable.clashes_append (t : PropertyTable) (ps qs : List Property) :
    t.clashes (ps ++ qs) = t.clashes ps ++ (t.insertAll ps).clashes qs := by
  induction ps generalizing t with
  | nil => rfl
  | cons p ps ih =>
    have hinsert : t.insertAll (p :: ps) = (t.insert p).insertAll ps := rfl
    simp only [List.cons_append, clashes, hinsert, ih]
    split <;> rfl

/-! ## Pairing -/

namespace Pairing

/-- Of an inverse only what it runs against may be wrong. -/
lemma kind_of_mem_problems_step {x : Pairing} {p : PendingInverse} {problem : Problem}
    (h : problem ∈ (x.step p).problems) :
    problem ∈ x.problems ∨ problem.kind = .unresolvedInverse ∨ problem.kind = .inverseConflict := by
  unfold step at h
  cases hforward : x.properties.forwardOf? p with
  | none =>
    rw [hforward] at h
    rcases List.mem_append.1 h with h | h
    · exact .inl h
    · rw [List.mem_singleton.1 h]
      exact .inr (.inl rfl)
  | some target =>
    rw [hforward] at h
    dsimp only at h
    split_ifs at h
    · rcases List.mem_append.1 h with h | h
      · exact .inl h
      · rw [List.mem_singleton.1 h]
        exact .inr (.inr rfl)
    · unfold pairFree at h
      dsimp only at h
      split_ifs at h <;> exact .inl h

lemma kind_of_mem_problems {ps : List PendingInverse} {x : Pairing} {problem : Problem}
    (h : problem ∈ (ps.foldl step x).problems) :
    problem ∈ x.problems ∨ problem.kind = .unresolvedInverse ∨ problem.kind = .inverseConflict := by
  induction ps generalizing x with
  | nil => exact .inl h
  | cons p ps ih => exact (ih h).elim kind_of_mem_problems_step .inr

end Pairing

namespace Schema

/-- How often diagnostics of this kind are listed. -/
def countDiagnostics (s : Schema) (kind : DiagnosticKind) : Nat :=
  (s.diagnostics.map (·.kind)).count kind

lemma countDiagnostics_of_diagnostics_eq {s s' : Schema} {ps : List Problem}
    (h : s'.diagnostics = s.diagnostics ++ ps.map Problem.toDiagnostic) (kind : DiagnosticKind) :
    s'.countDiagnostics kind = s.countDiagnostics kind + countProblems kind ps := by
  simp [countDiagnostics, h, countProblems, Function.comp_def, Problem.toDiagnostic]

lemma kind_of_chainProblem? {s : Schema} {id : EntityId} {p : Problem}
    (h : s.chainProblem? id = some p) :
    p.kind = .unresolvedSuperclass ∨ p.kind = .inheritanceCycle := by
  unfold chainProblem? problemAlong? at h
  dsimp only at h
  split at h
  · cases h
  · split at h
    · obtain rfl := Option.some.inj h
      exact .inl rfl
    · cases h
  · split at h
    · obtain rfl := Option.some.inj h
      exact .inr rfl
    · cases h

/-- Of supertypes only two kinds of problems are reported. -/
lemma countProblems_chainProblem? (s : Schema) {kind : DiagnosticKind}
    (hsuper : kind ≠ .unresolvedSuperclass) (hcycle : kind ≠ .inheritanceCycle) :
    countProblems kind (s.entityIds.filterMap s.chainProblem?) = 0 := by
  refine countProblems_eq_zero fun p hp heq => ?_
  obtain ⟨id, -, hid⟩ := List.mem_filterMap.1 hp
  rcases kind_of_chainProblem? hid with h | h
  · exact hsuper (heq.symm.trans h)
  · exact hcycle (heq.symm.trans h)

/-- The names within the schema that are taken when it is their turn to be given. -/
def takenNames (s : Schema) : List String :=
  s.properties.clashes
    (s.inherit.inverseProperties ++ s.inherit.makeInverseProperties.attributeProperties)

/-- What is reported before inverses are paired. -/
lemma diagnostics_makeProperties (s : Schema) :
    s.makeProperties.diagnostics = s.diagnostics ++
      (s.entityIds.filterMap s.chainProblem? ++
        s.takenNames.map Problem.nameTwice).map Problem.toDiagnostic := by
  have hinverse : ∀ s : Schema, s.makeInverseProperties.diagnostics =
      s.diagnostics ++ ((s.properties.clashes s.inverseProperties).map Problem.nameTwice).map
        Problem.toDiagnostic := fun _ => rfl
  have hattribute : ∀ s : Schema, s.makeAttributeProperties.diagnostics =
      s.diagnostics ++ ((s.properties.clashes s.attributeProperties).map Problem.nameTwice).map
        Problem.toDiagnostic := fun _ => rfl
  have hproperties : ∀ s : Schema, s.makeInverseProperties.properties =
      s.properties.insertAll s.inverseProperties := fun _ => rfl
  rw [makeProperties, hattribute, hinverse, hproperties, properties_inherit, diagnostics_inherit,
    takenNames, PropertyTable.clashes_append]
  simp only [List.map_append, List.append_assoc]

/-- Before inverses are paired, nothing is said about them. -/
lemma countDiagnostics_makeProperties (s : Schema) {kind : DiagnosticKind}
    (hsuper : kind ≠ .unresolvedSuperclass) (hcycle : kind ≠ .inheritanceCycle)
    (hname : kind ≠ .duplicateProperty) :
    s.makeProperties.countDiagnostics kind = s.countDiagnostics kind := by
  rw [countDiagnostics_of_diagnostics_eq s.diagnostics_makeProperties, countProblems_append,
    countProblems_chainProblem? s hsuper hcycle, countProblems_eq_zero]
  · rfl
  · intro p hp
    obtain ⟨name, -, rfl⟩ := List.mem_map.1 hp
    exact hname.symm

lemma countDiagnostics_pairInverses (s : Schema) (kind : DiagnosticKind) :
    s.pairInverses.countDiagnostics kind =
      s.countDiagnostics kind + countProblems kind s.pairing.problems :=
  countDiagnostics_of_diagnostics_eq rfl kind

/-! ## Selects -/

/-- What noting one select comes to, noting all of them comes to, if any number of times comes to
the same. -/
lemma rel_noteSelects {R : Schema → Schema → Prop} (hrefl : ∀ s, R s s)
    (htrans : ∀ {s t u}, R s t → R t u → R s u) (hstep : ∀ s p, R s (noteSelect s p))
    (s : Schema) : R s s.noteSelects := by
  have key : ∀ (ps : List (String × String)) (s : Schema), R s (ps.foldl noteSelect s) := by
    intro ps
    induction ps with
    | nil => exact hrefl
    | cons p ps ih => exact fun s => htrans (hstep s p) (ih _)
  exact key s.selectMembers s

/-- What noting one select leaves alone is left alone by noting all of them. -/
lemma apply_noteSelects {α : Type} (f : Schema → α) (h : ∀ s p, f (noteSelect s p) = f s)
    (s : Schema) : f s.noteSelects = f s :=
  rel_noteSelects (R := fun s t => f t = f s) (fun _ => rfl) (fun hst htu => htu.trans hst) h s

lemma properties_noteSelects (s : Schema) : s.noteSelects.properties = s.properties := by
  refine apply_noteSelects (·.properties) (fun s p => ?_) s
  unfold noteSelect
  cases s.selectMember p.2 <;> rfl

/-- Apart from the selects that list them, entities stay as they are. -/
lemma flatMap_values_noteSelects {α : Type} (s : Schema) (f : Entity → List α)
    (hf : ∀ e selects, f { e with selects := selects } = f e) :
    s.noteSelects.entities.values.flatMap f = s.entities.values.flatMap f := by
  have hmodify : ∀ (t : Table String Entity) (key select : String),
      (t.modify key fun e => { e with selects := e.selects ++ [select] }).values.flatMap f =
        t.values.flatMap f := by
    intro t key select
    simp only [Table.values, Table.modify, List.flatMap_map]
    congr 1
    funext e
    split
    · exact hf _ _
    · rfl
  refine apply_noteSelects (·.entities.values.flatMap f) (fun s p => ?_) s
  unfold noteSelect
  cases s.selectMember p.2 with
  | entity key => exact hmodify _ _ _
  | type key | builtin b | unknown => rfl

/-- Apart from the selects that list them, types stay as they are. -/
lemma map_types_noteSelects {α : Type} (s : Schema) (f : TypeDecl → α)
    (hf : ∀ t selects, f { t with selects := selects } = f t) :
    s.noteSelects.types.values.map f = s.types.values.map f := by
  refine apply_noteSelects (·.types.values.map f) (fun s p => ?_) s
  unfold noteSelect
  cases s.selectMember p.2 with
  | type key =>
    simp only [Table.values, Table.modify, List.map_map]
    refine List.map_congr_left fun t _ => ?_
    simp only [Function.comp_apply]
    split
    · exact hf _ _
    · rfl
  | entity key | builtin b | unknown => rfl

end Schema
end ExpressSchema
