/-
# Everything that resolution reports

What resolution reports comes in four groups, one after the other: what is wrong with supertypes,
the names that two properties share, what is wrong with inverses, and the members of selects that
are nothing known.  Each group has kinds of its own, and none of them is a kind that reading
reports.
-/
import ExpressSchema.Proofs.Resolution.Kept

namespace ExpressSchema
namespace Schema

variable {s : Schema}

/-- What is wrong with supertypes, entity by entity. -/
def supertypeProblems (s : Schema) : List Problem := s.entityIds.filterMap s.chainProblem?

/-- What is wrong with the properties that are made, with the inverses among them, and with the
members of selects. -/
def laterProblems (s : Schema) : List Problem :=
  s.takenNames.map .nameTwice ++ s.makeProperties.pairing.problems ++ s.unknownIn s.selectMembers

/-! ## Selects before they are noted -/

/-- What comes before selects makes no difference to what their members stand for. -/
lemma selectMember_pairInverses (s : Schema) (member : String) :
    s.makeProperties.pairInverses.selectMember member = s.selectMember member := by
  refine selectMember_congr (fun key => ?_) ?_ member
  · rw [types_pairInverses_makeProperties]
  · rw [keys_pairInverses]
    exact (sameDescent_of_readEntities (readEntities_inherit s)).keys

lemma selectMembers_pairInverses (s : Schema) :
    s.makeProperties.pairInverses.selectMembers = s.selectMembers := by
  rw [selectMembers, selectMembers, types_pairInverses_makeProperties]

lemma unknownIn_pairInverses (s : Schema) (ps : List (String × String)) :
    s.makeProperties.pairInverses.unknownIn ps = s.unknownIn ps := by
  simp only [unknownIn, selectMember_pairInverses]

/-! ## What is reported -/

/-- What resolution reports follows what has been reported before. -/
theorem diagnostics_resolve (s : Schema) :
    s.resolve.diagnostics =
      s.diagnostics ++ (s.supertypeProblems ++ s.laterProblems).map Problem.toDiagnostic := by
  have hpair : s.makeProperties.pairInverses.diagnostics =
      s.makeProperties.diagnostics ++ s.makeProperties.pairing.problems.map Problem.toDiagnostic :=
    rfl
  rw [resolve, diagnostics_noteSelects, selectMembers_pairInverses, unknownIn_pairInverses, hpair,
    diagnostics_makeProperties, supertypeProblems, laterProblems]
  simp only [List.map_append, List.append_assoc]

lemma kind_of_mem_supertypeProblems {p : Problem} (h : p ∈ s.supertypeProblems) :
    p.kind = .unresolvedSuperclass ∨ p.kind = .inheritanceCycle := by
  obtain ⟨id, -, hid⟩ := List.mem_filterMap.1 h
  exact kind_of_chainProblem? hid

lemma kind_of_mem_laterProblems {p : Problem} (h : p ∈ s.laterProblems) :
    p.kind = .duplicateProperty ∨ p.kind = .unresolvedInverse ∨ p.kind = .inverseConflict ∨
      p.kind = .unresolvedSelectMember := by
  rcases List.mem_append.1 h with h | h
  · rcases List.mem_append.1 h with h | h
    · obtain ⟨name, -, rfl⟩ := List.mem_map.1 h
      exact .inl rfl
    · rcases Pairing.kind_of_mem_problems h with h | h | h
      · exact absurd h List.not_mem_nil
      · exact .inr (.inl h)
      · exact .inr (.inr (.inl h))
  · exact .inr (.inr (.inr (kind_of_mem_unknownIn h)))

end Schema
end ExpressSchema
