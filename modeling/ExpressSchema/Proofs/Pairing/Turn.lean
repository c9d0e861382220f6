/-
# The turn of an inverse

Inverses are paired one after the other, and each of them looks for its forward property among the
names that are left when its turn comes.  An inverse is reported as running against nothing known
exactly then, so that every report of this kind is that of an inverse which found nothing at its
turn.  Where inverses are apart, an inverse finds at its turn what it would find as the first.
-/
import ExpressSchema.Proofs.Pairing.Found

namespace ExpressSchema

namespace Pairing

/-! ## What is reported at a turn -/

lemma nameOf_eq {t u : PropertyTable} (h : t.unlinkedArena = u.unlinkedArena) (id : PropertyId) :
    t.nameOf id = u.nameOf id :=
  congrArg (Option.getD · "") (PropertyTable.nameAt?_congr h id)

/-- A turn reports that nothing is known only if nothing is found. -/
lemma mem_problems_step {x : Pairing} {p : PendingInverse} {problem : Problem}
    (h : problem ∈ (x.step p).problems) (hkind : problem.kind = .unresolvedInverse) :
    problem ∈ x.problems ∨ x.properties.forwardOf? p = none ∧
      problem = .unknownForward (x.properties.nameOf p.own) p.forward := by
  unfold step at h
  cases hforward : x.properties.forwardOf? p with
  | none =>
    rw [hforward] at h
    rcases List.mem_append.1 h with h | h
    · exact .inl h
    · rw [nameOf_eq (PropertyTable.unlinkedArena_letGo x.properties p.own)] at h
      exact .inr ⟨rfl, List.mem_singleton.1 h⟩
  | some target =>
    rw [hforward] at h
    dsimp only at h
    split_ifs at h
    · rcases List.mem_append.1 h with h | h
      · exact .inl h
      · rw [List.mem_singleton.1 h] at hkind
        cases hkind
    · unfold pairFree at h
      dsimp only at h
      split_ifs at h <;> exact .inl h

/-- Every report that nothing is known is that of some turn. -/
lemma exists_of_mem_problems {t : PropertyTable} {ps : List PendingInverse} {problem : Problem}
    (h : problem ∈ (ps.foldl step { properties := t }).problems)
    (hkind : problem.kind = .unresolvedInverse) :
    ∃ j p, ps[j]? = some p ∧
      ((ps.take j).foldl step { properties := t }).properties.forwardOf? p = none ∧
      problem = .unknownForward (t.nameOf p.own) p.forward := by
  induction ps using List.reverseRecOn with
  | nil => exact absurd h List.not_mem_nil
  | append_singleton ps p ih =>
    rw [List.foldl_append] at h
    rcases mem_problems_step h hkind with h | ⟨hforward, rfl⟩
    · obtain ⟨j, q, hj, hforward, heq⟩ := ih h
      obtain ⟨hlt, -⟩ := List.getElem?_eq_some_iff.1 hj
      refine ⟨j, q, by rw [List.getElem?_append_left hlt, hj], ?_, heq⟩
      rw [List.take_append_of_le_length hlt.le, hforward]
    · refine ⟨ps.length, p, by simp, by simpa using hforward, ?_⟩
      rw [nameOf_eq (unlinkedArena_foldl_step ps _)]

end Pairing

namespace Schema

/-- The pairing when it is the turn of the inverse at this place. -/
def pairingAt (s : Schema) (j : Nat) : Pairing :=
  (s.pendingInverses.take j).foldl Pairing.step { properties := s.properties }

/-- What the inverse at this place is found to run against when its turn comes. -/
def targetAt? (s : Schema) (j : Nat) : Option PropertyId :=
  (s.pendingInverses[j]?).bind (s.pairingAt j).properties.forwardOf?

/-- The report that the inverse at this place runs against nothing known. -/
def unknownForwardAt? (s : Schema) (j : Nat) : Option Diagnostic :=
  (s.pendingInverses[j]?).map fun p =>
    (Problem.unknownForward (s.properties.nameOf p.own) p.forward).toDiagnostic

variable {s : Schema}

/-! ## What is reported in the end -/

/-- Noting selects reports nothing but unknown members. -/
lemma mem_diagnostics_noteSelects {d : Diagnostic} (h : d ∈ s.noteSelects.diagnostics) :
    d ∈ s.diagnostics ∨ d.kind = .unresolvedSelectMember := by
  rw [diagnostics_noteSelects] at h
  rcases List.mem_append.1 h with h | h
  · exact .inl h
  · obtain ⟨p, hp, rfl⟩ := List.mem_map.1 h
    exact .inr (kind_of_mem_unknownIn hp)

/-- Of inverses against nothing known only pairing reports. -/
lemma mem_diagnostics_resolve (hs : s.Unresolved) {d : Diagnostic}
    (h : d ∈ s.resolve.diagnostics) (hkind : d.kind = .unresolvedInverse) :
    ∃ problem ∈ s.makeProperties.pairing.problems, d = problem.toDiagnostic := by
  have hnone : s.makeProperties.countDiagnostics .unresolvedInverse = 0 := by
    rw [countDiagnostics_makeProperties s (by decide) (by decide) (by decide),
      hs.countDiagnostics_eq_zero rfl]
  rcases mem_diagnostics_noteSelects h with h | h
  · rcases List.mem_append.1 h with h | h
    · -- of this kind nothing has been reported before
      have hmem := List.mem_map_of_mem (f := (·.kind)) h
      rw [hkind] at hmem
      exact absurd hmem (List.count_eq_zero.1 hnone)
    · obtain ⟨problem, hmem, rfl⟩ := List.mem_map.1 h
      exact ⟨problem, hmem, rfl⟩
  · rw [hkind] at h
    cases h

/-- Every report of an inverse against nothing known is that of an inverse which finds nothing at
its turn. -/
theorem exists_of_unresolvedInverse (hs : s.Unresolved) {d : Diagnostic}
    (h : d ∈ s.resolve.diagnostics) (hkind : d.kind = .unresolvedInverse) :
    ∃ j, s.makeProperties.targetAt? j = none ∧ s.makeProperties.unknownForwardAt? j = some d := by
  obtain ⟨problem, hmem, rfl⟩ := mem_diagnostics_resolve hs h hkind
  obtain ⟨j, p, hj, hforward, rfl⟩ := Pairing.exists_of_mem_problems hmem hkind
  refine ⟨j, ?_, ?_⟩
  · rw [targetAt?, hj, Option.bind_some]
    exact hforward
  · rw [unknownForwardAt?, hj, Option.map_some]

/-- Where inverses are apart, an inverse finds at its turn what it would find as the first. -/
lemma InversesApart.targetAt?_eq (h : s.InversesApart) (hp : s.properties = {}) (j : Nat) :
    s.makeProperties.targetAt? j = (s.madePending[j]?).bind s.madeTable.forwardOf? := by
  rw [targetAt?, pairingAt, pendingInverses_eq_madePending hp h.fits,
    properties_makeProperties hp]
  cases hj : s.madePending[j]? with
  | none => rw [Option.bind_none, Option.bind_none]
  | some p =>
    rw [Option.bind_some, Option.bind_some]
    exact h.apart.forwardOf?_at_turn hj

end Schema
end ExpressSchema
