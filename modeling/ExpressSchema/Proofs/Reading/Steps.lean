/-
# Steps without a record

The reader notes in its log when a token changes the kind of its state.  Nothing else depends on
these records, so what several tokens come to can be told by the steps alone: `stepAll` takes one
step for each token, and reading the tokens leads to the same state and the same schema.
-/
import ExpressSchema.Proofs.Reading.Edit
import ExpressSchema.Proofs.Storage.Agreement

namespace ExpressSchema
namespace State

/-- Take one step for each token. -/
def stepAll (s : State) (tokens : List Token) (w : Workspace) : State × Workspace :=
  tokens.foldl (fun p token => p.1.step token p.2) (s, w)

@[simp] lemma stepAll_nil (s : State) (w : Workspace) : s.stepAll [] w = (s, w) := rfl

@[simp] lemma stepAll_cons (s : State) (token : Token) (tokens : List Token) (w : Workspace) :
    s.stepAll (token :: tokens) w = (s.step token w).1.stepAll tokens (s.step token w).2 := rfl

lemma stepAll_append (s : State) (xs ys : List Token) (w : Workspace) :
    s.stepAll (xs ++ ys) w = (s.stepAll xs w).1.stepAll ys (s.stepAll xs w).2 := by
  simp [stepAll]

/-- Reading tokens comes to what the steps come to. -/
lemma agree_feedAll_stepAll (s : State) (tokens : List Token) {w w' : Workspace}
    (h : w.schema = w'.schema) : Agree (s.feedAll tokens w) (s.stepAll tokens w') := by
  induction tokens generalizing s w w' with
  | nil => exact agree_move h s
  | cons token tokens ih =>
    have hstep := agree_step h token s
    have hschema : (s.feed token w).2.schema = (s.step token w').2.schema :=
      (schema_feed token w s).trans hstep.schema
    have hstate : (s.feed token w).1 = (s.step token w').1 := hstep.state
    rw [feedAll_cons, stepAll_cons, hstate]
    exact ih _ hschema

/-- Reading goes by the schema only. -/
lemma agree_feedAll (s : State) (tokens : List Token) {w w' : Workspace}
    (h : w.schema = w'.schema) : Agree (s.feedAll tokens w) (s.feedAll tokens w') := by
  have hread := agree_feedAll_stepAll s tokens h
  have hread' := agree_feedAll_stepAll s tokens (w := w') rfl
  exact ⟨hread.state.trans hread'.state.symm, hread.schema.trans hread'.schema.symm⟩

end State
end ExpressSchema
