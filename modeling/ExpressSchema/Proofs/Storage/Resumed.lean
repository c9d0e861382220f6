/-
# Going on from a stored schema

A schema may be stored in the midst of things and restored later, perhaps elsewhere.  All of it is
restored, but the memory for names, the catalogue of built-in types and the log are not stored with
it.  They are not missed: whatever memory, catalogue and log the restored schema is given, from
there on every action answers as it would have answered without the interruption, and leads to the
same state of the reader and the same schema (`restored_resumes`).
-/
import ExpressSchema.Json.Schema
import ExpressSchema.Proofs.Closed.Run
import ExpressSchema.Proofs.Storage.Agreement

namespace ExpressSchema

/-! ## What can be seen of actions -/

/-- What an action answers. -/
inductive Answer where
  /-- Nothing. -/
  | nothing
  /-- The entity of the name that was asked for. -/
  | entity (id : EntityId)
  /-- The type of the name that was asked for. -/
  | type (id : TypeId)
deriving DecidableEq, Repr

/-- What can be seen of an action: its answer, and what it leads to. -/
structure Outcome where
  /-- What the action answers. -/
  answer : Answer
  /-- The state of the reader after it. -/
  state : State
  /-- The schema after it. -/
  schema : Schema
deriving DecidableEq, Repr

namespace Action

/-- What an action answers to a reader with a workspace. -/
def answer (p : State × Workspace) : Action → Answer
  | feed _ | restart | resolve => .nothing
  | declareEntity name => .entity (p.2.declareEntity name).1
  | declareType name => .type (p.2.declareType name).1

/-- What can be seen of several actions, one after the other. -/
def outcomes (p : State × Workspace) : List Action → List Outcome
  | [] => []
  | action :: actions =>
    let reached := run p action
    ⟨action.answer p, reached.1, reached.2.schema⟩ :: outcomes reached actions

end Action

/-! ## Readers that agree -/

namespace State.Agree

variable {p q : State × Workspace} (h : Agree p q)
include h

lemma answer_eq (action : Action) : action.answer p = action.answer q := by
  cases action with
  | feed token => rfl
  | restart => rfl
  | resolve => rfl
  | declareEntity name =>
    rw [Action.answer, Action.answer, Workspace.declareEntity_fst, Workspace.declareEntity_fst,
      h.schema]
  | declareType name =>
    rw [Action.answer, Action.answer, Workspace.declareType_fst, Workspace.declareType_fst,
      h.schema]

/-- Readers that agree before an action agree after it. -/
lemma run (action : Action) : Agree (Action.run p action) (Action.run q action) := by
  obtain ⟨state, w⟩ := p
  obtain ⟨state', w'⟩ := q
  obtain ⟨rfl, hschema⟩ := h
  cases action with
  | feed token =>
    have hstep := agree_step hschema token state
    refine ⟨hstep.state, ?_⟩
    rw [Action.run, Action.run, schema_feed, schema_feed]
    exact hstep.schema
  | restart => exact ⟨rfl, hschema⟩
  | declareEntity name => exact agree_declareEntity hschema (fun _ => state) name
  | declareType name => exact agree_declareType hschema (fun _ => state) name
  | resolve =>
    refine ⟨rfl, ?_⟩
    rw [Action.run, Action.run, Workspace.schema_resolve, Workspace.schema_resolve, hschema]

/-- From readers that agree the same is seen of any actions. -/
lemma outcomes_eq (actions : List Action) :
    Action.outcomes p actions = Action.outcomes q actions := by
  induction actions generalizing p q with
  | nil => rfl
  | cons action actions ih =>
    have hrun := h.run action
    rw [Action.outcomes, Action.outcomes, h.answer_eq action, hrun.state, hrun.schema, ih hrun]

end State.Agree

/-! ## Restoring -/

/-- At every point of every run, the schema is restored from the text in which it is stored, and
stored again it gives the same text.  Whatever memory, catalogue and log it is given then, any
further actions answer alike and lead to the same states and schemas as they do without storing. -/
theorem restored_resumes (builtins : Catalogue) (before : List Action) :
    let reached := before.foldl Action.run (.topLevel, { builtins := builtins })
    ∃ restored, Schema.restore? reached.2.schema.store = some restored ∧
      restored = reached.2.schema ∧ restored.store = reached.2.schema.store ∧
      ∀ names catalogue log after,
        Action.outcomes (reached.1, ⟨restored, names, catalogue, log⟩) after =
          Action.outcomes reached after := by
  intro reached
  refine ⟨reached.2.schema, Schema.restore?_store _, rfl, rfl, ?_⟩
  intro names catalogue log after
  have hagree : State.Agree (reached.1, ⟨reached.2.schema, names, catalogue, log⟩) reached :=
    ⟨rfl, rfl⟩
  exact hagree.outcomes_eq after

end ExpressSchema
