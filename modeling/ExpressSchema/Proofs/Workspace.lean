/-
# What work on a schema leaves in it

A workspace carries a log, a memory for names and the catalogue of built-in types next to its
schema.  The log and the catalogue are never asked for anything, and the memory answers with the
canonical name whatever it remembers, so each operation on a workspace is an operation on its
schema.  The lemmas below name that operation; what is proved about schemas later never looks at
the rest of a workspace.
-/
import ExpressSchema.Reader.EntityClause
import Mathlib.Tactic.Common

namespace ExpressSchema

namespace Schema

/-- The schema with further diagnostics. -/
def reportAll (s : Schema) (ps : List Problem) : Schema :=
  { s with diagnostics := s.diagnostics ++ ps.map Problem.toDiagnostic }

@[simp] lemma reportAll_nil (s : Schema) : s.reportAll [] = s := by
  simp [reportAll]

lemma reportAll_reportAll (s : Schema) (ps qs : List Problem) :
    (s.reportAll ps).reportAll qs = s.reportAll (ps ++ qs) := by
  simp [reportAll]

@[simp] lemma entities_reportAll (s : Schema) (ps : List Problem) :
    (s.reportAll ps).entities = s.entities := rfl

@[simp] lemma types_reportAll (s : Schema) (ps : List Problem) :
    (s.reportAll ps).types = s.types := rfl

@[simp] lemma properties_reportAll (s : Schema) (ps : List Problem) :
    (s.reportAll ps).properties = s.properties := rfl

@[simp] lemma siblings_reportAll (s : Schema) (ps : List Problem) :
    (s.reportAll ps).siblings = s.siblings := rfl

@[simp] lemma diagnostics_reportAll (s : Schema) (ps : List Problem) :
    (s.reportAll ps).diagnostics = s.diagnostics ++ ps.map Problem.toDiagnostic := rfl

end Schema

namespace Workspace

@[simp] lemma schema_update (w : Workspace) (f : Schema → Schema) :
    (w.update f).schema = f w.schema := rfl

@[simp] lemma schema_register (w : Workspace) (b : Builtin) :
    (w.register b).schema = w.schema := rfl

@[simp] lemma schema_report (w : Workspace) (p : Problem) :
    (w.report p).schema = w.schema.reportAll [p] := rfl

@[simp] lemma schema_reportAll (w : Workspace) (ps : List Problem) :
    (w.reportAll ps).schema = w.schema.reportAll ps := by
  induction ps generalizing w with
  | nil => simp [reportAll]
  | cons p ps ih =>
    have h : w.reportAll (p :: ps) = (w.report p).reportAll ps := rfl
    rw [h, ih, schema_report, Schema.reportAll_reportAll]
    rfl

@[simp] lemma schema_modifyEntity (w : Workspace) (id : EntityId) (f : Entity → Entity) :
    (w.modifyEntity id f).schema = w.schema.modifyEntity id f := rfl

@[simp] lemma schema_modifyType (w : Workspace) (id : TypeId) (f : TypeDecl → TypeDecl) :
    (w.modifyType id f).schema = w.schema.modifyType id f := rfl

lemma declareEntity_fst (w : Workspace) (name : String) :
    (w.declareEntity name).1 = (w.schema.declareEntity (Name.canonical name) name).1 := by
  simp [declareEntity]

@[simp] lemma schema_declareEntity (w : Workspace) (name : String) :
    (w.declareEntity name).2.schema =
      (w.schema.declareEntity (Name.canonical name) name).2 := by
  simp [declareEntity]

lemma declareType_fst (w : Workspace) (name : String) :
    (w.declareType name).1 = (w.schema.declareType (Name.canonical name) name).1 := by
  simp [declareType]

@[simp] lemma schema_declareType (w : Workspace) (name : String) :
    (w.declareType name).2.schema = (w.schema.declareType (Name.canonical name) name).2 := by
  simp [declareType]

end Workspace
end ExpressSchema
