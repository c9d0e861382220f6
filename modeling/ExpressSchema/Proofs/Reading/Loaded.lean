/-
# Loading as reading and resolving

Loading reads lines and then, if it is told to, resolves references.  What is read and what is made
of it are told apart here, and what reading leaves to resolution is named: a schema that has only
been read is `Unresolved`.
-/
import ExpressSchema.Proofs.Reading.Edit
import ExpressSchema.Proofs.Resolution.Passes

namespace ExpressSchema

/-- The state of the reader and the workspace once all lines have been read. -/
def LoadSettings.read (settings : LoadSettings) (builtins : Catalogue)
    (lines : List (List Char)) : State × Workspace :=
  State.topLevel.feedLines (settings.prepare lines) { builtins := builtins }

namespace Workspace

lemma schema_endReading (w : Workspace) (state : State) (lines : Nat) :
    (w.endReading state lines).schema = w.schema := by
  unfold endReading
  split_ifs <;> rfl

lemma schema_endLoading (w : Workspace) : w.endLoading.schema = w.schema := by
  unfold endLoading
  split_ifs <;> rfl

end Workspace

namespace Load

variable (settings : LoadSettings) (builtins : Catalogue)

/-- What is loaded is what has been read, with its references resolved if that is wanted. -/
lemma schema_lines (lines : List (List Char)) :
    (Load.lines settings builtins lines).schema =
      if settings.resolves then (settings.read builtins lines).2.schema.resolve
      else (settings.read builtins lines).2.schema := by
  simp only [Load.lines, Workspace.schema_endLoading]
  split_ifs
  · rw [Workspace.schema_resolve, Workspace.schema_endReading]
    rfl
  · rw [Workspace.schema_endReading]
    rfl

/-- What is read of any lines is the empty schema, edited. -/
lemma edits_lines (strips : Bool) (lines : List (List Char)) :
    Schema.Edits {} (Load.lines ⟨false, strips⟩ builtins lines).schema := by
  rw [schema_lines]
  have hheld : State.topLevel.Held ({ builtins := builtins } : Workspace).schema := trivial
  exact (State.reads_feedLines { builtins := builtins }
    (LoadSettings.prepare ⟨false, strips⟩ lines) hheld).edits

/-- Resolution after loading makes of a schema what loading with resolution makes of it. -/
lemma schema_lines_resolves (strips : Bool) (lines : List (List Char)) :
    (Load.lines ⟨true, strips⟩ builtins lines).schema =
      (Load.lines ⟨false, strips⟩ builtins lines).schema.resolve := by
  rw [schema_lines, schema_lines]
  rfl

lemma schema_text_resolves (strips : Bool) (text : String) :
    (Load.text ⟨true, strips⟩ builtins text).schema =
      (Load.text ⟨false, strips⟩ builtins text).schema.resolve :=
  schema_lines_resolves builtins strips _

end Load

namespace Schema

/-- Nothing that resolution makes or reports is there. -/
structure Unresolved (s : Schema) : Prop where
  properties : s.properties = {}
  isOfReading : ∀ d ∈ s.diagnostics, d.kind.isOfReading = true

lemma Edit.unresolved {s t : Schema} (h : Edit s t) (hs : s.Unresolved) : t.Unresolved := by
  cases h with
  | report p hp =>
    refine ⟨hs.properties, fun d hd => ?_⟩
    rcases List.mem_append.1 hd with hd | hd
    · exact hs.isOfReading d hd
    · obtain rfl := List.mem_singleton.1 hd
      exact hp
  | _ => exact ⟨hs.properties, hs.isOfReading⟩

lemma Edits.unresolved {s t : Schema} (h : Edits s t) (hs : s.Unresolved) : t.Unresolved := by
  induction h with
  | refl => exact hs
  | tail _ hedit ih => exact hedit.unresolved ih

end Schema

/-- Reading leaves everything that resolution makes to resolution. -/
theorem Load.unresolved (builtins : Catalogue) (strips : Bool) (lines : List (List Char)) :
    (Load.lines ⟨false, strips⟩ builtins lines).schema.Unresolved :=
  (edits_lines builtins strips lines).unresolved ⟨rfl, fun d hd => by simp at hd⟩

end ExpressSchema
