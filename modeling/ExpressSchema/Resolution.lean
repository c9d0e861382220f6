/-
# Resolution of references

Declarations refer to one another by name, and a name may be used before it is declared.  So
references are resolved once all declarations have been read, in seven phases; nothing in them
fails, and what cannot be resolved is reported.
-/
import ExpressSchema.Resolution.Forward
import ExpressSchema.Resolution.Pairing
import ExpressSchema.Resolution.Properties
import ExpressSchema.Resolution.Selects

namespace ExpressSchema

/-- How far loading has come: the phase that begins, and the percentage reached. -/
structure Progress where
  /-- The phase that begins. -/
  phase : String
  /-- The percentage reached. -/
  percent : Float32

namespace Resolution

/-- The phases of resolution. -/
def phases : List String :=
  ["Flattening attributes", "Flattening inverses", "Creating named individuals",
    "Renaming properties", "Materializing properties", "Resolving inverses",
    "Interpreting selects"]

/-- The progress reported by the phases when resolution takes loading from one percentage to
another: each phase takes an equal part. -/
def progress (start stop : Float32) : List Progress :=
  let part := (stop - start) / 7
  phases.zipIdx.map fun p => ⟨p.1, start + part * Float32.ofNat p.2⟩

end Resolution

/-- Resolve all references. -/
def Workspace.resolve (w : Workspace) : Workspace :=
  let inherited := w.inheritAttributes
  let w := inherited.2.inheritInverses inherited.1
  let w := w.makeIndividuals
  let w := w.makeInverseProperties
  let w := w.makeAttributeProperties
  let w := w.pairInverses
  w.noteSelects

end ExpressSchema
