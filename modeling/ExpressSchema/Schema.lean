/-
# Schemas

A schema is what has been read from its text: entities and types under their canonical names, the
groups of siblings, and, once references are resolved, properties, named individuals and the
selects that list a built-in type.  Whatever was wrong in the text is listed with it.

While a schema is being built it lies in a `Workspace`, together with the things that are useful
at that time and are no part of it: remembered canonical names, the catalogue of built-in types
and the log.
-/
import ExpressSchema.Log
import ExpressSchema.Name.Cache
import ExpressSchema.Property
import ExpressSchema.Sibling

namespace ExpressSchema

/-- What has been read from the text of a schema. -/
structure Schema where
  /-- The name of the schema, if the text gives one. -/
  name : Option String := none
  /-- The entities, by canonical name. -/
  entities : Table String Entity := Table.empty
  /-- The types, by canonical name. -/
  types : Table String TypeDecl := Table.empty
  /-- The groups of siblings. -/
  siblings : SiblingIndex := {}
  /-- The properties. -/
  properties : PropertyTable := {}
  /-- The values of enumerations as individuals. -/
  individuals : List NamedIndividual := []
  /-- For each built-in type, the canonical names of the selects that list it. -/
  builtinSelects : Table Builtin (List String) := Table.empty
  /-- What was wrong, in the order in which it was found. -/
  diagnostics : List Diagnostic := []
deriving DecidableEq, Repr

namespace Schema

instance : Inhabited Schema := ⟨{}⟩

/-- The entity with this identifier. -/
def entityAt? (s : Schema) (id : EntityId) : Option Entity := s.entities.at? id.index

/-- The type with this identifier. -/
def typeAt? (s : Schema) (id : TypeId) : Option TypeDecl := s.types.at? id.index

/-- Change the entity with this identifier. -/
def modifyEntity (s : Schema) (id : EntityId) (f : Entity → Entity) : Schema :=
  { s with entities := s.entities.modifyAt id.index f }

/-- Change the type with this identifier. -/
def modifyType (s : Schema) (id : TypeId) (f : TypeDecl → TypeDecl) : Schema :=
  { s with types := s.types.modifyAt id.index f }

/-- The entity under a canonical name, declared with the name as written if it is new. -/
def declareEntity (s : Schema) (key name : String) : EntityId × Schema :=
  let found := s.entities.findOrInsert key (Entity.ofName name)
  (.ofNat found.1, { s with entities := found.2 })

/-- The type under a canonical name, declared with the name as written if it is new. -/
def declareType (s : Schema) (key name : String) : TypeId × Schema :=
  let found := s.types.findOrInsert key (TypeDecl.ofName name)
  (⟨found.1⟩, { s with types := found.2 })

end Schema

/-- A schema being built, with what is useful for building it. -/
structure Workspace where
  /-- The schema. -/
  schema : Schema := {}
  /-- Canonical names worked out so far. -/
  names : Name.Cache := Name.Cache.empty
  /-- The built-in types used so far, in this schema and in those loaded before. -/
  builtins : Catalogue := {}
  /-- What has happened so far. -/
  log : Array Event := #[]

namespace Workspace

instance : Inhabited Workspace := ⟨{}⟩

/-- Note an event in the log. -/
def record (w : Workspace) (e : Event) : Workspace := { w with log := w.log.push e }

/-- Change the schema. -/
def update (w : Workspace) (f : Schema → Schema) : Workspace := { w with schema := f w.schema }

/-- List a diagnostic with the schema, and note it in the log. -/
def diagnose (w : Workspace) (d : Diagnostic) : Workspace :=
  (w.update fun s => { s with diagnostics := s.diagnostics ++ [d] }).record (.diagnosed d)

/-- Report a problem. -/
def report (w : Workspace) (p : Problem) : Workspace := w.diagnose p.toDiagnostic

/-- Report several problems, one after the other. -/
def reportAll (w : Workspace) (ps : List Problem) : Workspace := ps.foldl report w

/-- The canonical form of a name, remembered from now on. -/
def canonical (w : Workspace) (name : String) : String × Workspace :=
  let found := w.names.canonical name
  (found.1, { w with names := found.2 })

/-- The canonical forms of several names. -/
def canonicalAll (w : Workspace) : List String → List String × Workspace
  | [] => ([], w)
  | name :: names =>
    let found := w.canonical name
    let rest := found.2.canonicalAll names
    (found.1 :: rest.1, rest.2)

/-- The entity of this name, declared if it is new. -/
def declareEntity (w : Workspace) (name : String) : EntityId × Workspace :=
  let found := w.canonical name
  let declared := found.2.schema.declareEntity found.1 name
  (declared.1, { found.2 with schema := declared.2 })

/-- The type of this name, declared if it is new. -/
def declareType (w : Workspace) (name : String) : TypeId × Workspace :=
  let found := w.canonical name
  let declared := found.2.schema.declareType found.1 name
  (declared.1, { found.2 with schema := declared.2 })

/-- Change the entity with this identifier. -/
def modifyEntity (w : Workspace) (id : EntityId) (f : Entity → Entity) : Workspace :=
  w.update (·.modifyEntity id f)

/-- Change the type with this identifier. -/
def modifyType (w : Workspace) (id : TypeId) (f : TypeDecl → TypeDecl) : Workspace :=
  w.update (·.modifyType id f)

/-- Enter a built-in type into the catalogue. -/
def register (w : Workspace) (b : Builtin) : Workspace :=
  { w with builtins := w.builtins.register b }

@[simp] theorem canonical_fst (w : Workspace) (name : String) :
    (w.canonical name).1 = Name.canonical name := by
  simp [canonical]

@[simp] theorem schema_canonical (w : Workspace) (name : String) :
    (w.canonical name).2.schema = w.schema := rfl

@[simp] theorem canonicalAll_fst (w : Workspace) (names : List String) :
    (w.canonicalAll names).1 = names.map Name.canonical := by
  induction names generalizing w with
  | nil => rfl
  | cons name names ih => simp [canonicalAll, ih]

@[simp] theorem schema_canonicalAll (w : Workspace) (names : List String) :
    (w.canonicalAll names).2.schema = w.schema := by
  induction names generalizing w with
  | nil => rfl
  | cons name names ih => simp [canonicalAll, ih]

@[simp] theorem schema_record (w : Workspace) (e : Event) :
    (w.record e).schema = w.schema := rfl

end Workspace
end ExpressSchema
