/-
# Properties of attributes and inverses

Once everything is read, each value of an enumeration becomes an individual, each attribute gets a
name of its own within the schema, and each inverse and then each attribute becomes a property.
-/
import ExpressSchema.Schema

namespace ExpressSchema

namespace PropertyTable

/-- Add several properties, one after the other. -/
def insertAll (t : PropertyTable) (ps : List Property) : PropertyTable := ps.foldl insert t

/-- The names among those of several properties that are already taken when their turn comes. -/
def clashes (t : PropertyTable) : List Property → List String
  | [] => []
  | p :: ps =>
    let rest := (t.insert p).clashes ps
    if t.contains p.name then p.name :: rest else rest

end PropertyTable

/-! ## Individuals -/

/-- The values of an enumeration as individuals. -/
def TypeDecl.individuals (t : TypeDecl) : List NamedIndividual :=
  t.values.map (NamedIndividual.ofValue t.name)

/-- Make an individual for each value of an enumeration. -/
def Workspace.makeIndividuals (w : Workspace) : Workspace :=
  let w := w.update fun s =>
    { s with individuals := s.individuals ++ s.types.values.flatMap TypeDecl.individuals }
  w.record (.individualsMade w.schema.individuals.length)

/-! ## Inverses -/

/-- An attribute under its name within the schema. -/
def Attribute.qualify (a : Attribute) (owner : EntityId) (entity : String) : Attribute :=
  { a with owner := owner, declaredName := a.name, name := Name.qualified a.name entity }

/-- The property for an inverse. -/
def Inverse.toProperty (i : Inverse) (owner : EntityId) (entity : String) : Property :=
  { Property.ofRange (Name.qualified i.name entity) owner i.range with
    declaredName := i.name
    cardinality := i.cardinality
    kind := .entity
    aggregation := if i.isSet then .set else .scalar }

/-- The properties for the inverses of an entity. -/
def Entity.inverseProperties (e : Entity) (id : EntityId) : List Property :=
  e.inverses.map fun i => i.toProperty id e.name

/-- An entity whose attributes have their names within the schema and whose inverses have the
properties from `first` on. -/
def Entity.qualify (e : Entity) (id : EntityId) (first : Nat) : Entity :=
  { e with
    attributes := e.attributes.map fun a => a.qualify id e.name
    inverses := e.inverses.mapIdx fun slot i =>
      { i with property := some (.ofNat (first + slot)) } }

namespace Schema

/-- The properties for all inverses, in order. -/
def inverseProperties (s : Schema) : List Property :=
  (s.entities.values.zipIdx.map fun p => p.1.inverseProperties (.ofNat p.2)).flatten

/-- Give the attributes their names within the schema, and the inverses the properties from the
next one on. -/
def qualifyNames (s : Schema) : Schema :=
  let number := fun i first (e : Entity) => (first + e.inverses.length, e.qualify (.ofNat i) first)
  { s with entities := (s.entities.scan number s.properties.arena.length).2 }

/-- Add properties. -/
def addProperties (s : Schema) (ps : List Property) : Schema :=
  { s with properties := s.properties.insertAll ps }

end Schema

namespace Workspace

/-- Add properties, reporting those whose names are taken. -/
def addProperties (w : Workspace) (ps : List Property) : Workspace :=
  let taken := w.schema.properties.clashes ps
  (w.update (·.addProperties ps)).reportAll (taken.map .nameTwice)

/-- Give the attributes their names within the schema, and make the properties of inverses. -/
def makeInverseProperties (w : Workspace) : Workspace :=
  let ps := w.schema.inverseProperties
  (w.update Schema.qualifyNames).addProperties ps

end Workspace

/-! ## Attributes -/

/-- The property for an attribute.  Its range is looked for among the built-in types and then
among the types of the schema; any other range is taken for an entity. -/
def Attribute.toProperty (a : Attribute) (types : Table String TypeDecl) : Property :=
  let ofRange := fun (range : String) (underlying : UnderlyingType) (members : List String) =>
    { Property.ofRange a.name a.owner range with
      declaredName := a.declaredName
      aggregation := a.aggregation
      cardinality := a.cardinality
      innerCardinality := a.innerCardinality
      isOptional := a.isOptional
      kind := underlying.propertyKind
      members := if underlying = .select then members else [] }
  match a.builtin with
  | some b => ofRange b.keyword (.builtin b) []
  | none =>
    match types.get? a.rangeKey with
    | some t => ofRange t.name t.underlying t.members
    | none => ofRange a.range .entity []

namespace Schema

/-- The properties for all attributes, in order. -/
def attributeProperties (s : Schema) : List Property :=
  s.entities.values.flatMap fun e => e.attributes.map fun a => a.toProperty s.types

/-- Note with each attribute where its range is declared. -/
def placeRanges (s : Schema) : Schema :=
  { s with entities := s.entities.mapIdx fun _ e =>
      { e with attributes := e.attributes.map fun a =>
          { a with rangeOrigin := some (a.toProperty s.types).rangeOrigin } } }

end Schema

/-- Make the properties of attributes. -/
def Workspace.makeAttributeProperties (w : Workspace) : Workspace :=
  let ps := w.schema.attributeProperties
  let w := (w.update Schema.placeRanges).addProperties ps
  w.record (.propertiesMade w.schema.properties.size)

end ExpressSchema
