/-
# Looking things up in a schema

Questions about a loaded schema.  Entities and types are found by their names in any case and with
any punctuation, properties by their exact names.
-/
import ExpressSchema.Error
import ExpressSchema.Resolution.Forward

namespace ExpressSchema

/-- A line in the list of all properties of all entities. -/
structure PropertyRow where
  /-- The name of the entity, as first written. -/
  entity : String
  /-- The name of the attribute as declared. -/
  declaredName : String
  /-- The name of the attribute within the schema. -/
  name : String
  /-- The word for the way its values are put together. -/
  aggregation : String
deriving DecidableEq, Repr

namespace Schema

/-! ## By name -/

/-- The entity of this name. -/
def entity? (s : Schema) (name : String) : Option Entity := s.entities.get? (Name.canonical name)

/-- The type of this name. -/
def type? (s : Schema) (name : String) : Option TypeDecl := s.types.get? (Name.canonical name)

/-- The identifier of the entity of this name. -/
def entityId? (s : Schema) (name : String) : Option EntityId :=
  (s.entities.indexOf? (Name.canonical name)).map EntityId.ofNat

/-- The entity of this name, or the error that there is none. -/
def entity (s : Schema) (name : String) : Except SchemaError Entity :=
  match s.entity? name with
  | some e => .ok e
  | none => .error (.entityNotFound name)

/-- The type of this name, or the error that there is none. -/
def type (s : Schema) (name : String) : Except SchemaError TypeDecl :=
  match s.type? name with
  | some t => .ok t
  | none => .error (.typeNotFound name)

/-- The property of this name, or the error that there is none. -/
def property (s : Schema) (name : String) : Except SchemaError Property :=
  match s.properties.get? name with
  | some p => .ok p
  | none => .error (.propertyNotFound name)

/-- The canonical names of the selects that list a built-in type. -/
def selectsOf (s : Schema) (b : Builtin) : List String := (s.builtinSelects.get? b).getD []

/-! ## Inheritance -/

/-- All attributes of an entity, those of the furthest supertype first. -/
def allAttributes (s : Schema) (e : Entity) : List Attribute :=
  e.allAttributes.filterMap s.attributeAt?

/-- All inverses of an entity, those of the furthest supertype first. -/
def allInverses (s : Schema) (e : Entity) : List Inverse :=
  e.allInverses.filterMap s.inverseAt?

/-- The declared supertype of an entity. -/
def supertype? (s : Schema) (e : Entity) : Option Entity := e.supertype.bind s.entity?

/-- The supertypes of an entity, nearest first, up to one whose canonical name has been seen.  There
are no more of them than entities in the schema, so `fuel` may be their number. -/
def ancestorsFrom (s : Schema) : Nat → List String → Entity → List Entity
  | 0, _, _ => []
  | fuel + 1, seen, e =>
    match s.supertype? e with
    | none => []
    | some parent =>
      if parent.key ∈ seen then []
      else parent :: s.ancestorsFrom fuel (parent.key :: seen) parent

/-- The supertypes of an entity, nearest first, up to one that is not declared or would come a
second time. -/
def ancestors (s : Schema) (e : Entity) : List Entity :=
  s.ancestorsFrom s.entities.size [e.key] e

/-- The attributes of every entity, inherited ones included, a line each. -/
def propertyRows (s : Schema) : List PropertyRow :=
  s.entities.values.flatMap fun e => (s.allAttributes e).map fun a =>
    ⟨e.name, a.declaredName, a.name, a.aggregation.label⟩

/-! ## Inverses -/

/-- The inverse of a property, if that is still found under its name. -/
def pairedInverse? (s : Schema) (p : Property) : Option Property :=
  p.inverse.bind fun id =>
    if s.properties.isIndexed id then s.properties.byId? id else none

end Schema
end ExpressSchema
