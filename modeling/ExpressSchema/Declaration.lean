/-
# Declarations

What a schema declares: entities with their attributes and inverses, and named types.  A
declaration is made with its name and little else; reading fills in what the text says, and the
resolution of references fills in the rest.
-/
import ExpressSchema.Builtin
import ExpressSchema.Cardinality
import ExpressSchema.Id

namespace ExpressSchema

/-! ## Classifications -/

/-- What kind of values a property has. -/
inductive PropertyKind where
  /-- Plain data. -/
  | datatype
  /-- The values of an enumeration. -/
  | enumeration
  /-- One of the members of a select. -/
  | select
  /-- Instances of an entity. -/
  | entity
deriving DecidableEq, Repr

/-- What stands on the right-hand side of a type declaration. -/
inductive UnderlyingType where
  /-- A built-in type. -/
  | builtin (kind : Builtin)
  /-- Another type by its name, or a keyword without a meaning of its own. -/
  | named (name : String)
  /-- A list of values. -/
  | enumeration
  /-- A choice between types. -/
  | select
  /-- An aggregate, given by its text. -/
  | aggregate (text : String)
  /-- An entity. -/
  | entity
deriving DecidableEq, Repr

namespace UnderlyingType

/-- The kind of a property that ranges over such a type: whatever is no enumeration, select or
entity is plain data. -/
def propertyKind : UnderlyingType → PropertyKind
  | enumeration => .enumeration
  | select => .select
  | entity => .entity
  | builtin _ | named _ | aggregate _ => .datatype

/-- The type as a listing shows it. -/
def label : UnderlyingType → String
  | builtin kind => kind.keyword
  | named name => name
  | enumeration => "ENUMERATION"
  | select => "SELECT"
  | aggregate text => text
  | entity => "CLASS"

end UnderlyingType

/-- How the values of an attribute are put together. -/
inductive Aggregation where
  /-- One value. -/
  | scalar
  /-- An array of values. -/
  | array
  /-- A set of values. -/
  | set
  /-- A list of values. -/
  | list
  /-- A list of lists of values. -/
  | listOfList
deriving DecidableEq, Repr, Inhabited

namespace Aggregation

/-- Whether there may be several values. -/
def isCollection (a : Aggregation) : Bool := a != .scalar

/-- The word for an aggregation in a listing of properties. -/
def label : Aggregation → String
  | scalar => "ENTITY"
  | array => "ARRAY"
  | set => "SET"
  | list => "LIST"
  | listOfList => "LISTOFLIST"

end Aggregation

/-- Where the range of a property is declared. -/
inductive RangeOrigin where
  /-- In the language: the range is a built-in type. -/
  | language
  /-- In the schema itself. -/
  | schema
deriving DecidableEq, Repr

/-- Where a range of this name is declared: the names of the built-in types belong to the
language. -/
def RangeOrigin.ofRange (range : String) : RangeOrigin :=
  if (Builtin.ofKeyword? range.toList).isSome then .language else .schema

/-! ## Entities -/

/-- An attribute of an entity. -/
structure Attribute where
  /-- The name; once references are resolved, the name within the whole schema. -/
  name : String
  /-- The name as declared. -/
  declaredName : String
  /-- The entity that declares it. -/
  owner : EntityId
  /-- The range as written; of a built-in type, its keyword. -/
  range : String
  /-- The canonical name of the range. -/
  rangeKey : String
  /-- The built-in type that is the range, if it is one. -/
  builtin : Option Builtin
  /-- How the values are put together. -/
  aggregation : Aggregation
  /-- The bounds of the aggregate. -/
  cardinality : Cardinality
  /-- The bounds of the aggregate inside the aggregate. -/
  innerCardinality : Cardinality
  /-- Whether the attribute may lack a value. -/
  isOptional : Bool
  /-- Whether no two instances share a value. -/
  isUnique : Bool
  /-- Whether both the attribute and an inverse on it have at most one value. -/
  isOneToOne : Bool
  /-- Whether some inverse runs against it. -/
  isInverted : Bool
  /-- The last inverse that runs against it. -/
  invertedBy : Option InverseId
  /-- Where the range is declared, once properties are made. -/
  rangeOrigin : Option RangeOrigin
deriving DecidableEq, Repr

/-- A scalar attribute of this name and range. -/
def Attribute.ofRange (name : String) (owner : EntityId) (range : String) : Attribute where
  name := name
  declaredName := name
  owner := owner
  range := range
  rangeKey := Name.canonical range
  builtin := none
  aggregation := .scalar
  cardinality := {}
  innerCardinality := {}
  isOptional := false
  isUnique := false
  isOneToOne := false
  isInverted := false
  invertedBy := none
  rangeOrigin := none

/-- An inverse of an entity: the way back along an attribute of another entity. -/
structure Inverse where
  /-- The name. -/
  name : String
  /-- The entity that declares it. -/
  owner : EntityId
  /-- The entity that it leads to, as written. -/
  range : String
  /-- The attribute against which it runs, as written. -/
  forward : String
  /-- Whether it has a set of values. -/
  isSet : Bool
  /-- The bounds of the set. -/
  cardinality : Cardinality
  /-- Whether the attribute against which it runs is unique. -/
  isUnique : Bool
  /-- The property made for it. -/
  property : Option PropertyId
deriving DecidableEq, Repr

/-- A single-valued inverse of this name, range and forward attribute. -/
def Inverse.ofRange (name : String) (owner : EntityId) (range forward : String) : Inverse where
  name := name
  owner := owner
  range := range
  forward := forward
  isSet := false
  cardinality := {}
  isUnique := false
  property := none

/-- An entity. -/
structure Entity where
  /-- The canonical name, under which it is registered. -/
  key : String
  /-- The name as first written. -/
  name : String
  /-- The supertype, as written. -/
  supertype : Option String
  /-- Whether it is declared abstract. -/
  isAbstract : Bool
  /-- The group of its subtypes that exclude one another. -/
  subtypes : Option SiblingSetId
  /-- Its own attributes, in order. -/
  attributes : List Attribute
  /-- Its own inverses, in order. -/
  inverses : List Inverse
  /-- All its attributes, those of the furthest supertype first and its own last. -/
  allAttributes : List AttributeId
  /-- All its inverses, in the same order. -/
  allInverses : List InverseId
  /-- The canonical names of the selects of which it is a member. -/
  selects : List String
deriving DecidableEq, Repr

namespace Entity

/-- An entity of this name about which nothing else is known. -/
def ofName (name : String) : Entity where
  key := Name.canonical name
  name := name
  supertype := none
  isAbstract := false
  subtypes := none
  attributes := []
  inverses := []
  allAttributes := []
  allInverses := []
  selects := []

/-- The first of its own attributes with this name. -/
def attribute? (e : Entity) (name : String) : Option Attribute :=
  e.attributes.find? (·.name = name)

/-- The first of its own inverses with this name. -/
def inverse? (e : Entity) (name : String) : Option Inverse :=
  e.inverses.find? (·.name = name)

end Entity

/-! ## Types -/

/-- A named type. -/
structure TypeDecl where
  /-- The canonical name, under which it is registered. -/
  key : String
  /-- The name as first written. -/
  name : String
  /-- The type that it stands for. -/
  underlying : UnderlyingType
  /-- The values of an enumeration, in canonical form. -/
  values : List String
  /-- The members of a select, bare but otherwise as written. -/
  members : List String
  /-- The canonical names of the selects of which it is a member. -/
  selects : List String
deriving DecidableEq, Repr

namespace TypeDecl

/-- A type of this name; until its right-hand side is read it stands for itself. -/
def ofName (name : String) : TypeDecl where
  key := Name.canonical name
  name := name
  underlying := .named name
  values := []
  members := []
  selects := []

/-- Whether the type is a select. -/
def isSelect (t : TypeDecl) : Bool := t.underlying == .select

/-- Whether the type is an enumeration. -/
def isEnumeration (t : TypeDecl) : Bool := t.underlying == .enumeration

end TypeDecl

/-- One value of an enumeration, as an individual with a name. -/
structure NamedIndividual where
  /-- The name of the enumeration, as first written. -/
  typeName : String
  /-- The value. -/
  value : String
  /-- The text to show for it. -/
  label : String
deriving DecidableEq, Repr

/-- The individual for a value, labelled by the value. -/
def NamedIndividual.ofValue (typeName value : String) : NamedIndividual := ⟨typeName, value, value⟩

end ExpressSchema
