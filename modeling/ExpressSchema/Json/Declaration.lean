/-
# Declarations as JSON

What a schema declares is stored as objects, whose fields stand in a fixed order, and is read
back.
-/
import ExpressSchema.Json.Kind

namespace ExpressSchema

/-- A sequence of strings as JSON. -/
def Json.ofStrings : List String → Json := ofList str

/-- The sequence of strings that JSON stores. -/
def Json.toStrings? : Json → Option (List String) := toList? toStr?

@[simp] theorem Json.toStrings?_ofStrings (xs : List String) :
    (ofStrings xs).toStrings? = some xs :=
  toList?_ofList toStr?_str xs

/-- An attribute as JSON. -/
def Attribute.toJson (a : Attribute) : Json :=
  .obj
    [("name", .str a.name),
      ("original_name", .str a.declaredName),
      ("domain", a.owner.toJson),
      ("range", .str a.range),
      ("range_key", .str a.rangeKey),
      ("primitive", Json.ofOption Builtin.toJson a.builtin),
      ("collection", a.aggregation.toJson),
      ("cardinality", a.cardinality.toJson),
      ("nested_cardinality", a.innerCardinality.toJson),
      ("optional", .bool a.isOptional),
      ("unique", .bool a.isUnique),
      ("one_to_one", .bool a.isOneToOne),
      ("reverse_pointer", .bool a.isInverted),
      ("inverted_by", Json.ofOption InverseId.toJson a.invertedBy),
      ("range_ns", Json.ofOption RangeOrigin.toJson a.rangeOrigin)]

/-- The attribute that JSON stores. -/
def Attribute.ofJson? (v : Json) : Option Attribute := do
  let name ← v.field? "name" Json.toStr?
  let declaredName ← v.field? "original_name" Json.toStr?
  let owner ← v.field? "domain" EntityId.ofJson?
  let range ← v.field? "range" Json.toStr?
  let rangeKey ← v.field? "range_key" Json.toStr?
  let builtin ← v.field? "primitive" (Json.toOption? Builtin.ofJson?)
  let aggregation ← v.field? "collection" Aggregation.ofJson?
  let cardinality ← v.field? "cardinality" Cardinality.ofJson?
  let innerCardinality ← v.field? "nested_cardinality" Cardinality.ofJson?
  let isOptional ← v.field? "optional" Json.toBool?
  let isUnique ← v.field? "unique" Json.toBool?
  let isOneToOne ← v.field? "one_to_one" Json.toBool?
  let isInverted ← v.field? "reverse_pointer" Json.toBool?
  let invertedBy ← v.field? "inverted_by" (Json.toOption? InverseId.ofJson?)
  let rangeOrigin ← v.field? "range_ns" (Json.toOption? RangeOrigin.ofJson?)
  some
    { name, declaredName, owner, range, rangeKey, builtin, aggregation, cardinality,
      innerCardinality, isOptional, isUnique, isOneToOne, isInverted, invertedBy, rangeOrigin }

@[simp] theorem Attribute.ofJson?_toJson (a : Attribute) : ofJson? a.toJson = some a := by
  have hb := Json.toOption?_ofOption Builtin.ofJson?_toJson (by simp [Builtin.toJson]) a.builtin
  have hi :=
    Json.toOption?_ofOption InverseId.ofJson?_toJson (by simp [InverseId.toJson]) a.invertedBy
  have hr :=
    Json.toOption?_ofOption RangeOrigin.ofJson?_toJson (by simp [RangeOrigin.toJson]) a.rangeOrigin
  simp [ofJson?, toJson, Json.field?_cons_of_ne, hb, hi, hr]

/-- An inverse as JSON. -/
def Inverse.toJson (i : Inverse) : Json :=
  .obj
    [("name", .str i.name),
      ("domain", i.owner.toJson),
      ("class_range", .str i.range),
      ("inverse_of", .str i.forward),
      ("is_set", .bool i.isSet),
      ("cardinality", i.cardinality.toJson),
      ("unique", .bool i.isUnique),
      ("property", Json.ofOption PropertyId.toJson i.property)]

/-- The inverse that JSON stores. -/
def Inverse.ofJson? (v : Json) : Option Inverse := do
  let name ← v.field? "name" Json.toStr?
  let owner ← v.field? "domain" EntityId.ofJson?
  let range ← v.field? "class_range" Json.toStr?
  let forward ← v.field? "inverse_of" Json.toStr?
  let isSet ← v.field? "is_set" Json.toBool?
  let cardinality ← v.field? "cardinality" Cardinality.ofJson?
  let isUnique ← v.field? "unique" Json.toBool?
  let property ← v.field? "property" (Json.toOption? PropertyId.ofJson?)
  some { name, owner, range, forward, isSet, cardinality, isUnique, property }

@[simp] theorem Inverse.ofJson?_toJson (i : Inverse) : ofJson? i.toJson = some i := by
  have hp :=
    Json.toOption?_ofOption PropertyId.ofJson?_toJson (by simp [PropertyId.toJson]) i.property
  simp [ofJson?, toJson, Json.field?_cons_of_ne, hp]

/-- An entity as JSON. -/
def Entity.toJson (e : Entity) : Json :=
  .obj
    [("key", .str e.key),
      ("name", .str e.name),
      ("superclass", Json.ofOption .str e.supertype),
      ("is_abstract", .bool e.isAbstract),
      ("subclasses", Json.ofOption SiblingSetId.toJson e.subtypes),
      ("attributes", Json.ofList Attribute.toJson e.attributes),
      ("inverses", Json.ofList Inverse.toJson e.inverses),
      ("derived_attributes", Json.ofList AttributeId.toJson e.allAttributes),
      ("derived_inverses", Json.ofList InverseId.toJson e.allInverses),
      ("parent_selects", Json.ofStrings e.selects)]

/-- The entity that JSON stores. -/
def Entity.ofJson? (v : Json) : Option Entity := do
  let key ← v.field? "key" Json.toStr?
  let name ← v.field? "name" Json.toStr?
  let supertype ← v.field? "superclass" (Json.toOption? Json.toStr?)
  let isAbstract ← v.field? "is_abstract" Json.toBool?
  let subtypes ← v.field? "subclasses" (Json.toOption? SiblingSetId.ofJson?)
  let attributes ← v.field? "attributes" (Json.toList? Attribute.ofJson?)
  let inverses ← v.field? "inverses" (Json.toList? Inverse.ofJson?)
  let allAttributes ← v.field? "derived_attributes" (Json.toList? AttributeId.ofJson?)
  let allInverses ← v.field? "derived_inverses" (Json.toList? InverseId.ofJson?)
  let selects ← v.field? "parent_selects" Json.toStrings?
  some
    { key, name, supertype, isAbstract, subtypes, attributes, inverses, allAttributes,
      allInverses, selects }

@[simp] theorem Entity.ofJson?_toJson (e : Entity) : ofJson? e.toJson = some e := by
  have hs := Json.toOption?_ofOption Json.toStr?_str (by simp) e.supertype
  have ht :=
    Json.toOption?_ofOption SiblingSetId.ofJson?_toJson (by simp [SiblingSetId.toJson]) e.subtypes
  have ha := Json.toList?_ofList Attribute.ofJson?_toJson e.attributes
  have hi := Json.toList?_ofList Inverse.ofJson?_toJson e.inverses
  have hda := Json.toList?_ofList AttributeId.ofJson?_toJson e.allAttributes
  have hdi := Json.toList?_ofList InverseId.ofJson?_toJson e.allInverses
  simp [ofJson?, toJson, Json.field?_cons_of_ne, hs, ht, ha, hi, hda, hdi]

/-- A type as JSON. -/
def TypeDecl.toJson (t : TypeDecl) : Json :=
  .obj
    [("key", .str t.key),
      ("name", .str t.name),
      ("primary", t.underlying.toJson),
      ("enum_values", Json.ofStrings t.values),
      ("select_members", Json.ofStrings t.members),
      ("parent_selects", Json.ofStrings t.selects)]

/-- The type that JSON stores. -/
def TypeDecl.ofJson? (v : Json) : Option TypeDecl := do
  let key ← v.field? "key" Json.toStr?
  let name ← v.field? "name" Json.toStr?
  let underlying ← v.field? "primary" UnderlyingType.ofJson?
  let values ← v.field? "enum_values" Json.toStrings?
  let members ← v.field? "select_members" Json.toStrings?
  let selects ← v.field? "parent_selects" Json.toStrings?
  some { key, name, underlying, values, members, selects }

@[simp] theorem TypeDecl.ofJson?_toJson (t : TypeDecl) : ofJson? t.toJson = some t := by
  simp [ofJson?, toJson, Json.field?_cons_of_ne]

/-- A named individual as JSON. -/
def NamedIndividual.toJson (i : NamedIndividual) : Json :=
  .obj [("type_name", .str i.typeName), ("value", .str i.value), ("label", .str i.label)]

/-- The named individual that JSON stores. -/
def NamedIndividual.ofJson? (v : Json) : Option NamedIndividual := do
  let typeName ← v.field? "type_name" Json.toStr?
  let value ← v.field? "value" Json.toStr?
  let label ← v.field? "label" Json.toStr?
  some { typeName, value, label }

@[simp] theorem NamedIndividual.ofJson?_toJson (i : NamedIndividual) :
    ofJson? i.toJson = some i := by
  simp [ofJson?, toJson, Json.field?_cons_of_ne]

end ExpressSchema
