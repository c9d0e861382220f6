/-
# Schemas as JSON

A schema is stored as one JSON object and restored from it.  What is remembered for the sake of
speed, the catalogue and the log are not stored.
-/
import ExpressSchema.Json.Property
import ExpressSchema.Json.RoundTrip
import ExpressSchema.Schema

namespace ExpressSchema
namespace Schema

/-- A schema as JSON. -/
def toJson (s : Schema) : Json :=
  .obj
    [("schema_name", Json.ofOption .str s.name),
      ("entities", Json.ofTable id Entity.toJson s.entities),
      ("types", Json.ofTable id TypeDecl.toJson s.types),
      ("siblings", s.siblings.toJson),
      ("properties", s.properties.toJson),
      ("individuals", Json.ofList NamedIndividual.toJson s.individuals),
      ("primitive_selects", Json.ofTable Builtin.keyword Json.ofStrings s.builtinSelects),
      ("diagnostics", Json.ofList Diagnostic.toJson s.diagnostics)]

/-- The schema that JSON stores. -/
def ofJson? (v : Json) : Option Schema := do
  let name ← v.field? "schema_name" (Json.toOption? Json.toStr?)
  let entities ← v.field? "entities" (Json.toTable? some Entity.ofJson?)
  let types ← v.field? "types" (Json.toTable? some TypeDecl.ofJson?)
  let siblings ← v.field? "siblings" SiblingIndex.ofJson?
  let properties ← v.field? "properties" PropertyTable.ofJson?
  let individuals ← v.field? "individuals" (Json.toList? NamedIndividual.ofJson?)
  let builtinSelects ←
    v.field? "primitive_selects" (Json.toTable? Builtin.ofExactKeyword? Json.toStrings?)
  let diagnostics ← v.field? "diagnostics" (Json.toList? Diagnostic.ofJson?)
  some
    { name, entities, types, siblings, properties, individuals, builtinSelects, diagnostics }

/-- A schema is read back from its JSON form. -/
@[simp] theorem ofJson?_toJson (s : Schema) : ofJson? s.toJson = some s := by
  have hn := Json.toOption?_ofOption Json.toStr?_str (by simp) s.name
  have he := Json.toTable?_ofTable_id Entity.ofJson?_toJson s.entities
  have ht := Json.toTable?_ofTable_id TypeDecl.ofJson?_toJson s.types
  have hi := Json.toList?_ofList NamedIndividual.ofJson?_toJson s.individuals
  have hb := Json.toTable?_ofTable Builtin.ofExactKeyword?_keyword Json.toStrings?_ofStrings
    s.builtinSelects
  have hd := Json.toList?_ofList Diagnostic.ofJson?_toJson s.diagnostics
  simp [ofJson?, toJson, Json.field?_cons_of_ne, hn, he, ht, hi, hb, hd]

/-- A schema as the text in which it is stored. -/
def store (s : Schema) : String := s.toJson.render

/-- The schema that is stored as a text. -/
def restore? (text : String) : Option Schema := (Json.parse? text).bind ofJson?

/-- A schema that is stored is restored. -/
@[simp] theorem restore?_store (s : Schema) : restore? s.store = some s := by
  simp [restore?, store, Json.parse?_render]

end Schema
end ExpressSchema
