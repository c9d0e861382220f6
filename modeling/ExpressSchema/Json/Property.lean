/-
# Groups of siblings and properties as JSON
-/
import ExpressSchema.Json.Declaration
import ExpressSchema.Json.Table
import ExpressSchema.Sibling

namespace ExpressSchema

/-- A group of siblings as JSON. -/
def SiblingSet.toJson (s : SiblingSet) : Json := .obj [("members", Json.ofStrings s.members)]

/-- The group of siblings that JSON stores. -/
def SiblingSet.ofJson? (v : Json) : Option SiblingSet :=
  (v.field? "members" Json.toStrings?).map SiblingSet.mk

@[simp] theorem SiblingSet.ofJson?_toJson (s : SiblingSet) : ofJson? s.toJson = some s := by
  simp [ofJson?, toJson]

/-- The groups of siblings as JSON. -/
def SiblingIndex.toJson (s : SiblingIndex) : Json :=
  .obj
    [("sets", Json.ofList SiblingSet.toJson s.sets),
      ("by_member", Json.ofTable id SiblingSetId.toJson s.byMember)]

/-- The groups of siblings that JSON stores. -/
def SiblingIndex.ofJson? (v : Json) : Option SiblingIndex := do
  let sets ← v.field? "sets" (Json.toList? SiblingSet.ofJson?)
  let byMember ← v.field? "by_member" (Json.toTable? some SiblingSetId.ofJson?)
  some { sets, byMember }

@[simp] theorem SiblingIndex.ofJson?_toJson (s : SiblingIndex) : ofJson? s.toJson = some s := by
  have hs := Json.toList?_ofList SiblingSet.ofJson?_toJson s.sets
  have hm := Json.toTable?_ofTable_id SiblingSetId.ofJson?_toJson s.byMember
  simp [ofJson?, toJson, Json.field?_cons_of_ne, hs, hm]

/-- A property as JSON. -/
def Property.toJson (p : Property) : Json :=
  .obj
    [("name", .str p.name),
      ("original_name", .str p.declaredName),
      ("domain", p.owner.toJson),
      ("range", .str p.range),
      ("range_ns", p.rangeOrigin.toJson),
      ("collection", p.aggregation.toJson),
      ("cardinality", p.cardinality.toJson),
      ("nested_cardinality", p.innerCardinality.toJson),
      ("optional", .bool p.isOptional),
      ("kind", p.kind.toJson),
      ("select_members", Json.ofStrings p.members),
      ("inverse", Json.ofOption PropertyId.toJson p.inverse)]

/-- The property that JSON stores. -/
def Property.ofJson? (v : Json) : Option Property := do
  let name ← v.field? "name" Json.toStr?
  let declaredName ← v.field? "original_name" Json.toStr?
  let owner ← v.field? "domain" EntityId.ofJson?
  let range ← v.field? "range" Json.toStr?
  let rangeOrigin ← v.field? "range_ns" RangeOrigin.ofJson?
  let aggregation ← v.field? "collection" Aggregation.ofJson?
  let cardinality ← v.field? "cardinality" Cardinality.ofJson?
  let innerCardinality ← v.field? "nested_cardinality" Cardinality.ofJson?
  let isOptional ← v.field? "optional" Json.toBool?
  let kind ← v.field? "kind" PropertyKind.ofJson?
  let members ← v.field? "select_members" Json.toStrings?
  let inverse ← v.field? "inverse" (Json.toOption? PropertyId.ofJson?)
  some
    { name, declaredName, owner, range, rangeOrigin, aggregation, cardinality,
      innerCardinality, isOptional, kind, members, inverse }

@[simp] theorem Property.ofJson?_toJson (p : Property) : ofJson? p.toJson = some p := by
  have hi :=
    Json.toOption?_ofOption PropertyId.ofJson?_toJson (by simp [PropertyId.toJson]) p.inverse
  simp [ofJson?, toJson, Json.field?_cons_of_ne, hi]

/-- The properties as JSON. -/
def PropertyTable.toJson (t : PropertyTable) : Json :=
  .obj
    [("arena", Json.ofList Property.toJson t.arena),
      ("by_name", Json.ofTable id PropertyId.toJson t.byName)]

/-- The properties that JSON stores. -/
def PropertyTable.ofJson? (v : Json) : Option PropertyTable := do
  let arena ← v.field? "arena" (Json.toList? Property.ofJson?)
  let byName ← v.field? "by_name" (Json.toTable? some PropertyId.ofJson?)
  some { arena, byName }

@[simp] theorem PropertyTable.ofJson?_toJson (t : PropertyTable) : ofJson? t.toJson = some t := by
  have ha := Json.toList?_ofList Property.ofJson?_toJson t.arena
  have hn := Json.toTable?_ofTable_id PropertyId.ofJson?_toJson t.byName
  simp [ofJson?, toJson, Json.field?_cons_of_ne, ha, hn]

end ExpressSchema
