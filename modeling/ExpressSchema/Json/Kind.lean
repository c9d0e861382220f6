/-
# Identifiers and kinds as JSON

Identifiers are stored as numbers, or as an entity with a slot; the kinds that a schema
distinguishes are stored as words.  All of them are read back.
-/
import ExpressSchema.Json.Value
import ExpressSchema.Declaration
import ExpressSchema.Diagnostic
import ExpressSchema.Property

namespace ExpressSchema

/-! ## Numbers -/

/-- An entity identifier as JSON. -/
def EntityId.toJson (id : EntityId) : Json := .num id.index

/-- The entity identifier that JSON stores. -/
def EntityId.ofJson? (v : Json) : Option EntityId := v.toNat?.map EntityId.mk

@[simp] theorem EntityId.ofJson?_toJson (id : EntityId) : ofJson? id.toJson = some id := rfl

/-- A property identifier as JSON. -/
def PropertyId.toJson (id : PropertyId) : Json := .num id.index

/-- The property identifier that JSON stores. -/
def PropertyId.ofJson? (v : Json) : Option PropertyId := v.toNat?.map PropertyId.mk

@[simp] theorem PropertyId.ofJson?_toJson (id : PropertyId) : ofJson? id.toJson = some id := rfl

/-- The identifier of a group of siblings as JSON. -/
def SiblingSetId.toJson (id : SiblingSetId) : Json := .num id.index

/-- The identifier of a group of siblings that JSON stores. -/
def SiblingSetId.ofJson? (v : Json) : Option SiblingSetId := v.toNat?.map SiblingSetId.mk

@[simp] theorem SiblingSetId.ofJson?_toJson (id : SiblingSetId) : ofJson? id.toJson = some id := rfl

/-- An attribute identifier as JSON. -/
def AttributeId.toJson (id : AttributeId) : Json :=
  .obj [("entity", id.entity.toJson), ("slot", .num id.slot)]

/-- The attribute identifier that JSON stores. -/
def AttributeId.ofJson? (v : Json) : Option AttributeId := do
  let entity ← v.field? "entity" EntityId.ofJson?
  let slot ← v.field? "slot" Json.toNat?
  some ⟨entity, slot⟩

@[simp] theorem AttributeId.ofJson?_toJson (id : AttributeId) : ofJson? id.toJson = some id := by
  simp [ofJson?, toJson, Json.field?_cons_of_ne]

/-- An inverse identifier as JSON. -/
def InverseId.toJson (id : InverseId) : Json :=
  .obj [("entity", id.entity.toJson), ("slot", .num id.slot)]

/-- The inverse identifier that JSON stores. -/
def InverseId.ofJson? (v : Json) : Option InverseId := do
  let entity ← v.field? "entity" EntityId.ofJson?
  let slot ← v.field? "slot" Json.toNat?
  some ⟨entity, slot⟩

@[simp] theorem InverseId.ofJson?_toJson (id : InverseId) : ofJson? id.toJson = some id := by
  simp [ofJson?, toJson, Json.field?_cons_of_ne]

/-- A bound as JSON. -/
def Cardinality.boundToJson (n : UInt32) : Json := .num n.toNat

/-- The bound that JSON stores. -/
def Cardinality.boundOfJson? (v : Json) : Option UInt32 :=
  v.toNat?.bind fun n => if h : n < UInt32.size then some (UInt32.ofNatLT n h) else none

@[simp] theorem Cardinality.boundOfJson?_boundToJson (n : UInt32) :
    boundOfJson? (boundToJson n) = some n := by
  have h : n.toNat < UInt32.size := n.toNat_lt_size
  simp only [boundOfJson?, boundToJson, Json.toNat?_num, Option.bind_some, dif_pos h]
  rfl

/-- A cardinality as JSON. -/
def Cardinality.toJson (c : Cardinality) : Json :=
  .obj [("min", boundToJson c.min), ("max", Json.ofOption boundToJson c.max)]

/-- The cardinality that JSON stores. -/
def Cardinality.ofJson? (v : Json) : Option Cardinality := do
  let min ← v.field? "min" boundOfJson?
  let max ← v.field? "max" (Json.toOption? boundOfJson?)
  some ⟨min, max⟩

@[simp] theorem Cardinality.ofJson?_toJson (c : Cardinality) : ofJson? c.toJson = some c := by
  have h := Json.toOption?_ofOption boundOfJson?_boundToJson (by simp [boundToJson]) c.max
  simp [ofJson?, toJson, Json.field?_cons_of_ne, h]

/-! ## Words -/

/-- The built-in type with exactly this keyword. -/
def Builtin.ofExactKeyword? (word : String) : Option Builtin :=
  all.find? (·.keyword = word)

@[simp] theorem Builtin.ofExactKeyword?_keyword (b : Builtin) :
    ofExactKeyword? b.keyword = some b := by
  cases b <;> decide +kernel

/-- A built-in type as JSON. -/
def Builtin.toJson (b : Builtin) : Json := .str b.keyword

/-- The built-in type that JSON stores. -/
def Builtin.ofJson? (v : Json) : Option Builtin := v.toStr?.bind Builtin.ofExactKeyword?

@[simp] theorem Builtin.ofJson?_toJson (b : Builtin) : ofJson? b.toJson = some b := by
  simp [ofJson?, toJson]

/-- An underlying type as JSON. -/
def UnderlyingType.toJson : UnderlyingType → Json
  | builtin kind => .obj [("Primitive", kind.toJson)]
  | named name => .obj [("Named", .str name)]
  | enumeration => .str "Enumeration"
  | select => .str "Select"
  | aggregate text => .obj [("Collection", .str text)]
  | entity => .str "Class"

/-- The underlying type that JSON stores. -/
def UnderlyingType.ofJson? : Json → Option UnderlyingType
  | .str "Enumeration" => some enumeration
  | .str "Select" => some select
  | .str "Class" => some entity
  | .obj [("Primitive", v)] => (Builtin.ofJson? v).map builtin
  | .obj [("Named", v)] => v.toStr?.map named
  | .obj [("Collection", v)] => v.toStr?.map aggregate
  | _ => none

@[simp] theorem UnderlyingType.ofJson?_toJson (u : UnderlyingType) : ofJson? u.toJson = some u := by
  cases u <;> simp [ofJson?, toJson]

/-- The word under which an aggregation is stored. -/
def Aggregation.word : Aggregation → String
  | scalar => "Scalar"
  | array => "Array"
  | set => "Set"
  | list => "List"
  | listOfList => "ListOfList"

/-- The aggregation stored under a word. -/
def Aggregation.ofWord? (word : String) : Option Aggregation :=
  [scalar, array, set, list, listOfList].find? (·.word = word)

@[simp] theorem Aggregation.ofWord?_word (a : Aggregation) : ofWord? a.word = some a := by
  cases a <;> decide +kernel

/-- An aggregation as JSON. -/
def Aggregation.toJson (a : Aggregation) : Json := .str a.word

/-- The aggregation that JSON stores. -/
def Aggregation.ofJson? (v : Json) : Option Aggregation := v.toStr?.bind Aggregation.ofWord?

@[simp] theorem Aggregation.ofJson?_toJson (a : Aggregation) : ofJson? a.toJson = some a := by
  simp [ofJson?, toJson]

/-- The word under which the origin of a range is stored. -/
def RangeOrigin.word : RangeOrigin → String
  | language => "Express"
  | schema => "Schema"

/-- The origin of a range stored under a word. -/
def RangeOrigin.ofWord? (word : String) : Option RangeOrigin :=
  [language, schema].find? (·.word = word)

@[simp] theorem RangeOrigin.ofWord?_word (o : RangeOrigin) : ofWord? o.word = some o := by
  cases o <;> decide +kernel

/-- The origin of a range as JSON. -/
def RangeOrigin.toJson (o : RangeOrigin) : Json := .str o.word

/-- The origin of a range that JSON stores. -/
def RangeOrigin.ofJson? (v : Json) : Option RangeOrigin := v.toStr?.bind RangeOrigin.ofWord?

@[simp] theorem RangeOrigin.ofJson?_toJson (o : RangeOrigin) : ofJson? o.toJson = some o := by
  simp [ofJson?, toJson]

/-- The word under which the kind of a property is stored. -/
def PropertyKind.word : PropertyKind → String
  | datatype => "Datatype"
  | enumeration => "Enumeration"
  | select => "Select"
  | entity => "Entity"

/-- The kind of a property stored under a word. -/
def PropertyKind.ofWord? (word : String) : Option PropertyKind :=
  [datatype, enumeration, select, entity].find? (·.word = word)

@[simp] theorem PropertyKind.ofWord?_word (k : PropertyKind) : ofWord? k.word = some k := by
  cases k <;> decide +kernel

/-- The kind of a property as JSON. -/
def PropertyKind.toJson (k : PropertyKind) : Json := .str k.word

/-- The kind of a property that JSON stores. -/
def PropertyKind.ofJson? (v : Json) : Option PropertyKind := v.toStr?.bind PropertyKind.ofWord?

@[simp] theorem PropertyKind.ofJson?_toJson (k : PropertyKind) : ofJson? k.toJson = some k := by
  simp [ofJson?, toJson]

/-- A diagnostic as JSON. -/
def Diagnostic.toJson (d : Diagnostic) : Json :=
  .obj [("kind", .str d.kind.label), ("message", .str d.message)]

/-- The diagnostic that JSON stores. -/
def Diagnostic.ofJson? (v : Json) : Option Diagnostic := do
  let kind ← v.field? "kind" fun w => w.toStr?.bind DiagnosticKind.ofLabel?
  let message ← v.field? "message" Json.toStr?
  some ⟨kind, message⟩

@[simp] theorem Diagnostic.ofJson?_toJson (d : Diagnostic) : ofJson? d.toJson = some d := by
  simp [ofJson?, toJson, Json.field?_cons_of_ne]

end ExpressSchema
