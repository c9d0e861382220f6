/-
# Properties

Attributes and inverses alike become properties, each with a name of its own within the schema.
Every property that was ever made is kept, so that an identifier always leads to it; what may
change is whether it is found under its name.
-/
import ExpressSchema.Declaration
import ExpressSchema.Table.Lemmas

namespace ExpressSchema

/-- A property with a name of its own within the schema. -/
structure Property where
  /-- The name within the schema. -/
  name : String
  /-- The name as declared. -/
  declaredName : String
  /-- The entity that declares it. -/
  owner : EntityId
  /-- The name of its range. -/
  range : String
  /-- Where the range is declared. -/
  rangeOrigin : RangeOrigin
  /-- How the values are put together. -/
  aggregation : Aggregation
  /-- The bounds of the aggregate. -/
  cardinality : Cardinality
  /-- The bounds of the aggregate inside the aggregate. -/
  innerCardinality : Cardinality
  /-- Whether the property may lack a value. -/
  isOptional : Bool
  /-- What kind of values it has. -/
  kind : PropertyKind
  /-- The members of the select that is its range. -/
  members : List String
  /-- The property that leads the other way. -/
  inverse : Option PropertyId
deriving DecidableEq, Repr

namespace Property

/-- A scalar property of plain data with this name and range. -/
def ofRange (name : String) (owner : EntityId) (range : String) : Property where
  name := name
  declaredName := name
  owner := owner
  range := range
  rangeOrigin := RangeOrigin.ofRange range
  aggregation := .scalar
  cardinality := {}
  innerCardinality := {}
  isOptional := false
  kind := .datatype
  members := []
  inverse := none

/-- Whether there may be several values. -/
def isCollection (p : Property) : Bool := p.aggregation.isCollection

end Property

/-- All properties ever made, and the names under which some of them are found. -/
structure PropertyTable where
  /-- Every property ever made, in order of making. -/
  arena : List Property := []
  /-- The names under which properties are found. -/
  byName : Table String PropertyId := Table.empty
deriving DecidableEq, Repr

namespace PropertyTable

instance : Inhabited PropertyTable := ⟨{}⟩

/-- The identifier that the next property will get. -/
def nextId (t : PropertyTable) : PropertyId := .ofNat t.arena.length

/-- Add a property under its name. -/
def insert (t : PropertyTable) (p : Property) : PropertyTable where
  arena := t.arena ++ [p]
  byName := t.byName.insert p.name t.nextId

/-- The property with this identifier, whether or not it is found under a name. -/
def byId? (t : PropertyTable) (id : PropertyId) : Option Property := t.arena[id.index]?

/-- The identifier found under a name. -/
def idOf? (t : PropertyTable) (name : String) : Option PropertyId := t.byName.get? name

/-- Let a name go; the property that it named is kept.  The answer is the identifier that was found
under the name. -/
def take (t : PropertyTable) (name : String) : Option PropertyId × PropertyTable :=
  (t.idOf? name, { t with byName := t.byName.erase name })

/-- The table without a name. -/
def remove (t : PropertyTable) (name : String) : PropertyTable := (t.take name).2

/-- The property found under a name. -/
def get? (t : PropertyTable) (name : String) : Option Property := (t.idOf? name).bind t.byId?

/-- What is answered when a property is added: the identifier that it gets, and the one that was
found under its name before. -/
def insertAnswer (t : PropertyTable) (p : Property) : PropertyId × Option PropertyId :=
  (t.nextId, t.idOf? p.name)

/-- Whether a property is found under this name. -/
def contains (t : PropertyTable) (name : String) : Bool := t.byName.contains name

/-- Change the property with this identifier. -/
def modifyById (t : PropertyTable) (id : PropertyId) (f : Property → Property) : PropertyTable :=
  { t with arena := t.arena.modify id.index f }

/-- Whether a property is found under its own name. -/
def isIndexed (t : PropertyTable) (id : PropertyId) : Bool :=
  match t.byId? id with
  | some p => t.idOf? p.name == some id
  | none => false

/-- Make two properties each other's inverse. -/
def link (t : PropertyTable) (a b : PropertyId) : PropertyTable :=
  (t.modifyById a fun p => { p with inverse := some b }).modifyById b
    fun p => { p with inverse := some a }

/-- Leave a property without an inverse. -/
def unlink (t : PropertyTable) (id : PropertyId) : PropertyTable :=
  t.modifyById id fun p => { p with inverse := none }

/-- The inverse of the property found under a name. -/
def inverseOf? (t : PropertyTable) (name : String) : Option Property :=
  (t.get? name).bind fun p => p.inverse.bind t.byId?

/-- The properties found under a name, in the order of their names. -/
def toList (t : PropertyTable) : List Property := t.byName.values.filterMap t.byId?

/-- The names under which properties are found. -/
def names (t : PropertyTable) : List String := t.byName.keys

/-- The number of names. -/
def size (t : PropertyTable) : Nat := t.byName.size

/-- Whether no property is found under any name. -/
def isEmpty (t : PropertyTable) : Bool := t.byName.isEmpty

/-! ## What the operations do to identifiers and names -/

theorem contains_iff_isSome {t : PropertyTable} {name : String} :
    t.contains name = true ↔ (t.idOf? name).isSome := by
  rw [contains, Table.contains_iff, idOf?, Option.isSome_iff_ne_none, ne_eq,
    Table.get?_eq_none_iff, Decidable.not_not]

@[simp] theorem isSome_take (t : PropertyTable) (name : String) :
    (t.take name).1.isSome = t.contains name :=
  Bool.eq_iff_iff.2 contains_iff_isSome.symm

@[simp] theorem take_snd (t : PropertyTable) (name : String) :
    (t.take name).2 = t.remove name := rfl

theorem byId?_insert (t : PropertyTable) (p : Property) (id : PropertyId) :
    (t.insert p).byId? id = if id.index = t.arena.length then some p else t.byId? id := by
  simp only [byId?, insert]
  split
  · rename_i h
    rw [h, List.getElem?_concat_length]
  · rename_i h
    rcases Nat.lt_or_gt_of_ne h with hlt | hgt
    · rw [List.getElem?_append_left hlt]
    · rw [List.getElem?_eq_none (by simp; omega), List.getElem?_eq_none (by omega)]

/-- While there are words left, the identifier of the next property is its place. -/
theorem nextId_of_lt {t : PropertyTable} (h : t.arena.length < UInt32.size) :
    t.nextId = ⟨t.arena.length⟩ := PropertyId.ofNat_of_lt h

/-- Then the identifier leads to this property. -/
theorem byId?_insert_of_lt {t : PropertyTable} (h : t.arena.length < UInt32.size) (p : Property)
    (id : PropertyId) : (t.insert p).byId? id = if id = t.nextId then some p else t.byId? id := by
  obtain ⟨i⟩ := id
  rw [byId?_insert, nextId_of_lt h]
  simp only [PropertyId.mk.injEq]

@[simp] theorem byId?_remove (t : PropertyTable) (name : String) (id : PropertyId) :
    (t.remove name).byId? id = t.byId? id := rfl

theorem byId?_modifyById (t : PropertyTable) (a b : PropertyId) (f : Property → Property) :
    (t.modifyById a f).byId? b = if a = b then (t.byId? b).map f else t.byId? b := by
  obtain ⟨i⟩ := a
  obtain ⟨j⟩ := b
  simp only [byId?, modifyById, List.getElem?_modify, PropertyId.mk.injEq]
  by_cases h : i = j <;> simp [h]

theorem idOf?_insert (t : PropertyTable) (p : Property) (name : String) :
    (t.insert p).idOf? name = if name = p.name then some t.nextId else t.idOf? name :=
  Table.get?_insert _ _ _ _

theorem idOf?_remove (t : PropertyTable) (name other : String) :
    (t.remove name).idOf? other = if other = name then none else t.idOf? other :=
  Table.get?_erase _ _ _

@[simp] theorem idOf?_modifyById (t : PropertyTable) (id : PropertyId) (f : Property → Property)
    (name : String) : (t.modifyById id f).idOf? name = t.idOf? name := rfl

@[simp] theorem names_insert (t : PropertyTable) (p : Property) :
    (t.insert p).names = if p.name ∈ t.names then t.names else t.names ++ [p.name] :=
  Table.keys_insert _ _ _

@[simp] theorem names_remove (t : PropertyTable) (name : String) :
    (t.remove name).names = t.names.filter (· ≠ name) :=
  Table.keys_erase _ _

end PropertyTable
end ExpressSchema
