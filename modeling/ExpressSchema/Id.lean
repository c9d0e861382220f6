/-
# Identifiers

Declarations are named by their position: an entity by its place among the entities, an attribute
or inverse by its entity and its place there.  Nothing is ever removed from the sequences that
identifiers point into, so an identifier keeps its meaning for as long as the schema lives.

What is issued as an identifier is a word of 32 bits, and a place that is too large for a word is
cut to one (`wordOf`).  So identifiers tell places apart as long as there are no more places than
words.
-/
namespace ExpressSchema

/-- The part of a number that an identifier holds: identifiers are words of 32 bits. -/
def wordOf (n : Nat) : Nat := n % UInt32.size

theorem wordOf_of_lt {n : Nat} (h : n < UInt32.size) : wordOf n = n := Nat.mod_eq_of_lt h

theorem wordOf_le (n : Nat) : wordOf n ≤ n := Nat.mod_le n UInt32.size

theorem wordOf_lt (n : Nat) : wordOf n < UInt32.size := Nat.mod_lt n (by decide)

/-- The first number that is too large for a word is cut to nothing. -/
@[simp] theorem wordOf_size : wordOf UInt32.size = 0 := Nat.mod_self UInt32.size

/-- The position of an entity among the entities of a schema. -/
structure EntityId where
  /-- The position. -/
  index : Nat := 0
deriving DecidableEq, Repr, Inhabited

namespace EntityId

/-- The identifier made from a number of any size. -/
def ofNat (n : Nat) : EntityId := ⟨wordOf n⟩

theorem ofNat_of_lt {n : Nat} (h : n < UInt32.size) : ofNat n = ⟨n⟩ := congrArg mk (wordOf_of_lt h)

/-- An entity's identifier as records and diagnostics show it. -/
def text (id : EntityId) : String := "entity#" ++ toString id.index

end EntityId

/-- The position of a type among the types of a schema. -/
structure TypeId where
  /-- The position. -/
  index : Nat := 0
deriving DecidableEq, Repr, Inhabited

/-- The position of an attribute: its entity and its place among the entity's attributes. -/
structure AttributeId where
  /-- The entity that declares the attribute. -/
  entity : EntityId
  /-- The place among the entity's attributes. -/
  slot : Nat
deriving DecidableEq, Repr

/-- The attribute identifier whose slot is a number of any size. -/
def AttributeId.ofNat (entity : EntityId) (n : Nat) : AttributeId := ⟨entity, wordOf n⟩

/-- The position of an inverse: its entity and its place among the entity's inverses. -/
structure InverseId where
  /-- The entity that declares the inverse. -/
  entity : EntityId
  /-- The place among the entity's inverses. -/
  slot : Nat
deriving DecidableEq, Repr

/-- The inverse identifier whose slot is a number of any size. -/
def InverseId.ofNat (entity : EntityId) (n : Nat) : InverseId := ⟨entity, wordOf n⟩

/-- The position of a property among all properties ever made. -/
structure PropertyId where
  /-- The position. -/
  index : Nat
deriving DecidableEq, Repr

/-- The property identifier made from a number of any size. -/
def PropertyId.ofNat (n : Nat) : PropertyId := ⟨wordOf n⟩

theorem PropertyId.ofNat_of_lt {n : Nat} (h : n < UInt32.size) : ofNat n = ⟨n⟩ :=
  congrArg mk (wordOf_of_lt h)

/-- The position of a group of siblings among all groups. -/
structure SiblingSetId where
  /-- The position. -/
  index : Nat
deriving DecidableEq, Repr

/-- The group identifier made from a number of any size. -/
def SiblingSetId.ofNat (n : Nat) : SiblingSetId := ⟨wordOf n⟩

theorem SiblingSetId.ofNat_of_lt {n : Nat} (h : n < UInt32.size) : ofNat n = ⟨n⟩ :=
  congrArg mk (wordOf_of_lt h)

end ExpressSchema
