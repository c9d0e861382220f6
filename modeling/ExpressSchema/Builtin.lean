/-
# Built-in types

The seven simple types of the EXPRESS language, and the catalogue of those that schemas have used
so far.  The catalogue outlives a single schema: it is handed from one load to the next, and it
only grows.
-/
import ExpressSchema.Name

namespace ExpressSchema

/-- A simple type of the EXPRESS language. -/
inductive Builtin where
  /-- `NUMBER` -/
  | number
  /-- `REAL` -/
  | real
  /-- `INTEGER` -/
  | integer
  /-- `LOGICAL` -/
  | logical
  /-- `BOOLEAN` -/
  | boolean
  /-- `STRING` -/
  | string
  /-- `BINARY` -/
  | binary
deriving DecidableEq, Repr

namespace Builtin

/-- The built-in types in the order in which the language lists them. -/
def all : List Builtin := [number, real, integer, logical, boolean, string, binary]

theorem mem_all (b : Builtin) : b ∈ all := by
  cases b <;> decide

/-- The keyword for a built-in type. -/
def keyword : Builtin → String
  | number => "NUMBER"
  | real => "REAL"
  | integer => "INTEGER"
  | logical => "LOGICAL"
  | boolean => "BOOLEAN"
  | string => "STRING"
  | binary => "BINARY"

theorem keyword_injective {a b : Builtin} (h : a.keyword = b.keyword) : a = b := by
  revert h
  cases a <;> cases b <;> decide +kernel

/-- The built-in type with this keyword, in either case of its letters. -/
def ofKeyword? (cs : List Char) : Option Builtin :=
  all.find? fun b => Text.sameLetters b.keyword.toList cs

/-- The built-in type that a piece of schema text names, whatever punctuation and width cling to
it. -/
def ofText? (cs : List Char) : Option Builtin :=
  ofKeyword? (Name.bareKeyword cs)

@[simp] theorem ofKeyword?_keyword (b : Builtin) : ofKeyword? b.keyword.toList = some b := by
  cases b <;> decide +kernel

end Builtin

/-- The built-in types that some schema has used so far. -/
structure Catalogue where
  /-- The built-in types used, in order of first use. -/
  used : List Builtin := []
deriving DecidableEq, Repr

namespace Catalogue

instance : Inhabited Catalogue := ⟨{}⟩

/-- Whether a built-in type is in the catalogue. -/
def contains (c : Catalogue) (b : Builtin) : Bool := c.used.contains b

/-- Enter a built-in type; one that is already there is not entered again. -/
def register (c : Catalogue) (b : Builtin) : Catalogue :=
  if c.contains b then c else { used := c.used ++ [b] }

/-- The entry for a built-in type, if some schema has used it. -/
def get? (c : Catalogue) (b : Builtin) : Option Builtin :=
  if c.contains b then some b else none

/-- The entry with this keyword, in either case of its letters. -/
def lookup? (c : Catalogue) (keyword : String) : Option Builtin :=
  (Builtin.ofKeyword? keyword.toList).bind c.get?

/-- The built-in types in the catalogue, in the order in which the language lists them. -/
def registered (c : Catalogue) : List Builtin :=
  Builtin.all.filter c.contains

@[simp] theorem contains_register (c : Catalogue) (a b : Builtin) :
    (c.register b).contains a = (c.contains a || a == b) := by
  unfold register
  split
  · rename_i h
    by_cases hab : a = b
    · subst hab
      simp [h]
    · simp [hab]
  · cases h : a == b <;> simp_all [contains]

end Catalogue
end ExpressSchema
