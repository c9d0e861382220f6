/-
# Cardinalities

How many members an aggregate may have, and the bracketed bounds that say so in a schema.  Bounds
are read against a cardinality that is already there: a question mark leaves its side as it is.
-/
namespace ExpressSchema

/-- How many members an aggregate may have. -/
structure Cardinality where
  /-- The least number of members. -/
  min : UInt32 := 0
  /-- The greatest number of members, if there is one. -/
  max : Option UInt32 := none
deriving DecidableEq, Repr, Inhabited

/-- The two sides of a bracketed bound; a side written as a question mark is left open. -/
structure Bounds where
  /-- The left side, unless left open. -/
  min : Option UInt32
  /-- The right side, unless left open. -/
  max : Option UInt32
deriving DecidableEq, Repr

namespace Cardinality

/-- Restrict a cardinality by bounds; a side that is left open keeps its value. -/
def restrict (c : Cardinality) (b : Bounds) : Cardinality where
  min := b.min.getD c.min
  max := b.max.or c.max

/-- Whether there may be at most one member, and this is said by the number itself. -/
def isSingle (c : Cardinality) : Bool := c.max == some 1

/-- A cardinality as it is written in a schema. -/
def text (c : Cardinality) : String :=
  let max := match c.max with
    | some n => toString n.toNat
    | none => "?"
  "[" ++ toString c.min.toNat ++ ":" ++ max ++ "]"

end Cardinality

namespace Bounds

/-- The number that stands for a run of decimal digits, if the run is not empty and the number
fits into a word. -/
def ofDigits? (digits : List Char) : Option UInt32 :=
  if h : digits ≠ [] ∧ Nat.ofDigitChars 10 digits 0 < UInt32.size then
    some (UInt32.ofNatLT (Nat.ofDigitChars 10 digits 0) h.2)
  else none

/-- One side of a bound, and the text after it. -/
def ofSide? : List Char → Option (Option UInt32 × List Char)
  | '?' :: rest => some (none, rest)
  | cs => (ofDigits? (cs.takeWhile Char.isDigit)).map fun n => (some n, cs.dropWhile Char.isDigit)

/-- The bounds that a piece of schema text writes: an opening bracket, a side, a colon, a side and
a closing bracket, with nothing in between and nothing after. -/
def ofText? : List Char → Option Bounds
  | '[' :: cs =>
    match ofSide? cs with
    | some (min, ':' :: ds) =>
      match ofSide? ds with
      | some (max, [']']) => some ⟨min, max⟩
      | _ => none
    | _ => none
  | _ => none

end Bounds
end ExpressSchema
