/-
# Drafts

An attribute or an inverse stretches over several tokens.  What has been read of it so far is its
draft; with the last token the draft becomes the declaration.
-/
import ExpressSchema.Declaration

namespace ExpressSchema

/-- What has been read of an attribute, from its name up to its range. -/
structure AttributeDraft where
  /-- The name. -/
  name : String := ""
  /-- Whether it is declared optional. -/
  isOptional : Bool := false
  /-- How the values are put together, as far as read. -/
  aggregation : Aggregation := .scalar
  /-- How many words for an aggregate have been read, as far as they can be counted. -/
  depth : UInt8 := 0
  /-- The bounds of the first aggregate. -/
  cardinality : Cardinality := {}
  /-- The bounds of the second aggregate. -/
  innerCardinality : Cardinality := {}
deriving DecidableEq, Repr, Inhabited

namespace AttributeDraft

/-- One level more; at the greatest number that fits the count stands still. -/
def deeper (depth : UInt8) : UInt8 := if depth < 255 then depth + 1 else depth

theorem toNat_deeper (depth : UInt8) : (deeper depth).toNat = min (depth.toNat + 1) 255 := by
  unfold deeper
  split
  · next h =>
    have hlt : depth.toNat < 255 := UInt8.lt_iff_toNat_lt.1 h
    rw [UInt8.toNat_add, UInt8.toNat_one]
    omega
  · next h =>
    have hle : 255 ≤ depth.toNat := Nat.not_lt.1 fun hlt => h (UInt8.lt_iff_toNat_lt.2 hlt)
    have hfits : depth.toNat < 256 := depth.toNat_lt
    omega

/-- Read a word for an aggregate.  The first one decides, except that a list inside a list makes a
list of lists. -/
def aggregate (d : AttributeDraft) (a : Aggregation) : AttributeDraft :=
  { d with
    depth := deeper d.depth
    aggregation :=
      match d.aggregation, a with
      | .scalar, a => a
      | .list, .list => .listOfList
      | b, _ => b }

/-- Whether a further list would be a list of lists of lists. -/
def isListOfList (d : AttributeDraft) : Bool := d.aggregation == .listOfList

/-- Read bounds, which belong to the aggregate whose word was read last; there is no room for
those of a third one. -/
def restrict? (d : AttributeDraft) (b : Bounds) : Option AttributeDraft :=
  if d.depth ≤ 1 then some { d with cardinality := d.cardinality.restrict b }
  else if d.depth = 2 then some { d with innerCardinality := d.innerCardinality.restrict b }
  else none

/-- The attribute, once its range is read; of a built-in range only the keyword is kept. -/
def finish (d : AttributeDraft) (owner : EntityId) (range : List Char) : Attribute :=
  let plain := Attribute.ofRange d.name owner (String.ofList range)
  let ranged :=
    match Builtin.ofText? range with
    | some b => { plain with range := b.keyword, rangeKey := b.keyword, builtin := some b }
    | none => plain
  { ranged with
    isOptional := d.isOptional
    aggregation := d.aggregation
    cardinality := d.cardinality
    innerCardinality := d.innerCardinality }

end AttributeDraft

/-- What has been read of an inverse, from its name up to the attribute against which it runs. -/
structure InverseDraft where
  /-- The name. -/
  name : String := ""
  /-- Whether it is declared as a set. -/
  isSet : Bool := false
  /-- The bounds of the set. -/
  cardinality : Cardinality := {}
  /-- The entity that it leads to, as written. -/
  range : String := ""
deriving DecidableEq, Repr, Inhabited

/-- The inverse, once the attribute against which it runs is read. -/
def InverseDraft.finish (d : InverseDraft) (owner : EntityId) (forward : List Char) : Inverse :=
  { Inverse.ofRange d.name owner d.range (String.ofList forward) with
    isSet := d.isSet
    cardinality := d.cardinality }

end ExpressSchema
