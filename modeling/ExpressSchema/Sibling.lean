/-
# Siblings

An entity may list subtypes that exclude one another; such a list is a group of siblings.  A name
may turn up in several groups, and then it counts as a member of the group that listed it first.
-/
import ExpressSchema.Name
import ExpressSchema.Id
import ExpressSchema.Table.Lemmas

namespace ExpressSchema

/-- A group of entities that exclude one another. -/
structure SiblingSet where
  /-- The members, as written. -/
  members : List String := []
deriving DecidableEq, Repr, Inhabited

namespace SiblingSet

/-- Whether a name is among the members; the letters `A` to `Z` count in either case. -/
def contains (s : SiblingSet) (name : String) : Bool :=
  s.members.any fun m => Text.sameLetters m.toList name.toList

/-- The number of members. -/
def size (s : SiblingSet) : Nat := s.members.length

/-- Whether there are no members. -/
def isEmpty (s : SiblingSet) : Bool := s.members.isEmpty

/-- Add a member, unless it is there already. -/
def insert (s : SiblingSet) (name : String) : SiblingSet :=
  if s.contains name then s else { members := s.members ++ [name] }

end SiblingSet

/-- All groups of siblings of a schema, and for each member the group that listed it first. -/
structure SiblingIndex where
  /-- The groups, in order of their opening. -/
  sets : List SiblingSet := []
  /-- For each member, by its canonical name, its group. -/
  byMember : Table String SiblingSetId := Table.empty
deriving DecidableEq, Repr

namespace SiblingIndex

instance : Inhabited SiblingIndex := ⟨{}⟩

/-- Open a group without members. -/
def openSet (s : SiblingIndex) : SiblingSetId × SiblingIndex :=
  (.ofNat s.sets.length, { s with sets := s.sets ++ [⟨[]⟩] })

/-- Add a member to a group.  The answer says whether the member was new to all groups; only then
does it come to count as a member of this one. -/
def add (s : SiblingIndex) (set : SiblingSetId) (member : String) : Bool × SiblingIndex :=
  let key := Name.canonical member
  (!s.byMember.contains key,
    { sets := s.sets.modify set.index (·.insert member)
      byMember := if s.byMember.contains key then s.byMember else s.byMember.insert key set })

/-- The group with this identifier. -/
def set? (s : SiblingIndex) (id : SiblingSetId) : Option SiblingSet := s.sets[id.index]?

/-- The group that a member counts as a member of. -/
def get? (s : SiblingIndex) (member : String) : Option SiblingSet :=
  (s.byMember.get? (Name.canonical member)).bind s.set?

/-- Every member with its group, in order of first listing. -/
def toList (s : SiblingIndex) : List (String × SiblingSet) :=
  s.byMember.entries.filterMap fun e => (s.set? e.2).map fun set => (e.1, set)

/-- The number of members of all groups. -/
def size (s : SiblingIndex) : Nat := s.byMember.size

/-- Whether no member is known. -/
def isEmpty (s : SiblingIndex) : Bool := s.byMember.isEmpty

/-- The identifier of the group that is opened is that of some group. -/
theorem index_openSet_lt (s : SiblingIndex) : s.openSet.1.index < s.openSet.2.sets.length := by
  rw [openSet, List.length_append]
  exact Nat.lt_succ_of_le (wordOf_le _)

/-- The canonical names of the members are listed in order of first listing. -/
theorem keys_byMember_add (s : SiblingIndex) (set : SiblingSetId) (member : String) :
    (s.add set member).2.byMember.keys =
      if Name.canonical member ∈ s.byMember.keys then s.byMember.keys
      else s.byMember.keys ++ [Name.canonical member] := by
  by_cases h : Name.canonical member ∈ s.byMember.keys <;> simp [add, h]

end SiblingIndex
end ExpressSchema
