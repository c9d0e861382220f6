/-
# Selects

A member of a select is a type, an entity or a built-in type, looked for in this order.  Whatever
it is, it learns of the select.
-/
import ExpressSchema.Schema

namespace ExpressSchema

/-- What a member of a select is. -/
inductive SelectMember where
  /-- The type under this canonical name. -/
  | type (key : String)
  /-- The entity under this canonical name. -/
  | entity (key : String)
  /-- A built-in type. -/
  | builtin (kind : Builtin)
  /-- Nothing that is known. -/
  | unknown
deriving DecidableEq, Repr

namespace Schema

/-- What a member of a select is, its canonical name being known.  A type that stands for an
entity does not count as a type. -/
def selectMemberUnder (s : Schema) (key member : String) : SelectMember :=
  if (s.types.get? key).any (·.underlying != .entity) then .type key
  else if s.entities.contains key then .entity key
  else
    match Builtin.ofText? member.toList with
    | some b => .builtin b
    | none => .unknown

/-- What a member of a select is. -/
def selectMember (s : Schema) (member : String) : SelectMember :=
  s.selectMemberUnder (Name.canonical member) member

/-- All members of selects, each after the canonical name of its select. -/
def selectMembers (s : Schema) : List (String × String) :=
  s.types.values.flatMap fun t => t.members.map fun member => (t.key, member)

/-- Note with a built-in type that a select lists it. -/
def addBuiltinSelect (s : Schema) (b : Builtin) (select : String) : Schema :=
  { s with builtinSelects :=
      s.builtinSelects.insert b ((s.builtinSelects.get? b).getD [] ++ [select]) }

end Schema

namespace Workspace

/-- Note with a member of a select that the select lists it. -/
def noteSelect (w : Workspace) (p : String × String) : Workspace :=
  let (select, member) := p
  let found := w.canonical member
  let w := found.2
  match w.schema.selectMemberUnder found.1 member with
  | .type key =>
    w.update fun s =>
      { s with types := s.types.modify key fun t => { t with selects := t.selects ++ [select] } }
  | .entity key =>
    w.update fun s =>
      { s with entities :=
          s.entities.modify key fun e => { e with selects := e.selects ++ [select] } }
  | .builtin b =>
    ((w.register b).record (.builtinSelected b select)).update (·.addBuiltinSelect b select)
  | .unknown => w.report (.unknownMember member select)

/-- Note with every member of a select that the select lists it. -/
def noteSelects (w : Workspace) : Workspace := w.schema.selectMembers.foldl noteSelect w

end Workspace
end ExpressSchema
