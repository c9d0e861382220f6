/-
# The log

Reading a schema leaves a trail: what was read, which way the reader went, what was wrong.  An
`Event` is one such occurrence with what belongs to it; its level says how much it matters, and
its message is the text of the record.
-/
import ExpressSchema.Builtin
import ExpressSchema.Diagnostic
import ExpressSchema.Text.Quoted

namespace ExpressSchema

/-- How much a record matters, the weightiest first. -/
inductive Level where
  /-- Something failed. -/
  | error
  /-- Something is wrong in the schema. -/
  | warn
  /-- What a user wants to know. -/
  | info
  /-- What helps in finding a fault. -/
  | debug
  /-- Every single step. -/
  | trace
deriving DecidableEq, Repr

namespace Level

/-- The place of a level in the order of weight, the weightiest being first. -/
def rank : Level → Nat
  | error => 0
  | warn => 1
  | info => 2
  | debug => 3
  | trace => 4

/-- The word for a level. -/
def label : Level → String
  | error => "ERROR"
  | warn => "WARN"
  | info => "INFO"
  | debug => "DEBUG"
  | trace => "TRACE"

/-- Whether a record of this level is kept when records down to `least` are wanted, where `none`
wants no record at all. -/
def isKept (level : Level) (least : Option Level) : Bool :=
  match least with
  | some l => level.rank ≤ l.rank
  | none => false

end Level

/-- An occurrence while a schema is loaded. -/
inductive Event where
  /-- A token led the reader from one kind of state to another. -/
  | moved (source target : String) (token : List Char)
  /-- An entity declaration was opened. -/
  | entityOpened (name : String) (entity : EntityId)
  /-- A problem was reported. -/
  | diagnosed (diagnostic : Diagnostic)
  /-- The text ended before a declaration did. -/
  | endedInside (state : String)
  /-- All declarations were read. -/
  | declarationsRead (lines entities types : Nat)
  /-- Each entity has the list of all its attributes. -/
  | attributesCollected (entities indexed : Nat)
  /-- An inverse runs against no known attribute. -/
  | forwardMissing (key : String) (entity : EntityId)
  /-- Each value of an enumeration has its individual. -/
  | individualsMade (total : Nat)
  /-- Every attribute and inverse has its property. -/
  | propertiesMade (total : Nat)
  /-- A name to be let go was not there. -/
  | nameAlreadyGone (property : String)
  /-- Inverses have been paired with the attributes against which they run. -/
  | inversesPaired (total : Nat)
  /-- A built-in type is a member of a select. -/
  | builtinSelected (kind : Builtin) (select : String)
  /-- The schema is loaded, but something is wrong in it. -/
  | loadedWithProblems (total : Nat)
deriving DecidableEq, Repr

namespace Event

/-- How much an event matters. -/
def level : Event → Level
  | moved .. | entityOpened .. => .trace
  | diagnosed .. | endedInside .. => .warn
  | loadedWithProblems .. => .info
  | declarationsRead .. | attributesCollected .. | forwardMissing .. | individualsMade ..
  | propertiesMade .. | nameAlreadyGone .. | inversesPaired .. | builtinSelected .. => .debug

/-- The text of the record of an event. -/
def message : Event → String
  | moved source target token =>
    source ++ " -> " ++ target ++ " on " ++ String.ofList (Text.quoted token)
  | entityOpened name entity => "entity " ++ name ++ " -> " ++ entity.text
  | diagnosed diagnostic => diagnostic.text
  | endedInside state => "schema text ended inside a declaration (" ++ state ++ ")"
  | declarationsRead lines entities types =>
    "read " ++ toString lines ++ " lines: " ++ toString entities ++ " entities, " ++
      toString types ++ " types"
  | attributesCollected entities indexed =>
    "flattened attributes of " ++ toString entities ++ " entities, " ++ toString indexed ++
      " indexed"
  | forwardMissing key entity => "no attribute " ++ key ++ " for inverse in " ++ entity.text
  | individualsMade total => toString total ++ " named individuals"
  | propertiesMade total => toString total ++ " properties before inverse pruning"
  | nameAlreadyGone property => "property " ++ property ++ " was already removed"
  | inversesPaired total => toString total ++ " properties after inverse pruning"
  | builtinSelected kind select =>
    "built-in " ++ kind.keyword ++ " is a member of select " ++ select
  | loadedWithProblems total => "schema loaded with " ++ toString total ++ " diagnostics"

end Event
end ExpressSchema
