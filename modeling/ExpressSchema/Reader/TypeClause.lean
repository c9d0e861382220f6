/-
# Reading types

The clauses of a type declaration: its name up to the equals sign, and then a select, an
enumeration, an aggregate, a built-in type or the name of another type.
-/
import ExpressSchema.Reader.State
import ExpressSchema.Schema
import ExpressSchema.Token

namespace ExpressSchema
namespace State

/-- A token before the equals sign.  The name may have the sign at its end; a sign that stands
alone belongs to the name read before it, and without one the declaration is given up. -/
def readTypeName (type : Option TypeId) (token : Token) (w : Workspace) : State × Workspace :=
  match Text.dropEnd? token '=' with
  | none =>
    let declared := w.declareType token.text
    (typeName (some declared.1), declared.2)
  | some [] =>
    match type with
    | some type => (typeBody type, w)
    | none => (topLevel, w)
  | some name =>
    let declared := w.declareType (String.ofList name)
    (typeBody declared.1, declared.2)

/-- Settle what a type stands for. -/
def settleType (type : TypeId) (underlying : UnderlyingType) (w : Workspace) : Workspace :=
  w.modifyType type fun t => { t with underlying := underlying }

/-- The text of an aggregate without the semicolons at its end. -/
def aggregateOfText (text : String) : UnderlyingType :=
  .aggregate (String.ofList (text.toList.reverse.dropWhile (· == ';')).reverse)

/-- The words with which an aggregate starts. -/
def aggregateWords : List String := ["ARRAY", "SET", "LIST"]

/-- The first token of a right-hand side.  A token without small letters is an aggregate if it
starts like one, a built-in type if it names one, and otherwise a keyword of unknown meaning; any
other token is the name of a type. -/
def readTypeBody (type : TypeId) (token : Token) (w : Workspace) : State × Workspace :=
  let word := Text.dropEnd token ';'
  if token.is "SELECT" then (selectMembers type, settleType type .select w)
  else if token.is "ENUMERATION" then (enumerationOf type, settleType type .enumeration w)
  else if Name.isAllCapitals word then
    if aggregateWords.any (fun k => k.toList.isPrefixOf word) then
      let text := w.canonical (String.ofList word)
      if Text.endsWith token ';' then (topLevel, settleType type (aggregateOfText text.1) text.2)
      else (aggregateText type text.1, text.2)
    else
      match Builtin.ofText? word with
      | some b => (topLevel, settleType type (.builtin b) (w.register b))
      | none =>
        let name := w.canonical (String.ofList word)
        (topLevel, settleType type (.named name.1) name.2)
  else (topLevel, settleType type (.named (String.ofList word)) w)

/-- A token among the members of a select. -/
def readSelectMembers (type : TypeId) (token : Token) (w : Workspace) : State × Workspace :=
  let w := w.modifyType type fun t => { t with members := t.members ++ token.names }
  if Text.endsWith token ';' then (topLevel, w) else (selectMembers type, w)

/-- A token before the values of an enumeration. -/
def readEnumerationOf (type : TypeId) (token : Token) (w : Workspace) : State × Workspace :=
  if token.is "OF" then (enumerationValues type, w) else (enumerationOf type, w)

/-- A token among the values of an enumeration. -/
def readEnumerationValues (type : TypeId) (token : Token) (w : Workspace) : State × Workspace :=
  let values := w.canonicalAll token.names
  let w := values.2.modifyType type fun t => { t with values := t.values ++ values.1 }
  if Text.endsWith token ';' then (topLevel, w) else (enumerationValues type, w)

/-- A further token of an aggregate. -/
def readAggregate (type : TypeId) (text : String) (token : Token) (w : Workspace) :
    State × Workspace :=
  let text := text ++ " " ++ token.text
  if Text.endsWith token ';' then (topLevel, settleType type (aggregateOfText text) w)
  else (aggregateText type text, w)

end State
end ExpressSchema
