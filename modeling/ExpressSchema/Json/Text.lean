/-
# JSON text

Writing a value as text and reading it back.  A value is written token by token; the tokens are
read back with a stack of the arrays and objects that are still open.
-/
import ExpressSchema.Json.Token

namespace ExpressSchema
namespace Json

/-! ## Writing -/

mutual

/-- The tokens of a value. -/
def tokens : Json → List Token
  | null => [.null]
  | bool b => [.bool b]
  | num n => [.num n]
  | str s => [.str s]
  | arr [] => [.openArray, .closeArray]
  | arr (item :: items) => .openArray :: (item.tokens ++ itemTokens items)
  | obj [] => [.openObject, .closeObject]
  | obj ((name, v) :: fields) =>
    .openObject :: .str name :: .colon :: (v.tokens ++ fieldTokens fields)

/-- The tokens of an array after one of its items. -/
def itemTokens : List Json → List Token
  | [] => [.closeArray]
  | item :: items => .comma :: (item.tokens ++ itemTokens items)

/-- The tokens of an object after one of its fields. -/
def fieldTokens : List (String × Json) → List Token
  | [] => [.closeObject]
  | (name, v) :: fields =>
    .comma :: .str name :: .colon :: (v.tokens ++ fieldTokens fields)

end

/-- The text of some tokens, one written after the other. -/
def textOf (ts : List Token) : List Char := ts.flatMap Token.text

/-- The text of a value. -/
def render (v : Json) : String := String.ofList (textOf v.tokens)

/-! ## Reading -/

/-- An array or object that is still open, with what is complete of it, latest first. -/
inductive Open where
  /-- An array, waiting for its next item. -/
  | items (done : List Json)
  /-- An object, waiting for the value of a field. -/
  | fields (done : List (String × Json)) (name : String)

mutual

/-- Read the tokens where a value is to start. -/
def readValue (stack : List Open) : List Token → Option Json
  | .null :: ts => readAfter null stack ts
  | .bool b :: ts => readAfter (bool b) stack ts
  | .num n :: ts => readAfter (num n) stack ts
  | .str s :: ts => readAfter (str s) stack ts
  | .openArray :: .closeArray :: ts => readAfter (arr []) stack ts
  | .openArray :: ts => readValue (.items [] :: stack) ts
  | .openObject :: .closeObject :: ts => readAfter (obj []) stack ts
  | .openObject :: .str name :: .colon :: ts => readValue (.fields [] name :: stack) ts
  | _ => none

/-- Read the tokens after a value. -/
def readAfter (v : Json) (stack : List Open) : List Token → Option Json
  | [] =>
    match stack with
    | [] => some v
    | _ => none
  | .comma :: .str name :: .colon :: ts =>
    match stack with
    | .fields done last :: stack => readValue (.fields ((last, v) :: done) name :: stack) ts
    | _ => none
  | .comma :: ts =>
    match stack with
    | .items done :: stack => readValue (.items (v :: done) :: stack) ts
    | _ => none
  | .closeArray :: ts =>
    match stack with
    | .items done :: stack => readAfter (arr (v :: done).reverse) stack ts
    | _ => none
  | .closeObject :: ts =>
    match stack with
    | .fields done last :: stack => readAfter (obj ((last, v) :: done).reverse) stack ts
    | _ => none
  | _ => none

end

/-- The value that a text writes. -/
def parse? (text : String) : Option Json := (lex text.toList).bind (readValue [])

end Json
end ExpressSchema
