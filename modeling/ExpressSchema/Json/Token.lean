/-
# JSON text as tokens

The text of a JSON value is a sequence of tokens written one after the other without any space.
Inside a string only the quote, the backslash and the controls below the space are escaped; every
other character stands for itself.
-/
import ExpressSchema.Json.Value

namespace ExpressSchema
namespace Json

/-- A token of JSON text. -/
inductive Token where
  /-- An opening brace. -/
  | openObject
  /-- A closing brace. -/
  | closeObject
  /-- An opening bracket. -/
  | openArray
  /-- A closing bracket. -/
  | closeArray
  /-- A comma. -/
  | comma
  /-- A colon. -/
  | colon
  /-- The word for no value. -/
  | null
  /-- A truth value. -/
  | bool (b : Bool)
  /-- A natural number. -/
  | num (n : Nat)
  /-- A string. -/
  | str (s : String)
deriving DecidableEq, Repr

/-! ## Writing -/

/-- A character as it stands in a string. -/
def escape (c : Char) : List Char :=
  match c with
  | '"' => ['\\', '"']
  | '\\' => ['\\', '\\']
  | '\x08' => ['\\', 'b']
  | '\t' => ['\\', 't']
  | '\n' => ['\\', 'n']
  | '\x0C' => ['\\', 'f']
  | '\r' => ['\\', 'r']
  | c =>
    if c.toNat < 0x20 then
      ['\\', 'u', '0', '0', Nat.digitChar (c.toNat / 16), Nat.digitChar (c.toNat % 16)]
    else [c]

/-- A token as text. -/
def Token.text : Token → List Char
  | openObject => ['\x7b']
  | closeObject => ['\x7d']
  | openArray => ['[']
  | closeArray => [']']
  | comma => [',']
  | colon => [':']
  | null => ['n', 'u', 'l', 'l']
  | bool true => ['t', 'r', 'u', 'e']
  | bool false => ['f', 'a', 'l', 's', 'e']
  | num n => Nat.toDigits 10 n
  | str s => '"' :: (s.toList.flatMap escape ++ ['"'])

/-! ## Reading -/

/-- The value of a hexadecimal digit. -/
def hexDigit? (c : Char) : Option Nat :=
  if '0' ≤ c ∧ c ≤ '9' then some (c.toNat - '0'.toNat)
  else if 'a' ≤ c ∧ c ≤ 'f' then some (c.toNat - 'a'.toNat + 10)
  else if 'A' ≤ c ∧ c ≤ 'F' then some (c.toNat - 'A'.toNat + 10)
  else none

/-- The character for four hexadecimal digits; half of a surrogate pair is no character. -/
def hexChar? (a b c d : Char) : Option Char := do
  let a ← hexDigit? a
  let b ← hexDigit? b
  let c ← hexDigit? c
  let d ← hexDigit? d
  let n := ((a * 16 + b) * 16 + c) * 16 + d
  if n.isValidChar then some (Char.ofNat n) else none

/-- The character for an escape of one letter. -/
def letterEscape? : Char → Option Char
  | '"' => some '"'
  | '\\' => some '\\'
  | '/' => some '/'
  | 'b' => some '\x08'
  | 't' => some '\t'
  | 'n' => some '\n'
  | 'f' => some '\x0C'
  | 'r' => some '\r'
  | _ => none

/-- The characters of a string up to its closing quote, and the text after that. -/
def readString : List Char → Option (List Char × List Char)
  | [] => none
  | '"' :: rest => some ([], rest)
  | '\\' :: 'u' :: a :: b :: c :: d :: rest =>
    match hexChar? a b c d, readString rest with
    | some x, some (xs, rest) => some (x :: xs, rest)
    | _, _ => none
  | '\\' :: e :: rest =>
    match letterEscape? e, readString rest with
    | some x, some (xs, rest) => some (x :: xs, rest)
    | _, _ => none
  | x :: rest =>
    match readString rest with
    | some (xs, rest) => if x = '\\' then none else some (x :: xs, rest)
    | none => none

theorem length_lt_of_readString {cs xs rest : List Char} (h : readString cs = some (xs, rest)) :
    rest.length < cs.length := by
  fun_induction readString cs generalizing xs rest <;> simp_all <;> grind

/-- The tokens of a text. -/
def lex (cs : List Char) : Option (List Token) :=
  match cs with
  | [] => some []
  | '\x7b' :: rest => (lex rest).map (.openObject :: ·)
  | '\x7d' :: rest => (lex rest).map (.closeObject :: ·)
  | '[' :: rest => (lex rest).map (.openArray :: ·)
  | ']' :: rest => (lex rest).map (.closeArray :: ·)
  | ',' :: rest => (lex rest).map (.comma :: ·)
  | ':' :: rest => (lex rest).map (.colon :: ·)
  | 'n' :: 'u' :: 'l' :: 'l' :: rest => (lex rest).map (.null :: ·)
  | 't' :: 'r' :: 'u' :: 'e' :: rest => (lex rest).map (.bool true :: ·)
  | 'f' :: 'a' :: 'l' :: 's' :: 'e' :: rest => (lex rest).map (.bool false :: ·)
  | '"' :: rest =>
    match _read : readString rest with
    | some (xs, rest) => (lex rest).map (.str (String.ofList xs) :: ·)
    | none => none
  | c :: rest =>
    if c.isDigit then
      (lex (rest.dropWhile Char.isDigit)).map
        (.num (Nat.ofDigitChars 10 (c :: rest.takeWhile Char.isDigit) 0) :: ·)
    else none
termination_by cs.length
decreasing_by
  all_goals simp only [List.length_cons]
  any_goals omega
  · exact Nat.lt_succ_of_lt (length_lt_of_readString _read)
  · exact Nat.lt_succ_of_le (List.dropWhile_sublist _).length_le

end Json
end ExpressSchema
