/-
# Quoted text

A log record shows a piece of schema text between double quotes.  Inside, the quote and the
backslash are marked by a backslash, the usual controls have their short escapes, and every other
character that would not show on its own stands as its code point in hexadecimal.
-/
import ExpressSchema.Text.QuotedTable

namespace ExpressSchema
namespace Text

/-- Whether a character would not show on its own: a control, a format character, a separator
other than the space, a private or unassigned code point, a mark that joins with the character
before it, or a filler that is not shown at all. -/
def isConcealed (c : Char) : Bool :=
  let n := c.toNat
  let inRanges := fun rs : List (Nat × Nat) => rs.any fun r => r.1 ≤ n && n ≤ r.2
  if n < 0x80 then n < 0x20 || n == 0x7F
  else if n < 0x1000 then inRanges concealedLow
  else if n < 0x10000 then inRanges concealedMiddle
  else inRanges concealedHigh

/-- One character as it stands between quotes. -/
def quotedChar (c : Char) : List Char :=
  match c with
  | '\x00' => ['\\', '0']
  | '\t' => ['\\', 't']
  | '\r' => ['\\', 'r']
  | '\n' => ['\\', 'n']
  | '\\' => ['\\', '\\']
  | '"' => ['\\', '"']
  | c =>
    if isConcealed c then
      ['\\', 'u', '\x7b'] ++ Nat.toDigits 16 c.toNat ++ ['\x7d']
    else [c]

/-- A text between double quotes, with the characters that need it escaped. -/
def quoted (cs : List Char) : List Char :=
  '"' :: (cs.flatMap quotedChar ++ ['"'])

end Text
end ExpressSchema
