/-
# Tokens

Schema text is read word by word.  A token is such a word: the punctuation it was written with
stays on it, so a token may be a name with a semicolon, a piece of a list of names or a keyword.
The questions that the reader asks of a token, besides that for its last character, are gathered
here.
-/
import ExpressSchema.Name
import ExpressSchema.Text.Blank
import ExpressSchema.Text.Ending

namespace ExpressSchema

/-- A word of schema text. -/
abbrev Token := List Char

namespace Token

/-- The tokens of a line. -/
def ofLine (line : String) : List Token := Text.words line.toList

/-- The token as text. -/
def text (t : Token) : String := String.ofList t

/-- Whether the token is this keyword, in either case of its letters. -/
def is (t : Token) (keyword : String) : Bool := Text.sameLetters t keyword.toList

/-- The part of the token before its first semicolon. -/
def beforeSemicolon (t : Token) : Token := t.takeWhile (· != ';')

/-- The names that the token lists: its parts between commas, bare, where anything is left. -/
def names (t : Token) : List String :=
  (((t.splitOn ',').map Name.bare).filter fun n => !n.isEmpty).map String.ofList

end Token
end ExpressSchema
