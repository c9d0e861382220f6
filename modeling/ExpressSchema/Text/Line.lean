/-
# Lines

A text falls into lines at its line feeds, and a carriage return right before a line feed belongs
to the line's end.  What follows the last line feed is a line too unless it is empty.
-/
import ExpressSchema.Text.Ending

namespace ExpressSchema
namespace Text

/-- The parts of a sequence between the ends of lines: the finished ones, and what follows the
last end. -/
def splitLines {α : Type} [BEq α] (lineFeed : α) (xs : List α) : List (List α) × List α :=
  let parts := xs.splitOn lineFeed
  (parts.dropLast, parts.getLast?.getD [])

/-- The lines of a text.  A carriage return at the end of the text is dropped as well. -/
def lines (cs : List Char) : List (List Char) :=
  let split := splitLines '\n' cs
  (split.1 ++ if split.2.isEmpty then [] else [split.2]).map fun l => dropEnd l '\r'

/-- The number of lines of a text. -/
def lineCount (cs : List Char) : Nat := (lines cs).length

@[simp] theorem lines_nil : lines [] = [] := by decide

end Text
end ExpressSchema
