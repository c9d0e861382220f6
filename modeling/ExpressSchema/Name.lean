/-
# Names

In schema text a name carries the punctuation it was written with, as in `(IfcRoot);`.  Here are
the bare name behind it, the canonical name under which declarations are registered, and the names
that properties get.
-/
import ExpressSchema.Text.Case

namespace ExpressSchema
namespace Name

/-- The punctuation that may cling to a name: parentheses, semicolon and comma. -/
def isPunctuation (c : Char) : Bool :=
  c == '(' || c == ')' || c == ';' || c == ','

/-- The characters of a name without its punctuation. -/
def bare (cs : List Char) : List Char :=
  cs.filter fun c => !isPunctuation c

/-- The characters of a name without its punctuation and without digits; of `STRING(255);` this
leaves `STRING`. -/
def bareKeyword (cs : List Char) : List Char :=
  cs.filter fun c => !isPunctuation c && !c.isDigit

@[simp] theorem bare_nil : bare [] = [] := rfl

@[simp] theorem bare_append (cs ds : List Char) : bare (cs ++ ds) = bare cs ++ bare ds := by
  simp [bare]

@[simp] theorem bare_bare (cs : List Char) : bare (bare cs) = bare cs := by
  simp [bare, List.filter_filter]

/-- No punctuation is left in a bare name. -/
theorem not_isPunctuation_of_mem_bare {c : Char} {cs : List Char} (h : c ∈ bare cs) :
    isPunctuation c = false := by
  simpa [bare] using (List.mem_filter.1 h).2

/-- The canonical form of a name: bare and in capitals.  Declarations are registered under it, so
that neither case nor punctuation tells two names apart. -/
def canonical (name : String) : String :=
  String.ofList (Text.capitals (bare name.toList))

@[simp] theorem toList_canonical (name : String) :
    (canonical name).toList = Text.capitals (bare name.toList) := by
  simp [canonical]

theorem canonical_append (a b : String) : canonical (a ++ b) = canonical a ++ canonical b := by
  rw [← String.toList_inj]
  simp

/-- The ending of the names of list-valued properties. -/
def listEnding : String := "_List"

/-- The name of a property, marked by an ending if it is list-valued. -/
def ofProperty (name : String) (isList : Bool) : String :=
  if isList then name ++ listEnding else name

/-- The name of a property within the whole schema: its own name, then the entity that declares
it. -/
def qualified (name entity : String) : String :=
  name ++ "_" ++ entity

/-- Whether no small letter occurs. -/
def isAllCapitals (cs : List Char) : Bool :=
  !cs.any Text.isSmall

end Name
end ExpressSchema
