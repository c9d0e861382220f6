/-
# Comments, character by character

A line is stripped by searching for the next marker and copying what lies before it.  What comes
of this is told here by a machine that reads the line from left to right and decides about each
character as it comes (`read`): whether it is copied, whether it lies in a comment, or whether it
ends a block comment, which leaves a space behind.  Only a block comment goes on in the next line.
-/
import ExpressSchema.Proofs.Loading.LineEnding

namespace ExpressSchema
namespace Text

/-! ## The machine -/

/-- What the reader of a line is in. -/
inductive Place where
  /-- Text to be read. -/
  | code
  /-- A quoted text. -/
  | quote
  /-- A block comment. -/
  | block
  /-- A comment up to the end of the line. -/
  | rest
deriving DecidableEq, Repr

/-- Where a line starts that starts in this mode. -/
def Place.ofMode : CommentMode → Place
  | .code => code
  | .block => block

/-- In which mode the next line starts, if a line ends here. -/
def Place.mode : Place → CommentMode
  | block => .block
  | code | quote | rest => .code

/-- What the reader does with a piece of a line. -/
inductive Piece where
  /-- A character that is copied. -/
  | copied (c : Char)
  /-- A character in a comment, which is dropped. -/
  | dropped (c : Char)
  /-- The end of a block comment, in the place of which a space is put. -/
  | closed
deriving DecidableEq, Repr

namespace Piece

/-- The characters that are read. -/
def source : Piece → List Char
  | copied c | dropped c => [c]
  | closed => ['*', ')']

/-- What is left of them. -/
def text : Piece → List Char
  | copied c => [c]
  | dropped _ => []
  | closed => [' ']

/-- Whether they lie in a comment. -/
def isComment : Piece → Bool
  | copied _ => false
  | dropped _ | closed => true

end Piece

/-- A line as it was read. -/
structure Reading where
  /-- Its pieces. -/
  pieces : List Piece
  /-- Where it ends. -/
  place : Place
deriving DecidableEq, Repr

namespace Reading

/-- Put pieces in front of what was read. -/
def after (front : List Piece) (r : Reading) : Reading := { r with pieces := front ++ r.pieces }

/-- The characters that were read. -/
def source (r : Reading) : List Char := r.pieces.flatMap Piece.source

/-- The line that is left.  It is rebuilt if any of its characters lies in a comment. -/
def line (r : Reading) : StrippedLine where
  text := r.pieces.flatMap Piece.text
  isRebuilt := r.pieces.any Piece.isComment
  mode := r.place.mode

end Reading

/-- Read a line, or what is left of it, from this place on. -/
def read : Place → List Char → Reading
  | place, [] => ⟨[], place⟩
  | .code, '(' :: '*' :: cs => (read .block cs).after [.dropped '(', .dropped '*']
  | .code, '-' :: '-' :: cs => (read .rest cs).after [.dropped '-', .dropped '-']
  | .code, '\'' :: cs => (read .quote cs).after [.copied '\'']
  | .code, c :: cs => (read .code cs).after [.copied c]
  | .quote, '\'' :: cs => (read .code cs).after [.copied '\'']
  | .quote, c :: cs => (read .quote cs).after [.copied c]
  | .block, '*' :: ')' :: cs => (read .code cs).after [.closed]
  | .block, c :: cs => (read .block cs).after [.dropped c]
  | .rest, c :: cs => (read .rest cs).after [.dropped c]

/-- Read several lines, each from where the one before it ended. -/
def readLines (mode : CommentMode) : List (List Char) → List Reading
  | [] => []
  | line :: lines =>
    let r := read (.ofMode mode) line
    r :: readLines r.place.mode lines

/-! ## What is read of a line -/

namespace Reading

lemma source_after (front : List Piece) (r : Reading) :
    (r.after front).source = front.flatMap Piece.source ++ r.source := by
  simp [source, after]

lemma line_after_copied (cs : List Char) (r : Reading) :
    (r.after (cs.map .copied)).line = r.line.after cs := by
  simp [line, after, StrippedLine.after, List.flatMap_map, Piece.text, Piece.isComment]

lemma line_after_dropped {cs : List Char} (hcs : cs ≠ []) (r : Reading) :
    (r.after (cs.map .dropped)).line = r.line.rebuilt := by
  obtain ⟨c, ds, rfl⟩ := List.exists_cons_of_ne_nil hcs
  simp [line, after, StrippedLine.rebuilt, List.flatMap_map, Piece.text, Piece.isComment]

lemma line_after_closed (r : Reading) :
    (r.after [.closed]).line = (r.line.after [' ']).rebuilt := by
  simp [line, after, StrippedLine.after, StrippedLine.rebuilt, Piece.text, Piece.isComment]

end Reading

/-- Every character of a line belongs to one of its pieces. -/
lemma source_read (place : Place) (cs : List Char) : (read place cs).source = cs := by
  fun_induction read place cs with
  | case1 => rfl
  | case2 | case3 | case4 | case5 | case6 | case7 | case8 | case9 | case10 =>
    simp_all [Reading.source_after, Piece.source]

/-- If no character lies in a comment, all of them are copied. -/
lemma text_eq_source {r : Reading} (h : r.line.isRebuilt = false) : r.line.text = r.source := by
  have hcopied : ∀ p ∈ r.pieces, Piece.text p = Piece.source p := by
    intro p hp
    have hcomment := List.any_eq_false.1 h p hp
    cases p with
    | copied c => rfl
    | dropped c => exact absurd rfl hcomment
    | closed => exact absurd rfl hcomment
  exact congrArg List.flatten (List.map_congr_left hcopied)

/-! ## Searching and reading -/

/-- Text without markers is copied. -/
lemma read_code_plain {xs : List Char} (hxs : ∀ c ∈ xs, isMarker c = false) (ys : List Char) :
    read .code (xs ++ ys) = (read .code ys).after (xs.map .copied) := by
  induction xs with
  | nil => rfl
  | cons c xs ih =>
    obtain ⟨hc, hxs⟩ := List.forall_mem_cons.1 hxs
    have hstep : read .code (c :: (xs ++ ys)) = (read .code (xs ++ ys)).after [.copied c] := by
      rw [read]
      · rintro cs rfl
        exact absurd hc (by decide)
      · rintro cs rfl
        exact absurd hc (by decide)
      · rintro rfl
        exact absurd hc (by decide)
    rw [List.cons_append, hstep, ih hxs]
    rfl

/-- Up to the end of the line everything is dropped. -/
lemma line_read_rest (cs : List Char) : (read .rest cs).line = ⟨[], !cs.isEmpty, .code⟩ := by
  induction cs with
  | nil => rfl
  | cons c cs ih =>
    rw [read]
    exact (Reading.line_after_dropped (List.cons_ne_nil c []) _).trans (by rw [ih]; rfl)

lemma splitQuote_quote (cs : List Char) : splitQuote ('\'' :: cs) = (['\''], cs) := rfl

lemma splitQuote_cons {c : Char} (hc : c ≠ '\'') (cs : List Char) :
    splitQuote (c :: cs) = (c :: (splitQuote cs).1, (splitQuote cs).2) := by
  have hdrop : (c :: cs).dropWhile (· != '\'') = cs.dropWhile (· != '\'') :=
    List.dropWhile_cons_of_pos (bne_iff_ne.2 hc)
  have htake : (c :: cs).takeWhile (· != '\'') = c :: cs.takeWhile (· != '\'') :=
    List.takeWhile_cons_of_pos (bne_iff_ne.2 hc)
  unfold splitQuote
  rw [hdrop, htake]
  cases cs.dropWhile (· != '\'') <;> rfl

/-- A quoted text is copied, up to and with its closing quote or to the end of the line. -/
lemma line_read_quote (cs : List Char) :
    (read .quote cs).line = (read .code (splitQuote cs).2).line.after (splitQuote cs).1 := by
  induction cs with
  | nil => rfl
  | cons c cs ih =>
    by_cases hc : c = '\''
    · subst hc
      rw [splitQuote_quote]
      exact Reading.line_after_copied ['\''] _
    · have hstep : read .quote (c :: cs) = (read .quote cs).after ([c].map .copied) := by
        rw [read]
        · rfl
        · exact hc
      rw [hstep, Reading.line_after_copied, ih, splitQuote_cons hc]
      rfl

/-- A block comment is dropped, up to the first end of one or to the end of the line. -/
lemma line_read_block (cs : List Char) :
    (read .block cs).line =
      match afterBlock? cs with
      | none => ⟨[], !cs.isEmpty, .block⟩
      | some rest => ((read .code rest).line.after [' ']).rebuilt := by
  fun_induction afterBlock? cs with
  | case1 => rfl
  | case2 rest => exact Reading.line_after_closed _
  | case3 c cs hclose ih =>
    have hstep : read .block (c :: cs) = (read .block cs).after ([c].map .dropped) := by
      rw [read]
      · rfl
      · exact hclose
    rw [hstep, Reading.line_after_dropped (List.cons_ne_nil c []), ih]
    cases afterBlock? cs <;> rfl

/-- What is left of a line by searching it is what is left by reading it. -/
lemma line_read_code (cs : List Char) : (read .code cs).line = stripCode cs := by
  -- the line is read up to the first marker in it, and there the search is at the same place
  have hread : ∀ {cs ds : List Char}, marked cs = ds →
      (read .code cs).line = (read .code ds).line.after (plain cs) := by
    rintro cs ds rfl
    have hplain : ∀ c ∈ plain cs, isMarker c = false := fun _ => isMarker_of_mem_plain
    rw [← Reading.line_after_copied, ← read_code_plain hplain, plain_append_marked]
  fun_induction stripCode cs with
  | case1 cs front hnil =>
    rw [hread hnil]
    simp [read, Reading.line, StrippedLine.after, Place.mode, plain, front]
  | case2 cs front rest hquote ih =>
    have hstep : (read .code ('\'' :: rest)).line = (read .quote rest).line.after ['\''] :=
      Reading.line_after_copied ['\''] _
    rw [hread hquote, hstep, line_read_quote, ih]
    simp [StrippedLine.after, plain, front]
  | case3 cs front rest hopen hnone =>
    have hstep : (read .code ('(' :: '*' :: rest)).line = (read .block rest).line.rebuilt :=
      Reading.line_after_dropped (List.cons_ne_nil '(' ['*']) _
    rw [hread hopen, hstep, line_read_block, hnone]
    simp [StrippedLine.after, StrippedLine.rebuilt, plain, front]
  | case4 cs front rest hopen rest' hsome ih =>
    have hstep : (read .code ('(' :: '*' :: rest)).line = (read .block rest).line.rebuilt :=
      Reading.line_after_dropped (List.cons_ne_nil '(' ['*']) _
    rw [hread hopen, hstep, line_read_block, hsome, ← ih]
    simp [StrippedLine.after, StrippedLine.rebuilt, plain, front]
  | case5 cs front rest hdash =>
    have hstep : (read .code ('-' :: '-' :: rest)).line = (read .rest rest).line.rebuilt :=
      Reading.line_after_dropped (List.cons_ne_nil '-' ['-']) _
    rw [hread hdash, hstep, line_read_rest]
    simp [StrippedLine.after, StrippedLine.rebuilt, plain, front]
  | case6 cs front c rest hquote hopen hdash hmarked ih =>
    have hstep : read .code (c :: rest) = (read .code rest).after ([c].map .copied) := by
      rw [read]
      · rfl
      · exact hopen
      · exact hdash
      · exact hquote
    rw [hread hmarked, hstep, Reading.line_after_copied, ih]
    simp [StrippedLine.after, plain, front]

/-! ## Lines that start in a block comment -/

lemma stripLine_block_of_none {cs : List Char} (h : afterBlock? cs = none) (hcs : cs ≠ []) :
    stripLine .block cs = ⟨[], true, .block⟩ := by
  rw [stripLine, if_neg (by simpa using hcs), h]

lemma stripLine_block_of_some {cs rest : List Char} (h : afterBlock? cs = some rest) :
    stripLine .block cs = ((stripCode rest).after [' ']).rebuilt := by
  cases cs with
  | nil => cases h
  | cons c cs => rw [stripLine, if_neg (by simp), h]

/-- A line is stripped as it is read, whatever it starts in. -/
theorem line_read (mode : CommentMode) (cs : List Char) :
    (read (.ofMode mode) cs).line = stripLine mode cs := by
  cases mode with
  | code => exact line_read_code cs
  | block =>
    show (read .block cs).line = _
    rw [line_read_block]
    cases h : afterBlock? cs with
    | none =>
      cases cs with
      | nil => rfl
      | cons c cs => exact (stripLine_block_of_none h (List.cons_ne_nil c cs)).symm
    | some rest => rw [stripLine_block_of_some h, ← line_read_code]

/-- The parenthesis after `(*` does not close the comment. -/
example : (read .code "x(*)y*)z--w".toList).line = ⟨"x z".toList, true, .code⟩ := by decide

/-- Lines are stripped as they are read, one after the other. -/
theorem map_line_readLines (mode : CommentMode) (lines : List (List Char)) :
    (readLines mode lines).map Reading.line = stripLines mode lines := by
  induction lines generalizing mode with
  | nil => rfl
  | cons line lines ih =>
    rw [readLines, stripLines, List.map_cons, ih, ← line_read]
    rfl

lemma source_readLines (mode : CommentMode) (lines : List (List Char)) :
    (readLines mode lines).map Reading.source = lines := by
  induction lines generalizing mode with
  | nil => rfl
  | cons line lines ih => rw [readLines, List.map_cons, ih, source_read]

end Text
end ExpressSchema
