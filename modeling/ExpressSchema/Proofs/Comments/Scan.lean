/-
# Scanning a text

The lines of a text are taken from its bytes one after the other, and each of them is stripped as it
is taken.  Here are the lines and the whole text as bytes, again with every slice checked, and what
becomes of them: each line is left as it is read character by character.
-/
import ExpressSchema.Proofs.Comments.Search

namespace ExpressSchema
namespace Text

/-! ## Lines of bytes -/

/-- Strip several lines of bytes, each starting in the mode in which the one before it ended. -/
def searchLines (mode : CommentMode) : List (List UInt8) → Option (List StrippedBytes)
  | [] => some []
  | line :: lines => do
    let stripped ← searchLine mode line
    (searchLines stripped.mode lines).map (stripped :: ·)

/-- The next line of a text from a place on, and where the line after it starts. -/
def nextLine? (bytes : List UInt8) (pos : Nat) : Option (List UInt8 × Nat) := do
  let rest ← slice? bytes pos bytes.length
  match rest.findIdx? (· = ByteStream.lineFeed) with
  | some stop => (slice? rest 0 stop).map fun line => (line, pos + stop + 1)
  | none => some (rest, bytes.length)

lemma lt_of_nextLine? {bytes line : List UInt8} {pos next : Nat} (hlt : pos < bytes.length)
    (h : nextLine? bytes pos = some (line, next)) : pos < next := by
  unfold nextLine? at h
  obtain ⟨rest, -, h⟩ := Option.bind_eq_some_iff.1 h
  split at h
  · obtain ⟨line', -, heq⟩ := Option.map_eq_some_iff.1 h
    obtain ⟨-, rfl⟩ := Prod.mk.inj heq
    omega
  · obtain ⟨-, rfl⟩ := Prod.mk.inj (Option.some.inj h)
    exact hlt

/-- The lines of a text from a place on, without their comments. -/
def scanFrom (bytes : List UInt8) (mode : CommentMode) (pos : Nat) : Option (List StrippedBytes) :=
  if _inside : pos < bytes.length then
    match _next : nextLine? bytes pos with
    | none => none
    | some (line, next) => do
      let stripped ← searchLine mode (dropEnd line ByteStream.carriageReturn)
      (scanFrom bytes stripped.mode next).map (stripped :: ·)
  else some []
termination_by bytes.length - pos
decreasing_by
  have := lt_of_nextLine? _inside _next
  omega

lemma scanFrom_of_le {bytes : List UInt8} {pos : Nat} (h : bytes.length ≤ pos)
    (mode : CommentMode) : scanFrom bytes mode pos = some [] := by
  rw [scanFrom, dif_neg (Nat.not_lt.2 h)]

lemma scanFrom_of_next {bytes line : List UInt8} {pos next : Nat} (hlt : pos < bytes.length)
    (h : nextLine? bytes pos = some (line, next)) (mode : CommentMode) :
    scanFrom bytes mode pos =
      (searchLine mode (dropEnd line ByteStream.carriageReturn)).bind fun stripped =>
        (scanFrom bytes stripped.mode next).map (stripped :: ·) := by
  rw [scanFrom, dif_pos hlt]
  split
  · simp_all
  · rename_i hnext
    obtain ⟨rfl, rfl⟩ := Prod.mk.inj (Option.some.inj (hnext.symm.trans h))
    rfl

/-- The search through the bytes of lines strips the lines. -/
theorem searchLines_utf8 (mode : CommentMode) (lines : List (List Char)) :
    searchLines mode (lines.map utf8) = some ((stripLines mode lines).map StrippedLine.utf8) := by
  induction lines generalizing mode with
  | nil => rfl
  | cons line lines ih =>
    rw [List.map_cons, searchLines, searchLine_utf8]
    show (searchLines (stripLine mode line).mode (lines.map utf8)).map _ = _
    rw [ih]
    rfl

/-! ## Lines of a text -/

/-- Text without a line feed is one line. -/
lemma lines_of_notMem {line : List Char} (h : '\n' ∉ line) (hne : line ≠ []) :
    lines line = [dropEnd line '\r'] := by
  simp [lines, splitLines, List.splitOn_eq_singleton h, hne]

/-- The first line feed ends the first line. -/
lemma lines_append_lineFeed {line : List Char} (h : '\n' ∉ line) (rest : List Char) :
    lines (line ++ '\n' :: rest) = dropEnd line '\r' :: lines rest := by
  have hne : rest.splitOn '\n' ≠ [] := List.splitOn_ne_nil _ _
  obtain ⟨part, parts, hparts⟩ := List.exists_cons_of_ne_nil hne
  simp [lines, splitLines, List.splitOn_append_cons_self_of_not_mem h, hparts]

/-- A line feed is found in the bytes of a text where it stands in the text. -/
lemma findIdx?_lineFeed (cs : List Char) :
    ('\n' ∉ cs ∧ (utf8 cs).findIdx? (· = ByteStream.lineFeed) = none) ∨
      ∃ line rest, '\n' ∉ line ∧ cs = line ++ '\n' :: rest ∧
        (utf8 cs).findIdx? (· = ByteStream.lineFeed) = some (utf8 line).length := by
  have hfree : ∀ ds : List Char, '\n' ∉ ds → ∀ b ∈ utf8 ds,
      decide (b = ByteStream.lineFeed) = false := by
    intro ds hds b hb
    refine decide_eq_false fun heq => hds ?_
    rw [heq] at hb
    exact mem_of_ascii_mem (c := '\n') (by decide) hb
  by_cases hmem : '\n' ∈ cs
  · obtain ⟨line, rest, rfl, hline⟩ := List.eq_append_cons_of_mem hmem
    refine .inr ⟨line, rest, hline, rfl, ?_⟩
    rw [utf8_append, utf8_cons_ascii (by decide)]
    exact findIdx?_append_cons (hfree line hline) (by decide) _
  · exact .inl ⟨hmem, List.findIdx?_eq_none_iff.2 (hfree cs hmem)⟩

/-- The next line of a text is the one before its next line feed, or all that is left of it. -/
lemma nextLine?_utf8 (done cs : List Char) :
    ('\n' ∉ cs ∧ nextLine? (utf8 (done ++ cs)) (utf8 done).length =
        some (utf8 cs, (utf8 (done ++ cs)).length)) ∨
      ∃ line rest, '\n' ∉ line ∧ cs = line ++ '\n' :: rest ∧
        nextLine? (utf8 (done ++ cs)) (utf8 done).length =
          some (utf8 line, (utf8 (done ++ (line ++ ['\n']))).length) := by
  have hrest : slice? (utf8 (done ++ cs)) (utf8 done).length (utf8 (done ++ cs)).length =
      some (utf8 cs) := by
    have hslice := slice?_utf8 done cs []
    rwa [List.append_nil] at hslice
  unfold nextLine?
  rw [hrest]
  rcases findIdx?_lineFeed cs with ⟨hnot, hfind⟩ | ⟨line, rest, hline, rfl, hfind⟩
  · refine .inl ⟨hnot, ?_⟩
    simp only [Option.bind_eq_bind, Option.bind_some, hfind]
  · refine .inr ⟨line, rest, hline, rfl, ?_⟩
    have hslice : slice? (utf8 (line ++ '\n' :: rest)) 0 (utf8 line).length = some (utf8 line) :=
      slice?_utf8 [] line ('\n' :: rest)
    have hfeed : utf8 ['\n'] = [ByteStream.lineFeed] := by decide
    have hplace : (utf8 (done ++ (line ++ ['\n']))).length =
        (utf8 done).length + (utf8 line).length + 1 := by
      rw [utf8_append, utf8_append, hfeed, List.length_append, List.length_append, Nat.add_assoc]
      rfl
    simp only [Option.bind_eq_bind, Option.bind_some, hfind, hslice, Option.map_some, hplace]

/-- The scan through the bytes of a text never fails, and it strips the lines of the text. -/
theorem scanFrom_utf8 (done cs : List Char) (mode : CommentMode) :
    scanFrom (utf8 (done ++ cs)) mode (utf8 done).length =
      some ((stripLines mode (lines cs)).map StrippedLine.utf8) := by
  induction hn : cs.length using Nat.strong_induction_on generalizing done cs mode with
  | _ n ih =>
    have hfirst : ∀ line : List Char,
        searchLine mode (dropEnd (utf8 line) ByteStream.carriageReturn) =
          some (stripLine mode (dropEnd line '\r')).utf8 := fun line => by
      rw [dropEnd_utf8, searchLine_utf8]
    by_cases hcs : cs = []
    · subst hcs
      rw [List.append_nil, scanFrom_of_le le_rfl, lines_nil]
      rfl
    have hlt : (utf8 done).length < (utf8 (done ++ cs)).length := by
      obtain ⟨c, ds, rfl⟩ := List.exists_cons_of_ne_nil hcs
      obtain ⟨b, bs, hb, -⟩ := head_utf8EncodeChar c
      rw [utf8_append, List.length_append, utf8_cons, hb, List.cons_append, List.length_cons]
      omega
    rcases nextLine?_utf8 done cs with ⟨hnot, hnext⟩ | ⟨line, rest, hline, rfl, hnext⟩
    · -- the last line, which takes up all that is left
      rw [scanFrom_of_next hlt hnext, hfirst, Option.bind_some, scanFrom_of_le le_rfl,
        lines_of_notMem hnot hcs]
      rfl
    · -- a line before a line feed, and the scan goes on behind that
      have hrest := ih rest.length (by rw [← hn]; simp; omega) (done ++ (line ++ ['\n'])) rest
        (stripLine mode (dropEnd line '\r')).mode rfl
      have hwhole : done ++ (line ++ ['\n']) ++ rest = done ++ (line ++ '\n' :: rest) := by simp
      rw [hwhole] at hrest
      rw [scanFrom_of_next hlt hnext, hfirst, Option.bind_some, lines_append_lineFeed hline]
      show (scanFrom _ (stripLine mode (dropEnd line '\r')).mode _).map _ = _
      rw [hrest]
      rfl

/-! ## Stripping and reading -/

/-- How lines are stripped: as they are read, character by character, and by a search through their
bytes that never leaves a line and never splits a character. -/
structure StripsAsRead (mode : CommentMode) (lines : List (List Char)) : Prop where
  /-- What is left of each line, whether it is rebuilt and in which mode it ends is what reading
  comes to. -/
  read : stripLines mode lines = (readLines mode lines).map Reading.line
  /-- Each line is read to its end. -/
  source : (readLines mode lines).map Reading.source = lines
  /-- A line of which no character lies in a comment is left as it was. -/
  unchanged : ∀ r ∈ readLines mode lines, r.pieces.any Piece.isComment = false →
    r.line.text = r.source
  /-- The search through the bytes comes to the same. -/
  searched : searchLines mode (lines.map utf8) =
    some ((stripLines mode lines).map StrippedLine.utf8)

/-- Any lines are stripped as they are read, and so are the lines of any text. -/
theorem stripsAsRead (mode : CommentMode) (lines : List (List Char)) (resolves : Bool)
    (text : String) :
    StripsAsRead mode lines ∧
      scanFrom (utf8 text.toList) .code 0 =
        some ((readLines .code (Text.lines text.toList)).map fun r => r.line.utf8) ∧
      (LoadSettings.mk resolves true).scan text =
        (readLines .code (Text.lines text.toList)).map fun r => String.ofList r.line.text := by
  have hread := map_line_readLines .code (Text.lines text.toList)
  refine ⟨⟨(map_line_readLines mode lines).symm, source_readLines mode lines,
    fun r _ => text_eq_source, searchLines_utf8 mode lines⟩, ?_, ?_⟩
  · have hscan := scanFrom_utf8 [] text.toList .code
    rw [← hread, List.map_map] at hscan
    exact hscan
  · rw [LoadSettings.scan, LoadSettings.prepare, if_pos rfl, ← hread, List.map_map, List.map_map]
    rfl

end Text
end ExpressSchema
