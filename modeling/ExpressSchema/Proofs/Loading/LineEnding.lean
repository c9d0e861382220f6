/-
# The ends of lines

Whether a carriage return is left at the end of a line makes no difference to what is read, and
neither does an empty line after the others: comments start and end as they did, and the words are
the same.
-/
import ExpressSchema.Proofs.Reading.Loaded
import ExpressSchema.Proofs.Reading.Steps
import Mathlib.Data.List.TakeWhile

namespace ExpressSchema
namespace Text

/-! ## Markers and the text before them -/

lemma dropWhile_append_of_cons {α : Type} {p : α → Bool} {xs rest : List α} {x : α}
    (h : xs.dropWhile p = x :: rest) (ys : List α) :
    (xs ++ ys).dropWhile p = x :: (rest ++ ys) ∧ (xs ++ ys).takeWhile p = xs.takeWhile p := by
  induction xs with
  | nil => simp at h
  | cons a xs ih =>
    cases ha : p a with
    | true =>
      rw [List.dropWhile_cons_of_pos ha] at h
      obtain ⟨hdrop, htake⟩ := ih h
      simp [ha, hdrop, htake]
    | false =>
      rw [List.dropWhile_cons_of_neg (by simp [ha])] at h
      obtain ⟨rfl, rfl⟩ := List.cons.inj h
      simp [ha]

section Marker

variable {cs : List Char}

/-- The text up to the first marker. -/
def plain (cs : List Char) : List Char := cs.takeWhile fun c => !isMarker c

/-- The text from the first marker on. -/
def marked (cs : List Char) : List Char := cs.dropWhile fun c => !isMarker c

lemma plain_append_marked (cs : List Char) : plain cs ++ marked cs = cs :=
  List.takeWhile_append_dropWhile

lemma isMarker_of_mem_plain {c : Char} (h : c ∈ plain cs) : isMarker c = false := by
  simpa using List.mem_takeWhile_imp h

lemma isMarker_of_marked {c : Char} {rest : List Char} (h : marked cs = c :: rest) :
    isMarker c = true := by
  have hne : marked cs ≠ [] := by
    rw [h]
    exact List.cons_ne_nil c rest
  have hhead : (!isMarker ((marked cs).head hne)) = false :=
    List.head_dropWhile_not (fun c => !isMarker c) hne
  simpa [h] using hhead

/-- What becomes of the text from the first marker on, and of the text before it. -/
def stripMarked (plain : List Char) : List Char → StrippedLine
  | [] => ⟨plain, false, .code⟩
  | '\'' :: rest =>
    (stripCode (splitQuote rest).2).after (plain ++ '\'' :: (splitQuote rest).1)
  | '(' :: '*' :: rest =>
    match afterBlock? rest with
    | none => ⟨plain, true, .block⟩
    | some rest' => ((stripCode rest').after (plain ++ [' '])).rebuilt
  | '-' :: '-' :: _ => ⟨plain, true, .code⟩
  | c :: rest => (stripCode rest).after (plain ++ [c])

lemma stripCode_eq (cs : List Char) : stripCode cs = stripMarked (plain cs) (marked cs) := by
  rw [stripCode, stripMarked.eq_def]
  unfold marked plain
  split
  · rename_i h
    rw [h]
  · rename_i h
    rw [h]
    rfl
  · rename_i h
    rw [h]
    split <;> simp_all
  · rename_i h
    rw [h]
    rfl
  · rename_i c rest hquote hopen hdash h
    rw [h]
    split <;> simp_all

lemma marked_append_of_nil (h : marked cs = []) (ds : List Char) :
    marked (cs ++ ds) = marked ds ∧ plain (cs ++ ds) = cs ++ plain ds := by
  have hplain : ∀ c ∈ cs, (!isMarker c) = true := List.dropWhile_eq_nil_iff.1 h
  exact ⟨List.dropWhile_append_of_pos hplain, List.takeWhile_append_of_pos hplain⟩

lemma plain_of_nil (h : marked cs = []) : plain cs = cs := by
  simpa [plain] using (marked_append_of_nil h []).2

end Marker

/-! ## A carriage return at the end of a line -/

/-- A line without its comments, and the same line with a carriage return after it, which either
stands after what is left or went with a comment. -/
structure Returned (l l' : StrippedLine) : Prop where
  mode : l'.mode = l.mode
  text : l'.text = l.text ∨ l'.text = l.text ++ ['\r']

lemma Returned.after {l l' : StrippedLine} (h : Returned l l') (front : List Char) :
    Returned (l.after front) (l'.after front) := by
  refine ⟨h.mode, ?_⟩
  rcases h.text with h | h
  · exact .inl (congrArg (front ++ ·) h)
  · exact .inr ((congrArg (front ++ ·) h).trans (List.append_assoc ..).symm)

lemma Returned.rebuilt {l l' : StrippedLine} (h : Returned l l') :
    Returned l.rebuilt l'.rebuilt := ⟨h.mode, h.text⟩

lemma Returned.refl (l : StrippedLine) : Returned l l := ⟨rfl, .inl rfl⟩

/-- What starts a text with a carriage return at its end starts the text without it. -/
lemma eq_cons_of_append_return {cs tail : List Char} {c : Char} (hc : c ≠ '\r')
    (h : cs ++ ['\r'] = c :: tail) : ∃ tail', cs = c :: tail' := by
  cases cs with
  | nil => exact absurd (List.cons.inj h).1.symm hc
  | cons d cs =>
    obtain ⟨rfl, -⟩ := List.cons.inj h
    exact ⟨cs, rfl⟩

/-- A carriage return does not end a comment. -/
lemma afterBlock?_append_return (cs : List Char) :
    afterBlock? (cs ++ ['\r']) = (afterBlock? cs).map (· ++ ['\r']) := by
  fun_induction afterBlock? cs with
  | case1 => rfl
  | case2 rest => rfl
  | case3 c rest hclose ih =>
    rw [List.cons_append, afterBlock?]
    · exact ih
    · rintro tail rfl htail
      obtain ⟨tail', htail'⟩ := eq_cons_of_append_return (by decide) htail
      exact hclose tail' rfl htail'

/-- A carriage return does not close a quoted text. -/
lemma splitQuote_append_return (cs : List Char) :
    splitQuote (cs ++ ['\r']) = ((splitQuote cs).1, (splitQuote cs).2 ++ ['\r']) ∨
      splitQuote cs = (cs, []) ∧ splitQuote (cs ++ ['\r']) = (cs ++ ['\r'], []) := by
  unfold splitQuote
  cases h : cs.dropWhile (· != '\'') with
  | nil =>
    have hcs := List.dropWhile_eq_nil_iff.1 h
    refine .inr ⟨?_, ?_⟩
    · rw [List.takeWhile_eq_self_iff.2 hcs]
    · rw [List.dropWhile_append_of_pos hcs, List.takeWhile_append_of_pos hcs]
      rfl
  | cons quote rest =>
    obtain ⟨hdrop, htake⟩ := dropWhile_append_of_cons h ['\r']
    exact .inl (by rw [hdrop, htake])

lemma stripCode_append_return {cs : List Char} {c : Char} {rest : List Char}
    (h : marked cs = c :: rest) :
    stripCode (cs ++ ['\r']) = stripMarked (plain cs) (c :: (rest ++ ['\r'])) := by
  obtain ⟨hmarked, hplain⟩ := dropWhile_append_of_cons h ['\r']
  rw [stripCode_eq]
  exact congrArg₂ stripMarked hplain hmarked

/-- Comments are the same in a line with a carriage return at its end. -/
lemma returned_stripCode (cs : List Char) :
    Returned (stripCode cs) (stripCode (cs ++ ['\r'])) := by
  fun_induction stripCode cs with
  -- no marker: all of the line is left, and the carriage return with it
  | case1 cs _ hnil =>
    obtain ⟨hmarked, hplain⟩ := marked_append_of_nil hnil ['\r']
    have hcs := plain_of_nil hnil
    rw [stripCode_eq, hmarked, hplain]
    exact ⟨rfl, .inr (congrArg (· ++ ['\r']) hcs.symm)⟩
  -- a quote: it is closed before the carriage return, or it is open to the end and takes it in
  | case2 cs _ rest hquote ih =>
    rw [stripCode_append_return hquote]
    rcases splitQuote_append_return rest with h | ⟨hsplit, h⟩
    · have hstrip : stripMarked (plain cs) ('\'' :: (rest ++ ['\r'])) =
          (stripCode ((splitQuote rest).2 ++ ['\r'])).after
            (plain cs ++ '\'' :: (splitQuote rest).1) := by
        rw [stripMarked, h]
      rw [hstrip]
      exact ih.after _
    · have hstrip : stripMarked (plain cs) ('\'' :: (rest ++ ['\r'])) =
          (stripCode []).after (plain cs ++ '\'' :: (rest ++ ['\r'])) := by
        rw [stripMarked, h]
      have hempty : stripCode [] = ⟨[], false, .code⟩ := by rw [stripCode_eq]; rfl
      rw [hstrip, hsplit, hempty]
      refine ⟨rfl, .inr ?_⟩
      simp only [StrippedLine.after, List.append_nil, List.append_assoc, List.cons_append]
      rfl
  -- a comment that is open at the end of the line, and the carriage return is part of it
  | case3 cs _ rest hopen hnone =>
    rw [stripCode_append_return hopen]
    have hstrip : stripMarked (plain cs) ('(' :: '*' :: (rest ++ ['\r'])) =
        ⟨plain cs, true, .block⟩ := by
      simp [stripMarked, afterBlock?_append_return, hnone]
    rw [List.cons_append, hstrip]
    exact .refl _
  -- a comment that is closed, and the rest of the line is stripped with the carriage return
  | case4 cs _ rest hopen rest' hsome ih =>
    rw [stripCode_append_return hopen]
    have hstrip : stripMarked (plain cs) ('(' :: '*' :: (rest ++ ['\r'])) =
        ((stripCode (rest' ++ ['\r'])).after (plain cs ++ [' '])).rebuilt := by
      simp [stripMarked, afterBlock?_append_return, hsome]
    rw [List.cons_append, hstrip]
    exact (ih.after _).rebuilt
  -- a comment up to the end of the line
  | case5 cs _ rest hdash =>
    rw [stripCode_append_return hdash]
    exact .refl _
  -- a marker that starts nothing, and a carriage return makes no comment of it
  | case6 cs _ c rest hquote hopen hdash hmarked ih =>
    rw [stripCode_append_return hmarked]
    have hstrip : stripMarked (plain cs) (c :: (rest ++ ['\r'])) =
        (stripCode (rest ++ ['\r'])).after (plain cs ++ [c]) := by
      rw [stripMarked]
      · exact hquote
      · rintro tail hc htail
        obtain ⟨tail', htail'⟩ := eq_cons_of_append_return (by decide) htail
        exact hopen tail' hc htail'
      · rintro tail hc htail
        obtain ⟨tail', htail'⟩ := eq_cons_of_append_return (by decide) htail
        exact hdash tail' hc htail'
    rw [hstrip]
    exact ih.after _

lemma returned_stripLine (mode : CommentMode) (line : List Char) :
    Returned (stripLine mode line) (stripLine mode (line ++ ['\r'])) := by
  cases mode with
  | code => exact returned_stripCode line
  | block =>
    cases line with
    | nil => exact ⟨rfl, .inl rfl⟩
    | cons c cs =>
      have h := afterBlock?_append_return (c :: cs)
      simp only [stripLine, List.cons_append, List.isEmpty_cons] at h ⊢
      rw [h]
      cases afterBlock? (c :: cs) with
      | none => exact .refl _
      | some rest => exact ((returned_stripCode rest).after [' ']).rebuilt

/-- A carriage return is blank. -/
lemma words_append_return (cs : List Char) : words (cs ++ ['\r']) = words cs := by
  rw [words_append_cons (by decide) cs [], words_nil, List.append_nil]

lemma Returned.words_eq {l l' : StrippedLine} (h : Returned l l') :
    words l'.text = words l.text := by
  rcases h.text with h | h
  · rw [h]
  · rw [h, words_append_return]

/-! ## Several lines -/

/-- A line without comments: when it is stripped it is left as it is, and no comment goes on in the
next line. -/
def IsClean (line : List Char) : Prop := stripCode line = ⟨line, false, .code⟩

lemma map_text_stripLines {lines : List (List Char)} (h : ∀ line ∈ lines, IsClean line) :
    (stripLines .code lines).map (·.text) = lines := by
  induction lines with
  | nil => rfl
  | cons line lines ih =>
    have hline : stripLine .code line = ⟨line, false, .code⟩ := h line List.mem_cons_self
    rw [stripLines, hline, List.map_cons, ih fun l hl => h l (List.mem_cons_of_mem line hl)]

/-- A line, or the same line without a carriage return at its end. -/
def IsEnded (line line' : List Char) : Prop := line' = line ∨ line = line' ++ ['\r']

/-- The words of several lines, without those in comments. -/
def wordsOf (mode : CommentMode) (lines : List (List Char)) : List (List Char) :=
  (stripLines mode lines).flatMap fun l => words l.text

lemma wordsOf_cons (mode : CommentMode) (line : List Char) (lines : List (List Char)) :
    wordsOf mode (line :: lines) =
      words (stripLine mode line).text ++ wordsOf (stripLine mode line).mode lines := by
  simp [wordsOf, stripLines]

lemma wordsOf_congr {lines lines' : List (List Char)} (h : List.Forall₂ IsEnded lines lines')
    (mode : CommentMode) : wordsOf mode lines = wordsOf mode lines' := by
  induction h generalizing mode with
  | nil => rfl
  | @cons line line' _ _ hline _ ih =>
    rw [wordsOf_cons, wordsOf_cons, ih]
    rcases hline with rfl | rfl
    · rfl
    · have hreturned := returned_stripLine mode line'
      rw [hreturned.words_eq, hreturned.mode]

/-- An empty line after the others has no words. -/
lemma wordsOf_append_empty (lines : List (List Char)) (mode : CommentMode) :
    wordsOf mode (lines ++ [[]]) = wordsOf mode lines := by
  induction lines generalizing mode with
  | nil =>
    cases mode with
    | code =>
      have hempty : stripCode [] = ⟨[], false, .code⟩ := by rw [stripCode_eq]; rfl
      simp [wordsOf, stripLines, stripLine, hempty]
    | block => rfl
  | cons line lines ih => rw [List.cons_append, wordsOf_cons, wordsOf_cons, ih]

end Text

/-! ## Tokens -/

/-- The tokens of several lines. -/
def LoadSettings.tokens (settings : LoadSettings) (lines : List (List Char)) : List Token :=
  (settings.prepare lines).flatMap Text.words

namespace LoadSettings

variable (settings : LoadSettings)

/-- Reading comes down to reading the tokens. -/
lemma read_eq_feedAll (builtins : Catalogue) (lines : List (List Char)) :
    settings.read builtins lines =
      State.topLevel.feedAll (settings.tokens lines) { builtins := builtins } := by
  have key : ∀ (lines : List (List Char)) (s : State) (w : Workspace),
      s.feedLines lines w = s.feedAll (lines.flatMap Text.words) w := by
    intro lines
    induction lines with
    | nil => exact fun _ _ => rfl
    | cons line lines ih =>
      intro s w
      rw [List.flatMap_cons, State.feedAll_append, ← ih]
      rfl
  exact key _ _ _

lemma tokens_of_stripsComments (h : settings.stripsComments = true) (lines : List (List Char)) :
    settings.tokens lines = Text.wordsOf .code lines := by
  simp [tokens, prepare, h, Text.wordsOf, List.flatMap_map]

lemma tokens_of_not_stripsComments (h : settings.stripsComments = false)
    (lines : List (List Char)) : settings.tokens lines = lines.flatMap Text.words := by
  simp [tokens, prepare, h]

lemma prepare_of_isClean {lines : List (List Char)} (h : ∀ line ∈ lines, Text.IsClean line) :
    settings.prepare lines = lines := by
  unfold prepare
  split_ifs
  · exact Text.map_text_stripLines h
  · rfl

lemma tokens_congr {lines lines' : List (List Char)}
    (h : List.Forall₂ Text.IsEnded lines lines') :
    settings.tokens lines = settings.tokens lines' := by
  cases hstrips : settings.stripsComments with
  | true =>
    rw [tokens_of_stripsComments _ hstrips, tokens_of_stripsComments _ hstrips,
      Text.wordsOf_congr h]
  | false =>
    rw [tokens_of_not_stripsComments _ hstrips, tokens_of_not_stripsComments _ hstrips]
    induction h with
    | nil => rfl
    | cons hline _ ih =>
      rw [List.flatMap_cons, List.flatMap_cons, ih]
      rcases hline with rfl | rfl
      · rfl
      · rw [Text.words_append_return]

lemma tokens_append_empty (lines : List (List Char)) :
    settings.tokens (lines ++ [[]]) = settings.tokens lines := by
  cases hstrips : settings.stripsComments with
  | true =>
    rw [tokens_of_stripsComments _ hstrips, tokens_of_stripsComments _ hstrips,
      Text.wordsOf_append_empty]
  | false =>
    rw [tokens_of_not_stripsComments _ hstrips, tokens_of_not_stripsComments _ hstrips]
    simp

end LoadSettings

/-- What is loaded of lines is what the steps over their tokens lead to. -/
theorem Load.schema_lines_stepAll (settings : LoadSettings) (builtins : Catalogue)
    (lines : List (List Char)) :
    (Load.lines settings builtins lines).schema =
      if settings.resolves then
        (State.topLevel.stepAll (settings.tokens lines) {}).2.schema.resolve
      else (State.topLevel.stepAll (settings.tokens lines) {}).2.schema := by
  have hread : (settings.read builtins lines).2.schema =
      (State.topLevel.stepAll (settings.tokens lines) {}).2.schema := by
    have hstart : ({ builtins := builtins } : Workspace).schema = ({} : Workspace).schema := rfl
    rw [LoadSettings.read_eq_feedAll]
    exact (State.agree_feedAll_stepAll .topLevel _ hstart).schema
  rw [schema_lines, hread]

/-- Lines with the same tokens are loaded as the same schema. -/
theorem Load.schema_lines_congr (settings : LoadSettings) (builtins : Catalogue)
    {lines lines' : List (List Char)} (h : settings.tokens lines = settings.tokens lines') :
    (Load.lines settings builtins lines).schema =
      (Load.lines settings builtins lines').schema := by
  rw [schema_lines_stepAll, schema_lines_stepAll, h]

end ExpressSchema
