/-
# What is left of a line

No comment is left in a line that was stripped, and none comes about by taking one out: the space
that a block comment leaves keeps what was before it apart from what comes after, and a line ends
where a comment up to its end began.  So the lines that are left may be put together and loaded as a
text of their own, and it no longer matters whether comments are taken out.
-/
import ExpressSchema.Proofs.Comments.Reading
import ExpressSchema.Proofs.Loading.Sources

namespace ExpressSchema
namespace Text

/-! ## Reading again -/

/-- What is left of a line starts as the line does, or with the space that a comment leaves, and so
it always does if the line starts in a comment. -/
lemma head?_text_read (place : Place) (cs : List Char) :
    ∀ c ∈ (read place cs).line.text.head?,
      c = ' ' ∨ (place ≠ .block ∧ place ≠ .rest ∧ cs.head? = some c) := by
  fun_induction read place cs with
  | case1 => simp [Reading.line]
  -- what is dropped leaves nothing, and then one is in a comment
  | case2 cs ih | case9 c cs hclose ih =>
    exact fun c hc => .inl ((ih c hc).resolve_right fun h => h.1 rfl)
  | case3 cs ih | case10 c cs ih =>
    exact fun c hc => .inl ((ih c hc).resolve_right fun h => h.2.1 rfl)
  | case4 | case5 | case6 | case7 =>
    exact fun c hc => .inr ⟨by decide, by decide, hc⟩
  | case8 => exact fun c hc => .inl (Option.some.inj hc).symm

/-- A character is copied, and the rest is read again as it was. -/
lemma line_read_cons {place next : Place} {c : Char} {cs : List Char}
    (hstep : read place (c :: cs) = (read next cs).after [.copied c])
    (h : (read next cs).line = ⟨cs, false, .code⟩) :
    (read place (c :: cs)).line = ⟨c :: cs, false, .code⟩ := by
  have hcopied : ((read next cs).after [.copied c]).line = (read next cs).line.after [c] :=
    Reading.line_after_copied [c] _
  rw [hstep, hcopied, h]
  rfl

/-- The place from which what is left of a line is read again: of a comment nothing is left. -/
def Place.again : Place → Place
  | quote => quote
  | code | block | rest => code

/-- What is left of a line has no comment in it. -/
lemma line_read_again (place : Place) (cs : List Char) :
    (read place.again (read place cs).line.text).line =
      ⟨(read place cs).line.text, false, .code⟩ := by
  fun_induction read place cs with
  | case1 place => cases place <;> rfl
  -- what is dropped leaves nothing
  | case2 cs ih | case3 cs ih | case9 c cs hclose ih | case10 c cs ih => exact ih
  | case4 cs ih => exact line_read_cons rfl ih
  | case5 c cs hopen hdash hquote ih =>
    -- the character after this one is the one that came after it before, or a space
    have hhead : ∀ d tail, (read .code cs).line.text = d :: tail → d ≠ ' ' →
        ∃ rest, cs = d :: rest := by
      intro d tail htail hd
      have hsame := head?_text_read .code cs d (by rw [htail]; rfl)
      exact List.head?_eq_some_iff.1 (hsame.resolve_left hd).2.2
    refine line_read_cons ?_ ih
    show read .code (c :: (read .code cs).line.text) = _
    rw [read]
    · rfl
    · intro tail hc htail
      obtain ⟨rest, hrest⟩ := hhead '*' tail htail (by decide)
      exact hopen rest hc hrest
    · intro tail hc htail
      obtain ⟨rest, hrest⟩ := hhead '-' tail htail (by decide)
      exact hdash rest hc hrest
    · exact hquote
  | case6 cs ih => exact line_read_cons rfl ih
  | case7 c cs hquote ih =>
    refine line_read_cons ?_ ih
    show read .quote (c :: (read .quote cs).line.text) = _
    rw [read]
    · rfl
    · exact hquote
  | case8 cs ih => exact line_read_cons rfl ih

/-- A line that was stripped is clean, whatever it started in. -/
lemma isClean_text_stripLine (mode : CommentMode) (line : List Char) :
    IsClean (stripLine mode line).text := by
  have hagain : (Place.ofMode mode).again = .code := by cases mode <;> rfl
  have hread := line_read_again (.ofMode mode) line
  rw [hagain, line_read] at hread
  exact (line_read_code _).symm.trans hread

/-- The space in place of the comment keeps the star after it from opening another one. -/
example : stripLine .code "((**)*x".toList = ⟨"( *x".toList, true, .code⟩ := by
  rw [← line_read]
  decide

/-! ## Lines of their own -/

lemma exists_of_mem_stripLines {mode : CommentMode} {lines : List (List Char)}
    {l : StrippedLine} (h : l ∈ stripLines mode lines) :
    ∃ start, ∃ line ∈ lines, l = stripLine start line := by
  induction lines generalizing mode with
  | nil => exact absurd h List.not_mem_nil
  | cons line lines ih =>
    rcases List.mem_cons.1 h with rfl | h
    · exact ⟨mode, line, List.mem_cons_self, rfl⟩
    · obtain ⟨start, line', hline, rfl⟩ := ih h
      exact ⟨start, line', List.mem_cons_of_mem line hline, rfl⟩

/-- Every character that is left of a line is one of its characters, or the space that a comment
leaves. -/
lemma mem_or_eq_of_mem_text {mode : CommentMode} {line : List Char} {c : Char}
    (h : c ∈ (stripLine mode line).text) : c ∈ line ∨ c = ' ' := by
  rw [← line_read] at h
  obtain ⟨p, hp, hc⟩ := List.mem_flatMap.1 h
  cases p with
  | copied d =>
    have hsource : c ∈ (read (.ofMode mode) line).source := List.mem_flatMap.2 ⟨_, hp, hc⟩
    exact .inl (source_read (.ofMode mode) line ▸ hsource)
  | dropped d => exact absurd hc List.not_mem_nil
  | closed => exact .inr (List.mem_singleton.1 hc)

/-- No line of a text has a line feed in it. -/
lemma notMem_of_mem_lines {cs line : List Char} (h : line ∈ lines cs) : '\n' ∉ line := by
  obtain ⟨part, hpart, rfl⟩ := List.mem_map.1 h
  have hsplit : part ∈ cs.splitOn '\n' := by
    rw [splitOn_eq_splitLines]
    refine List.mem_append.2 ((List.mem_append.1 hpart).imp_right fun hlast => ?_)
    split_ifs at hlast
    · exact absurd hlast List.not_mem_nil
    · exact hlast
  have hmem : ∀ c ∈ dropEnd part '\r', c ∈ part := by
    intro c hc
    rcases isEnded_dropEnd part with heq | heq
    · exact heq ▸ hc
    · rw [heq]
      exact List.mem_append_left _ hc
  exact fun hfeed => (mem_of_mem_splitOn hsplit (hmem _ hfeed)).2 rfl

/-- What is left of each line of a text is clean, and it is one line. -/
lemma isClean_of_mem_stripLines {cs : List Char} {l : StrippedLine}
    (h : l ∈ stripLines .code (lines cs)) : IsClean l.text ∧ '\n' ∉ l.text := by
  obtain ⟨start, line, hline, rfl⟩ := exists_of_mem_stripLines h
  refine ⟨isClean_text_stripLine start line, fun hfeed => ?_⟩
  rcases mem_or_eq_of_mem_text hfeed with hmem | hspace
  · exact notMem_of_mem_lines hline hmem
  · exact absurd hspace (by decide)

end Text

/-! ## Loading again -/

/-- Lines that are put together are read as they were. -/
lemma LoadSettings.tokens_lines_intercalate (settings : LoadSettings) {lines : List (List Char)}
    (h : ∀ line ∈ lines, '\n' ∉ line) :
    settings.tokens (Text.lines (['\n'].intercalate lines)) = settings.tokens lines := by
  rw [tokens_lines]
  by_cases hne : lines = []
  · subst hne
    exact settings.tokens_append_empty []
  · rw [List.splitOn_intercalate '\n' h hne]

/-- The lines that are left of a text, put together, have its tokens. -/
lemma LoadSettings.tokens_scan (resolves strips : Bool) (text : String) :
    (LoadSettings.mk resolves strips).tokens
        (Text.lines ("\n".intercalate ((LoadSettings.mk resolves true).scan text)).toList) =
      (LoadSettings.mk resolves true).tokens (Text.lines text.toList) := by
  have hprepare : (LoadSettings.mk resolves true).prepare (Text.lines text.toList) =
      (Text.stripLines .code (Text.lines text.toList)).map (·.text) := rfl
  have hleft : ∀ line ∈ (LoadSettings.mk resolves true).prepare (Text.lines text.toList),
      Text.IsClean line ∧ '\n' ∉ line := by
    intro line hline
    rw [hprepare] at hline
    obtain ⟨l, hl, rfl⟩ := List.mem_map.1 hline
    exact Text.isClean_of_mem_stripLines hl
  have htext : ("\n".intercalate ((LoadSettings.mk resolves true).scan text)).toList =
      ['\n'].intercalate ((LoadSettings.mk resolves true).prepare (Text.lines text.toList)) := by
    simp [LoadSettings.scan, String.toList_intercalate]
  rw [htext, tokens_lines_intercalate _ fun line hline => (hleft line hline).2, tokens,
    prepare_of_isClean _ fun line hline => (hleft line hline).1]
  rfl

/-- A line that was stripped, whatever it started in, is left as it is when it is stripped again,
and the lines that are left of a text, put together, are loaded as the text is, whether comments are
taken out of them again or not. -/
theorem Load.scannedAgain (resolves strips : Bool) (builtins : Catalogue) (text : String) :
    (∀ (mode : Text.CommentMode) (line : List Char),
      Text.stripLine .code (Text.stripLine mode line).text =
        ⟨(Text.stripLine mode line).text, false, .code⟩) ∧
      (Load.text ⟨resolves, strips⟩ builtins
          ("\n".intercalate ((LoadSettings.mk resolves true).scan text))).schema =
        (Load.text ⟨resolves, true⟩ builtins text).schema := by
  refine ⟨Text.isClean_text_stripLine, ?_⟩
  rw [Load.text, Load.text, schema_lines_stepAll, schema_lines_stepAll, LoadSettings.tokens_scan]

end ExpressSchema
