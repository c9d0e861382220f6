/-
# Layout

A text is laid out as a list of words: what stands before, between and after them is blank.  There
is exactly one such list for every text, and as long as comments are left in, it is all that
matters of the text.  Where the lines end, with or without a carriage return, and which blank
characters there are and how many, makes no difference to the schema that is loaded.
-/
import ExpressSchema.Proofs.Loading.Sources

namespace ExpressSchema
namespace Text

/-! ## Words and what is between them -/

/-- The words, in this order and with nothing but blank characters around them, make up the text.
No word is empty or has a blank character in it, and none goes on where the next one starts. -/
inductive LaidOut : List Char → List (List Char) → Prop
  /-- Nothing but blank characters. -/
  | blank {gap : List Char} (hgap : ∀ c ∈ gap, isBlank c = true) : LaidOut gap []
  /-- Blank characters, a word up to a blank character or the end of the text, and the rest. -/
  | word {gap word rest : List Char} {words : List (List Char)}
      (hgap : ∀ c ∈ gap, isBlank c = true) (hne : word ≠ [])
      (hword : ∀ c ∈ word, isBlank c = false) (hend : ∀ c ∈ rest.head?, isBlank c = true)
      (hrest : LaidOut rest words) : LaidOut (gap ++ (word ++ rest)) (word :: words)

lemma words_append_of_blank {gap : List Char} (h : ∀ c ∈ gap, isBlank c = true)
    (cs : List Char) : words (gap ++ cs) = words cs := by
  induction gap with
  | nil => rfl
  | cons c gap ih =>
    rw [List.cons_append, words_cons_of_isBlank (h c List.mem_cons_self)]
    exact ih fun d hd => h d (List.mem_cons_of_mem c hd)

/-- A word that ends where the rest starts is a word of its own. -/
lemma words_word_append {word rest : List Char} (hne : word ≠ [])
    (hword : ∀ c ∈ word, isBlank c = false) (hend : ∀ c ∈ rest.head?, isBlank c = true) :
    words (word ++ rest) = word :: words rest := by
  cases rest with
  | nil => rw [List.append_nil, words_eq_singleton hne hword, words_nil]
  | cons c rest =>
    have hc : isBlank c = true := hend c rfl
    rw [words_append_cons hc, words_eq_singleton hne hword, words_cons_of_isBlank hc]
    rfl

lemma LaidOut.words_eq {cs : List Char} {ws : List (List Char)} (h : LaidOut cs ws) :
    words cs = ws := by
  induction h with
  | @blank gap hgap =>
    have h := words_append_of_blank hgap []
    rwa [List.append_nil, words_nil] at h
  | word hgap hne hword hend _ ih =>
    rw [words_append_of_blank hgap, words_word_append hne hword hend, ih]

/-- The first word may start at once. -/
lemma LaidOut.cons {word rest : List Char} {words : List (List Char)} (hne : word ≠ [])
    (hword : ∀ c ∈ word, isBlank c = false) (hend : ∀ c ∈ rest.head?, isBlank c = true)
    (hrest : LaidOut rest words) : LaidOut (word ++ rest) (word :: words) := by
  have h := LaidOut.word (fun c hc => absurd hc List.not_mem_nil) hne hword hend hrest
  rwa [List.nil_append] at h

/-- A blank character at the front widens the first gap. -/
lemma LaidOut.cons_of_isBlank {c : Char} {cs : List Char} {ws : List (List Char)}
    (hc : isBlank c = true) (h : LaidOut cs ws) : LaidOut (c :: cs) ws := by
  cases h with
  | blank hgap => exact .blank (List.forall_mem_cons.2 ⟨hc, hgap⟩)
  | word hgap hne hword hend hrest =>
    exact .word (List.forall_mem_cons.2 ⟨hc, hgap⟩) hne hword hend hrest

/-- Any other character is part of the first word if that starts at once, and else is a word. -/
lemma LaidOut.exists_cons {c : Char} {cs : List Char} {ws : List (List Char)}
    (hc : isBlank c = false) (h : LaidOut cs ws) : ∃ ws', LaidOut (c :: cs) ws' := by
  have hone : ∀ d ∈ [c], isBlank d = false := by simpa using hc
  cases h with
  | blank hgap =>
    have hend : ∀ d ∈ cs.head?, isBlank d = true := fun d hd => hgap d (List.mem_of_mem_head? hd)
    exact ⟨_, .cons (List.cons_ne_nil c []) hone hend (.blank hgap)⟩
  | @word gap word rest words hgap hne hword hend hrest =>
    cases gap with
    | nil =>
      have hlonger : ∀ d ∈ c :: word, isBlank d = false := List.forall_mem_cons.2 ⟨hc, hword⟩
      exact ⟨_, .cons (List.cons_ne_nil c word) hlonger hend hrest⟩
    | cons g gap =>
      have hgap' : ∀ d ∈ ((g :: gap) ++ (word ++ rest)).head?, isBlank d = true := by
        simpa using hgap g List.mem_cons_self
      exact ⟨_, .cons (List.cons_ne_nil c []) hone hgap' (.word hgap hne hword hend hrest)⟩

lemma exists_laidOut (cs : List Char) : ∃ ws, LaidOut cs ws := by
  induction cs with
  | nil => exact ⟨[], .blank (by simp)⟩
  | cons c cs ih =>
    obtain ⟨ws, h⟩ := ih
    cases hc : isBlank c with
    | true => exact ⟨ws, h.cons_of_isBlank hc⟩
    | false => exact h.exists_cons hc

/-- The words of a text are the only ones as which it is laid out. -/
theorem laidOut_iff {cs : List Char} {ws : List (List Char)} : LaidOut cs ws ↔ ws = words cs := by
  refine ⟨fun h => h.words_eq.symm, ?_⟩
  rintro rfl
  obtain ⟨ws, h⟩ := exists_laidOut cs
  rwa [h.words_eq]

/-- The words of a text are those of its lines. -/
lemma flatMap_words_splitOn (cs : List Char) : (cs.splitOn '\n').flatMap words = words cs := by
  have key : ∀ lines : List (List Char),
      words (['\n'].intercalate lines) = lines.flatMap words := by
    intro lines
    induction lines with
    | nil => rfl
    | cons line lines ih =>
      cases lines with
      | nil => simp
      | cons next lines =>
        -- a line feed is blank, so that no word goes across it
        rw [List.intercalate_cons_cons, List.append_assoc, List.singleton_append,
          words_append_cons (by decide), ih]
        rfl
  rw [← key, List.intercalate_splitOn]

end Text

/-! ## Loading -/

/-- With comments left in, the tokens of the lines of a text are its words. -/
lemma LoadSettings.tokens_lines_eq_words {settings : LoadSettings}
    (h : settings.stripsComments = false) (cs : List Char) :
    settings.tokens (Text.lines cs) = Text.words cs := by
  rw [tokens_lines, tokens_of_not_stripsComments _ h, Text.flatMap_words_splitOn]

/-- With comments left in, what is loaded of a text is what the steps over its words lead to. -/
lemma Load.schema_text_words (resolves : Bool) (builtins : Catalogue) (text : String) :
    (Load.text ⟨resolves, false⟩ builtins text).schema =
      if resolves then (State.topLevel.stepAll (Text.words text.toList) {}).2.schema.resolve
      else (State.topLevel.stepAll (Text.words text.toList) {}).2.schema := by
  rw [Load.text, Load.schema_lines_stepAll, LoadSettings.tokens_lines_eq_words rfl]

/-- With comments left in, a text is loaded by one step for each of its words, whatever has been
loaded before, and every text that is laid out as the same words is loaded as the same schema. -/
theorem Load.layout (resolves : Bool) (builtins : Catalogue) (text : String) :
    ∃ words, (∀ words', Text.LaidOut text.toList words' ↔ words' = words) ∧
      (Load.text ⟨resolves, false⟩ builtins text).schema =
        (if resolves then (State.topLevel.stepAll words {}).2.schema.resolve
        else (State.topLevel.stepAll words {}).2.schema) ∧
      ∀ (builtins' : Catalogue) (text' : String), Text.LaidOut text'.toList words →
        (Load.text ⟨resolves, false⟩ builtins' text').schema =
          (Load.text ⟨resolves, false⟩ builtins text).schema := by
  refine ⟨Text.words text.toList, fun _ => Text.laidOut_iff,
    Load.schema_text_words resolves builtins text, fun builtins' text' h => ?_⟩
  rw [Load.schema_text_words, Load.schema_text_words, h.words_eq]

end ExpressSchema
