/-
# All sources of a schema

A schema may be loaded from a text, from the lines of the text or from its bytes.  The lines that
are read differ a little: a carriage return is left at the end of some of them or not, and an empty
line after the last line feed counts as a line or not.  The schema is the same.
-/
import ExpressSchema.Proofs.Loading.LineEnding
import ExpressSchema.Proofs.Loading.Utf8
import Mathlib.Data.List.Forall2

namespace ExpressSchema
namespace Text

lemma splitOn_eq_splitLines {α : Type} [BEq α] (lineFeed : α) (xs : List α) :
    xs.splitOn lineFeed = (splitLines lineFeed xs).1 ++ [(splitLines lineFeed xs).2] := by
  have hne : xs.splitOn lineFeed ≠ [] := List.splitOn_ne_nil _ _
  rw [splitLines, List.getLast?_eq_some_getLast hne]
  exact (List.dropLast_concat_getLast hne).symm

/-- The parts of the bytes of a text are the bytes of its parts. -/
lemma splitLines_utf8 (cs : List Char) :
    splitLines ByteStream.lineFeed (utf8 cs) =
      ((splitLines '\n' cs).1.map utf8, utf8 (splitLines '\n' cs).2) := by
  have hne : cs.splitOn '\n' ≠ [] := List.splitOn_ne_nil _ _
  rw [splitLines, splitOn_utf8, List.getLast?_map, ← List.map_dropLast, splitLines,
    List.getLast?_eq_some_getLast hne]
  rfl

lemma isEnded_dropEnd (line : List Char) : IsEnded line (dropEnd line '\r') := by
  cases hend : endsWith line '\r' with
  | false => exact .inl (dropEnd_of_not_endsWith hend)
  | true =>
    have hlast : line.getLast? = some '\r' := by simpa [endsWith] using hend
    obtain ⟨front, rfl⟩ := List.getLast?_eq_some_iff.1 hlast
    exact .inr (by rw [dropEnd_append])

lemma forall₂_dropEnd (lines : List (List Char)) :
    List.Forall₂ IsEnded lines (lines.map fun line => dropEnd line '\r') := by
  induction lines with
  | nil => exact .nil
  | cons line lines ih => exact .cons (isEnded_dropEnd line) ih

end Text

namespace LoadSettings

variable (settings : LoadSettings)

/-- The last part of a text counts as a line or not if it is empty, and may lose a carriage
return. -/
lemma tokens_parts (front : List (List Char)) {last last' : List Char}
    (h : Text.IsEnded last last') :
    settings.tokens ((front.map fun line => Text.dropEnd line '\r') ++
        if last.isEmpty then [] else [last']) =
      settings.tokens (front ++ [last]) := by
  cases last with
  | nil =>
    rw [tokens_append_empty, List.isEmpty_nil, if_pos rfl, List.append_nil]
    exact (settings.tokens_congr (Text.forall₂_dropEnd front)).symm
  | cons c cs =>
    rw [List.isEmpty_cons, if_neg (by simp)]
    exact (settings.tokens_congr
      (List.rel_append (Text.forall₂_dropEnd front) (.cons h .nil))).symm

/-- The lines of a text have the tokens of its parts between line feeds. -/
lemma tokens_lines (cs : List Char) :
    settings.tokens (Text.lines cs) = settings.tokens (cs.splitOn '\n') := by
  have hlines : Text.lines cs =
      ((Text.splitLines '\n' cs).1.map fun line => Text.dropEnd line '\r') ++
        if (Text.splitLines '\n' cs).2.isEmpty then []
        else [Text.dropEnd (Text.splitLines '\n' cs).2 '\r'] := by
    rw [Text.lines, List.map_append]
    split_ifs <;> rfl
  rw [hlines, tokens_parts _ _ (Text.isEnded_dropEnd _), ← Text.splitOn_eq_splitLines]

end LoadSettings

/-! ## Streams -/

namespace ByteStream

lemma mapM_ok {α β ε : Type} {f : α → Except ε β} {g : α → β} (xs : List α)
    (h : ∀ x ∈ xs, f x = .ok (g x)) : xs.mapM f = .ok (xs.map g) := by
  induction xs with
  | nil => rfl
  | cons x xs ih =>
    rw [List.mapM_cons, h x List.mem_cons_self,
      ih fun y hy => h y (List.mem_cons_of_mem x hy)]
    rfl

lemma exists_mapM_ok {α β ε : Type} {f : α → Except ε β} (xs : List α)
    (h : ∀ x ∈ xs, ∃ y, f x = .ok y) : ∃ ys, xs.mapM f = .ok ys := by
  induction xs with
  | nil => exact ⟨[], rfl⟩
  | cons x xs ih =>
    obtain ⟨y, hy⟩ := h x List.mem_cons_self
    obtain ⟨ys, hys⟩ := ih fun z hz => h z (List.mem_cons_of_mem x hz)
    refine ⟨y :: ys, ?_⟩
    rw [List.mapM_cons, hy, hys]
    rfl

/-- If some element fails, and any one that fails does so with the same error, then that is how the
whole fails. -/
lemma mapM_error {α β ε : Type} {f : α → Except ε β} {e : ε} (xs : List α)
    (hcases : ∀ x, (∃ y, f x = .ok y) ∨ f x = .error e) (h : ∃ x ∈ xs, f x = .error e) :
    xs.mapM f = .error e := by
  induction xs with
  | nil => simp at h
  | cons x xs ih =>
    rw [List.mapM_cons]
    rcases hcases x with ⟨y, hy⟩ | hx
    · have hrest : ∃ z ∈ xs, f z = .error e := by
        obtain ⟨z, hz, hfail⟩ := h
        rcases List.mem_cons.1 hz with rfl | hz
        · rw [hy] at hfail
          cases hfail
        · exact ⟨z, hz, hfail⟩
      rw [hy, ih hrest]
      rfl
    · rw [hx]
      rfl

/-- The lines of the bytes of a text. -/
lemma lines?_utf8 (cs : List Char) :
    lines? ⟨Text.utf8 cs, none⟩ =
      .ok (((Text.splitLines '\n' cs).1.map fun line => Text.dropEnd line '\r') ++
        if (Text.splitLines '\n' cs).2.isEmpty then [] else [(Text.splitLines '\n' cs).2]) := by
  have hfinished : ((Text.splitLines '\n' cs).1.map Text.utf8).mapM
      (fun line => decode (Text.dropEnd line carriageReturn)) =
        .ok ((Text.splitLines '\n' cs).1.map fun line => Text.dropEnd line '\r') := by
    rw [List.mapM_map]
    exact mapM_ok _ fun line _ => by
      rw [Function.comp_apply, Text.dropEnd_utf8, decode_utf8]
  rw [lines?, Text.splitLines_utf8]
  dsimp only
  rw [hfinished]
  cases hlast : (Text.splitLines '\n' cs).2 with
  | nil => simp [bind, Except.bind]
  | cons c rest =>
    have hne : (Text.utf8 (c :: rest)).isEmpty = false := by
      simp [String.utf8EncodeChar_ne_nil]
    simp only [bind, Except.bind, hne, decode_utf8]
    rfl

lemma decode_dropEnd_cases (line : List UInt8) :
    (∃ cs, decode (Text.dropEnd line carriageReturn) = .ok cs) ∨
      decode (Text.dropEnd line carriageReturn) = .error noText := by
  rcases decode_cases (Text.dropEnd line carriageReturn) with ⟨cs, h⟩ | h
  · exact .inl ⟨cs, by rw [h, decode_utf8]⟩
  · exact .inr h

/-- Bytes that are no text have a line that is none. -/
lemma lines?_of_not_utf8 {bytes : List UInt8} (h : ∀ cs, bytes ≠ Text.utf8 cs) :
    lines? ⟨bytes, none⟩ = .error noText := by
  rw [lines?]
  dsimp only
  by_cases hfinished : ∃ line ∈ (Text.splitLines lineFeed bytes).1,
      decode (Text.dropEnd line carriageReturn) = .error noText
  · rw [mapM_error _ decode_dropEnd_cases hfinished]
    rfl
  -- if all finished lines are text, what follows the last line feed is none
  · have hlast : decode (Text.splitLines lineFeed bytes).2 = .error noText := by
      rcases decode_cases (Text.splitLines lineFeed bytes).2 with hlast | hlast
      · obtain ⟨cs, hcs⟩ : ∃ cs, bytes = Text.utf8 cs := by
          refine Text.exists_utf8_of_splitOn fun part hpart => ?_
          rw [Text.splitOn_eq_splitLines, List.mem_append, List.mem_singleton] at hpart
          rcases hpart with hpart | rfl
          · rcases decode_cases (Text.dropEnd part carriageReturn) with ⟨cs, hcs⟩ | herror
            · exact Text.exists_utf8_of_dropEnd hcs
            · exact absurd ⟨part, hpart, herror⟩ hfinished
          · exact hlast
        exact absurd hcs (h cs)
      · exact hlast
    obtain ⟨finished, hmap⟩ := exists_mapM_ok (Text.splitLines lineFeed bytes).1
      fun line hline => (decode_dropEnd_cases line).resolve_right fun herror =>
        hfinished ⟨line, hline, herror⟩
    -- no bytes at all are a text, so that there is something after the last line feed
    have hne : (Text.splitLines lineFeed bytes).2.isEmpty = false := by
      cases hnil : (Text.splitLines lineFeed bytes).2 with
      | nil =>
        have hok : decode [] = .ok [] := decode_utf8 []
        rw [hnil, hok] at hlast
        cases hlast
      | cons => rfl
    rw [hmap]
    simp only [bind, Except.bind, hne, hlast]
    rfl

end ByteStream

namespace Load

variable (settings : LoadSettings) (builtins : Catalogue)

/-- The lines that are made of the bytes of a text have its tokens. -/
lemma tokens_of_lines? {cs : List Char} {lines : List (List Char)}
    (h : ByteStream.lines? ⟨Text.utf8 cs, none⟩ = .ok lines) :
    settings.tokens lines = settings.tokens (cs.splitOn '\n') := by
  rw [ByteStream.lines?_utf8] at h
  rw [← Except.ok.inj h, LoadSettings.tokens_parts _ _ (.inl rfl), ← Text.splitOn_eq_splitLines]

end Load

/-- However a text is given, the schema that is loaded is the same, and bytes that are no text are
told so.  The pieces of a text between its line feeds may have lost a carriage return. -/
theorem Load.stream_agrees (settings : LoadSettings) (builtins : Catalogue)
    (bytes : List UInt8) :
    match String.fromUTF8? ⟨bytes.toArray⟩ with
    | some text =>
      ∃ loaded, Load.stream settings builtins ⟨bytes, none⟩ = .ok loaded ∧
        loaded.schema = (Load.text settings builtins text).schema ∧
        ∀ pieces : List String,
          List.Forall₂ Text.IsEnded (text.toList.splitOn '\n') (pieces.map String.toList) →
          loaded.schema = (Load.strings settings builtins pieces).schema
    | none => Load.stream settings builtins ⟨bytes, none⟩ = .error ByteStream.noText := by
  cases h : String.fromUTF8? ⟨bytes.toArray⟩ with
  | some text =>
    obtain rfl := ByteStream.eq_utf8_of_fromUTF8? h
    have hlines := ByteStream.lines?_utf8 text.toList
    have htokens := tokens_of_lines? settings hlines
    refine ⟨_, by rw [Load.stream, hlines]; rfl, ?_, fun pieces hpieces => ?_⟩
    · exact schema_lines_congr _ _ (htokens.trans (settings.tokens_lines _).symm)
    · exact schema_lines_congr _ _ (htokens.trans (settings.tokens_congr hpieces))
  | none =>
    have hno : ∀ cs, bytes ≠ Text.utf8 cs := by
      rintro cs rfl
      rw [ByteStream.fromUTF8?_utf8] at h
      cases h
    dsimp only
    rw [Load.stream, ByteStream.lines?_of_not_utf8 hno]
    rfl

end ExpressSchema
