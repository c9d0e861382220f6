/-
# Reading JSON text back

What is written is read back: a character from the way it stands in a string, a token from its
text, a value from its tokens, and so a value from its text.
-/
import ExpressSchema.Json.Text

namespace ExpressSchema
namespace Json

/-! ## Tokens -/

/-- The controls below the space are read back from two hexadecimal digits. -/
theorem hexChar?_digitChar : ∀ n < 0x20,
    hexChar? '0' '0' (Nat.digitChar (n / 16)) (Nat.digitChar (n % 16)) = some (Char.ofNat n) := by
  decide

/-- An escape of one letter is read back. -/
theorem readString_letterEscape {e x : Char} (h : letterEscape? e = some x) (cs : List Char) :
    readString ('\\' :: e :: cs) = (readString cs).map fun p => (x :: p.1, p.2) := by
  rw [readString, h]
  · cases readString cs <;> rfl
  · rintro a b c d rest rfl
    cases h

/-- A character is read back from the way it stands in a string. -/
theorem readString_escape_append (x : Char) (cs : List Char) :
    readString (escape x ++ cs) = (readString cs).map fun p => (x :: p.1, p.2) := by
  fun_cases escape x
  case case8 h1 h2 _ _ _ _ _ hx =>
    have h := hexChar?_digitChar x.toNat hx
    rw [Char.ofNat_toNat] at h
    simp only [List.cons_append, List.nil_append, readString, h]
    cases readString cs <;> rfl
  case case9 h1 h2 _ _ _ _ _ hx =>
    rw [List.cons_append, List.nil_append, readString]
    · cases readString cs
      · rfl
      · simp only [if_neg h2]
        rfl
    · exact h1
    · rintro a b c d rest rfl
      cases h2 rfl
    · rintro e rest rfl
      cases h2 rfl
  all_goals exact readString_letterEscape rfl cs

/-- A string is read back up to its closing quote, whatever follows. -/
theorem readString_flatMap_escape (xs rest : List Char) :
    readString (xs.flatMap escape ++ '"' :: rest) = some (xs, rest) := by
  induction xs with
  | nil => rw [List.flatMap_nil, List.nil_append, readString]
  | cons x xs ih =>
    rw [List.flatMap_cons, List.append_assoc, readString_escape_append, ih]
    rfl

/-- A string is read back as a token, whatever follows. -/
theorem lex_str (s : String) (cs : List Char) :
    lex ((Token.str s).text ++ cs) = (lex cs).map (.str s :: ·) := by
  have h := readString_flatMap_escape s.toList cs
  simp only [Token.text, List.cons_append, List.append_assoc, List.nil_append]
  rw [lex]
  split
  · rename_i heq
    rw [h] at heq
    cases heq
    rw [String.ofList_toList]
  · rename_i heq
    rw [h] at heq
    cases heq

/-- A digit starts a number, which goes on as long as digits follow. -/
theorem lex_cons_of_isDigit {c : Char} (h : c.isDigit) (cs : List Char) :
    lex (c :: cs) = (lex (cs.dropWhile Char.isDigit)).map
      (.num (Nat.ofDigitChars 10 (c :: cs.takeWhile Char.isDigit) 0) :: ·) := by
  rw [lex, if_pos h]
  all_goals
    intros
    subst_vars
    revert h
    decide

/-- A number is read back as a token, if no digit follows. -/
theorem lex_num (n : Nat) {cs : List Char} (h : ∀ c ∈ cs.head?, c.isDigit = false) :
    lex ((Token.num n).text ++ cs) = (lex cs).map (.num n :: ·) := by
  have hd : ∀ c ∈ Nat.toDigits 10 n, c.isDigit := fun _ hc =>
    Nat.isDigit_of_mem_toDigits (b := 10) (n := n) (by decide) (by decide) hc
  have hn : Nat.ofDigitChars 10 (Nat.toDigits 10 n) 0 = n :=
    Nat.ofDigitChars_toDigits (by decide) (by decide)
  have hcs : cs.takeWhile Char.isDigit = [] ∧ cs.dropWhile Char.isDigit = cs := by
    cases cs with
    | nil => exact ⟨rfl, rfl⟩
    | cons c cs => simp [h c rfl]
  simp only [Token.text]
  cases hds : Nat.toDigits 10 n with
  | nil => exact absurd hds Nat.toDigits_ne_nil
  | cons d ds =>
    rw [hds] at hd hn
    have hall : ∀ c ∈ ds, c.isDigit := fun c hc => hd c (by simp [hc])
    rw [List.cons_append, lex_cons_of_isDigit (hd d (by simp)), List.takeWhile_append_of_pos hall,
      List.dropWhile_append_of_pos hall, hcs.1, hcs.2, List.append_nil, hn]

/-- A token is read back, whatever follows; behind a number there must not be a digit. -/
theorem lex_text_append (t : Token) {cs : List Char}
    (h : (∃ n, t = .num n) → ∀ c ∈ cs.head?, c.isDigit = false) :
    lex (t.text ++ cs) = (lex cs).map (t :: ·) := by
  cases t with
  | num n => exact lex_num n (h ⟨n, rfl⟩)
  | str s => exact lex_str s cs
  | bool b => cases b <;> simp [Token.text, lex]
  | _ => simp [Token.text, lex]

mutual

/-- The tokens of a value are read back from its text, if no digit follows. -/
theorem lex_tokens (v : Json) (cs : List Char) (h : ∀ c ∈ cs.head?, c.isDigit = false) :
    lex (textOf v.tokens ++ cs) = (lex cs).map (v.tokens ++ ·) := by
  match v with
  | num n => simpa [tokens, textOf] using lex_num n h
  | null | bool _ | str _ | arr [] | obj [] =>
    simp [tokens, textOf, lex_text_append, Function.comp_def]
  | arr (item :: items) =>
    have hi := lex_itemTokens items cs
    have hv := lex_tokens item (textOf (itemTokens items) ++ cs)
      (by cases items <;> simp [itemTokens, textOf, Token.text])
    simp only [textOf] at hi hv
    simp [tokens, textOf, lex_text_append, hi, hv, Function.comp_def]
  | obj ((name, v) :: fields) =>
    have hi := lex_fieldTokens fields cs
    have hv := lex_tokens v (textOf (fieldTokens fields) ++ cs)
      (by cases fields <;> simp [fieldTokens, textOf, Token.text])
    simp only [textOf] at hi hv
    simp [tokens, textOf, lex_text_append, hi, hv, Function.comp_def]

/-- The tokens of the rest of an array are read back from their text. -/
theorem lex_itemTokens (items : List Json) (cs : List Char) :
    lex (textOf (itemTokens items) ++ cs) = (lex cs).map (itemTokens items ++ ·) := by
  match items with
  | [] => simp [itemTokens, textOf, lex_text_append]
  | item :: items =>
    have hi := lex_itemTokens items cs
    have hv := lex_tokens item (textOf (itemTokens items) ++ cs)
      (by cases items <;> simp [itemTokens, textOf, Token.text])
    simp only [textOf] at hi hv
    simp [itemTokens, textOf, lex_text_append, hi, hv, Function.comp_def]

/-- The tokens of the rest of an object are read back from their text. -/
theorem lex_fieldTokens (fields : List (String × Json)) (cs : List Char) :
    lex (textOf (fieldTokens fields) ++ cs) = (lex cs).map (fieldTokens fields ++ ·) := by
  match fields with
  | [] => simp [fieldTokens, textOf, lex_text_append]
  | (name, v) :: fields =>
    have hi := lex_fieldTokens fields cs
    have hv := lex_tokens v (textOf (fieldTokens fields) ++ cs)
      (by cases fields <;> simp [fieldTokens, textOf, Token.text])
    simp only [textOf] at hi hv
    simp [fieldTokens, textOf, lex_text_append, hi, hv, Function.comp_def]

end

/-! ## Values -/

mutual

/-- A value is read back from its tokens, whatever is open and whatever follows. -/
theorem readValue_tokens (v : Json) (stack : List Open) (ts : List Token) :
    readValue stack (v.tokens ++ ts) = readAfter v stack ts := by
  match v with
  | null | bool _ | num _ | str _ | arr [] | obj [] => simp [tokens, readValue]
  | arr (item :: items) =>
    have hv := readValue_tokens item (.items [] :: stack) (itemTokens items ++ ts)
    have hi := readAfter_itemTokens items [] item stack ts
    rw [tokens, List.cons_append, List.append_assoc, readValue, hv, hi]
    · rfl
    · intro us
      match item with
      | null | bool _ | num _ | str _ | arr [] | arr (_ :: _) | obj [] | obj (_ :: _) =>
        simp [tokens]
  | obj ((name, v) :: fields) =>
    have hv := readValue_tokens v (.fields [] name :: stack) (fieldTokens fields ++ ts)
    have hf := readAfter_fieldTokens fields [] name v stack ts
    simp [tokens, readValue, hv, hf]

/-- The rest of an array is read back behind one of its items. -/
theorem readAfter_itemTokens (items done : List Json) (v : Json) (stack : List Open)
    (ts : List Token) :
    readAfter v (.items done :: stack) (itemTokens items ++ ts) =
      readAfter (arr (done.reverse ++ v :: items)) stack ts := by
  match items with
  | [] => simp [itemTokens, readAfter]
  | item :: items =>
    have hv := readValue_tokens item (.items (v :: done) :: stack) (itemTokens items ++ ts)
    have hi := readAfter_itemTokens items (v :: done) item stack ts
    rw [itemTokens, List.cons_append, List.append_assoc, readAfter, hv, hi]
    · simp
    · intro name us
      match item with
      | null | bool _ | num _ | str _ | arr [] | arr (_ :: _) | obj [] | obj (_ :: _) =>
        cases items <;> simp [tokens, itemTokens]

/-- The rest of an object is read back behind one of its fields. -/
theorem readAfter_fieldTokens (fields done : List (String × Json)) (name : String) (v : Json)
    (stack : List Open) (ts : List Token) :
    readAfter v (.fields done name :: stack) (fieldTokens fields ++ ts) =
      readAfter (obj (done.reverse ++ (name, v) :: fields)) stack ts := by
  match fields with
  | [] => simp [fieldTokens, readAfter]
  | (next, w) :: fields =>
    have hv := readValue_tokens w (.fields ((name, v) :: done) next :: stack)
      (fieldTokens fields ++ ts)
    have hf := readAfter_fieldTokens fields ((name, v) :: done) next w stack ts
    simp [fieldTokens, readAfter, hv, hf]

end

/-! ## Text -/

/-- A value is read back from its text. -/
theorem parse?_render (v : Json) : parse? v.render = some v := by
  have ht := lex_tokens v [] (by simp)
  have hv := readValue_tokens v [] []
  simp only [List.append_nil] at ht hv
  simp [parse?, render, ht, lex, hv, readAfter]

end Json
end ExpressSchema
