/-
# Words that are printed

A name that is printed is a plain word: it is made of letters, digits and underscores, so the
punctuation that is put around it in the text comes off again, and it is none of the keywords, so
the reader does not take it for one.
-/
import ExpressSchema.Reader
import Mathlib.Data.List.Basic

namespace ExpressSchema

/-- Whether a character may stand in a plain word. -/
def isPlainChar (c : Char) : Bool := c.isAlphanum || c == '_'

lemma toNat_lt_of_isPlainChar {c : Char} (h : isPlainChar c = true) : c.toNat < 128 := by
  have hlt : ∀ {d : Char}, d.toNat < 128 → c.val ≤ d.val → c.toNat < 128 := fun hd hle =>
    Nat.lt_of_le_of_lt (UInt32.le_iff_toNat_le.1 hle) hd
  rcases Bool.or_eq_true_iff.1 h with halphanum | hunderscore
  · rcases Bool.or_eq_true_iff.1 halphanum with halpha | hdigit
    · rcases Bool.or_eq_true_iff.1 halpha with hupper | hlower
      · have hle : 'A'.val ≤ c.val ∧ c.val ≤ 'Z'.val := of_decide_eq_true hupper
        exact hlt (by decide) hle.2
      · exact hlt (d := 'z') (by decide) (of_decide_eq_true (Bool.and_eq_true_iff.1 hlower).2)
    · exact hlt (d := '9') (by decide) (of_decide_eq_true (Bool.and_eq_true_iff.1 hdigit).2)
  · rw [beq_iff_eq.1 hunderscore]
    decide

lemma exists_ofNat_of_isPlainChar {c : Char} (h : isPlainChar c = true) :
    ∃ n < 128, c = Char.ofNat n :=
  ⟨c.toNat, toNat_lt_of_isPlainChar h, (Char.ofNat_toNat c).symm⟩

lemma toUpper_toLower {c : Char} (h : isPlainChar c = true) : c.toLower.toUpper = c.toUpper := by
  have key : ∀ n < 128, (Char.ofNat n).toLower.toUpper = (Char.ofNat n).toUpper := by decide
  obtain ⟨n, hn, rfl⟩ := exists_ofNat_of_isPlainChar h
  exact key n hn

lemma isPlainChar_toLower {c : Char} (h : isPlainChar c = true) : isPlainChar c.toLower = true := by
  have key : ∀ n < 128, isPlainChar (Char.ofNat n) = true →
      isPlainChar (Char.ofNat n).toLower = true := by decide
  obtain ⟨n, hn, rfl⟩ := exists_ofNat_of_isPlainChar h
  exact key n hn h

/-- The words that open or close a declaration or a clause, or stand inside one. -/
def keywords : List String :=
  ["TYPE", "ENTITY", "FUNCTION", "RULE", "SCHEMA", "SUBTYPE", "SUPERTYPE", "ABSTRACT", "INVERSE",
    "UNIQUE", "WHERE", "DERIVE", "OPTIONAL", "ARRAY", "SET", "LIST", "OF", "FOR", "SELECT",
    "ENUMERATION", "END_ENTITY", "END_TYPE"]

/-- A plain word that is no keyword. -/
structure Word where
  /-- The characters. -/
  chars : List Char
  /-- There is at least one character. -/
  ne_nil : chars ≠ []
  /-- Each character is a letter, a digit or an underscore. -/
  isPlainChar_of_mem : ∀ c ∈ chars, isPlainChar c = true
  /-- The word is no keyword in either case of its letters. -/
  is_eq_false : ∀ k ∈ keywords, Token.is chars k = false

/-- A plain word that can be told from a keyword of unknown meaning and from a built-in type: it has
a small letter, and without its digits it names no built-in type. -/
structure Identifier extends Word where
  /-- There is a small letter. -/
  hasSmall : chars.any Char.isLower = true
  /-- The word names no built-in type. -/
  ofText?_eq_none : Builtin.ofText? chars = none

namespace Token

lemma is_eq_false_of_mem {t : Token} {k : String} {c : Char} (hc : c ∈ t)
    (hk : c.toLower ∉ k.toList.map Char.toLower) : Token.is t k = false := by
  refine Bool.eq_false_iff.2 fun h => hk ?_
  rw [← Text.sameLetters_iff.1 h]
  exact List.mem_map_of_mem hc

lemma beforeSemicolon_append {t : Token} (h : ';' ∉ t) : beforeSemicolon (t ++ [';']) = t := by
  have hne : ∀ c ∈ t, (c != ';') = true := fun c hc => by
    have : c ≠ ';' := fun heq => h (heq ▸ hc)
    simp [this]
  rw [beforeSemicolon, List.takeWhile_append_of_pos hne]
  simp

/-- With a semicolon after it, a token is no keyword without one. -/
lemma is_append_eq_false (t : Token) {k : String} (hk : ';' ∉ k.toList.map Char.toLower) :
    Token.is (t ++ [';']) k = false :=
  is_eq_false_of_mem (c := ';') (by simp) hk

lemma is_append_semicolon (t : Token) {k k' : String} (h : k'.toList = k.toList ++ [';']) :
    Token.is (t ++ [';']) k' = Token.is t k := by
  simp [Token.is, Text.sameLetters, h]

end Token

namespace Word

variable (x y : Word)

/-- The word as text. -/
def text : String := String.ofList x.chars

/-- The canonical form of the word. -/
def key : String := Name.canonical x.text

@[simp] lemma toList_text : x.text.toList = x.chars := by simp [text]

lemma notMem_chars {c : Char} (h : isPlainChar c = false) : c ∉ x.chars := fun hc => by
  simp [x.isPlainChar_of_mem c hc] at h

@[simp] lemma bare_chars : Name.bare x.chars = x.chars := by
  refine List.filter_eq_self.2 fun c hc => ?_
  cases hp : Name.isPunctuation c with
  | false => rfl
  | true =>
    simp only [Name.isPunctuation, Bool.or_eq_true, beq_iff_eq] at hp
    rcases hp with ((rfl | rfl) | rfl) | rfl <;> exact absurd hc (x.notMem_chars (by decide))

/-- The canonical form of a plain word has its letters `a` to `z` in capitals. -/
lemma key_eq : x.key = String.ofList (x.chars.map Char.toUpper) := by
  have hcapital : ∀ c ∈ x.chars, Text.capital c = [c.toUpper] := fun c hc => by
    rw [Text.capital, if_pos (toNat_lt_of_isPlainChar (x.isPlainChar_of_mem c hc))]
  rw [key, Name.canonical, toList_text, bare_chars, Text.capitals, List.flatMap_congr hcapital,
    List.map_eq_flatMap]

lemma key_eq_of_sameLetters {x y : Word} (h : Text.sameLetters x.chars y.chars = true) :
    x.key = y.key := by
  have hupper : ∀ z : Word, (z.chars.map Char.toLower).map Char.toUpper =
      z.chars.map Char.toUpper := fun z => by
    rw [List.map_map]
    exact List.map_congr_left fun c hc => toUpper_toLower (z.isPlainChar_of_mem c hc)
  rw [key_eq, key_eq, ← hupper x, ← hupper y, Text.sameLetters_iff.1 h]

/-! ## The word alone -/

/-- A word does not end with a character that may not stand in it. -/
lemma endsWith_chars {c : Char} (h : isPlainChar c = false) : Text.endsWith x.chars c = false :=
  Text.endsWith_eq_false_of_notMem (x.notMem_chars h)

lemma dropEnd?_chars {c : Char} (h : isPlainChar c = false) : Text.dropEnd? x.chars c = none := by
  simp [Text.dropEnd?, x.endsWith_chars h]

lemma dropEnd_chars {c : Char} (h : isPlainChar c = false) : Text.dropEnd x.chars c = x.chars :=
  Text.dropEnd_of_not_endsWith (x.endsWith_chars h)

lemma head?_chars_ne {c : Char} (h : isPlainChar c = false) : x.chars.head? ≠ some c :=
  fun hhead => x.notMem_chars h (List.mem_of_head? hhead)

/-- A word is no keyword that has a semicolon. -/
lemma is_chars_entityEnd : Token.is x.chars State.entityEnd = false := by
  refine Bool.eq_false_iff.2 fun h => ?_
  have hmem : ';' ∈ x.chars.map Char.toLower := by
    rw [Text.sameLetters_iff.1 h]
    decide
  obtain ⟨c, hc, hlow⟩ := List.mem_map.1 hmem
  have hplain := isPlainChar_toLower (x.isPlainChar_of_mem c hc)
  rw [hlow] at hplain
  exact absurd hplain (by decide)

/-! ## The word with a semicolon after it -/

/-- The word with a semicolon after it. -/
def ended : Token := x.chars ++ [';']

lemma beforeSemicolon_ended : Token.beforeSemicolon x.ended = x.chars :=
  Token.beforeSemicolon_append (x.notMem_chars (by decide))

lemma dropEnd_ended : Text.dropEnd x.ended ';' = x.chars := Text.dropEnd_append _ _

lemma contains_ended : x.ended.contains ';' = true := by simp [ended]

lemma contains_ended_eq_false {c : Char} (h : isPlainChar c = false) (hc : c ≠ ';') :
    x.ended.contains c = false := by
  simp [ended, x.notMem_chars h, hc]

lemma is_ended_eq_false {k : String} (hk : ';' ∉ k.toList.map Char.toLower) :
    Token.is x.ended k = false :=
  Token.is_append_eq_false _ hk

lemma is_ended_entityEnd : Token.is x.ended State.entityEnd = false := by
  have h : State.entityEnd.toList = "END_ENTITY".toList ++ [';'] := by decide
  rw [ended, Token.is_append_semicolon _ h]
  exact x.is_eq_false _ (by decide)

/-! ## The word in a list -/

/-- The word in a list: with the sign before it and, if it is the last one, the signs after it. -/
def listed (opening : Char) (closing : Token) : Token := opening :: (x.chars ++ closing)

/-- Whether a sign may stand before a word in a list. -/
def Opens (opening : Char) : Prop := opening = '(' ∨ opening = ','

/-- Whether signs may stand after the last word of a list. -/
def Closes (closing : Token) : Prop := ∀ c ∈ closing, c = ')' ∨ c = ';'

variable {opening : Char} {closing : Token}

lemma is_listed_eq_false (hopens : Opens opening) {k : String}
    (hk : '(' ∉ k.toList.map Char.toLower ∧ ',' ∉ k.toList.map Char.toLower) :
    Token.is (x.listed opening closing) k = false := by
  refine Token.is_eq_false_of_mem (c := opening) List.mem_cons_self ?_
  rcases hopens with rfl | rfl
  · exact hk.1
  · exact hk.2

lemma contains_listed (hopens : Opens opening) {c : Char} (hc : c = ')' ∨ c = ';') :
    (x.listed opening closing).contains c = closing.contains c := by
  have hchars : c ∉ x.chars := x.notMem_chars (by rcases hc with rfl | rfl <;> decide)
  have hne : c ≠ opening := by
    rcases hc with rfl | rfl <;> rcases hopens with rfl | rfl <;> decide
  simp [listed, hchars, hne]

lemma endsWith_listed (hopens : Opens opening) :
    Text.endsWith (x.listed opening closing) ';' = Text.endsWith closing ';' := by
  have hlast : (opening :: x.chars).getLast? ≠ some ';' := fun hlast => by
    rcases List.mem_cons.1 (List.mem_of_getLast? hlast) with h | h
    · rcases hopens with rfl | rfl <;> cases h
    · exact x.notMem_chars (by decide) h
  cases closing with
  | nil => simpa [Text.endsWith, listed] using hlast
  | cons c cs =>
    have hne : (c :: cs).getLast? ≠ none := by simp
    rw [Text.endsWith, Text.endsWith, listed, ← List.cons_append, List.getLast?_append,
      Option.or_of_isSome (Option.isSome_iff_ne_none.2 hne)]

/-- The list is read word by word. -/
lemma names_listed (hopens : Opens opening) (hcloses : Closes closing) :
    Token.names (x.listed opening closing) = [x.text] := by
  have hclosing : Name.bare closing = [] := by
    refine List.filter_eq_nil_iff.2 fun c hc => ?_
    rcases hcloses c hc with rfl | rfl <;> decide
  have hbare : Name.bare (x.chars ++ closing) = x.chars := by
    rw [Name.bare_append, bare_chars, hclosing, List.append_nil]
  have hcomma : ',' ∉ x.chars ++ closing := fun hmem => by
    rcases List.mem_append.1 hmem with hmem | hmem
    · exact x.notMem_chars (by decide) hmem
    · rcases hcloses _ hmem with h | h <;> cases h
  have hne : x.chars.isEmpty = false := by simpa using x.ne_nil
  have hpart : (x.chars ++ closing).splitOn ',' = [x.chars ++ closing] :=
    List.splitOn_eq_singleton hcomma
  rcases hopens with rfl | rfl
  · have hsplit : (x.listed '(' closing).splitOn ',' = [x.listed '(' closing] :=
      List.splitOn_eq_singleton (by simpa [listed] using hcomma)
    have hopening : Name.bare (x.listed '(' closing) = x.chars := hbare
    simp [Token.names, hsplit, hopening, hne, text]
  · have hsplit : (x.listed ',' closing).splitOn ',' = [[], x.chars ++ closing] := by
      rw [List.splitOn_eq_splitOnP] at hpart ⊢
      rw [listed, List.splitOnP_cons_eq_if_modifyHead, if_pos (by decide), hpart]
    simp [Token.names, hsplit, hbare, hne, text]

end Word
end ExpressSchema
