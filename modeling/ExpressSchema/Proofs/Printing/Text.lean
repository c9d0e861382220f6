/-
# The text of an outline

The tokens of an outline are printed one after the other, with a line feed after those that end with
a semicolon and a space after the others.  No comment starts in such a text, so whether comments are
taken out or not its words are the tokens again.
-/
import ExpressSchema.Proofs.Loading.Layout
import ExpressSchema.Proofs.Printing.Leads

namespace ExpressSchema

/-! ## Printed characters -/

/-- The punctuation that is printed. -/
def printedSigns : List Char := ['(', ')', '[', ']', ':', ';', ',', '?', '=']

/-- Whether a character may stand in a printed token. -/
def isPrintedChar (c : Char) : Bool := isPlainChar c || printedSigns.contains c

/-- A printed character does not separate words and starts no comment and no quoted text. -/
lemma of_isPrintedChar {c : Char} (h : isPrintedChar c = true) :
    Text.isBlank c = false ∧ c ≠ '\'' ∧ c ≠ '-' ∧ c ≠ '*' := by
  -- plain characters are in ASCII, where all of them can be tried
  have key : ∀ n < 128, isPrintedChar (Char.ofNat n) = true →
      Text.isBlank (Char.ofNat n) = false ∧ Char.ofNat n ≠ '\'' ∧ Char.ofNat n ≠ '-' ∧
        Char.ofNat n ≠ '*' := by decide
  have hsigns : printedSigns.all (fun c =>
      !Text.isBlank c && c != '\'' && c != '-' && c != '*') = true := by decide
  have hcases : isPlainChar c = true ∨ printedSigns.contains c = true := by
    simpa [isPrintedChar] using h
  rcases hcases with hplain | hsign
  · obtain ⟨n, hn, rfl⟩ := exists_ofNat_of_isPlainChar hplain
    exact key n hn h
  · simpa [and_assoc] using List.all_eq_true.1 hsigns c (List.contains_iff_mem.1 hsign)

namespace Text

/-- A line without quotes, dashes and stars has no comments. -/
lemma isClean_of_lacks {cs : List Char} (h : ∀ c ∈ cs, c ≠ '\'' ∧ c ≠ '-' ∧ c ≠ '*') :
    IsClean cs := by
  have key : (stripCode cs).isRebuilt = false ∧ (stripCode cs).mode = .code := by
    have hmem : ∀ {cs ds : List Char}, cs.dropWhile (fun c => !isMarker c) = ds →
        ∀ c ∈ ds, c ∈ cs := fun hd c hc =>
      (List.dropWhile_sublist _).subset (hd ▸ hc)
    -- each marker that could change the line is one of the characters that it lacks
    fun_induction stripCode cs with
    | case1 cs plain hd => exact ⟨rfl, rfl⟩
    | case2 cs plain rest hd ih => exact absurd rfl (h _ (hmem hd _ List.mem_cons_self)).1
    | case3 cs plain rest hd => exact absurd rfl (h '*' (hmem hd _ (by simp))).2.2
    | case4 cs plain rest hd => exact absurd rfl (h '*' (hmem hd _ (by simp))).2.2
    | case5 cs plain rest hd => exact absurd rfl (h '-' (hmem hd _ (by simp))).2.1
    | case6 cs plain c rest _ _ _ hd ih =>
      exact ih fun d hd' => h d (hmem hd d (List.mem_cons_of_mem c hd'))
  have htext := text_stripCode_of_not_isRebuilt key.1
  unfold IsClean
  cases hstrip : stripCode cs with
  | mk text isRebuilt mode =>
    rw [hstrip] at htext key
    rw [← htext, ← key.1, ← key.2]

end Text

namespace Token

/-- What can be printed as a token and read back as a word. -/
def IsPrinted (t : Token) : Prop := t ≠ [] ∧ ∀ c ∈ t, isPrintedChar c = true

instance (t : Token) : Decidable t.IsPrinted :=
  decidable_of_iff (t ≠ [] ∧ t.all isPrintedChar = true) (by simp [IsPrinted])

/-- The token as it is printed, with the blank character after it. -/
def printed (t : Token) : List Char := t ++ [if Text.endsWith t ';' then '\n' else ' ']

/-- All these tokens can be printed. -/
def ArePrinted (ts : List Token) : Prop := ∀ t ∈ ts, t.IsPrinted

namespace ArePrinted

variable {ts us : List Token}

lemma nil : ArePrinted [] := by simp [ArePrinted]

lemma cons {t : Token} (ht : t.IsPrinted) (hts : ArePrinted ts) : ArePrinted (t :: ts) :=
  List.forall_mem_cons.2 ⟨ht, hts⟩

lemma append (hts : ArePrinted ts) (hus : ArePrinted us) : ArePrinted (ts ++ us) :=
  List.forall_mem_append.2 ⟨hts, hus⟩

lemma flatMap {α : Type} {f : α → List Token} (h : ∀ a, ArePrinted (f a)) (xs : List α) :
    ArePrinted (xs.flatMap f) := fun t ht => by
  obtain ⟨a, -, ha⟩ := List.mem_flatMap.1 ht
  exact h a t ha

end ArePrinted

/-- Printed tokens are read back as words. -/
lemma words_flatMap_printed {ts : List Token} (h : ArePrinted ts) :
    Text.words (ts.flatMap printed) = ts := by
  induction ts with
  | nil => rfl
  | cons t ts ih =>
    obtain ⟨hne, hchars⟩ := h t List.mem_cons_self
    have hblank : Text.isBlank (if Text.endsWith t ';' then '\n' else ' ') = true := by
      split_ifs <;> decide
    have hword : Text.words t = [t] :=
      Text.words_eq_singleton hne fun c hc => (of_isPrintedChar (hchars c hc)).1
    rw [List.flatMap_cons, printed, List.append_assoc, List.singleton_append,
      Text.words_append_cons hblank, hword, ih fun u hu => h u (List.mem_cons_of_mem t hu)]
    rfl

end Token

/-! ## The tokens of an outline -/

lemma isPrintedChar_of_isPlainChar {c : Char} (h : isPlainChar c = true) :
    isPrintedChar c = true := by
  simp [isPrintedChar, h]

namespace Word

variable (x : Word)

lemma isPrinted_chars : Token.IsPrinted x.chars :=
  ⟨x.ne_nil, fun c hc => isPrintedChar_of_isPlainChar (x.isPlainChar_of_mem c hc)⟩

lemma isPrinted_append {signs : Token} (h : signs.all isPrintedChar = true) :
    Token.IsPrinted (x.chars ++ signs) := by
  refine ⟨by simp [x.ne_nil], fun c hc => ?_⟩
  rcases List.mem_append.1 hc with hc | hc
  · exact x.isPrinted_chars.2 c hc
  · exact List.all_eq_true.1 h c hc

lemma isPrinted_ended : Token.IsPrinted x.ended := x.isPrinted_append (by decide)

lemma isPrinted_listed {opening : Char} {closing : Token} (hopens : Opens opening)
    (hcloses : Closes closing) : Token.IsPrinted (x.listed opening closing) := by
  have hclosing : closing.all isPrintedChar = true := List.all_eq_true.2 fun c hc => by
    rcases hcloses c hc with rfl | rfl <;> decide
  refine ⟨by simp [listed], fun c hc => ?_⟩
  rcases List.mem_cons.1 hc with rfl | hc
  · rcases hopens with rfl | rfl <;> decide
  · exact (x.isPrinted_append hclosing).2 c hc

end Word

open Token (ArePrinted)

lemma WordList.arePrinted_tokens (l : WordList) {closing : Token} (h : Word.Closes closing) :
    ArePrinted (l.tokens closing) := by
  have key : ∀ (xs : List Word) (x : Word) (opening : Char), Word.Opens opening →
      ArePrinted (tokensFrom closing opening x xs) := by
    intro xs
    induction xs with
    | nil => exact fun x opening hopens => .cons (x.isPrinted_listed hopens h) .nil
    | cons y ys ih =>
      intro x opening hopens
      exact .cons (x.isPrinted_listed hopens (by simp [Word.Closes])) (ih y ',' (.inr rfl))
  exact key _ _ _ (.inl rfl)

lemma Cardinality.isPrinted_text (c : Cardinality) : Token.IsPrinted c.text.toList := by
  have hdigits : ∀ n : UInt32, ∀ d ∈ Nat.toDigits 10 n.toNat, isPrintedChar d = true := by
    intro n d hd
    have hdigit : d.isDigit = true :=
      Nat.isDigit_of_mem_toDigits (b := 10) (n := n.toNat) (by decide) (by decide) hd
    exact isPrintedChar_of_isPlainChar (by rw [isPlainChar, Char.isAlphanum, hdigit]; simp)
  have hside : ∀ d ∈ sideChars c.max, isPrintedChar d = true := by
    cases c.max with
    | none => exact List.all_eq_true.1 (by decide)
    | some n => exact hdigits n
  rw [c.toList_text]
  refine ⟨by simp, fun d hd => ?_⟩
  simp only [List.mem_append, List.mem_cons, List.not_mem_nil, or_false] at hd
  rcases hd with (rfl | hd | rfl | hd) | rfl
  · decide
  · exact hdigits _ d hd
  · decide
  · exact hside d hd
  · decide

lemma RangeOutline.isPrinted_ended (r : RangeOutline) : Token.IsPrinted r.ended := by
  refine ⟨by simp [ended], fun c hc => ?_⟩
  rcases List.mem_append.1 hc with hc | hc
  · exact isPrintedChar_of_isPlainChar (r.isPlainChar_of_mem_text c hc)
  · rw [List.mem_singleton.1 hc]
    decide

lemma AggregateKind.arePrinted_tokens (kind : AggregateKind) (bounds : Option Cardinality) :
    ArePrinted (kind.tokens bounds) := by
  have hkeyword : Token.IsPrinted kind.keyword.toList := by cases kind <;> decide
  cases bounds with
  | none => exact .cons hkeyword (.cons (by decide) .nil)
  | some c => exact .cons hkeyword (.cons c.isPrinted_text (.cons (by decide) .nil))

lemma TypeOutline.arePrinted_tokens (o : TypeOutline) : ArePrinted o.tokens := by
  have hform : ArePrinted o.form.tokens := by
    cases o.form with
    | plain range => exact .cons range.isPrinted_ended .nil
    | enumeration values =>
      exact .cons (by decide) (.cons (by decide)
        (values.arePrinted_tokens (by simp [Word.Closes])))
    | select members =>
      exact .cons (by decide) (members.arePrinted_tokens (by simp [Word.Closes]))
    | aggregate kind bounds element =>
      exact (kind.arePrinted_tokens bounds).append (.cons element.isPrinted_ended .nil)
  exact .cons (by decide) (.cons o.name.isPrinted_chars (.cons (by decide)
    (hform.append (.cons (by decide) .nil))))

lemma AttributeOutline.arePrinted_tokens (a : AttributeOutline) : ArePrinted a.tokens := by
  have hoptional : ArePrinted (if a.isOptional then ["OPTIONAL".toList] else []) := by
    split_ifs
    · exact .cons (by decide) .nil
    · exact .nil
  have hshape : ArePrinted a.shape.tokens := by
    cases a.shape with
    | scalar => exact .nil
    | single kind bounds => exact kind.arePrinted_tokens bounds
    | listOfList outer inner =>
      exact (AggregateKind.list.arePrinted_tokens outer).append
        (AggregateKind.list.arePrinted_tokens inner)
  exact .cons a.name.isPrinted_chars (.cons (by decide)
    ((hoptional.append hshape).append (.cons a.range.isPrinted_ended .nil)))

lemma InverseOutline.arePrinted_tokens (i : InverseOutline) : ArePrinted i.tokens := by
  have hset : ArePrinted (i.set.elim [] AggregateKind.set.tokens) := by
    cases i.set with
    | none => exact .nil
    | some bounds => exact AggregateKind.set.arePrinted_tokens bounds
  exact .cons i.name.isPrinted_chars (.cons (by decide) (hset.append
    (.cons i.range.isPrinted_chars (.cons (by decide) (.cons i.forward.isPrinted_ended .nil)))))

lemma RuleOutline.arePrinted_tokens (r : RuleOutline) : ArePrinted r.tokens :=
  .cons r.label.isPrinted_chars (.cons (by decide) (.cons r.target.isPrinted_ended .nil))

namespace EntityOutline

variable (o : EntityOutline)

lemma arePrinted_subtypeTokens : ArePrinted o.subtypeTokens := by
  have hsupertype : Token.IsPrinted ("SUPERTYPE".toList ++ o.stop) := by
    unfold stop
    split_ifs <;> decide
  have hclosing : Word.Closes ([')', ')'] ++ o.stop) := o.closes_stop (by simp [Word.Closes])
  unfold subtypeTokens
  cases o.subtypes with
  | none =>
    cases o.isAbstract with
    | false => exact .nil
    | true => exact .cons (by decide) (.cons hsupertype .nil)
  | some l =>
    have hlist := l.arePrinted_tokens hclosing
    cases o.isAbstract with
    | false => exact .cons (by decide) (.cons (by decide) (.cons (by decide) hlist))
    | true =>
      exact .cons (by decide) (.cons (by decide) (.cons (by decide) (.cons (by decide) hlist)))

lemma arePrinted_tokens : ArePrinted o.tokens := by
  have hname : Token.IsPrinted o.nameToken := by
    unfold nameToken stop
    split_ifs
    · exact o.name.isPrinted_chars
    · exact o.name.isPrinted_append (by simp)
    · exact o.name.isPrinted_append (by decide)
  have hsupertype : ArePrinted o.supertypeTokens := by
    unfold supertypeTokens
    cases o.supertype with
    | none => exact .nil
    | some x =>
      exact .cons (by decide) (.cons (by decide)
        (.cons (x.isPrinted_listed (.inl rfl) (by simp [Word.Closes])) .nil))
  have hinverses : ArePrinted o.inverseTokens := by
    unfold inverseTokens
    split_ifs
    · exact .nil
    · exact .cons (by decide) (.flatMap InverseOutline.arePrinted_tokens _)
  have hrules : ArePrinted o.ruleTokens := by
    unfold ruleTokens
    split_ifs
    · exact .nil
    · exact .cons (by decide) (.flatMap RuleOutline.arePrinted_tokens _)
  have hattributes : ArePrinted (o.attributes.flatMap AttributeOutline.tokens) :=
    .flatMap AttributeOutline.arePrinted_tokens _
  exact .cons (by decide) (.cons hname (((((o.arePrinted_subtypeTokens.append hsupertype).append
    hattributes).append hinverses).append hrules).append (.cons (by decide) .nil)))

end EntityOutline

namespace Outline

variable (d : Outline)

lemma arePrinted_tokens : ArePrinted d.tokens := by
  have htypes : ArePrinted (d.types.flatMap TypeOutline.tokens) :=
    .flatMap TypeOutline.arePrinted_tokens _
  have hentities : ArePrinted (d.entities.flatMap EntityOutline.tokens) :=
    .flatMap EntityOutline.arePrinted_tokens _
  unfold tokens
  cases d.name with
  | none => exact ((Token.ArePrinted.nil.append htypes).append hentities).append .nil
  | some x =>
    have hname : ArePrinted ["SCHEMA".toList, x.ended] :=
      .cons (by decide) (.cons x.isPrinted_ended .nil)
    exact ((hname.append htypes).append hentities).append (.cons (by decide) .nil)

/-- An outline as text. -/
def text : String := String.ofList (d.tokens.flatMap Token.printed)

/-- The tokens of a printed outline are read back, whether or not comments are taken out. -/
theorem tokens_lines_text (settings : LoadSettings) :
    settings.tokens (Text.lines d.text.toList) = d.tokens := by
  have hclean : ∀ line ∈ d.text.toList.splitOn '\n', ∀ c ∈ line,
      c ≠ '\'' ∧ c ≠ '-' ∧ c ≠ '*' := by
    intro line hline c hc
    have hmem := (Text.mem_of_mem_splitOn hline hc).1
    rw [text, String.toList_ofList, List.mem_flatMap] at hmem
    obtain ⟨t, ht, hc⟩ := hmem
    rcases List.mem_append.1 hc with hc | hc
    · exact (of_isPrintedChar ((d.arePrinted_tokens t ht).2 c hc)).2
    · rw [List.mem_singleton.1 hc]
      split_ifs <;> decide
  have hprepare : settings.prepare (d.text.toList.splitOn '\n') =
      d.text.toList.splitOn '\n' :=
    settings.prepare_of_isClean fun line hline => Text.isClean_of_lacks (hclean line hline)
  rw [LoadSettings.tokens_lines, LoadSettings.tokens, hprepare, Text.flatMap_words_splitOn, text,
    String.toList_ofList, Token.words_flatMap_printed d.arePrinted_tokens]

end Outline
end ExpressSchema
