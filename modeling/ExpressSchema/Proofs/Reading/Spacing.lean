/-
# Spacing in lists of names

A list of names is written with parentheses around it and commas between the names.  Blank
characters may stand between any two of its lexemes or be left out, so the same list may be a single
token, or a token for each lexeme, or anything in between.  What its tokens list is in each case the
names: if the commas of a text are made blank and its other signs are left out (`listText`), then
the names that its tokens list are its words, whatever the text (`flatMap_names_words`).
-/
import ExpressSchema.Proofs.Loading.Layout
import ExpressSchema.Token

namespace ExpressSchema

/-- Where a character stands in a text that is split into tokens, one of the tokens is split. -/
lemma exists_token_of_flatten_eq {tokens : List Token} {before after : List Char} {c : Char}
    (h : tokens.flatten = before ++ c :: after) :
    ∃ front head tail back, tokens = front ++ (head ++ c :: tail) :: back ∧
      front.flatten ++ head = before ∧ tail ++ back.flatten = after := by
  rcases List.flatten_eq_append_iff.1 h with
    ⟨as, bs, rfl, rfl, hbs⟩ | ⟨as, bs, d, cs, ds, rfl, rfl, hd⟩
  · -- the character starts a token, but empty ones may stand before that
    obtain ⟨cs, tail, back, rfl, hcs, rfl⟩ := List.flatten_eq_cons_iff.1 hbs.symm
    refine ⟨as ++ cs, [], tail, back, by rw [List.append_assoc, List.nil_append], ?_, rfl⟩
    rw [List.append_nil, List.flatten_append, List.flatten_eq_nil_iff.2 hcs, List.append_nil]
  · rw [List.cons_append, List.cons.injEq] at hd
    obtain ⟨rfl, rfl⟩ := hd
    exact ⟨as, bs, cs, ds, rfl, rfl, rfl⟩

lemma eq_nil_of_flatten_eq_nil {tokens : List Token} (hne : ∀ t ∈ tokens, t ≠ [])
    (h : tokens.flatten = []) : tokens = [] :=
  List.eq_nil_iff_forall_not_mem.2 fun t ht => hne t ht (List.flatten_eq_nil_iff.1 h t ht)

/-- The last character of a text that is split into tokens is that of the last token. -/
lemma exists_last_of_flatten_eq {tokens : List Token} (hne : ∀ t ∈ tokens, t ≠ [])
    {before : List Char} {c : Char} (h : tokens.flatten = before ++ [c]) :
    ∃ front head, tokens = front ++ [head ++ [c]] ∧ front.flatten ++ head = before := by
  obtain ⟨front, head, tail, back, rfl, hbefore, hafter⟩ := exists_token_of_flatten_eq h
  obtain ⟨rfl, hback⟩ := List.append_eq_nil_iff.1 hafter
  have hend : back = [] := eq_nil_of_flatten_eq_nil
    (fun t ht => hne t (List.mem_append_right _ (List.mem_cons_of_mem _ ht))) hback
  exact ⟨front, head, by rw [hend], hbefore⟩

/-- A name that can stand in a list: it has neither blank characters nor signs in it. -/
structure Name.Listable (name : String) : Prop where
  ne_nil : name.toList ≠ []
  isBlank : ∀ c ∈ name.toList, Text.isBlank c = false
  isPunctuation : ∀ c ∈ name.toList, Name.isPunctuation c = false

instance (name : String) : Decidable (Name.Listable name) :=
  decidable_of_iff (name.toList ≠ [] ∧ name.toList.all (fun c => !Text.isBlank c) = true ∧
    name.toList.all (fun c => !Name.isPunctuation c) = true)
    ⟨fun h => ⟨h.1, by simpa using h.2.1, by simpa using h.2.2⟩,
      fun h => ⟨h.ne_nil, by simpa using h.isBlank, by simpa using h.isPunctuation⟩⟩

namespace Text

/-! ## Words -/

lemma words_word_gap {word gap : List Char} (hne : word ≠ [])
    (hword : ∀ c ∈ word, isBlank c = false) (hgap_ne : gap ≠ [])
    (hgap : ∀ c ∈ gap, isBlank c = true) (rest : List Char) :
    words (word ++ (gap ++ rest)) = word :: words rest := by
  obtain ⟨c, cs, rfl⟩ := List.exists_cons_of_ne_nil hgap_ne
  have hend : ∀ d ∈ (c :: cs ++ rest).head?, isBlank d = true := fun d hd => by
    rw [← Option.some.inj hd]
    exact hgap c List.mem_cons_self
  rw [words_word_append hne hword hend, words_append_of_blank hgap]

/-- A word before a text is a word of its own, or the first word of the text goes on with it. -/
lemma words_append_cases {word : List Char} (hne : word ≠ [])
    (hword : ∀ c ∈ word, isBlank c = false) (rest : List Char) :
    words (word ++ rest) = word :: words rest ∨
      ∃ first others, words rest = first :: others ∧
        words (word ++ rest) = (word ++ first) :: others := by
  obtain ⟨ws, h⟩ := exists_laidOut rest
  cases h with
  | blank hgap =>
    exact .inl (words_word_append hne hword fun c hc => hgap c (List.mem_of_mem_head? hc))
  | @word gap first rest _ hgap hfirst hblank hend _ =>
    cases gap with
    | nil =>
      have hlonger : ∀ c ∈ word ++ first, isBlank c = false :=
        List.forall_mem_append.2 ⟨hword, hblank⟩
      refine .inr ⟨first, words rest, words_word_append hfirst hblank hend, ?_⟩
      rw [List.nil_append, ← List.append_assoc,
        words_word_append (List.append_ne_nil_of_left_ne_nil hne _) hlonger hend]
    | cons c gap =>
      exact .inl (words_word_append hne hword fun d hd => by
        rw [← Option.some.inj hd]
        exact hgap c List.mem_cons_self)

/-! ## Lexemes -/

/-- The lexemes, in this order and with any blank characters or none around them, make up the
text. -/
inductive Spaced : List (List Char) → List Char → Prop
  /-- Nothing but blank characters. -/
  | blank (gap : List Char) (hgap : ∀ c ∈ gap, isBlank c = true) : Spaced [] gap
  /-- Blank characters, a lexeme and the rest, which may follow at once. -/
  | lexeme (gap : List Char) (hgap : ∀ c ∈ gap, isBlank c = true) (lexeme : List Char)
      {lexemes : List (List Char)} {rest : List Char} (hrest : Spaced lexemes rest) :
      Spaced (lexeme :: lexemes) (gap ++ (lexeme ++ rest))

variable {lexemes : List (List Char)} {text : List Char}

/-- Together the lexemes are the characters of the text that are not blank. -/
lemma Spaced.flatten_eq (h : Spaced lexemes text)
    (hlexemes : ∀ l ∈ lexemes, ∀ c ∈ l, isBlank c = false) :
    lexemes.flatten = text.filter fun c => !isBlank c := by
  have hdropped : ∀ {gap : List Char}, (∀ c ∈ gap, isBlank c = true) →
      gap.filter (fun c => !isBlank c) = [] := fun hgap =>
    List.filter_eq_nil_iff.2 fun c hc => by simp [hgap c hc]
  induction h with
  | blank gap hgap => exact (hdropped hgap).symm
  | lexeme gap hgap l _ ih =>
    obtain ⟨hl, hothers⟩ := List.forall_mem_cons.1 hlexemes
    have hkept := List.filter_eq_self.2 fun c hc => congrArg not (hl c hc)
    rw [List.filter_append, List.filter_append, hdropped hgap, hkept, ← ih hothers,
      List.nil_append, List.flatten_cons]

/-- The words of a text are lexemes that make it up. -/
lemma LaidOut.spaced {words : List (List Char)} (h : LaidOut text words) :
    Spaced words text ∧ ∀ w ∈ words, ∀ c ∈ w, isBlank c = false := by
  induction h with
  | blank hgap => exact ⟨.blank _ hgap, fun w hw => absurd hw List.not_mem_nil⟩
  | word hgap _ hword _ _ ih => exact ⟨.lexeme _ hgap _ ih.1, List.forall_mem_cons.2 ⟨hword, ih.2⟩⟩

/-- The words of a text have the same characters as the lexemes that make it up. -/
lemma Spaced.flatten_words (h : Spaced lexemes text)
    (hlexemes : ∀ l ∈ lexemes, ∀ c ∈ l, isBlank c = false) :
    (words text).flatten = lexemes.flatten := by
  obtain ⟨hspaced, hwords⟩ := LaidOut.spaced (laidOut_iff.2 (rfl : words text = words text))
  rw [hspaced.flatten_eq hwords, h.flatten_eq hlexemes]

/-! ## Signs -/

lemma isPunctuation_eq_false_of_isBlank {c : Char} (h : isBlank c = true) :
    Name.isPunctuation c = false := by
  rw [Bool.eq_false_iff]
  intro hp
  simp only [Name.isPunctuation, Bool.or_eq_true, beq_iff_eq] at hp
  rcases hp with ((rfl | rfl) | rfl) | rfl <;> exact absurd h (by decide)

/-- What a character of a list is for its names: a comma is as good as a blank character, and the
other signs are nothing. -/
def listChar (c : Char) : List Char :=
  if c = ',' then [' '] else if Name.isPunctuation c then [] else [c]

lemma bare_singleton (c : Char) :
    Name.bare [c] = if Name.isPunctuation c = true then [] else [c] := by
  cases h : Name.isPunctuation c <;> simp [Name.bare, h]

lemma listChar_of_ne {c : Char} (h : c ≠ ',') : listChar c = Name.bare [c] := by
  rw [listChar, if_neg h, bare_singleton]

/-- A text as far as its names are concerned. -/
def listText (cs : List Char) : List Char := cs.flatMap listChar

lemma listText_append (cs ds : List Char) : listText (cs ++ ds) = listText cs ++ listText ds :=
  List.flatMap_append

lemma listText_eq_self {cs : List Char} (h : ∀ c ∈ cs, Name.isPunctuation c = false) :
    listText cs = cs := by
  have hself : ∀ c ∈ cs, listChar c = [c] := fun c hc => by
    have hcomma : c ≠ ',' := by
      rintro rfl
      exact absurd (h _ hc) (by decide)
    rw [listChar, if_neg hcomma, h c hc, if_neg Bool.false_ne_true]
  rw [listText, List.flatMap_congr hself, List.flatMap_singleton']

lemma listText_of_isBlank {gap : List Char} (h : ∀ c ∈ gap, isBlank c = true) :
    listText gap = gap :=
  listText_eq_self fun c hc => isPunctuation_eq_false_of_isBlank (h c hc)

/-- The parts of a token between its commas, bare. -/
def bareParts (token : Token) : List (List Char) := (token.splitOn ',').map Name.bare

lemma bareParts_ne_nil (token : Token) : bareParts token ≠ [] := by
  simp [bareParts]

lemma bareParts_cons (c : Char) (token : Token) :
    bareParts (c :: token) = if c = ',' then [] :: bareParts token
      else (bareParts token).modifyHead (Name.bare [c] ++ ·) := by
  rw [bareParts, List.splitOn_cons_eq_if_modifyHead, bareParts]
  obtain ⟨part, parts, hparts⟩ := List.exists_cons_of_ne_nil (List.splitOn_ne_nil ',' token)
  by_cases hcomma : c = ','
  · simp [hcomma]
  · have hbare : Name.bare (c :: part) = Name.bare [c] ++ Name.bare part :=
      Name.bare_append [c] part
    simp [hcomma, hparts, hbare]

/-- The parts of the words between their commas are, bare, what the text has for its names between
blank characters. -/
lemma flatMap_bareParts (cs : List Char) :
    (cs.splitOnP isBlank).flatMap bareParts = (listText cs).splitOnP isBlank := by
  induction cs with
  | nil => rfl
  | cons c cs ih =>
    have hlist : listText (c :: cs) = listChar c ++ listText cs := rfl
    obtain ⟨word, others, hwords⟩ := List.exists_cons_of_ne_nil (List.splitOnP_ne_nil isBlank cs)
    obtain ⟨part, parts, hparts⟩ := List.exists_cons_of_ne_nil (bareParts_ne_nil word)
    rw [hwords, List.flatMap_cons, hparts] at ih
    rw [hlist, List.splitOnP_cons_eq_if_modifyHead, hwords]
    by_cases hblank : isBlank c = true
    · have hchar : listChar c = [c] := by
        simpa [listText] using @listText_of_isBlank [c] (by simpa using hblank)
      rw [if_pos hblank, hchar, List.singleton_append, List.splitOnP_cons_eq_if_modifyHead,
        if_pos hblank, ← ih, List.flatMap_cons, List.flatMap_cons, hparts]
      rfl
    · rw [if_neg hblank, List.modifyHead_cons, List.flatMap_cons, bareParts_cons, hparts]
      by_cases hcomma : c = ','
      · have hspace : isBlank ' ' = true := rfl
        rw [if_pos hcomma, listChar, if_pos hcomma, List.singleton_append,
          List.splitOnP_cons_eq_if_modifyHead, if_pos hspace, ← ih]
        rfl
      · rw [if_neg hcomma, listChar_of_ne hcomma, List.modifyHead_cons]
        by_cases hsign : Name.isPunctuation c = true
        · rw [bare_singleton, if_pos hsign, List.nil_append, List.nil_append, ← ih]
        · rw [bare_singleton, if_neg hsign, List.singleton_append, List.singleton_append,
            List.splitOnP_cons_eq_if_modifyHead, if_neg hblank, ← ih]
          rfl

/-- What the tokens of a text list. -/
lemma flatMap_names_words (cs : List Char) :
    (words cs).flatMap Token.names = (words (listText cs)).map String.ofList := by
  have hempty : ∀ parts : List (List Char),
      (parts.filter fun w => !w.isEmpty).flatMap Token.names = parts.flatMap Token.names := by
    intro parts
    induction parts with
    | nil => rfl
    | cons part parts ih =>
      cases part with
      | nil => exact ih
      | cons c part => exact congrArg (Token.names (c :: part) ++ ·) ih
  have hnames : Token.names = fun t =>
      ((bareParts t).filter fun n => !n.isEmpty).map String.ofList := rfl
  rw [words, hempty, words, ← flatMap_bareParts, List.filter_flatMap, List.map_flatMap, hnames]

/-! ## Lists -/

/-- The lexemes of a list of names up to the signs that close it. -/
def listLexemes (names : List String) : List (List Char) :=
  ['('] :: (names.map String.toList).intersperse [',']

variable {names : List String}

lemma mem_listLexemes {l : List Char} (h : l ∈ listLexemes names) :
    l = ['('] ∨ l = [','] ∨ ∃ name ∈ names, l = name.toList := by
  rcases List.mem_cons.1 h with rfl | h
  · exact .inl rfl
  · right
    induction names with
    | nil => exact absurd h List.not_mem_nil
    | cons name names ih =>
      cases names with
      | nil => exact .inr ⟨name, List.mem_cons_self, List.mem_singleton.1 h⟩
      | cons next names =>
        rw [List.map_cons, List.map_cons, List.intersperse_cons_cons] at h
        rcases List.mem_cons.1 h with rfl | h
        · exact .inr ⟨name, List.mem_cons_self, rfl⟩
        · rcases List.mem_cons.1 h with rfl | h
          · exact .inl rfl
          · exact (ih (List.mem_cons_of_mem _ h) h).imp_right fun ⟨n, hn, heq⟩ =>
              ⟨n, List.mem_cons_of_mem _ hn, heq⟩

section
variable (hnames : ∀ name ∈ names, Name.Listable name)
include hnames

lemma isBlank_of_mem_listLexemes {l : List Char} (h : l ∈ listLexemes names) :
    ∀ c ∈ l, isBlank c = false := by
  rcases mem_listLexemes h with rfl | rfl | ⟨name, hname, rfl⟩
  · exact List.forall_mem_singleton.2 rfl
  · exact List.forall_mem_singleton.2 rfl
  · exact (hnames name hname).isBlank

/-- A sign that closes a list does not stand in it before. -/
lemma notMem_flatten_listLexemes {c : Char} (hsign : Name.isPunctuation c = true)
    (hparen : c ≠ '(') (hcomma : c ≠ ',') : c ∉ (listLexemes names).flatten := by
  intro h
  obtain ⟨l, hl, hc⟩ := List.mem_flatten.1 h
  rcases mem_listLexemes hl with rfl | rfl | ⟨name, hname, rfl⟩
  · exact hparen (List.mem_singleton.1 hc)
  · exact hcomma (List.mem_singleton.1 hc)
  · exact absurd ((hnames name hname).isPunctuation c hc) (by rw [hsign]; decide)

end

/-- Whether a lexeme is one of the signs that close a list. -/
def IsClosing (l : List Char) : Prop := l = [')'] ∨ l = [';']

lemma listText_lexeme {gap lexeme rest : List Char} (hgap : ∀ c ∈ gap, isBlank c = true) :
    listText (gap ++ (lexeme ++ rest)) = gap ++ (listText lexeme ++ listText rest) := by
  rw [listText_append, listText_append, listText_of_isBlank hgap]

/-- What closes a list is blank for its names. -/
lemma Spaced.isBlank_listText {closing : List (List Char)} (h : Spaced closing text)
    (hclosing : ∀ l ∈ closing, IsClosing l) : ∀ c ∈ listText text, isBlank c = true := by
  induction h with
  | blank gap hgap => rwa [listText_of_isBlank hgap]
  | lexeme gap hgap l _ ih =>
    obtain ⟨hl, hothers⟩ := List.forall_mem_cons.1 hclosing
    have hnone : listText l = [] := by rcases hl with rfl | rfl <;> rfl
    rw [listText_lexeme hgap, hnone, List.nil_append]
    exact List.forall_mem_append.2 ⟨hgap, ih hothers⟩

/-- The words of a list, as far as names are concerned, are its names. -/
lemma Spaced.words_listText {closing : List (List Char)} (hclosing : ∀ l ∈ closing, IsClosing l)
    (hnames : ∀ name ∈ names, Name.Listable name)
    (h : Spaced ((names.map String.toList).intersperse [','] ++ closing) text) :
    words (listText text) = names.map String.toList := by
  induction names generalizing text with
  | nil =>
    have hblank := h.isBlank_listText hclosing
    simpa using words_append_of_blank hblank []
  | cons name names ih =>
    obtain ⟨hname, hothers⟩ := List.forall_mem_cons.1 hnames
    have hself : listText name.toList = name.toList := listText_eq_self hname.isPunctuation
    cases names with
    | nil =>
      cases h with
      | lexeme gap hgap _ hrest =>
        have hblank := hrest.isBlank_listText hclosing
        have hend := words_append_of_blank hblank []
        rw [listText_lexeme hgap, hself, words_append_of_blank hgap,
          words_word_append hname.ne_nil hname.isBlank fun c hc =>
            hblank c (List.mem_of_mem_head? hc)]
        rw [List.append_nil, words_nil] at hend
        rw [hend]
        rfl
    | cons next names =>
      cases h with
      | lexeme gap hgap _ hrest =>
        cases hrest with
        | @lexeme gap' hgap' _ _ rest hrest =>
          have hcomma : listText [','] = [' '] := rfl
          have hsep : ∀ c ∈ gap' ++ [' '], isBlank c = true :=
            List.forall_mem_append.2 ⟨hgap', List.forall_mem_singleton.2 rfl⟩
          have hsep_ne : gap' ++ [' '] ≠ [] := by simp
          rw [listText_lexeme hgap, hself, words_append_of_blank hgap, listText_lexeme hgap',
            hcomma, ← List.append_assoc gap', words_word_gap hname.ne_nil hname.isBlank hsep_ne hsep,
            ih hothers hrest]
          rfl

/-- The tokens of a list have the characters of the list. -/
lemma Spaced.flatten_words_list {closing : List (List Char)}
    (hclosing : ∀ l ∈ closing, IsClosing l) (hnames : ∀ name ∈ names, Name.Listable name)
    (h : Spaced (listLexemes names ++ closing) text) :
    (words text).flatten = (listLexemes names).flatten ++ closing.flatten := by
  rw [← List.flatten_append]
  refine h.flatten_words (List.forall_mem_append.2 ⟨fun l => isBlank_of_mem_listLexemes hnames, ?_⟩)
  intro l hl
  rcases hclosing l hl with rfl | rfl <;> exact List.forall_mem_singleton.2 rfl

/-- The tokens of a list list its names. -/
lemma Spaced.flatMap_names_words {closing : List (List Char)}
    (hclosing : ∀ l ∈ closing, IsClosing l) (hnames : ∀ name ∈ names, Name.Listable name)
    (h : Spaced (listLexemes names ++ closing) text) :
    (words text).flatMap Token.names = names := by
  have htext : words (listText text) = names.map String.toList := by
    cases h with
    | lexeme gap hgap _ hrest =>
      have hopening : listText ['('] = [] := rfl
      rw [listText_lexeme hgap, hopening, List.nil_append, words_append_of_blank hgap]
      exact hrest.words_listText hclosing hnames
  rw [Text.flatMap_names_words, htext, List.map_map]
  exact (List.map_congr_left fun name _ => String.ofList_toList).trans (List.map_id names)

end Text

end ExpressSchema
