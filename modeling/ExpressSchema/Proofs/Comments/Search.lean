/-
# Comments, searched byte by byte

A line is searched as bytes in UTF-8, with three cursors: where the search stands, from where on it
has not copied yet, and the end of what it has copied.  Here is this search with every look at a
byte and every slice checked, so that it fails where a cursor lies outside the line or inside a
character.  It never does (`searchLine_utf8`): the markers are characters of ASCII, none of their
bytes belongs to another character, and the search comes to what `stripLine` makes of the line.
-/
import ExpressSchema.Proofs.Comments.Reading
import ExpressSchema.Proofs.Loading.Utf8

namespace ExpressSchema
namespace Text

/-! ## Bytes and slices -/

/-- A character of ASCII as a byte. -/
def ascii (c : Char) : UInt8 := UInt8.ofNat c.toNat

/-- Whether a place in a text does not lie inside a character: it is one of the ends, or the byte
there starts a character. -/
def isBoundary (bytes : List UInt8) (i : Nat) : Bool :=
  i = 0 || i = bytes.length || bytes[i]?.any fun b => b.toNat < 128 || 192 ≤ b.toNat

/-- The bytes from a place on, which must not lie beyond the end. -/
def bytesFrom? (bytes : List UInt8) (i : Nat) : Option (List UInt8) :=
  if i ≤ bytes.length then some (bytes.drop i) else none

/-- The text between two places, neither of which may lie inside a character. -/
def slice? (bytes : List UInt8) (i j : Nat) : Option (List UInt8) :=
  if i ≤ j ∧ isBoundary bytes i = true ∧ isBoundary bytes j = true then
    some ((bytes.take j).drop i)
  else none

/-- The place of the first end of a block comment. -/
def findClose? : List UInt8 → Option Nat
  | [] => none
  | b :: bs =>
    if b = ascii '*' ∧ bs.head? = some (ascii ')') then some 0 else (findClose? bs).map (· + 1)

/-- Whether a byte might start a comment or a quoted text. -/
def isMarkerByte (b : UInt8) : Bool := b = ascii '(' || b = ascii '-' || b = ascii '\''

/-! ## The search -/

/-- A line of bytes without its comments. -/
structure StrippedBytes where
  /-- What is left of the line. -/
  text : List UInt8
  /-- Whether anything was taken out. -/
  isRebuilt : Bool
  /-- What the end of the line is part of. -/
  mode : CommentMode
deriving DecidableEq, Repr

/-- A stripped line in UTF-8. -/
def StrippedLine.utf8 (l : StrippedLine) : StrippedBytes := ⟨Text.utf8 l.text, l.isRebuilt, l.mode⟩

/-- How far the search has come in a line. -/
structure Search where
  /-- What the search is in. -/
  mode : CommentMode
  /-- Whether a comment has been found. -/
  isRebuilt : Bool := false
  /-- What has been copied. -/
  kept : List UInt8 := []
  /-- From where on nothing has been copied yet. -/
  start : Nat := 0
  /-- Where the search stands. -/
  pos : Nat := 0
deriving DecidableEq, Repr

/-- What comes of one step of the search. -/
inductive Move where
  /-- The search goes on. -/
  | goOn (s : Search)
  /-- Nothing more is to be found. -/
  | stop (s : Search)
deriving DecidableEq, Repr

namespace Search

variable (bytes : List UInt8)

/-- The search behind the end of a block comment that has been found, or at the end of the line. -/
def afterClose (s : Search) : Option Nat → Search
  | some i => ⟨.code, true, s.kept ++ [ascii ' '], s.pos + i + 2, s.pos + i + 2⟩
  | none => { s with isRebuilt := true, start := bytes.length, pos := bytes.length }

/-- The search behind the quote that closes the one at place `i`, or at the end of the line. -/
def afterQuote (s : Search) (i : Nat) : Option Nat → Search
  | some close => { s with pos := i + close + 2 }
  | none => { s with pos := bytes.length }

/-- Look for the end of a block comment. -/
def closeBlock (s : Search) : Option Move :=
  (bytesFrom? bytes s.pos).map fun rest => .goOn (s.afterClose bytes (findClose? rest))

/-- Look at the marker at place `i` and at the byte after it. -/
def atMarker (s : Search) (i : Nat) : Option Move := do
  let marker ← bytes[i]?
  if marker = ascii '\'' then
    (bytesFrom? bytes (i + 1)).map fun rest =>
      .goOn (s.afterQuote bytes i (rest.findIdx? (· = ascii '\'')))
  else if marker = ascii '(' ∧ bytes[i + 1]? = some (ascii '*') then
    (slice? bytes s.start i).map fun front =>
      .goOn ⟨.block, true, s.kept ++ front, i + 2, i + 2⟩
  else if marker = ascii '-' ∧ bytes[i + 1]? = some (ascii '-') then
    (slice? bytes s.start i).map fun front =>
      .stop { s with isRebuilt := true, kept := s.kept ++ front, start := bytes.length }
  else some (.goOn { s with pos := i + 1 })

/-- Look for the next marker. -/
def findMarker (s : Search) : Option Move := do
  let rest ← bytesFrom? bytes s.pos
  match rest.findIdx? isMarkerByte with
  | some offset => s.atMarker bytes (s.pos + offset)
  | none => some (.stop s)

/-- One step of the search. -/
def step (s : Search) : Option Move :=
  match s.mode with
  | .block => s.closeBlock bytes
  | .code => s.findMarker bytes

variable {bytes}

lemma lt_pos_of_atMarker {s t : Search} {i : Nat} (hi : s.pos ≤ i) (hlt : s.pos < bytes.length)
    (h : s.atMarker bytes i = some (.goOn t)) : s.pos < t.pos := by
  unfold atMarker at h
  obtain ⟨marker, -, h⟩ := Option.bind_eq_some_iff.1 h
  split_ifs at h
  · obtain ⟨rest, -, heq⟩ := Option.map_eq_some_iff.1 h
    obtain rfl := Move.goOn.inj heq
    cases rest.findIdx? (· = ascii '\'') with
    | some close => show s.pos < i + close + 2; omega
    | none => exact hlt
  · obtain ⟨front, -, heq⟩ := Option.map_eq_some_iff.1 h
    obtain rfl := Move.goOn.inj heq
    show s.pos < i + 2
    omega
  · obtain ⟨front, -, heq⟩ := Option.map_eq_some_iff.1 h
    cases heq
  · obtain rfl := Move.goOn.inj (Option.some.inj h)
    show s.pos < i + 1
    omega

/-- The search moves towards the end of the line. -/
lemma lt_pos_of_step {s t : Search} (hlt : s.pos < bytes.length)
    (h : s.step bytes = some (.goOn t)) : s.pos < t.pos := by
  unfold step at h
  cases hmode : s.mode with
  | block =>
    rw [hmode] at h
    obtain ⟨rest, -, heq⟩ := Option.map_eq_some_iff.1 h
    obtain rfl := Move.goOn.inj heq
    cases findClose? rest with
    | some i => show s.pos < s.pos + i + 2; omega
    | none => exact hlt
  | code =>
    rw [hmode] at h
    obtain ⟨rest, -, h⟩ := Option.bind_eq_some_iff.1 h
    split at h
    · exact lt_pos_of_atMarker (Nat.le_add_right _ _) hlt h
    · cases h

variable (bytes)

/-- Search on to the end of the line. -/
def run (s : Search) : Option Search :=
  if _inside : s.pos < bytes.length then
    match _step : s.step bytes with
    | none => none
    | some (.stop t) => some t
    | some (.goOn t) => t.run
  else some s
termination_by bytes.length - s.pos
decreasing_by
  have := lt_pos_of_step _inside _step
  omega

/-- What is left of the line once the search is over: the line itself, if no comment has been found,
or else what has been copied and what has not been copied yet. -/
def finish (s : Search) : Option StrippedBytes :=
  if s.isRebuilt then
    if s.start < bytes.length then do
      let rest ← slice? bytes s.start bytes.length
      some ⟨s.kept ++ rest, true, s.mode⟩
    else some ⟨s.kept, true, s.mode⟩
  else some ⟨bytes, false, s.mode⟩

end Search

/-- Strip a line of bytes that starts in the given mode. -/
def searchLine (mode : CommentMode) (bytes : List UInt8) : Option StrippedBytes := do
  let s ← Search.run bytes { mode := mode }
  s.finish bytes

/-! ## Bytes of a text -/

lemma utf8_cons_ascii {c : Char} (hc : c.toNat < 128) (cs : List Char) :
    utf8 (c :: cs) = ascii c :: utf8 cs := by
  have hle : c.val.toNat ≤ 127 := Nat.le_of_lt_succ hc
  rw [utf8_cons, String.utf8EncodeChar, if_pos hle]
  rfl

lemma mem_of_ascii_mem {c : Char} (hc : c.toNat < 128) {cs : List Char} (h : ascii c ∈ utf8 cs) :
    c ∈ cs := by
  obtain ⟨d, hd, hmem⟩ := List.mem_flatMap.1 h
  rwa [← utf8EncodeChar_of_mem hc hmem]

/-- The first byte of a character is not one of those that only go on with a character. -/
lemma head_utf8EncodeChar (c : Char) :
    ∃ b bs, String.utf8EncodeChar c = b :: bs ∧ (b.toNat < 128 ∨ 192 ≤ b.toNat) := by
  by_cases h : c.val.toNat ≤ 127
  · refine ⟨_, [], by rw [String.utf8EncodeChar, if_pos h], .inl ?_⟩
    rw [UInt8.toNat_ofNat']
    omega
  · simp only [String.utf8EncodeChar, h, if_false]
    split_ifs
    all_goals
      refine ⟨_, _, rfl, .inr ?_⟩
      rw [UInt8.toNat_ofNat']
      omega

/-- The first byte of a text is that of a character of ASCII only if the text starts with it. -/
lemma head?_utf8 {c : Char} (hc : c.toNat < 128) (cs : List Char) :
    (utf8 cs).head? = some (ascii c) ↔ cs.head? = some c := by
  cases cs with
  | nil => simp
  | cons d cs =>
    constructor
    · intro h
      obtain ⟨b, bs, hb, -⟩ := head_utf8EncodeChar d
      rw [utf8_cons, hb, List.cons_append, List.head?_cons, Option.some_inj] at h
      have hmem : ascii c ∈ String.utf8EncodeChar d := by
        rw [hb, h]
        exact List.mem_cons_self
      rw [List.head?_cons, utf8EncodeChar_of_mem hc hmem]
    · intro h
      obtain rfl : d = c := Option.some.inj h
      rw [utf8_cons_ascii hc, List.head?_cons]

section Places

variable (front mid rest : List Char)

lemma getElem?_utf8 (k : Nat) :
    (utf8 (front ++ rest))[(utf8 front).length + k]? = (utf8 rest)[k]? := by
  rw [utf8_append, List.getElem?_append_right (Nat.le_add_right _ _), Nat.add_sub_cancel_left]

/-- Between two characters no character is split. -/
lemma isBoundary_utf8 : isBoundary (utf8 (front ++ rest)) (utf8 front).length = true := by
  have hat := getElem?_utf8 front rest 0
  rw [Nat.add_zero] at hat
  unfold isBoundary
  rw [hat]
  cases rest with
  | nil => simp
  | cons c rest =>
    obtain ⟨b, bs, hb, hfirst⟩ := head_utf8EncodeChar c
    simp [hb, hfirst]

lemma bytesFrom?_utf8 :
    bytesFrom? (utf8 (front ++ rest)) (utf8 front).length = some (utf8 rest) := by
  have hle : (utf8 front).length ≤ (utf8 (front ++ rest)).length := by
    rw [utf8_append, List.length_append]
    omega
  rw [bytesFrom?, if_pos hle, utf8_append, List.drop_left]

lemma slice?_utf8 :
    slice? (utf8 (front ++ mid ++ rest)) (utf8 front).length (utf8 (front ++ mid)).length =
      some (utf8 mid) := by
  have hle : (utf8 front).length ≤ (utf8 (front ++ mid)).length := by
    rw [utf8_append, List.length_append]
    omega
  have hfront := isBoundary_utf8 front (mid ++ rest)
  rw [← List.append_assoc] at hfront
  rw [slice?, if_pos ⟨hle, hfront, isBoundary_utf8 (front ++ mid) rest⟩, utf8_append (front ++ mid),
    List.take_left, utf8_append, List.drop_left]

end Places

/-! ## What is found in the bytes of a text -/

lemma findIdx?_append_cons {α : Type} {p : α → Bool} {xs : List α} (hxs : ∀ x ∈ xs, p x = false)
    {y : α} (hy : p y = true) (ys : List α) : (xs ++ y :: ys).findIdx? p = some xs.length := by
  rw [List.findIdx?_append, List.findIdx?_eq_none_iff.2 hxs, List.findIdx?_cons, hy]
  simp

lemma isMarkerByte_ascii {c : Char} (hc : isMarker c = true) :
    c.toNat < 128 ∧ isMarkerByte (ascii c) = true := by
  simp only [isMarker, Bool.or_eq_true, beq_iff_eq] at hc
  rcases hc with (rfl | rfl) | rfl <;> decide

/-- Text without markers has no bytes of markers. -/
lemma isMarkerByte_of_mem_utf8 {cs : List Char} (hcs : ∀ c ∈ cs, isMarker c = false) {b : UInt8}
    (hb : b ∈ utf8 cs) : isMarkerByte b = false := by
  have hnot : ∀ c : Char, c.toNat < 128 → isMarker c = true → b ≠ ascii c := by
    rintro c hc hmarker rfl
    exact Bool.false_ne_true ((hcs c (mem_of_ascii_mem hc hb)).symm.trans hmarker)
  simp [isMarkerByte, hnot '(' (by decide) rfl, hnot '-' (by decide) rfl,
    hnot '\'' (by decide) rfl]

/-- The closing quote is found in the bytes where it stands in the text. -/
lemma findIdx?_quote (cs : List Char) :
    ((utf8 cs).findIdx? (· = ascii '\'') = none ∧ splitQuote cs = (cs, [])) ∨
      ∃ inside rest, splitQuote cs = (inside ++ ['\''], rest) ∧
        (utf8 cs).findIdx? (· = ascii '\'') = some (utf8 inside).length := by
  have hfree : ∀ ds : List Char, (∀ c ∈ ds, (c != '\'') = true) →
      ∀ b ∈ utf8 ds, decide (b = ascii '\'') = false := by
    intro ds hds b hb
    refine decide_eq_false fun heq => ?_
    rw [heq] at hb
    exact bne_iff_ne.1 (hds _ (mem_of_ascii_mem (by decide) hb)) rfl
  have hinside : ∀ c ∈ cs.takeWhile (· != '\''), (c != '\'') = true :=
    fun c hc => List.mem_takeWhile_imp (p := (· != '\'')) hc
  unfold splitQuote
  cases h : cs.dropWhile (· != '\'') with
  | nil =>
    have hcs := List.dropWhile_eq_nil_iff.1 h
    refine .inl ⟨List.findIdx?_eq_none_iff.2 (hfree cs hcs), ?_⟩
    rw [List.takeWhile_eq_self_iff.2 hcs]
  | cons quote rest =>
    have hquote : quote = '\'' := by
      have hhead := List.head_dropWhile_not (· != '\'') (by rw [h]; exact List.cons_ne_nil _ _)
      simpa [h] using hhead
    subst hquote
    refine .inr ⟨cs.takeWhile (· != '\''), rest, rfl, ?_⟩
    conv_lhs =>
      rw [← List.takeWhile_append_dropWhile (p := (· != '\'')) (l := cs), h, utf8_append,
        utf8_cons_ascii (by decide)]
    exact findIdx?_append_cons (hfree _ hinside) (by decide) _

lemma findClose?_append {xs : List UInt8} (h : ascii '*' ∉ xs) (ys : List UInt8) :
    findClose? (xs ++ ys) = (findClose? ys).map (· + xs.length) := by
  induction xs with
  | nil => simp
  | cons x xs ih =>
    obtain ⟨hx, hxs⟩ := List.ne_and_not_mem_of_not_mem_cons h
    rw [List.cons_append, findClose?, if_neg fun hclose => hx hclose.1.symm, ih hxs, Option.map_map]
    rfl

/-- The end of a block comment is found in the bytes where it stands in the text. -/
lemma findClose?_utf8 (cs : List Char) :
    (afterBlock? cs = none ∧ findClose? (utf8 cs) = none) ∨
      ∃ inside rest, afterBlock? cs = some rest ∧ cs = inside ++ '*' :: ')' :: rest ∧
        findClose? (utf8 cs) = some (utf8 inside).length := by
  fun_induction afterBlock? cs with
  | case1 => exact .inl ⟨rfl, rfl⟩
  | case2 rest =>
    refine .inr ⟨[], rest, rfl, rfl, ?_⟩
    rw [utf8_cons_ascii (by decide), utf8_cons_ascii (by decide), findClose?,
      if_pos ⟨rfl, rfl⟩]
    rfl
  | case3 c cs hclose ih =>
    have hstep : findClose? (utf8 (c :: cs)) =
        (findClose? (utf8 cs)).map (· + (String.utf8EncodeChar c).length) := by
      by_cases hc : c = '*'
      · -- the star does not end the comment, since no parenthesis comes next
        subst hc
        have hnext : (utf8 cs).head? ≠ some (ascii ')') := by
          intro hhead
          obtain ⟨rest, rfl⟩ := List.head?_eq_some_iff.1 ((head?_utf8 (by decide) cs).1 hhead)
          exact hclose rest rfl rfl
        rw [utf8_cons_ascii (by decide), findClose?, if_neg fun h => hnext h.2]
        rfl
      · rw [utf8_cons]
        exact findClose?_append (fun hmem => hc (utf8EncodeChar_of_mem (by decide) hmem)) _
    rcases ih with ⟨hnone, hfind⟩ | ⟨inside, rest, hsome, rfl, hfind⟩
    · exact .inl ⟨hnone, by rw [hstep, hfind]; rfl⟩
    · refine .inr ⟨c :: inside, rest, hsome, rfl, ?_⟩
      rw [hstep, hfind, Option.map_some, utf8_cons, List.length_append, Nat.add_comm]

/-! ## The search comes to its end -/

namespace Search

/-- The search stands in a line between `front` with what is `pending`, and `rest`.  All that is to
be copied of `front` has been copied, and what is pending will be; inside a block comment nothing
is pending. -/
structure At (s : Search) (front pending rest : List Char) : Prop where
  start : s.start = (utf8 front).length
  pos : s.pos = (utf8 (front ++ pending)).length
  fresh : s.isRebuilt = false → front = [] ∧ s.kept = []
  block : s.mode = .block → pending = []

/-- What is left of the whole line if this is left of what the search has not gone over. -/
def outcome (s : Search) (pending : List Char) (l : StrippedLine) : StrippedBytes :=
  ⟨s.kept ++ utf8 (pending ++ l.text), s.isRebuilt || l.isRebuilt, l.mode⟩

/-- Wherever the search stands before `rest`, it comes to this of it. -/
def Leaves (mode : CommentMode) (rest : List Char) (l : StrippedLine) : Prop :=
  ∀ (s : Search) (front pending : List Char), s.mode = mode → s.At front pending rest →
    ((s.run (utf8 (front ++ pending ++ rest))).bind fun t =>
      t.finish (utf8 (front ++ pending ++ rest))) = some (s.outcome pending l)

lemma run_of_goOn {line : List UInt8} {s t : Search} (hlt : s.pos < line.length)
    (h : s.step line = some (.goOn t)) : s.run line = t.run line := by
  rw [run, dif_pos hlt]
  split <;> simp_all

lemma run_of_stop {line : List UInt8} {s t : Search} (hlt : s.pos < line.length)
    (h : s.step line = some (.stop t)) : s.run line = some t := by
  rw [run, dif_pos hlt]
  split <;> simp_all

lemma run_of_le {line : List UInt8} {s : Search} (h : line.length ≤ s.pos) :
    s.run line = some s := by
  rw [run, dif_neg (Nat.not_lt.2 h)]

variable {s : Search} {front pending rest : List Char}

lemma At.lt_length (h : s.At front pending rest) (hrest : rest ≠ []) :
    s.pos < (utf8 (front ++ pending ++ rest)).length := by
  obtain ⟨c, cs, rfl⟩ := List.exists_cons_of_ne_nil hrest
  obtain ⟨b, bs, hb, -⟩ := head_utf8EncodeChar c
  rw [h.pos, utf8_append (front ++ pending), List.length_append, utf8_cons, hb, List.cons_append,
    List.length_cons]
  omega

/-- What is pending is copied in the end. -/
lemma finish_eq (hstart : s.start = (utf8 front).length)
    (hfresh : s.isRebuilt = false → front = [] ∧ s.kept = []) :
    s.finish (utf8 (front ++ pending)) =
      some ⟨s.kept ++ utf8 pending, s.isRebuilt, s.mode⟩ := by
  unfold finish
  cases hrebuilt : s.isRebuilt with
  | false =>
    obtain ⟨rfl, hkept⟩ := hfresh hrebuilt
    rw [hkept]
    rfl
  | true =>
    have hslice := slice?_utf8 front pending []
    rw [List.append_nil] at hslice
    rw [if_pos rfl]
    split_ifs with hlt
    · rw [hstart, hslice]
      rfl
    · -- the cursor stands at the end, so that no byte is pending
      have hlength : (utf8 (front ++ pending)).length ≤ s.start := Nat.not_lt.1 hlt
      rw [hstart, utf8_append, List.length_append] at hlength
      have hnil : utf8 pending = [] := List.eq_nil_of_length_eq_zero (by omega)
      rw [hnil, List.append_nil]

/-- At the end of the line there is nothing to search. -/
lemma leaves_nil (mode : CommentMode) : Leaves mode [] ⟨[], false, mode⟩ := by
  rintro s front pending rfl h
  have hend : (utf8 (front ++ pending)).length ≤ s.pos := h.pos.ge
  rw [List.append_nil, run_of_le hend, Option.bind_some, finish_eq h.start h.fresh]
  simp [outcome]

/-- One step further on, the search comes to what it comes to from there. -/
lemma finish_run_of_goOn {t : Search} (front' pending' rest' : List Char) {l : StrippedLine}
    (hat : s.At front pending rest) (hrest : rest ≠ [])
    (hstep : s.step (utf8 (front ++ pending ++ rest)) = some (.goOn t))
    (hline : front ++ pending ++ rest = front' ++ pending' ++ rest')
    (hleaves : Leaves t.mode rest' l) (hat' : t.At front' pending' rest') :
    ((s.run (utf8 (front ++ pending ++ rest))).bind fun t =>
      t.finish (utf8 (front ++ pending ++ rest))) = some (t.outcome pending' l) := by
  rw [run_of_goOn (hat.lt_length hrest) hstep, hline]
  exact hleaves t front' pending' rfl hat'

/-- Where the search is over, what is pending is copied. -/
lemma finish_run_of_stop {t : Search} (front' pending' : List Char)
    (hat : s.At front pending rest) (hrest : rest ≠ [])
    (hstep : s.step (utf8 (front ++ pending ++ rest)) = some (.stop t))
    (hline : front ++ pending ++ rest = front' ++ pending')
    (hstart : t.start = (utf8 front').length)
    (hfresh : t.isRebuilt = false → front' = [] ∧ t.kept = []) :
    ((s.run (utf8 (front ++ pending ++ rest))).bind fun t =>
      t.finish (utf8 (front ++ pending ++ rest))) =
        some ⟨t.kept ++ utf8 pending', t.isRebuilt, t.mode⟩ := by
  rw [run_of_stop (hat.lt_length hrest) hstep, Option.bind_some, hline]
  exact finish_eq hstart hfresh

/-! ### Inside a block comment -/

lemma step_of_block (hmode : s.mode = .block) (h : s.At front [] rest) :
    s.step (utf8 (front ++ [] ++ rest)) =
      some (.goOn (s.afterClose (utf8 (front ++ [] ++ rest)) (findClose? (utf8 rest)))) := by
  have hbytes : bytesFrom? (utf8 (front ++ [] ++ rest)) s.pos = some (utf8 rest) := by
    rw [h.pos]
    exact bytesFrom?_utf8 (front ++ []) rest
  rw [step, hmode]
  show s.closeBlock _ = _
  rw [closeBlock, hbytes, Option.map_some]

/-- A block comment is searched for its end, and what comes after it is searched as text to be
read. -/
lemma leaves_block
    (hcode : ∀ rest', afterBlock? rest = some rest' → Leaves .code rest' (stripCode rest')) :
    Leaves .block rest (stripLine .block rest) := by
  by_cases hrest : rest = []
  · subst hrest
    exact leaves_nil .block
  rintro s front pending hmode hat
  obtain rfl := hat.block hmode
  have hstep := step_of_block hmode hat
  rcases findClose?_utf8 rest with ⟨hnone, hfind⟩ | ⟨inside, rest', hsome, hsplit, hfind⟩
  · -- not closed: the search is at the end of the line, with nothing left to copy
    rw [hfind] at hstep
    refine (finish_run_of_goOn (front ++ rest) [] [] hat hrest hstep (by simp) (leaves_nil _)
      ⟨?_, ?_, ?_, fun _ => rfl⟩).trans ?_
    · simp [afterClose]
    · simp [afterClose]
    · intro h
      cases h
    · simp [outcome, afterClose, stripLine_block_of_none hnone hrest, hmode]
  · -- closed: a space is copied, and nothing is pending behind the end of the comment
    have hplace : s.pos + (utf8 inside).length + 2 =
        (utf8 (front ++ inside ++ ['*', ')'])).length := by
      have hclose : utf8 ['*', ')'] = [ascii '*', ascii ')'] := by decide
      rw [hat.pos, List.append_nil, utf8_append, hclose, utf8_append, List.length_append,
        List.length_append]
      rfl
    have hspace : utf8 [' '] = [ascii ' '] := by decide
    rw [hfind] at hstep
    refine (finish_run_of_goOn (front ++ inside ++ ['*', ')']) [] rest' hat hrest hstep
      (by simp [hsplit]) (hcode rest' hsome) ⟨hplace, ?_, ?_, fun _ => rfl⟩).trans ?_
    · exact hplace.trans (congrArg (fun cs => (utf8 cs).length) (List.append_nil _).symm)
    · intro h
      cases h
    · rw [stripLine_block_of_some hsome]
      simp only [outcome, afterClose, StrippedLine.after, StrippedLine.rebuilt, utf8_append,
        hspace, List.append_assoc, List.nil_append, Bool.true_or, Bool.or_true]

/-! ### In text to be read -/

lemma step_of_code (hmode : s.mode = .code) (h : s.At front pending rest) :
    s.step (utf8 (front ++ pending ++ rest)) =
      match (utf8 rest).findIdx? isMarkerByte with
      | some offset => s.atMarker (utf8 (front ++ pending ++ rest)) (s.pos + offset)
      | none => some (.stop s) := by
  have hbytes : bytesFrom? (utf8 (front ++ pending ++ rest)) s.pos = some (utf8 rest) := by
    rw [h.pos]
    exact bytesFrom?_utf8 (front ++ pending) rest
  rw [step, hmode]
  show s.findMarker _ = _
  rw [findMarker, hbytes]
  rfl

/-- Without a marker the search is over. -/
lemma step_of_marked_eq_nil (hmode : s.mode = .code) (h : s.At front pending rest)
    (hnil : marked rest = []) : s.step (utf8 (front ++ pending ++ rest)) = some (.stop s) := by
  have hplain : ∀ c ∈ rest, isMarker c = false := by
    rw [← plain_of_nil hnil]
    exact fun _ => isMarker_of_mem_plain
  have hfind : (utf8 rest).findIdx? isMarkerByte = none :=
    List.findIdx?_eq_none_iff.2 fun _ => isMarkerByte_of_mem_utf8 hplain
  rw [step_of_code hmode h, hfind]

/-- The search finds the first marker where it stands in the text. -/
lemma step_of_marked_eq_cons (hmode : s.mode = .code) (h : s.At front pending rest) {c : Char}
    {tail : List Char} (hcons : marked rest = c :: tail) :
    s.step (utf8 (front ++ pending ++ rest)) =
      s.atMarker (utf8 (front ++ pending ++ rest))
        (utf8 (front ++ pending ++ plain rest)).length := by
  obtain ⟨hc, hmarker⟩ := isMarkerByte_ascii (isMarker_of_marked hcons)
  have hfind : (utf8 rest).findIdx? isMarkerByte = some (utf8 (plain rest)).length := by
    conv_lhs => rw [← plain_append_marked rest, hcons, utf8_append, utf8_cons_ascii hc]
    exact findIdx?_append_cons
      (fun _ => isMarkerByte_of_mem_utf8 fun _ => isMarker_of_mem_plain) hmarker _
  have hplace : (utf8 (front ++ pending ++ plain rest)).length =
      s.pos + (utf8 (plain rest)).length := by
    rw [h.pos, utf8_append, List.length_append]
  rw [step_of_code hmode h, hfind, hplace]

section Marker

variable (s) (before : List Char) {c : Char} (tail : List Char)

lemma getElem?_marker (hc : c.toNat < 128) :
    (utf8 (before ++ c :: tail))[(utf8 before).length]? = some (ascii c) := by
  have hat := getElem?_utf8 before (c :: tail) 0
  rw [Nat.add_zero] at hat
  rw [hat, utf8_cons_ascii hc]
  rfl

lemma getElem?_after_marker (hc : c.toNat < 128) :
    (utf8 (before ++ c :: tail))[(utf8 before).length + 1]? = (utf8 tail).head? := by
  rw [getElem?_utf8, utf8_cons_ascii hc, List.getElem?_cons_succ, List.head?_eq_getElem?]

lemma length_utf8_snoc (hc : c.toNat < 128) :
    (utf8 (before ++ [c])).length = (utf8 before).length + 1 := by
  rw [utf8_append, utf8_cons_ascii hc, List.length_append]
  rfl

/-- A quoted text is passed over, up to and with its closing quote or to the end of the line. -/
lemma atMarker_quote :
    s.atMarker (utf8 (before ++ '\'' :: tail)) (utf8 before).length = some (.goOn
      { s with pos := (utf8 (before ++ '\'' :: (splitQuote tail).1)).length }) := by
  have hquote : utf8 ['\''] = [ascii '\''] := by decide
  have hline : before ++ '\'' :: tail = before ++ ['\''] ++ tail := by simp
  have hbytes : bytesFrom? (utf8 (before ++ '\'' :: tail)) ((utf8 before).length + 1) =
      some (utf8 tail) := by
    rw [hline, ← length_utf8_snoc (c := '\'') before (by decide)]
    exact bytesFrom?_utf8 (before ++ ['\'']) tail
  rw [atMarker, getElem?_marker before tail (by decide), hbytes]
  show some (Move.goOn _) = _
  rcases findIdx?_quote tail with ⟨hfind, hsplit⟩ | ⟨inside, rest, hsplit, hfind⟩
  · rw [hfind, hsplit]
    rfl
  · have hplace : (utf8 (before ++ '\'' :: (inside ++ ['\'']))).length =
        (utf8 before).length + (utf8 inside).length + 2 := by
      rw [utf8_append, utf8_cons_ascii (by decide), utf8_append, hquote, List.length_append,
        List.length_cons, List.length_append, List.length_singleton]
      omega
    rw [hfind, hsplit, hplace]
    rfl

variable {s} {mid : List Char} (hstart : s.start = (utf8 front).length)
include hstart

/-- What is pending before a block comment is copied. -/
lemma atMarker_open :
    s.atMarker (utf8 (front ++ mid ++ '(' :: '*' :: tail)) (utf8 (front ++ mid)).length =
      some (.goOn ⟨.block, true, s.kept ++ utf8 mid,
        (utf8 (front ++ mid ++ ['(', '*'])).length,
        (utf8 (front ++ mid ++ ['(', '*'])).length⟩) := by
  have hopen : utf8 ['(', '*'] = [ascii '(', ascii '*'] := by decide
  have hnext : (utf8 ('*' :: tail)).head? = some (ascii '*') := by
    rw [utf8_cons_ascii (by decide)]
    rfl
  have hplace : (utf8 (front ++ mid ++ ['(', '*'])).length = (utf8 (front ++ mid)).length + 2 := by
    rw [utf8_append, hopen, List.length_append]
    rfl
  rw [atMarker, getElem?_marker _ _ (by decide), getElem?_after_marker _ _ (by decide), hnext,
    hstart, slice?_utf8, hplace]
  rfl

/-- What is pending before a comment up to the end of the line is copied. -/
lemma atMarker_dash :
    s.atMarker (utf8 (front ++ mid ++ '-' :: '-' :: tail)) (utf8 (front ++ mid)).length =
      some (.stop { s with
        isRebuilt := true
        kept := s.kept ++ utf8 mid
        start := (utf8 (front ++ mid ++ '-' :: '-' :: tail)).length }) := by
  have hnext : (utf8 ('-' :: tail)).head? = some (ascii '-') := by
    rw [utf8_cons_ascii (by decide)]
    rfl
  rw [atMarker, getElem?_marker _ _ (by decide), getElem?_after_marker _ _ (by decide), hnext,
    hstart, slice?_utf8]
  rfl

omit hstart

/-- A marker that starts nothing is passed over. -/
lemma atMarker_other (hc : isMarker c = true) (hquote : c ≠ '\'')
    (hopen : ∀ cs, c = '(' → tail = '*' :: cs → False)
    (hdash : ∀ cs, c = '-' → tail = '-' :: cs → False) :
    s.atMarker (utf8 (before ++ c :: tail)) (utf8 before).length =
      some (.goOn { s with pos := (utf8 (before ++ [c])).length }) := by
  have hascii := (isMarkerByte_ascii hc).1
  rw [atMarker, getElem?_marker _ _ hascii, getElem?_after_marker _ _ hascii,
    length_utf8_snoc before hascii]
  have hnext : ∀ d : Char, d.toNat < 128 → (utf8 tail).head? = some (ascii d) →
      ∃ cs, tail = d :: cs := fun d hd h => List.head?_eq_some_iff.1 ((head?_utf8 hd tail).1 h)
  simp only [Option.bind_eq_bind, Option.bind_some]
  simp only [isMarker, Bool.or_eq_true, beq_iff_eq] at hc
  rcases hc with (rfl | rfl) | rfl
  · rw [if_neg (by decide), if_neg fun h => (hnext '*' (by decide) h.2).elim fun cs => hopen cs rfl,
      if_neg fun h => absurd h.1 (by decide)]
  · rw [if_neg (by decide), if_neg fun h => absurd h.1 (by decide),
      if_neg fun h => (hnext '-' (by decide) h.2).elim fun cs => hdash cs rfl]
  · exact absurd rfl hquote

end Marker

lemma ne_nil_of_marked {c : Char} {tail : List Char} (h : marked rest = c :: tail) :
    rest ≠ [] := by
  rintro rfl
  cases h

/-- The line up to its first marker, and from there on. -/
lemma line_eq_of_marked (front pending : List Char) {tail : List Char} (h : marked rest = tail) :
    front ++ pending ++ rest = front ++ pending ++ plain rest ++ tail := by
  rw [List.append_assoc (front ++ pending), ← h, plain_append_marked]

/-- What starts as a block comment is searched as one. -/
lemma leaves_code_of_open {tail : List Char} (hopen : marked rest = '(' :: '*' :: tail)
    (hblock : Leaves .block tail (stripLine .block tail)) :
    Leaves .code rest ((stripLine .block tail).after (plain rest)).rebuilt := by
  rintro s front pending hmode hat
  have hline : front ++ pending ++ rest =
      front ++ (pending ++ plain rest) ++ '(' :: '*' :: tail := by
    rw [line_eq_of_marked front pending hopen, List.append_assoc front]
  have hstep := step_of_marked_eq_cons hmode hat hopen
  rw [hline, List.append_assoc front pending, atMarker_open tail hat.start, ← hline] at hstep
  refine (finish_run_of_goOn (front ++ (pending ++ plain rest) ++ ['(', '*']) [] tail hat
    (ne_nil_of_marked hopen) hstep (by simp [hline]) hblock
    ⟨rfl, by rw [List.append_nil], ?_, fun _ => rfl⟩).trans ?_
  · intro h
    cases h
  · simp [outcome, StrippedLine.after, StrippedLine.rebuilt]

/-- Without a marker, all that is left of the line is pending. -/
lemma leaves_code_of_nil (hnil : marked rest = []) :
    Leaves .code rest ⟨plain rest, false, .code⟩ := by
  rw [plain_of_nil hnil]
  rintro s front pending hmode hat
  by_cases hrest : rest = []
  · subst hrest
    exact leaves_nil .code s front pending hmode hat
  · refine (finish_run_of_stop front (pending ++ rest) hat hrest
      (step_of_marked_eq_nil hmode hat hnil) (by simp) hat.start hat.fresh).trans ?_
    simp [outcome, hmode]

/-- A quoted text is pending with what comes before it. -/
lemma leaves_code_of_quote {tail : List Char} {l : StrippedLine}
    (hquote : marked rest = '\'' :: tail) (hleaves : Leaves .code (splitQuote tail).2 l) :
    Leaves .code rest (l.after (plain rest ++ '\'' :: (splitQuote tail).1)) := by
  rintro s front pending hmode hat
  have hline := line_eq_of_marked front pending hquote
  have hstep := step_of_marked_eq_cons hmode hat hquote
  rw [hline, atMarker_quote, ← hline] at hstep
  refine (finish_run_of_goOn front (pending ++ plain rest ++ '\'' :: (splitQuote tail).1)
    (splitQuote tail).2 hat (ne_nil_of_marked hquote) hstep ?_ (hmode ▸ hleaves)
    ⟨hat.start, by simp, hat.fresh, ?_⟩).trans ?_
  · rw [hline]
    simp [splitQuote_append]
  · exact fun hblock => absurd (hmode.symm.trans hblock) (by decide)
  · simp [outcome, StrippedLine.after]

/-- A comment up to the end of the line ends the search. -/
lemma leaves_code_of_dash {tail : List Char} (hdash : marked rest = '-' :: '-' :: tail) :
    Leaves .code rest ⟨plain rest, true, .code⟩ := by
  rintro s front pending hmode hat
  have hline : front ++ pending ++ rest =
      front ++ (pending ++ plain rest) ++ '-' :: '-' :: tail := by
    rw [line_eq_of_marked front pending hdash, List.append_assoc front]
  have hstep := step_of_marked_eq_cons hmode hat hdash
  rw [hline, List.append_assoc front pending, atMarker_dash tail hat.start, ← hline] at hstep
  refine (finish_run_of_stop (front ++ pending ++ rest) [] hat (ne_nil_of_marked hdash) hstep
    (by simp) rfl ?_).trans ?_
  · intro h
    cases h
  · simp [outcome, hmode]

/-- A marker that starts nothing is pending with what comes before it. -/
lemma leaves_code_of_other {c : Char} {tail : List Char} {l : StrippedLine}
    (hmarked : marked rest = c :: tail) (hquote : c = '\'' → False)
    (hopen : ∀ cs, c = '(' → tail = '*' :: cs → False)
    (hdash : ∀ cs, c = '-' → tail = '-' :: cs → False) (hleaves : Leaves .code tail l) :
    Leaves .code rest (l.after (plain rest ++ [c])) := by
  rintro s front pending hmode hat
  have hline := line_eq_of_marked front pending hmarked
  have hstep := step_of_marked_eq_cons hmode hat hmarked
  rw [hline, atMarker_other _ _ (isMarker_of_marked hmarked) hquote hopen hdash, ← hline]
    at hstep
  refine (finish_run_of_goOn front (pending ++ plain rest ++ [c]) tail hat
    (ne_nil_of_marked hmarked) hstep ?_ (hmode ▸ hleaves)
    ⟨hat.start, by simp, hat.fresh, ?_⟩).trans ?_
  · rw [hline]
    simp
  · exact fun hblock => absurd (hmode.symm.trans hblock) (by decide)
  · simp [outcome, StrippedLine.after]

/-- Text to be read is searched from marker to marker. -/
lemma leaves_code (rest : List Char) : Leaves .code rest (stripCode rest) := by
  fun_induction stripCode rest with
  -- no marker
  | case1 cs text hnil => exact leaves_code_of_nil hnil
  -- a quote
  | case2 cs text tail hquote ih => exact leaves_code_of_quote hquote ih
  -- a block comment that is open at the end of the line
  | case3 cs text tail hopen hnone =>
    have hblock : Leaves .block tail (stripLine .block tail) := leaves_block fun rest' h => by
      rw [hnone] at h
      cases h
    have hleft : (⟨text, true, .block⟩ : StrippedLine) =
        ((stripLine .block tail).after (plain cs)).rebuilt := by
      by_cases htail : tail = []
      · simp [htail, stripLine, StrippedLine.after, StrippedLine.rebuilt, plain, text]
      · simp [stripLine_block_of_none hnone htail, StrippedLine.after, StrippedLine.rebuilt, plain,
          text]
    exact hleft ▸ leaves_code_of_open hopen hblock
  -- a block comment that is closed
  | case4 cs text tail hopen rest' hsome ih =>
    have hblock : Leaves .block tail (stripLine .block tail) := leaves_block fun rest'' h => by
      rw [hsome] at h
      exact Option.some.inj h ▸ ih
    have hleft : ((stripCode rest').after (text ++ [' '])).rebuilt =
        ((stripLine .block tail).after (plain cs)).rebuilt := by
      simp [stripLine_block_of_some hsome, StrippedLine.after, StrippedLine.rebuilt, plain, text]
    exact hleft ▸ leaves_code_of_open hopen hblock
  -- a comment up to the end of the line
  | case5 cs text tail hdash => exact leaves_code_of_dash hdash
  -- a marker that starts nothing
  | case6 cs text c tail hquote hopen hdash hmarked ih =>
    exact leaves_code_of_other hmarked hquote hopen hdash ih

/-- Wherever it starts, the search comes to what is left of the line. -/
lemma leaves_stripLine (mode : CommentMode) (rest : List Char) :
    Leaves mode rest (stripLine mode rest) := by
  cases mode with
  | code => exact leaves_code rest
  | block => exact leaves_block fun rest' _ => leaves_code rest'

end Search

/-- The search through the bytes of a line never fails, and it strips the line. -/
theorem searchLine_utf8 (mode : CommentMode) (line : List Char) :
    searchLine mode (utf8 line) = some (stripLine mode line).utf8 :=
  Search.leaves_stripLine mode line { mode := mode } [] [] rfl
    ⟨rfl, rfl, fun _ => ⟨rfl, rfl⟩, fun _ => rfl⟩

end Text
end ExpressSchema
