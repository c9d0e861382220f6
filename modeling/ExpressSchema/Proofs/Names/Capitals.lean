/-
# Capitals of capitals

A text in capitals stays as it is when it is put in capitals again.  Character by character that is
a fact about the tables: whatever they give as a capital, be it alone or with others, has no other
capital itself.  On either side there are more than a thousand code points, too many to be compared
one with one, so both sides become the bits of a number and have no bit in common.
-/
import Mathlib.Data.List.Basic
import ExpressSchema.Text.Case

namespace ExpressSchema
namespace Text

/-! ## Code points as bits -/

/-- The number that has a bit for each of some code points. -/
def bits (codes : List Nat) : Nat :=
  codes.foldr (fun n b => 1 <<< n ||| b) 0

lemma testBit_bits {codes : List Nat} {n : Nat} : (bits codes).testBit n = true ↔ n ∈ codes := by
  induction codes with
  | nil => simp [bits]
  | cons m codes ih =>
    have hcons : bits (m :: codes) = 1 <<< m ||| bits codes := rfl
    rw [hcons, Nat.testBit_or, Bool.or_eq_true, ih, Nat.shiftLeft_eq, Nat.one_mul,
      Nat.testBit_two_pow, decide_eq_true_iff, List.mem_cons]
    exact or_congr_left eq_comm

/-- Numbers without a common bit have no common code point. -/
lemma notMem_of_bits {xs ys : List Nat} (h : bits xs &&& bits ys = 0) {n : Nat} (hn : n ∈ xs) :
    n ∉ ys := by
  intro hy
  have hbit : (bits xs &&& bits ys).testBit n = true := by
    rw [Nat.testBit_and, Bool.and_eq_true]
    exact ⟨testBit_bits.2 hn, testBit_bits.2 hy⟩
  rw [h, Nat.zero_testBit] at hbit
  exact Bool.noConfusion hbit

/-! ## The code points of the tables -/

/-- The code points of a run. -/
def CodeRun.codes (r : CodeRun) : List Nat :=
  List.range' r.first ((r.last - r.first) / r.step + 1) r.step

lemma CodeRun.contains_iff {r : CodeRun} {n : Nat} :
    r.contains n = true ↔ r.first ≤ n ∧ n ≤ r.last ∧ (n - r.first) % r.step = 0 := by
  simp [contains, and_assoc]

lemma CodeRun.mem_codes {r : CodeRun} {n : Nat} (h : r.contains n = true) : n ∈ r.codes := by
  obtain ⟨hfirst, hlast, hstep⟩ := contains_iff.1 h
  have hmul : r.step * ((n - r.first) / r.step) = n - r.first :=
    Nat.mul_div_cancel' (Nat.dvd_of_mod_eq_zero hstep)
  have hle : (n - r.first) / r.step ≤ (r.last - r.first) / r.step :=
    Nat.div_le_div_right (Nat.sub_le_sub_right hlast _)
  exact List.mem_range'.2 ⟨_, Nat.lt_succ_of_le hle, by omega⟩

/-- The letters of a run. -/
def CaseRun.letters (r : CaseRun) : CodeRun :=
  ⟨r.first, r.last, r.step⟩

/-- The capitals of a run. -/
def CaseRun.capitals (r : CaseRun) : CodeRun :=
  ⟨r.capital, r.capital + (r.last - r.first), r.step⟩

lemma CaseRun.mem_codes_of_capitalOf? {r : CaseRun} {n m : Nat} (h : r.capitalOf? n = some m) :
    n ∈ r.letters.codes ∧ m ∈ r.capitals.codes := by
  unfold capitalOf? at h
  split_ifs at h with hn
  obtain rfl := Option.some.inj h
  obtain ⟨-, hlast, hstep⟩ := CodeRun.contains_iff.1 hn
  have hdistance : n - r.first ≤ r.last - r.first := Nat.sub_le_sub_right hlast _
  have hcapital : r.capitals.contains (r.capital + (n - r.first)) = true := by
    rw [CodeRun.contains_iff, capitals, Nat.add_sub_cancel_left]
    exact ⟨Nat.le_add_right _ _, Nat.add_le_add_left hdistance _, hstep⟩
  exact ⟨CodeRun.mem_codes hn, CodeRun.mem_codes hcapital⟩

/-- The small letters of ASCII as a run. -/
def asciiRun : CaseRun := ⟨0x61, 0x7A, 1, 0x41⟩

/-- The code points that have another capital. -/
def withCapital : List Nat :=
  (asciiRun :: capitalRuns).flatMap (·.letters.codes) ++ longCapitals.map Prod.fst

/-- The code points that occur in capitals of others. -/
def inCapitals : List Nat :=
  (asciiRun :: capitalRuns).flatMap (·.capitals.codes) ++ longCapitals.flatMap Prod.snd

lemma notMem_withCapital {n : Nat} (h : n ∈ inCapitals) : n ∉ withCapital :=
  notMem_of_bits (by decide +kernel) h

/-- Capitals are characters, and they come after the punctuation that a name may carry. -/
lemma isValidChar_of_mem_inCapitals : ∀ n ∈ inCapitals, n.isValidChar ∧ ';'.toNat < n := by
  decide +kernel

lemma toNat_ofNat_of_mem_inCapitals {n : Nat} (h : n ∈ inCapitals) : (Char.ofNat n).toNat = n := by
  rw [Char.ofNat, dif_pos (isValidChar_of_mem_inCapitals n h).1]
  rfl

/-! ## Characters -/

lemma capital_of_ascii {c : Char} (hc : c.toNat < 128) :
    capital c = [((asciiRun.capitalOf? c.toNat).map Char.ofNat).getD c] :=
  forall_ascii (p := fun c => capital c = [((asciiRun.capitalOf? c.toNat).map Char.ofNat).getD c])
    (by decide +kernel) hc

/-- A character with a capital has another one, and that is made of code points that occur in
capitals. -/
def HasCapital (c : Char) : Prop :=
  c.toNat ∈ withCapital ∧ ∀ d ∈ capital c, ∃ n ∈ inCapitals, d = Char.ofNat n

lemma hasCapital_of_capitalOf? {c : Char} {n : Nat} {r : CaseRun}
    (hr : r ∈ asciiRun :: capitalRuns) (hn : r.capitalOf? c.toNat = some n)
    (hcapital : capital c = [Char.ofNat n]) : HasCapital c := by
  obtain ⟨hletter, hcode⟩ := CaseRun.mem_codes_of_capitalOf? hn
  refine ⟨List.mem_append_left _ (List.mem_flatMap_of_mem hr hletter), fun d hd => ?_⟩
  rw [hcapital, List.mem_singleton] at hd
  exact ⟨n, List.mem_append_left _ (List.mem_flatMap_of_mem hr hcode), hd⟩

/-- The capital of a character is the character itself, unless the tables give it another. -/
lemma capital_cases (c : Char) : capital c = [c] ∨ HasCapital c := by
  rcases Nat.lt_or_ge c.toNat 128 with hlt | hge
  · have hcapital := capital_of_ascii hlt
    cases hn : asciiRun.capitalOf? c.toNat with
    | none => exact .inl (by rwa [hn] at hcapital)
    | some n =>
      rw [hn] at hcapital
      exact .inr (hasCapital_of_capitalOf? List.mem_cons_self hn hcapital)
  · have hcapital : capital c = wideCapital c := if_neg (Nat.not_lt.2 hge)
    unfold wideCapital at hcapital
    split at hcapital
    · rename_i long hlong
      obtain ⟨before, after, heq, -⟩ := List.lookup_eq_some_iff.1 hlong
      have hmem : (c.toNat, long) ∈ longCapitals :=
        heq ▸ List.mem_append_right _ List.mem_cons_self
      refine .inr ⟨List.mem_append_right _ (List.mem_map_of_mem hmem), fun d hd => ?_⟩
      rw [hcapital] at hd
      obtain ⟨n, hn, rfl⟩ := List.mem_map.1 hd
      exact ⟨n, List.mem_append_right _ (List.mem_flatMap_of_mem hmem hn), rfl⟩
    · split at hcapital
      · rename_i n hn
        obtain ⟨r, hr, hletter⟩ := List.exists_of_findSome?_eq_some hn
        exact .inr (hasCapital_of_capitalOf? (List.mem_cons_of_mem _ hr) hletter hcapital)
      · exact .inl hcapital

/-- What a capital is made of is its own capital. -/
lemma capital_eq_self_of_mem {c d : Char} (h : d ∈ capital c) : capital d = [d] := by
  rcases capital_cases c with heq | ⟨-, hcodes⟩
  · obtain rfl : d = c := List.mem_singleton.1 (heq ▸ h)
    exact heq
  · obtain ⟨n, hn, rfl⟩ := hcodes d h
    refine (capital_cases _).resolve_right fun ⟨hother, _⟩ => notMem_withCapital hn ?_
    rwa [toNat_ofNat_of_mem_inCapitals hn] at hother

/-- Only a character of ASCII up to the semicolon has such a character in its capital, and that is
the character itself. -/
lemma eq_of_mem_capital {c d : Char} (h : d ∈ capital c) (hd : d.toNat ≤ ';'.toNat) : d = c := by
  rcases capital_cases c with heq | ⟨-, hcodes⟩
  · exact List.mem_singleton.1 (heq ▸ h)
  · obtain ⟨n, hn, rfl⟩ := hcodes d h
    rw [toNat_ofNat_of_mem_inCapitals hn] at hd
    exact absurd (isValidChar_of_mem_inCapitals n hn).2 (Nat.not_lt.2 hd)

/-! ## Texts -/

lemma capitals_cons (c : Char) (cs : List Char) : capitals (c :: cs) = capital c ++ capitals cs :=
  List.flatMap_cons

/-- A text stays as it is in capitals if its characters do. -/
lemma capitals_eq_self {cs : List Char} (h : ∀ c ∈ cs, capital c = [c]) : capitals cs = cs := by
  induction cs with
  | nil => rfl
  | cons c cs ih =>
    have hrest : capitals cs = cs := ih fun d hd => h d (List.mem_cons_of_mem _ hd)
    rw [capitals_cons, h c List.mem_cons_self, hrest]
    rfl

@[simp] lemma capitals_capitals (cs : List Char) : capitals (capitals cs) = capitals cs := by
  refine capitals_eq_self fun d hd => ?_
  obtain ⟨c, -, hd⟩ := List.mem_flatMap.1 hd
  exact capital_eq_self_of_mem hd

/-- A character of ASCII up to the semicolon is in a text if it is in its capitals. -/
lemma mem_of_mem_capitals {cs : List Char} {d : Char} (h : d ∈ capitals cs)
    (hd : d.toNat ≤ ';'.toNat) : d ∈ cs := by
  obtain ⟨c, hc, hcapital⟩ := List.mem_flatMap.1 h
  exact eq_of_mem_capital hcapital hd ▸ hc

end Text
end ExpressSchema
