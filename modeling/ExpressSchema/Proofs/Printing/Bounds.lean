/-
# Bounds as they are written

Bounds are a left and a right side in brackets, with a colon between them.  A side is a question
mark or a number in decimal digits, as many as one likes but with a value that fits into a word.
This is all that is read as bounds (`Bounds.ofText?_eq_some_iff`), and a cardinality is written in
this form.
-/
import ExpressSchema.Cardinality
import ExpressSchema.Text.Ending
import Mathlib.Data.List.Induction
import Mathlib.Data.List.TakeWhile
import Mathlib.Data.Nat.Digits.Defs

namespace ExpressSchema
namespace Bounds

/-! ## Grammar -/

/-- The number that a run of decimal digits stands for, by the places of the digits. -/
def decimalValue (digits : List Char) : Nat :=
  Nat.ofDigits 10 (digits.reverse.map fun d => d.toNat - '0'.toNat)

/-- How one side of bounds is written. -/
inductive IsSide : List Char → Option UInt32 → Prop
  /-- A question mark leaves the side open. -/
  | leftOpen : IsSide ['?'] none
  /-- A number is written in decimal digits. -/
  | number {digits : List Char} {n : UInt32} (hne : digits ≠ [])
      (hdigits : ∀ d ∈ digits, d.isDigit = true) (hvalue : decimalValue digits = n.toNat) :
      IsSide digits (some n)

/-- How bounds are written: a side, a colon and a side, in brackets. -/
def IsWritten (cs : List Char) (b : Bounds) : Prop :=
  ∃ left right, cs = '[' :: (left ++ ':' :: (right ++ [']'])) ∧ IsSide left b.min ∧
    IsSide right b.max

/-! ## Numbers -/

/-- Digit by digit from the left one comes to the same number. -/
lemma ofDigitChars_eq_decimalValue (digits : List Char) :
    Nat.ofDigitChars 10 digits 0 = decimalValue digits := by
  induction digits using List.reverseRecOn with
  | nil => rfl
  | append_singleton digits d ih =>
    have hlast : Nat.ofDigitChars 10 (digits ++ [d]) 0 =
        10 * Nat.ofDigitChars 10 digits 0 + (d.toNat - '0'.toNat) := by
      simp [Nat.ofDigitChars]
    have hplaces : decimalValue (digits ++ [d]) =
        (d.toNat - '0'.toNat) + 10 * decimalValue digits := by
      simp [decimalValue, Nat.ofDigits_cons]
    rw [hlast, hplaces, ih, Nat.add_comm]

lemma ofDigits?_eq_some_iff {digits : List Char} {n : UInt32} :
    ofDigits? digits = some n ↔ digits ≠ [] ∧ decimalValue digits = n.toNat := by
  unfold ofDigits?
  rw [← ofDigitChars_eq_decimalValue]
  split_ifs with h
  · rw [Option.some.injEq, ← UInt32.toNat_inj, UInt32.toNat_ofNatLT]
    exact ⟨fun hn => ⟨h.1, hn⟩, fun hn => hn.2⟩
  · refine iff_of_false (by simp) fun hn => h ⟨hn.1, ?_⟩
    rw [hn.2]
    exact n.toNat_lt_size

/-! ## Sides -/

/-- What is read as a side is one, and the text after it is left. -/
lemma exists_isSide_of_ofSide? {cs rest : List Char} {side : Option UInt32}
    (h : ofSide? cs = some (side, rest)) : ∃ front, cs = front ++ rest ∧ IsSide front side := by
  unfold ofSide? at h
  split at h
  · obtain ⟨rfl, rfl⟩ := Prod.mk.inj (Option.some.inj h)
    exact ⟨['?'], rfl, .leftOpen⟩
  · obtain ⟨n, hn, heq⟩ := Option.map_eq_some_iff.1 h
    obtain ⟨rfl, rfl⟩ := Prod.mk.inj heq
    obtain ⟨hne, hvalue⟩ := ofDigits?_eq_some_iff.1 hn
    have hdigits : ∀ d ∈ cs.takeWhile Char.isDigit, d.isDigit = true := fun _ hd =>
      List.mem_takeWhile_imp hd
    exact ⟨_, List.takeWhile_append_dropWhile.symm, .number hne hdigits hvalue⟩

/-- A side is read up to its end, if no digit follows. -/
lemma IsSide.ofSide?_append {front : List Char} {side : Option UInt32} (h : IsSide front side)
    {rest : List Char} (hrest : ∀ c ∈ rest.head?, c.isDigit = false) :
    ofSide? (front ++ rest) = some (side, rest) := by
  cases h with
  | leftOpen => rfl
  | @number digits n hne hdigits hvalue =>
    have hread : ofDigits? front = some n := ofDigits?_eq_some_iff.2 ⟨hne, hvalue⟩
    have hend : rest.takeWhile Char.isDigit = [] ∧ rest.dropWhile Char.isDigit = rest := by
      cases rest with
      | nil => exact ⟨rfl, rfl⟩
      | cons c rest => simp [hrest c rfl]
    rw [ofSide?]
    · rw [List.takeWhile_append_of_pos hdigits, List.dropWhile_append_of_pos hdigits, hend.1,
        hend.2, List.append_nil, hread]
      rfl
    · intro tail htail
      -- the other way to start a side is a question mark, which is no digit
      obtain ⟨d, ds, rfl⟩ := List.exists_cons_of_ne_nil hne
      obtain ⟨rfl, -⟩ := List.cons.inj htail
      exact absurd (hdigits '?' List.mem_cons_self) (by decide)

/-! ## Bounds -/

/-- What is read as bounds is what is written as bounds. -/
lemma ofText?_eq_some_iff {cs : List Char} {b : Bounds} : ofText? cs = some b ↔ IsWritten cs b := by
  constructor
  · intro h
    unfold ofText? at h
    split at h
    · split at h
      · split at h
        · rename_i ds min es hmin _ max hmax
          obtain ⟨left, rfl, hleft⟩ := exists_isSide_of_ofSide? hmin
          obtain ⟨right, rfl, hright⟩ := exists_isSide_of_ofSide? hmax
          obtain rfl := Option.some.inj h
          exact ⟨left, right, rfl, hleft, hright⟩
        · cases h
      · cases h
    · cases h
  · rintro ⟨left, right, rfl, hleft, hright⟩
    have hmin : ofSide? (left ++ ':' :: (right ++ [']'])) =
        some (b.min, ':' :: (right ++ [']'])) := hleft.ofSide?_append (by simp)
    have hmax : ofSide? (right ++ [']']) = some (b.max, [']']) := hright.ofSide?_append (by simp)
    simp only [ofText?, hmin, hmax]

/-! ## Cardinalities -/

/-- A word is written in its decimal digits. -/
lemma isSide_toDigits (n : UInt32) : IsSide (Nat.toDigits 10 n.toNat) (some n) := by
  have hdigits : ∀ d ∈ Nat.toDigits 10 n.toNat, d.isDigit = true := fun _ hd =>
    Nat.isDigit_of_mem_toDigits (b := 10) (n := n.toNat) (by decide) (by decide) hd
  have hvalue : decimalValue (Nat.toDigits 10 n.toNat) = n.toNat := by
    rw [← ofDigitChars_eq_decimalValue]
    exact Nat.ofDigitChars_toDigits (by decide) (by decide)
  exact .number Nat.toDigits_ne_nil hdigits hvalue

end Bounds

namespace Cardinality

variable (c : Cardinality)

/-- The right side of the bounds as which a cardinality is written. -/
def sideChars : Option UInt32 → List Char
  | none => ['?']
  | some n => Nat.toDigits 10 n.toNat

lemma toList_text :
    c.text.toList = ('[' :: (Nat.toDigits 10 c.min.toNat ++ ':' :: sideChars c.max)) ++ [']'] := by
  cases hmax : c.max with
  | none => simp [text, hmax, sideChars]
  | some n => simp [text, hmax, sideChars]

lemma isSide_sideChars (max : Option UInt32) : Bounds.IsSide (sideChars max) max := by
  cases max with
  | none => exact .leftOpen
  | some n => exact Bounds.isSide_toDigits n

/-- A cardinality is written as bounds of which only the right side may be left open. -/
lemma isWritten_text : Bounds.IsWritten c.text.toList ⟨some c.min, c.max⟩ := by
  refine ⟨_, _, ?_, Bounds.isSide_toDigits c.min, isSide_sideChars c.max⟩
  rw [c.toList_text, List.cons_append, List.append_assoc, List.cons_append]

end Cardinality

namespace Bounds

/-- Bounds are read back as they were printed. -/
lemma ofText?_text (c : Cardinality) : ofText? c.text.toList = some ⟨some c.min, c.max⟩ :=
  ofText?_eq_some_iff.2 c.isWritten_text

lemma restrict_text (c : Cardinality) :
    ({} : Cardinality).restrict ⟨some c.min, c.max⟩ = c := by
  cases c with
  | mk min max => cases max <;> rfl

/-- Bounds are read exactly as they are written: a text is taken for bounds if it is in this form,
and then for those that it writes, and any other text is not, such as one with a number that does
not fit into a word.  What a cardinality is written as restricts the default to that cardinality. -/
theorem readAsWritten :
    (∀ (cs : List Char) (b : Bounds), ofText? cs = some b ↔ IsWritten cs b) ∧
      (∀ cs : List Char, ofText? cs = none ↔ ∀ b, ¬IsWritten cs b) ∧
      ∀ c : Cardinality, ∃ b, ofText? c.text.toList = some b ∧
        ({} : Cardinality).restrict b = c := by
  refine ⟨fun cs b => ofText?_eq_some_iff, fun cs => ?_, fun c => ?_⟩
  · rw [Option.eq_none_iff_forall_ne_some]
    exact forall_congr' fun b => not_congr ofText?_eq_some_iff
  · exact ⟨_, ofText?_text c, restrict_text c⟩

end Bounds
end ExpressSchema
