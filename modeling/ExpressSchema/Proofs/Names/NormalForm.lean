/-
# Canonical names as normal forms

The canonical form of a name is a normal form: it is its own, it has none of the punctuation that a
name may carry, names that differ in such punctuation and in the case of the letters `A` to `Z` only
share it, and it is worked out piece by piece.  A memory for canonical names answers with it
whatever it was asked before, and keeps one entry for each name it was asked.
-/
import Mathlib.Data.List.Induction
import ExpressSchema.Name.Cache
import ExpressSchema.Proofs.Names.Capitals
import ExpressSchema.Proofs.Siblings.Operations

namespace ExpressSchema
namespace Name

/-! ## The canonical form -/

lemma isPunctuation_iff {c : Char} : isPunctuation c = true ↔ c ∈ ['(', ')', ';', ','] := by
  simp [isPunctuation, or_assoc]

/-- The punctuation that may cling to a name comes no later than the semicolon. -/
lemma toNat_le_of_isPunctuation {c : Char} (h : isPunctuation c = true) : c.toNat ≤ ';'.toNat := by
  have hcases : c = '(' ∨ c = ')' ∨ c = ';' ∨ c = ',' := by simpa using isPunctuation_iff.1 h
  rcases hcases with rfl | rfl | rfl | rfl <;> decide

/-- A name without punctuation is bare. -/
lemma bare_eq_self {cs : List Char} (h : ∀ c ∈ cs, isPunctuation c = false) : bare cs = cs :=
  List.filter_eq_self.2 fun c hc => by simp [h c hc]

/-- Capitals bring no punctuation about. -/
lemma not_isPunctuation_of_mem_capitals_bare {c : Char} {cs : List Char}
    (h : c ∈ Text.capitals (bare cs)) : isPunctuation c = false := by
  by_contra hc
  have hpunctuation : isPunctuation c = true := by simpa using hc
  have hbare : c ∈ bare cs := Text.mem_of_mem_capitals h (toNat_le_of_isPunctuation hpunctuation)
  exact hc (not_isPunctuation_of_mem_bare hbare)

lemma not_isPunctuation_of_mem_canonical {c : Char} {name : String}
    (h : c ∈ (canonical name).toList) : isPunctuation c = false :=
  not_isPunctuation_of_mem_capitals_bare (toList_canonical name ▸ h)

lemma canonical_canonical (name : String) : canonical (canonical name) = canonical name := by
  rw [← String.toList_inj, toList_canonical, toList_canonical,
    bare_eq_self fun _ => not_isPunctuation_of_mem_capitals_bare, Text.capitals_capitals]

/-- A name and its bare form have one canonical form. -/
lemma canonical_ofList_bare (name : String) :
    canonical (String.ofList (bare name.toList)) = canonical name := by
  simp [canonical]

/-- Names whose bare forms differ in the case of the letters `A` to `Z` only have one canonical
form. -/
lemma canonical_eq_of_sameLetters_bare {a b : String}
    (h : Text.sameLetters (bare a.toList) (bare b.toList) = true) : canonical a = canonical b := by
  rw [← canonical_ofList_bare a, ← canonical_ofList_bare b]
  exact canonical_eq_of_sameLetters (by simpa using h)

/-! ## The memory -/

namespace Cache

/-- The names that are remembered, the latest first. -/
def names (c : Cache) : List String := c.known.map Prod.fst

/-- The memory after it was asked for some names. -/
def after (c : Cache) (asked : List String) : Cache :=
  asked.foldl (fun c name => (c.canonical name).2) c

lemma after_append (c : Cache) (xs ys : List String) :
    c.after (xs ++ ys) = (c.after xs).after ys := List.foldl_append

/-- A name that was asked for is remembered; one that is remembered is not entered again. -/
lemma names_canonical (c : Cache) (name : String) :
    (c.canonical name).2.names = if name ∈ c.names then c.names else name :: c.names := by
  have hmem : name ∈ c.names ↔ c.known.lookup name ≠ none := by
    rw [Ne, List.lookup_eq_none_iff]
    simp [names]
  unfold canonical
  split
  · rename_i key hkey
    rw [if_pos (hmem.2 (by simp [hkey]))]
  · rename_i hnone
    rw [if_neg fun h => hmem.1 h hnone]
    rfl

/-- Each name that was asked for is remembered once, in the order in which they came. -/
lemma names_after_empty (asked : List String) :
    (empty.after asked).names = asked.eraseDups.reverse := by
  induction asked using List.reverseRecOn with
  | nil => rfl
  | append_singleton asked name ih =>
    have hstep : empty.after (asked ++ [name]) = ((empty.after asked).canonical name).2 :=
      after_append _ _ _
    rw [hstep, names_canonical, ih, eraseDups_append_singleton]
    simp only [List.mem_reverse, List.mem_eraseDups]
    split_ifs
    · rfl
    · simp

lemma size_after_empty (asked : List String) :
    (empty.after asked).size = asked.eraseDups.length := by
  have hlength : (empty.after asked).size = (empty.after asked).names.length := by
    simp [size, names]
  rw [hlength, names_after_empty, List.length_reverse]

end Cache

/-! ## Normal forms -/

/-- Canonical names are normal forms, character by character, and a memory for them only saves
work. -/
theorem canonical_normalForm :
    (∀ name, canonical (canonical name) = canonical name ∧
      ∀ c ∈ ['(', ')', ';', ','], c ∉ (canonical name).toList) ∧
    (∀ a b, Text.sameLetters (bare a.toList) (bare b.toList) = true → canonical a = canonical b) ∧
    (∀ a b, canonical (a ++ b) = canonical a ++ canonical b) ∧
    ∀ asked name, ((Cache.empty.after asked).canonical name).1 = canonical name ∧
      (Cache.empty.after asked).size = asked.eraseDups.length := by
  refine ⟨fun name => ⟨canonical_canonical name, fun c hc hmem => ?_⟩,
    fun a b => canonical_eq_of_sameLetters_bare, canonical_append,
    fun asked name => ⟨Cache.canonical_fst _ name, Cache.size_after_empty asked⟩⟩
  rw [← isPunctuation_iff, not_isPunctuation_of_mem_canonical hmem] at hc
  exact Bool.noConfusion hc

/-- Two spellings of one name, in which the small letter `ß` becomes two capitals. -/
theorem canonical_normalForm_strasse :
    Text.sameLetters (bare "(Straße);".toList) (bare "sTRAßE,".toList) = true ∧
      canonical "(Straße);" = canonical "sTRAßE," ∧ canonical "(Straße);" = "STRASSE" := by
  have hsame : Text.sameLetters (bare "(Straße);".toList) (bare "sTRAßE,".toList) = true := by
    decide +kernel
  exact ⟨hsame, canonical_normalForm.2.1 _ _ hsame, by decide +kernel⟩

end Name
end ExpressSchema
