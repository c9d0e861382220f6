/-
# Capitals and letter case

Two notions of letter case meet in a schema.  Names are compared by their capitals, for which
every letter of Unicode counts and one letter may become several (`ß` becomes `SS`).  Keywords
are compared letter by letter, and there only the letters `A` to `Z` have two cases.
-/
import ExpressSchema.Text.CaseTable

namespace ExpressSchema
namespace Text

/-- The capital of a letter outside ASCII; a character without one is its own. -/
def wideCapital (c : Char) : List Char :=
  match longCapitals.lookup c.toNat with
  | some long => long.map Char.ofNat
  | none =>
    match capitalRuns.findSome? (·.capitalOf? c.toNat) with
    | some n => [Char.ofNat n]
    | none => [c]

/-- The capital of a character. -/
def capital (c : Char) : List Char :=
  if c.toNat < 128 then [c.toUpper] else wideCapital c

/-- A text in capitals, each character on its own. -/
def capitals (cs : List Char) : List Char :=
  cs.flatMap capital

@[simp] theorem capitals_nil : capitals [] = [] := rfl

@[simp] theorem capitals_append (cs ds : List Char) :
    capitals (cs ++ ds) = capitals cs ++ capitals ds := by
  simp [capitals]

/-- Whether a character is a small letter, that is, has the `Lowercase` property. -/
def isSmall (c : Char) : Bool :=
  if c.toNat < 128 then c.isLower else smallLetterRuns.any (·.contains c.toNat)

/-- Whether two texts differ at most in the case of the letters `A` to `Z`. -/
def sameLetters (cs ds : List Char) : Bool :=
  cs.map Char.toLower == ds.map Char.toLower

theorem sameLetters_iff {cs ds : List Char} :
    sameLetters cs ds = true ↔ cs.map Char.toLower = ds.map Char.toLower := by
  simp [sameLetters]

@[simp] theorem sameLetters_self (cs : List Char) : sameLetters cs cs = true := by
  simp [sameLetters]

/-- Outside ASCII no character is a capital with a small letter. -/
theorem toLower_eq_self_of_le {c : Char} (h : 128 ≤ c.toNat) : c.toLower = c := by
  have hupper : ¬ (c.val ≥ 'A'.val ∧ c.val ≤ 'Z'.val) := fun hz => by
    have hle : c.toNat ≤ 90 := UInt32.le_iff_toNat_le.1 hz.2
    omega
  exact dif_neg hupper

/-- What holds of the characters below 128 one by one holds of every ASCII character. -/
theorem forall_ascii {p : Char → Prop} (h : ∀ n < 128, p (Char.ofNat n)) {c : Char}
    (hc : c.toNat < 128) : p c := by
  have hp := h c.toNat hc
  rwa [Char.ofNat_toNat] at hp

/-- What holds between each character and itself, and between the ASCII characters and their small
letters, holds between each character and its small letter. -/
theorem rel_toLower {r : Char → Char → Prop} (hself : ∀ c, r c c)
    (hascii : ∀ n < 128, r (Char.ofNat n) (Char.ofNat n).toLower) (c : Char) : r c c.toLower := by
  rcases Nat.lt_or_ge c.toNat 128 with hlt | hge
  · exact forall_ascii (p := fun c => r c c.toLower) hascii hlt
  · rw [toLower_eq_self_of_le hge]
    exact hself c

end Text
end ExpressSchema
