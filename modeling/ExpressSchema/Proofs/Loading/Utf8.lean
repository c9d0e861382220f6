/-
# Lines of bytes

In UTF-8 a line feed and a carriage return are single bytes, and no other character has one of
these bytes in it.  So the bytes of a text fall into the bytes of its lines, and if each of the
lines of a sequence of bytes is the encoding of some text, then so is the whole.
-/
import ExpressSchema.Load
import Mathlib.Tactic.Common

namespace ExpressSchema
namespace Text

/-- A text in UTF-8. -/
def utf8 (cs : List Char) : List UInt8 := cs.flatMap String.utf8EncodeChar

@[simp] lemma utf8_nil : utf8 [] = [] := rfl

@[simp] lemma utf8_cons (c : Char) (cs : List Char) :
    utf8 (c :: cs) = String.utf8EncodeChar c ++ utf8 cs := by
  simp [utf8]

@[simp] lemma utf8_append (cs ds : List Char) : utf8 (cs ++ ds) = utf8 cs ++ utf8 ds := by
  simp [utf8]

/-- A character of ASCII is a byte, and any other one is made of bytes outside ASCII. -/
lemma utf8EncodeChar_cases (c : Char) :
    String.utf8EncodeChar c = [UInt8.ofNat c.toNat] ∧ c.toNat < 128 ∨
      ∀ b ∈ String.utf8EncodeChar c, 128 ≤ b.toNat := by
  by_cases h : c.toNat < 128
  · refine .inl ⟨?_, h⟩
    have hle : c.val.toNat ≤ 127 := Nat.le_of_lt_succ h
    rw [String.utf8EncodeChar, if_pos hle]
    rfl
  · refine .inr ?_
    have hle : ¬ c.val.toNat ≤ 127 := fun hle => h (Nat.lt_succ_of_le hle)
    simp only [String.utf8EncodeChar, hle, if_false]
    split_ifs <;> simp only [List.mem_cons, List.not_mem_nil, or_false] <;>
      rintro b hb <;> rcases hb with rfl | rfl | rfl | rfl <;> simp <;> omega

/-- A byte of ASCII in the encoding of a character is the whole of it. -/
lemma utf8EncodeChar_of_mem {c d : Char} (hd : d.toNat < 128)
    (h : UInt8.ofNat d.toNat ∈ String.utf8EncodeChar c) : c = d := by
  rcases utf8EncodeChar_cases c with ⟨hc, hlt⟩ | hc
  · rw [hc, List.mem_singleton] at h
    have hnat := congrArg UInt8.toNat h
    simp only [UInt8.toNat_ofNat'] at hnat
    apply Char.ext
    apply UInt32.toNat_inj.1
    change c.toNat = d.toNat
    omega
  · have := hc _ h
    simp only [UInt8.toNat_ofNat'] at this
    omega

/-! ## Splitting -/

lemma splitOn_append_of_notMem {α : Type} [BEq α] [LawfulBEq α] {a : α} {xs : List α}
    (h : a ∉ xs) (ys : List α) :
    (xs ++ ys).splitOn a = (ys.splitOn a).modifyHead (xs ++ ·) := by
  induction xs with
  | nil =>
    rw [List.nil_append]
    cases ys.splitOn a <;> rfl
  | cons x xs ih =>
    obtain ⟨hx, hxs⟩ := List.ne_and_not_mem_of_not_mem_cons h
    have hbeq : (x == a) = false := beq_eq_false_iff_ne.2 fun heq => hx heq.symm
    rw [List.cons_append, List.splitOn_cons_eq_if_modifyHead, hbeq, ih hxs]
    cases ys.splitOn a <;> simp

/-- The parts between separators are made of what else there is. -/
lemma mem_of_mem_splitOn {α : Type} [BEq α] [LawfulBEq α] {a b : α} {xs part : List α}
    (h : part ∈ xs.splitOn a) (hb : b ∈ part) : b ∈ xs ∧ b ≠ a := by
  induction xs generalizing part with
  | nil =>
    rw [List.mem_singleton.1 h] at hb
    exact absurd hb List.not_mem_nil
  | cons x xs ih =>
    have htail : ∀ {part}, part ∈ xs.splitOn a → b ∈ part → b ∈ x :: xs ∧ b ≠ a :=
      fun h hb => (ih h hb).imp_left (List.mem_cons_of_mem x)
    rw [List.splitOn_cons_eq_if_modifyHead] at h
    split_ifs at h with hx
    · rcases List.mem_cons.1 h with rfl | h
      · exact absurd hb List.not_mem_nil
      · exact htail h hb
    · have hne : xs.splitOn a ≠ [] := List.splitOn_ne_nil _ _
      obtain ⟨first, others, hsplit⟩ := List.exists_cons_of_ne_nil hne
      rw [hsplit] at htail
      rw [hsplit, List.modifyHead_cons] at h
      rcases List.mem_cons.1 h with rfl | h
      · rcases List.mem_cons.1 hb with rfl | hb
        · exact ⟨List.mem_cons_self, fun heq => hx (beq_iff_eq.2 heq)⟩
        · exact htail List.mem_cons_self hb
      · exact htail (List.mem_cons_of_mem first h) hb

/-- The lines of the bytes of a text are the bytes of its lines. -/
lemma splitOn_utf8 (cs : List Char) :
    (utf8 cs).splitOn ByteStream.lineFeed = (cs.splitOn '\n').map utf8 := by
  induction cs with
  | nil => rfl
  | cons c cs ih =>
    rw [List.splitOn_cons_eq_if_modifyHead]
    by_cases hc : c = '\n'
    · subst hc
      have hfeed : String.utf8EncodeChar '\n' = [ByteStream.lineFeed] := by decide
      rw [utf8_cons, hfeed, List.singleton_append, List.splitOn_cons_eq_if_modifyHead]
      simp [ih]
    -- no byte of another character is a line feed, so that its bytes stay together
    · have hnot : ByteStream.lineFeed ∉ String.utf8EncodeChar c := fun h =>
        hc (utf8EncodeChar_of_mem (d := '\n') (by decide) h)
      rw [utf8_cons, splitOn_append_of_notMem hnot, ih, if_neg (by simpa using hc)]
      cases cs.splitOn '\n' <;> simp

/-- Lines of bytes that are all text make up a text. -/
lemma exists_utf8_of_splitOn {bytes : List UInt8}
    (h : ∀ part ∈ bytes.splitOn ByteStream.lineFeed, ∃ cs, part = utf8 cs) :
    ∃ cs, bytes = utf8 cs := by
  have key : ∀ parts : List (List UInt8), (∀ part ∈ parts, ∃ cs, part = utf8 cs) →
      ∃ cs, [ByteStream.lineFeed].intercalate parts = utf8 cs := by
    intro parts
    induction parts with
    | nil => exact fun _ => ⟨[], rfl⟩
    | cons part parts ih =>
      intro hparts
      obtain ⟨cs, rfl⟩ := hparts part List.mem_cons_self
      obtain ⟨ds, hds⟩ := ih fun q hq => hparts q (List.mem_cons_of_mem _ hq)
      cases parts with
      | nil => exact ⟨cs, by simp⟩
      | cons part' parts =>
        refine ⟨cs ++ '\n' :: ds, ?_⟩
        have hfeed : String.utf8EncodeChar '\n' = [ByteStream.lineFeed] := by decide
        rw [List.intercalate_cons_cons, hds, utf8_append, utf8_cons, hfeed, List.append_assoc]
  obtain ⟨cs, hcs⟩ := key _ h
  exact ⟨cs, by rw [← hcs, List.intercalate_splitOn]⟩

/-- The carriage return at the end of a text is the one at the end of its bytes. -/
lemma dropEnd_utf8 (cs : List Char) :
    dropEnd (utf8 cs) ByteStream.carriageReturn = utf8 (dropEnd cs '\r') := by
  rcases List.eq_nil_or_concat cs with rfl | ⟨ds, c, rfl⟩
  · rfl
  · rw [List.concat_eq_append]
    by_cases hc : c = '\r'
    · subst hc
      have hreturn : utf8 ['\r'] = [ByteStream.carriageReturn] := by decide
      rw [utf8_append, hreturn, dropEnd_append, dropEnd_append]
    · have hds : endsWith (ds ++ [c]) '\r' = false := by simp [endsWith, hc]
      have hbytes : endsWith (utf8 (ds ++ [c])) ByteStream.carriageReturn = false := by
        rw [endsWith, decide_eq_false_iff_not, utf8_append, utf8_cons, utf8_nil, List.append_nil,
          List.getLast?_append, List.getLast?_eq_some_getLast String.utf8EncodeChar_ne_nil,
          Option.some_or, ← List.getLast?_eq_some_getLast]
        exact fun hlast => hc (utf8EncodeChar_of_mem (d := '\r') (by decide)
          (List.mem_of_getLast? hlast))
      rw [dropEnd_of_not_endsWith hds, dropEnd_of_not_endsWith hbytes]

/-- Bytes that are text without a carriage return at their end are text. -/
lemma exists_utf8_of_dropEnd {bytes : List UInt8} {cs : List Char}
    (h : dropEnd bytes ByteStream.carriageReturn = utf8 cs) : ∃ ds, bytes = utf8 ds := by
  cases hend : endsWith bytes ByteStream.carriageReturn with
  | false => exact ⟨cs, by rw [← h, dropEnd_of_not_endsWith hend]⟩
  | true =>
    have hlast : bytes.getLast? = some ByteStream.carriageReturn := by simpa [endsWith] using hend
    obtain ⟨front, rfl⟩ := List.getLast?_eq_some_iff.1 hlast
    rw [dropEnd_append] at h
    have hreturn : utf8 ['\r'] = [ByteStream.carriageReturn] := by decide
    exact ⟨cs ++ ['\r'], by rw [h, utf8_append, hreturn]⟩

end Text

/-! ## Decoding -/

namespace ByteStream

/-- The error for bytes that are no text. -/
def noText : SchemaError := .notUtf8 "stream did not contain valid UTF-8"

lemma mk_utf8 (cs : List Char) : (⟨(Text.utf8 cs).toArray⟩ : ByteArray) = cs.utf8Encode := by
  apply ByteArray.ext
  rw [List.utf8Encode, List.data_toByteArray]
  rfl

lemma fromUTF8?_utf8 (cs : List Char) :
    String.fromUTF8? ⟨(Text.utf8 cs).toArray⟩ = some (String.ofList cs) := by
  have hvalid : (⟨(Text.utf8 cs).toArray⟩ : ByteArray).IsValidUTF8 := ⟨cs, mk_utf8 cs⟩
  rw [String.fromUTF8?, dif_pos hvalid, Option.some.injEq, ← String.toByteArray_inj]
  exact mk_utf8 cs

lemma eq_utf8_of_fromUTF8? {bytes : List UInt8} {text : String}
    (h : String.fromUTF8? ⟨bytes.toArray⟩ = some text) : bytes = Text.utf8 text.toList := by
  rw [String.fromUTF8?] at h
  split_ifs at h
  have hbytes : (⟨bytes.toArray⟩ : ByteArray) = ⟨(Text.utf8 text.toList).toArray⟩ := by
    rw [mk_utf8, String.utf8Encode_toList, ← Option.some.inj h]
    rfl
  simpa using congrArg ByteArray.data hbytes

lemma decode_utf8 (cs : List Char) : decode (Text.utf8 cs) = .ok cs := by
  rw [decode, fromUTF8?_utf8]
  simp

/-- Bytes are text, or they are told to be none. -/
lemma decode_cases (bytes : List UInt8) :
    (∃ cs, bytes = Text.utf8 cs) ∨ decode bytes = .error noText := by
  cases h : String.fromUTF8? ⟨bytes.toArray⟩ with
  | some text => exact .inl ⟨_, eq_utf8_of_fromUTF8? h⟩
  | none => exact .inr (by rw [decode, h]; rfl)

end ByteStream
end ExpressSchema
