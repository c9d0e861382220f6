/-
# Ranges as read

An attribute is read with its range, and all that is said of it later is that it is unique.  So
what every finished draft has in common, every attribute that is read has: it knows the built-in
type that its range names, if it names one, and the canonical name of its range.  A type that is
read never stands for an entity.
-/
import ExpressSchema.Proofs.Reading.Loaded
import ExpressSchema.Proofs.Resolution.Declared

namespace ExpressSchema
namespace Schema

/-! ## All attributes -/

section Attributes

variable {P : Attribute → Prop} {s t : Schema}

lemma forall_attributes_modifyEntity (h : ∀ a ∈ s.declaredAttributes, P a) (id : EntityId)
    {f : Entity → Entity}
    (hf : ∀ e, (∀ a ∈ e.attributes, P a) → ∀ a ∈ (f e).attributes, P a) :
    ∀ a ∈ (s.modifyEntity id f).declaredAttributes, P a := by
  intro a ha
  obtain ⟨e, he, ha⟩ := List.mem_flatMap.1 ha
  have hread : ∀ e ∈ s.entities.values, ∀ a ∈ e.attributes, P a :=
    fun e he a ha => h a (List.mem_flatMap.2 ⟨e, he, ha⟩)
  rcases Table.mem_values_modifyAt he with he | ⟨e', he', rfl⟩
  · exact hread e he a ha
  · exact hf e' (hread e' he') a ha

variable (hfinish : ∀ (draft : AttributeDraft) owner range, P (draft.finish owner range))
  (hunique : ∀ a, P a → P { a with isUnique := true })
include hfinish hunique

lemma Edit.forall_attributes (h : Edit s t) (hs : ∀ a ∈ s.declaredAttributes, P a) :
    ∀ a ∈ t.declaredAttributes, P a := by
  cases h with
  | declareEntity name =>
    intro a ha
    obtain ⟨e, he, ha⟩ := List.mem_flatMap.1 ha
    rcases Table.mem_values_findOrInsert he with he | rfl
    · exact hs a (List.mem_flatMap.2 ⟨e, he, ha⟩)
    · exact absurd ha List.not_mem_nil
  | setAbstract | setSupertype | setSubtypes | addInverse =>
    exact forall_attributes_modifyEntity hs _ fun _ he => he
  | addAttribute entity draft range =>
    refine forall_attributes_modifyEntity hs _ fun e he a ha => ?_
    rcases List.mem_append.1 ha with ha | ha
    · exact he a ha
    · rw [List.mem_singleton.1 ha]
      exact hfinish draft entity range
  | markUnique entity name =>
    refine forall_attributes_modifyEntity hs _ fun e he a ha => ?_
    obtain ⟨b, hb, rfl⟩ := List.mem_map.1 ha
    split_ifs
    · exact hunique b (he b hb)
    · exact he b hb
  | _ => exact hs

/-- What holds of every finished draft, unique or not, holds of all attributes that are read. -/
lemma Edits.forall_attributes (h : Edits s t) (hs : ∀ a ∈ s.declaredAttributes, P a) :
    ∀ a ∈ t.declaredAttributes, P a := by
  induction h with
  | refl => exact hs
  | tail _ hedit ih => exact hedit.forall_attributes hfinish hunique ih

end Attributes

/-! ## All types -/

lemma Edit.underlying_ne_entity {s t : Schema} (h : Edit s t)
    (hs : ∀ x ∈ s.types.values, x.underlying ≠ .entity) :
    ∀ x ∈ t.types.values, x.underlying ≠ .entity := by
  intro x hx
  cases h with
  | declareType name =>
    rcases Table.mem_values_findOrInsert hx with hx | rfl
    · exact hs x hx
    · exact UnderlyingType.noConfusion
  | settleType type underlying hne =>
    rcases Table.mem_values_modifyAt hx with hx | ⟨y, -, rfl⟩
    · exact hs x hx
    · exact hne
  | addMembers | addValues =>
    rcases Table.mem_values_modifyAt hx with hx | ⟨y, hy, rfl⟩
    · exact hs x hx
    · exact hs y hy
  | _ => exact hs x hx

lemma Edits.underlying_ne_entity {s t : Schema} (h : Edits s t)
    (hs : ∀ x ∈ s.types.values, x.underlying ≠ .entity) :
    ∀ x ∈ t.types.values, x.underlying ≠ .entity := by
  induction h with
  | refl => exact hs
  | tail _ hedit ih => exact hedit.underlying_ne_entity ih

end Schema

/-! ## The range of an attribute -/

namespace Builtin

/-- No letter of a keyword is punctuation or a digit, in either case. -/
lemma clings_eq_false_of_toLower_mem {b : Builtin} {c : Char}
    (h : c.toLower ∈ b.keyword.toList.map Char.toLower) :
    Name.isPunctuation c = false ∧ c.isDigit = false := by
  rw [← Bool.or_eq_false_iff, Bool.eq_false_iff]
  intro hclings
  -- punctuation and digits are in ASCII, where all of them can be tried
  have key : ∀ n < 128, (Name.isPunctuation (Char.ofNat n) || (Char.ofNat n).isDigit) = true →
      ∀ b ∈ all, (Char.ofNat n).toLower ∉ b.keyword.toList.map Char.toLower := by
    decide +kernel
  have hascii : c.toNat < 128 := by
    rcases Bool.or_eq_true_iff.1 hclings with hc | hc
    · simp only [Name.isPunctuation, Bool.or_eq_true, beq_iff_eq] at hc
      rcases hc with ((rfl | rfl) | rfl) | rfl <;> decide
    · simp only [Char.isDigit, Bool.and_eq_true, decide_eq_true_eq] at hc
      exact lt_of_le_of_lt hc.2 (by decide)
  rw [← Char.ofNat_toNat c] at h hclings
  exact key c.toNat hascii hclings b (mem_all b) h

/-- A text that names no built-in type with its punctuation and digits is no keyword either. -/
lemma ofKeyword?_eq_none {cs : List Char} (h : ofText? cs = none) : ofKeyword? cs = none := by
  cases hb : ofKeyword? cs with
  | none => rfl
  | some b =>
    rw [ofKeyword?] at hb
    have hfound := List.find?_some hb
    have hsame := Text.sameLetters_iff.1 hfound
    have hbare : Name.bareKeyword cs = cs := by
      refine List.filter_eq_self.2 fun c hc => ?_
      have hletter : c.toLower ∈ b.keyword.toList.map Char.toLower :=
        hsame ▸ List.mem_map_of_mem hc
      obtain ⟨hpunctuation, hdigit⟩ := clings_eq_false_of_toLower_mem hletter
      rw [hpunctuation, hdigit]
      rfl
    rw [ofText?, hbare, ofKeyword?, hb] at h
    cases h

lemma canonical_keyword (b : Builtin) : Name.canonical b.keyword = b.keyword := by
  cases b <;> decide +kernel

end Builtin

/-- What an attribute knows of its range: its canonical name, and the built-in type of this
name. -/
structure Attribute.KnowsRange (a : Attribute) : Prop where
  rangeKey : a.rangeKey = Name.canonical a.range
  builtin : a.builtin = Builtin.ofKeyword? a.range.toList

lemma AttributeDraft.knowsRange_finish (draft : AttributeDraft) (owner : EntityId)
    (range : List Char) : (draft.finish owner range).KnowsRange := by
  unfold finish
  cases h : Builtin.ofText? range with
  | some b => exact ⟨b.canonical_keyword.symm, b.ofKeyword?_keyword.symm⟩
  | none =>
    refine ⟨rfl, ?_⟩
    have hnone := Builtin.ofKeyword?_eq_none h
    simpa [Attribute.ofRange] using hnone.symm

/-- What reading says of ranges and of types: every attribute knows its range, and no type stands
for an entity. -/
structure Schema.KnowsRanges (s : Schema) : Prop where
  attributes : ∀ a ∈ s.declaredAttributes, a.KnowsRange
  types : ∀ t ∈ s.types.values, t.underlying ≠ .entity

lemma Schema.Edits.knowsRanges {s t : Schema} (h : Edits s t) (hs : s.KnowsRanges) :
    t.KnowsRanges where
  attributes := h.forall_attributes AttributeDraft.knowsRange_finish
    (fun _ ha => ⟨ha.rangeKey, ha.builtin⟩) hs.attributes
  types := h.underlying_ne_entity hs.types

/-- Whatever is read, its ranges are known. -/
theorem Load.knowsRanges (builtins : Catalogue) (strips : Bool) (lines : List (List Char)) :
    (Load.lines ⟨false, strips⟩ builtins lines).schema.KnowsRanges :=
  (edits_lines builtins strips lines).knowsRanges
    ⟨fun _ ha => absurd ha List.not_mem_nil, fun _ ht => absurd ht List.not_mem_nil⟩

end ExpressSchema
