/-
# Inheritance keeps a schema closed

The first two passes of resolution collect identifiers of attributes and inverses along chains of
supertypes, and mark attributes with inverses.  All of these are identifiers of what is there,
whatever has been resolved in the schema before.
-/
import ExpressSchema.Proofs.Closed.Basic
import ExpressSchema.Proofs.Resolution.Passes

namespace ExpressSchema
namespace Schema

variable {s : Schema}

/-! ## Inheritance -/

/-- No entity has more attributes or more inverses than there are words. -/
def SlotsFit (s : Schema) : Prop :=
  ∀ e ∈ s.entities.values, e.attributes.length ≤ UInt32.size ∧ e.inverses.length ≤ UInt32.size

instance (s : Schema) : Decidable s.SlotsFit :=
  inferInstanceAs (Decidable (∀ e ∈ s.entities.values, _))

section Reached

variable (h : s.Reached)
include h

/-- An own attribute stands in a slot, from which its identifier is made. -/
lemma Reached.exists_slot_of_mem_ownAttributes {entity : EntityId} {p : Attribute × AttributeId}
    (hp : p ∈ s.ownAttributes entity) : ∃ e slot, s.entityAt? entity = some e ∧
      e.attributes[slot]? = some p.1 ∧ p.2 = .ofNat entity slot := by
  unfold ownAttributes at hp
  cases he : s.entityAt? entity with
  | none => simp [he] at hp
  | some e =>
    rw [he] at hp
    obtain ⟨⟨a, slot⟩, hmem, rfl⟩ := List.mem_map.1 hp
    have hslot := List.mem_zipIdx_iff_getElem?.1 hmem
    refine ⟨e, slot, rfl, hslot, ?_⟩
    dsimp only
    rw [(h _ e he).ofNat_index (.inl (List.ne_nil_of_mem (List.mem_of_getElem? hslot)))]

lemma Reached.exists_slot_of_mem_ownInverses {entity : EntityId} {id : InverseId}
    (hid : id ∈ s.ownInverses entity) : ∃ e slot, s.entityAt? entity = some e ∧
      slot < e.inverses.length ∧ id = .ofNat entity slot := by
  unfold ownInverses at hid
  cases he : s.entityAt? entity with
  | none => simp [he] at hid
  | some e =>
    rw [he] at hid
    obtain ⟨slot, hmem, rfl⟩ := List.mem_map.1 hid
    have hslot : slot < e.inverses.length := List.mem_range.1 hmem
    refine ⟨e, slot, rfl, hslot, ?_⟩
    rw [(h _ e he).ofNat_index (.inr (List.ne_nil_of_length_pos (Nat.zero_lt_of_lt hslot)))]

lemma Reached.isSome_attributeAt?_of_mem_chain {entity : EntityId} {p : Attribute × AttributeId}
    (hp : p ∈ s.chainAttributes entity) : (s.attributeAt? p.2).isSome := by
  obtain ⟨member, -, hp⟩ := List.mem_flatMap.1 hp
  obtain ⟨e, slot, he, hslot, hid⟩ := h.exists_slot_of_mem_ownAttributes hp
  have hlt := (wordOf_le slot).trans_lt (List.getElem?_eq_some_iff.1 hslot).1
  simp [attributeAt?, hid, AttributeId.ofNat, he, hlt]

lemma Reached.isSome_inverseAt?_of_mem_own {entity : EntityId} {id : InverseId}
    (hid : id ∈ s.ownInverses entity) : (s.inverseAt? id).isSome := by
  obtain ⟨e, slot, he, hslot, rfl⟩ := h.exists_slot_of_mem_ownInverses hid
  simp [inverseAt?, InverseId.ofNat, he, (wordOf_le slot).trans_lt hslot]

lemma Reached.isSome_inverseAt?_of_mem_chain {entity : EntityId} {id : InverseId}
    (hid : id ∈ s.chainInverses entity) : (s.inverseAt? id).isSome := by
  obtain ⟨member, -, hid⟩ := List.mem_flatMap.1 hid
  exact h.isSome_inverseAt?_of_mem_own hid

/-- The identifiers of own attributes lead to them, as long as there are words for all slots. -/
lemma Reached.attributeAt?_of_mem_own (hfits : s.SlotsFit) {entity : EntityId}
    {p : Attribute × AttributeId} (hp : p ∈ s.ownAttributes entity) :
    s.attributeAt? p.2 = some p.1 := by
  obtain ⟨e, slot, he, hslot, hid⟩ := h.exists_slot_of_mem_ownAttributes hp
  have hmem : e ∈ s.entities.values := by
    rw [entityAt?, Table.at?_eq_getElem?] at he
    exact List.mem_of_getElem? he
  have hlt := (List.getElem?_eq_some_iff.1 hslot).1.trans_le (hfits e hmem).1
  rw [attributeAt?, hid, AttributeId.ofNat, he, Option.bind_some, wordOf_of_lt hlt, hslot]

lemma Reached.attributeAt?_of_mem_chain (hfits : s.SlotsFit) {entity : EntityId}
    {p : Attribute × AttributeId} (hp : p ∈ s.chainAttributes entity) :
    s.attributeAt? p.2 = some p.1 := by
  obtain ⟨member, -, hp⟩ := List.mem_flatMap.1 hp
  exact h.attributeAt?_of_mem_own hfits hp

end Reached

lemma isSome_entityAt?_iff {id : EntityId} :
    (s.entityAt? id).isSome ↔ id.index < s.entities.size := by
  simp [entityAt?, Table.at?, Table.entryAt?, Table.size]

/-- An entity that is listed stands at its place. -/
lemma exists_of_mem_entityIds {id : EntityId} (h : id ∈ s.entityIds) :
    ∃ e, s.entityAt? id = some e := by
  obtain ⟨i, hi, rfl⟩ := List.mem_map.1 h
  exact Option.isSome_iff_exists.1 (isSome_entityAt?_iff.2 (List.mem_range.1 hi))

/-- What the index gives is the identifier of an attribute with the name that stands in the key,
inherited or not by an entity whose canonical name stands there too. -/
lemma exists_mem_of_index {key : String} {target : AttributeId}
    (h : (AttributeIndex.ofSchema s).get? key = some target) :
    ∃ id e a, s.entityAt? id = some e ∧ (a, target) ∈ s.chainAttributes id ∧
      key = attributeKey e.key a.name := by
  obtain ⟨entry, hentry, rfl⟩ := Option.map_eq_some_iff.1 h
  have hkey := of_decide_eq_true (List.find?_some hentry :)
  obtain ⟨entity, hentity, hmem⟩ :=
    List.mem_flatMap.1 (List.mem_reverse.1 (List.mem_of_find?_eq_some hentry))
  obtain ⟨p, hp, rfl⟩ := List.mem_map.1 hmem
  obtain ⟨e, he⟩ := exists_of_mem_entityIds hentity
  refine ⟨entity, e, p.1, he, hp, ?_⟩
  rw [← hkey, he, Option.map_some, Option.getD_some]

lemma Reached.exists_of_index (hs : s.Reached) (hfits : s.SlotsFit) {key : String}
    {target : AttributeId} (h : (AttributeIndex.ofSchema s).get? key = some target) :
    ∃ id e a, s.entityAt? id = some e ∧ s.attributeAt? target = some a ∧
      key = attributeKey e.key a.name := by
  obtain ⟨id, e, a, he, hmem, hkey⟩ := exists_mem_of_index h
  exact ⟨id, e, a, he, hs.attributeAt?_of_mem_chain hfits hmem, hkey⟩

lemma grows_reportAll (s : Schema) (ps : List Problem) : s.Grows (s.reportAll ps) :=
  ⟨⟨le_rfl, le_rfl, le_rfl⟩, fun _ => id, fun _ => id, le_rfl, fun _ => id⟩

lemma Closed.reportAll (hs : s.Closed) (ps : List Problem) : (s.reportAll ps).Closed :=
  hs.congr rfl rfl rfl rfl rfl

lemma grows_collectAttributes (s : Schema) : s.Grows s.collectAttributes :=
  s.grows_mapEntities fun _ _ => ⟨le_rfl, le_rfl⟩

lemma Closed.collectAttributes (hs : s.Closed) : s.collectAttributes.Closed := by
  refine hs.mapEntities (fun _ _ => ⟨le_rfl, le_rfl⟩) fun id e _ he =>
    { he with allAttributes := ?_ }
  intro a ha
  obtain ⟨p, hp, rfl⟩ := List.mem_map.1 ha
  exact s.grows_collectAttributes.attributeAt _ (hs.reached.isSome_attributeAt?_of_mem_chain hp)

lemma grows_collectInverses (s : Schema) : s.Grows s.collectInverses :=
  s.grows_mapEntities fun _ _ => ⟨le_rfl, le_rfl⟩

lemma Closed.collectInverses (hs : s.Closed) : s.collectInverses.Closed := by
  refine hs.mapEntities (fun _ _ => ⟨le_rfl, le_rfl⟩) fun id e _ he =>
    { he with allInverses := ?_ }
  intro i hi
  exact s.grows_collectInverses.inverseAt i (hs.reached.isSome_inverseAt?_of_mem_chain hi)

lemma grows_inheritAttributes (s : Schema) : s.Grows s.inheritAttributes :=
  (s.grows_reportAll _).trans (grows_collectAttributes _)

lemma Closed.inheritAttributes (hs : s.Closed) : s.inheritAttributes.Closed :=
  (hs.reportAll _).collectAttributes

/-! ## Forward attributes -/

lemma grows_modifyAttribute (s : Schema) (id : AttributeId) (f : Attribute → Attribute) :
    s.Grows (s.modifyAttribute id f) :=
  s.grows_modifyEntity _ fun _ => ⟨(List.length_modify ..).ge, le_rfl⟩

lemma grows_modifyInverse (s : Schema) (id : InverseId) (f : Inverse → Inverse) :
    s.Grows (s.modifyInverse id f) :=
  s.grows_modifyEntity _ fun _ => ⟨le_rfl, (List.length_modify ..).ge⟩

end Schema

/-- What a list holds after a change at one place was there or is what the change made. -/
lemma List.mem_modify {α : Type} {l : List α} {i : Nat} {f : α → α} {a : α}
    (h : a ∈ l.modify i f) : a ∈ l ∨ ∃ b ∈ l, a = f b := by
  obtain ⟨j, hj⟩ := List.getElem?_of_mem h
  rw [List.getElem?_modify] at hj
  obtain ⟨b, hb, hba⟩ := Option.map_eq_some_iff.1 hj
  have hmem := List.mem_of_getElem? hb
  split_ifs at hba
  · exact .inr ⟨b, hmem, hba.symm⟩
  · exact .inl (hba ▸ hmem)

namespace Schema

variable {s : Schema}

/-- Marking an attribute with an inverse that is there. -/
lemma Closed.markInverted (hs : s.Closed) (target : AttributeId) {id : InverseId}
    (hid : (s.inverseAt? id).isSome) (inverse : Inverse) :
    (s.modifyAttribute target (·.markInverted id inverse)).Closed := by
  have hg := s.grows_modifyAttribute target (·.markInverted id inverse)
  refine hs.modifyEntity (fun _ => ⟨(List.length_modify ..).ge, le_rfl⟩) fun e he =>
    { he with
      reached := fun hlarge => ⟨by simp [(he.reached hlarge).1], (he.reached hlarge).2⟩
      attribute_owner := ?_
      invertedBy := ?_ }
  · intro a ha
    rcases List.mem_modify ha with ha | ⟨b, hb, rfl⟩
    · exact he.attribute_owner a ha
    · exact he.attribute_owner b hb
  · intro a ha i hi
    rcases List.mem_modify ha with ha | ⟨b, hb, rfl⟩
    · exact he.invertedBy a ha i hi
    · obtain rfl := Option.some.inj hi
      exact hg.inverseAt _ hid

lemma Closed.setUnique (hs : s.Closed) (id : InverseId) (isUnique : Bool) :
    (s.modifyInverse id fun i => { i with isUnique := isUnique }).Closed := by
  refine hs.modifyEntity (fun _ => ⟨le_rfl, (List.length_modify ..).ge⟩) fun e he =>
    { he with
      reached := fun hlarge => ⟨(he.reached hlarge).1, by simp [(he.reached hlarge).2]⟩
      inverse_owner := ?_
      property := ?_ }
  · intro i hi
    rcases List.mem_modify hi with hi | ⟨j, hj, rfl⟩
    · exact he.inverse_owner i hi
    · exact he.inverse_owner j hj
  · intro i hi p hp
    rcases List.mem_modify hi with hi | ⟨j, hj, rfl⟩
    · exact he.property i hi p hp
    · exact he.property j hj p hp

lemma grows_markForward (index : AttributeIndex) (s : Schema) (id : InverseId) :
    s.Grows (s.markForward index id) := by
  unfold markForward
  cases s.inverseAt? id with
  | none => exact .refl s
  | some inverse =>
    dsimp only
    cases index.get? inverse.forwardKey with
    | none => exact s.grows_modifyInverse _ _
    | some target => exact (s.grows_modifyAttribute _ _).trans (grows_modifyInverse _ _ _)

lemma Closed.markForward (hs : s.Closed) (index : AttributeIndex) (id : InverseId) :
    (s.markForward index id).Closed := by
  unfold Schema.markForward
  cases h : s.inverseAt? id with
  | none => exact hs
  | some inverse =>
    have hid : (s.inverseAt? id).isSome := by simp [h]
    dsimp only
    cases index.get? inverse.forwardKey with
    -- without a forward attribute the inverse is marked only, and else both are
    | none => exact hs.setUnique id false
    | some target => exact (hs.markInverted target hid inverse).setUnique id _

lemma grows_foldl_markForward (index : AttributeIndex) (ids : List InverseId) (s : Schema) :
    s.Grows (ids.foldl (Schema.markForward index) s) := by
  induction ids generalizing s with
  | nil => exact .refl s
  | cons id ids ih => exact (grows_markForward index s id).trans (ih _)

lemma Closed.foldl_markForward (hs : s.Closed) (index : AttributeIndex) (ids : List InverseId) :
    (ids.foldl (Schema.markForward index) s).Closed := by
  induction ids generalizing s with
  | nil => exact hs
  | cons id ids ih => exact ih (hs.markForward index id)

lemma Closed.inherit (hs : s.Closed) : s.inherit.Closed :=
  ((hs.inheritAttributes.foldl_markForward _ _).collectInverses).congr rfl rfl rfl rfl rfl

end Schema
end ExpressSchema
