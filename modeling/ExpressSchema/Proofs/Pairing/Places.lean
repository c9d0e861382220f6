/-
# Inverses and attributes by their places

What an inverse runs against can be told from the schema as it was read: it is the attribute at
`forwardPlace?`, found by the names that attributes get within the schema.  If these names tell
everything apart (`NamesApart`), the properties that are made are fit for pairing, and what an
inverse claims among them is the property of that attribute.
-/
import ExpressSchema.Proofs.Pairing.Invariant
import ExpressSchema.Proofs.Resolution.MadeProperties
import Mathlib.Data.List.Count

namespace ExpressSchema

namespace Schema

/-- The place among all attributes of the attribute against which an inverse runs: the one whose
name within the schema is that of the forward attribute as written, or else the one of that
attribute of the entity that the inverse leads to. -/
def forwardPlace? (s : Schema) (i : Inverse) : Option Nat :=
  (s.attributeNames.idxOf? i.forward).or
    (s.attributeNames.idxOf? (Name.qualified i.forward i.range))

/-- Whether the attribute at this place among all attributes may have several values. -/
def isCollectionPlace (s : Schema) (k : Nat) : Bool :=
  (s.declaredAttributes[k]?).any (·.aggregation.isCollection)

/-- The number of inverses that run against the attribute at this place. -/
def rivals (s : Schema) (k : Nat) : Nat :=
  s.declaredInverses.countP fun i => s.forwardPlace? i = some k

/-- The inverse at place `j` among all inverses is the only one that runs against the attribute at
place `k`, and this attribute has one value. -/
structure RunsAlone (s : Schema) (j k : Nat) : Prop where
  runs : (s.declaredInverses[j]?).bind s.forwardPlace? = some k
  single : s.isCollectionPlace k = false
  alone : ∀ l, (s.declaredInverses[l]?).bind s.forwardPlace? = some k → l = j

/-- The names that attributes and inverses get within the schema tell all of them apart, and no
inverse gives the name of an inverse for that of its forward attribute; there is an identifier for
the property of each of them. -/
structure NamesApart (s : Schema) : Prop where
  fits : s.PropertiesFit
  nodup : (s.inverseNames ++ s.attributeNames).Nodup
  forward_notMem : ∀ i ∈ s.declaredInverses, i.forward ∉ s.inverseNames
  qualified_notMem : ∀ i ∈ s.declaredInverses, Name.qualified i.forward i.range ∉ s.inverseNames

instance (s : Schema) : Decidable s.NamesApart :=
  decidable_of_iff
    (s.PropertiesFit ∧ (s.inverseNames ++ s.attributeNames).Nodup ∧
      ∀ i ∈ s.declaredInverses, i.forward ∉ s.inverseNames ∧
        Name.qualified i.forward i.range ∉ s.inverseNames)
    ⟨fun h => ⟨h.1, h.2.1, fun i hi => (h.2.2 i hi).1, fun i hi => (h.2.2 i hi).2⟩,
      fun h => ⟨h.fits, h.nodup, fun i hi => ⟨h.forward_notMem i hi, h.qualified_notMem i hi⟩⟩⟩

/-- The identifier of the property of the attribute at this place among all attributes. -/
def attributeProperty (s : Schema) (k : Nat) : PropertyId := ⟨s.declaredInverses.length + k⟩

lemma attributeProperty_injective (s : Schema) : Function.Injective s.attributeProperty := by
  intro k l h
  simpa [attributeProperty] using h

/-! ## Counting rivals -/

lemma sum_count_sub_one {α : Type} [DecidableEq α] (places : Finset α) (L : List α)
    (h : ∀ a ∈ L, a ∈ places) :
    ∑ a ∈ places, (L.count a - 1) + L.toFinset.card = L.length := by
  have hsub : L.toFinset ⊆ places := fun a ha => h a (List.mem_toFinset.1 ha)
  have hrest : ∀ a ∈ places, a ∉ L.toFinset → L.count a - 1 = 0 := by
    intro a _ ha
    rw [List.count_eq_zero_of_not_mem fun hL => ha (List.mem_toFinset.2 hL)]
  -- places without rivals add nothing, and each of the others is one more than what it adds
  rw [← Finset.sum_subset hsub hrest, Finset.card_eq_sum_ones, ← Finset.sum_add_distrib,
    ← List.sum_toFinset_count_eq_length]
  refine Finset.sum_congr rfl fun a ha => ?_
  have := List.count_pos_iff.2 (List.mem_toFinset.1 ha)
  omega

/-- The places of the attributes that inverses claim, in the order of the inverses. -/
def claimedPlaces (s : Schema) : List Nat :=
  s.declaredInverses.filterMap fun i =>
    (s.forwardPlace? i).filter fun k => !s.isCollectionPlace k

lemma count_claimedPlaces (s : Schema) (k : Nat) :
    s.claimedPlaces.count k = if s.isCollectionPlace k then 0 else s.rivals k := by
  rw [claimedPlaces, List.count_filterMap]
  cases hc : s.isCollectionPlace k with
  | true =>
    simp only [if_true, List.countP_eq_zero, beq_iff_eq, Option.filter_eq_some_iff]
    rintro i - ⟨-, hk⟩
    simp [hc] at hk
  | false =>
    refine List.countP_congr fun i _ => ?_
    simp [Option.filter_eq_some_iff, hc]

lemma lt_of_forwardPlace? {s : Schema} {i : Inverse} {k : Nat} (h : s.forwardPlace? i = some k) :
    k < s.declaredAttributes.length := by
  rw [← length_attributeNames]
  rcases Option.or_eq_some_iff.1 h with h | ⟨-, h⟩
  · exact (List.idxOf?_eq_some_iff.1 h).1
  · exact (List.idxOf?_eq_some_iff.1 h).1

lemma sum_rivals (s : Schema) :
    ∑ k ∈ Finset.range s.declaredAttributes.length,
        (if s.isCollectionPlace k then 0 else s.rivals k - 1) +
      s.claimedPlaces.toFinset.card = s.claimedPlaces.length := by
  rw [← sum_count_sub_one (Finset.range s.declaredAttributes.length)]
  · congr 1
    refine Finset.sum_congr rfl fun k _ => ?_
    rw [count_claimedPlaces]
    cases s.isCollectionPlace k <;> simp
  · intro k hk
    obtain ⟨i, -, hi⟩ := List.mem_filterMap.1 hk
    exact Finset.mem_range.2 (lt_of_forwardPlace? (Option.filter_eq_some_iff.1 hi).1)

/-! ## The properties before pairing -/

/-- The inverse at a place among all inverses, as it waits to be paired. -/
def pendingAt (k : Nat) (i : Inverse) : PendingInverse := ⟨⟨k⟩, i.forward, i.range⟩

section Made

variable (s : Schema)

/-- The properties that are made of attributes and inverses. -/
def madeTable : PropertyTable := PropertyTable.insertAll {} s.madeProperties

/-- The inverses of the schema as they wait to be paired. -/
def madePending : List PendingInverse := s.declaredInverses.mapIdx pendingAt

variable {s} in
/-- If they have identifiers, the inverses wait in the order of their properties. -/
lemma pendingInverses_eq_madePending (hp : s.properties = {}) (hfits : s.PropertiesFit) :
    s.makeProperties.pendingInverses = s.madePending := by
  rw [pendingInverses_makeProperties hp, madePending]
  refine List.ext_getElem (by simp) fun k hk _ => ?_
  rw [List.length_mapIdx] at hk
  simp only [List.getElem_mapIdx, pendingAt, hfits.ofNat_eq hk]

variable {s} in
/-- The inverses are paired in the order of their properties, as these are made. -/
lemma pairing_makeProperties (hp : s.properties = {}) (hfits : s.PropertiesFit) :
    s.makeProperties.pairing = s.madePending.foldl Pairing.step { properties := s.madeTable } := by
  rw [pairing, pendingInverses_eq_madePending hp hfits, properties_makeProperties hp]
  rfl

variable {s} in
lemma PropertiesFit.length_madeProperties_le (h : s.PropertiesFit) :
    s.madeProperties.length ≤ UInt32.size := by
  rwa [length_madeProperties]

lemma nameAt?_madeTable (id : PropertyId) :
    s.madeTable.nameAt? id = (s.inverseNames ++ s.attributeNames)[id.index]? := by
  rw [PropertyTable.nameAt?, PropertyTable.byId?, madeTable, PropertyTable.arena_insertAll,
    List.nil_append, ← List.getElem?_map, map_name_madeProperties]

lemma isCollectionAt_madeTable (k : Nat) :
    s.madeTable.isCollectionAt (s.attributeProperty k) = s.isCollectionPlace k := by
  have h := congrArg (Option.any (·.isCollection)) (s.getElem?_madeProperties k)
  rw [PropertyTable.isCollectionAt, PropertyTable.byId?, madeTable,
    PropertyTable.arena_insertAll, List.nil_append]
  simpa [Option.any_map, Function.comp_def, isCollectionPlace, attributeProperty,
    Property.isCollection] using h

variable {s} in
lemma pendingAt_mem_madePending {j : Nat} {i : Inverse} (h : s.declaredInverses[j]? = some i) :
    pendingAt j i ∈ s.madePending := by
  obtain ⟨hlt, rfl⟩ := List.getElem?_eq_some_iff.1 h
  exact List.mem_mapIdx.2 ⟨j, hlt, rfl⟩

lemma nameAt?_inverse_mem {p : PendingInverse} (hp : p ∈ s.madePending) :
    ∃ name ∈ s.inverseNames, s.madeTable.nameAt? p.own = some name := by
  obtain ⟨j, hj, rfl⟩ := List.mem_mapIdx.1 hp
  rw [← length_inverseNames] at hj
  refine ⟨s.inverseNames[j], List.getElem_mem hj, ?_⟩
  rw [nameAt?_madeTable, pendingAt, List.getElem?_append_left hj, List.getElem?_eq_getElem hj]

variable {s}

/-- A name that is not that of an inverse is not that of the property of an inverse. -/
lemma nameAt?_own_ne {name : String} (h : name ∉ s.inverseNames) {p : PendingInverse}
    (hp : p ∈ s.madePending) : s.madeTable.nameAt? p.own ≠ some name := by
  intro hname
  obtain ⟨other, hmem, hother⟩ := s.nameAt?_inverse_mem hp
  rw [Option.some.inj (hother.symm.trans hname)] at hmem
  exact h hmem

/-- A property whose name is not that of an inverse is that of an attribute. -/
lemma exists_place_of_nameAt? {name : String} {id : PropertyId} (hname : name ∉ s.inverseNames)
    (hid : s.madeTable.nameAt? id = some name) :
    ∃ k, id = s.attributeProperty k ∧ s.attributeNames[k]? = some name := by
  rw [nameAt?_madeTable] at hid
  -- the names of inverses stand first, and this is none of them
  have hle : s.inverseNames.length ≤ id.index := by
    by_contra hlt
    rw [List.getElem?_append_left (by omega)] at hid
    exact hname (List.mem_of_getElem? hid)
  rw [List.getElem?_append_right hle] at hid
  refine ⟨id.index - s.inverseNames.length, ?_, hid⟩
  rw [attributeProperty, ← length_inverseNames, Nat.add_sub_cancel' hle]

variable (h : s.NamesApart)
include h

lemma NamesApart.idOf?_iff (name : String) (id : PropertyId) :
    s.madeTable.idOf? name = some id ↔ s.madeTable.nameAt? id = some name := by
  refine PropertyTable.idOf?_insertAll_iff h.fits.length_madeProperties_le ?_ name id
  rw [map_name_madeProperties]
  exact h.nodup

/-- A name that is not that of an inverse is found if it is that of an attribute. -/
lemma NamesApart.idOf?_eq {name : String} (hname : name ∉ s.inverseNames) :
    s.madeTable.idOf? name = (s.attributeNames.idxOf? name).map s.attributeProperty := by
  have hn := (List.nodup_append.1 h.nodup).2.1
  apply Option.ext
  intro id
  rw [h.idOf?_iff, Option.map_eq_some_iff]
  constructor
  · intro hid
    obtain ⟨k, rfl, hk⟩ := exists_place_of_nameAt? hname hid
    obtain ⟨hlt, hget⟩ := List.getElem?_eq_some_iff.1 hk
    refine ⟨k, List.idxOf?_eq_some_iff.2 ⟨hlt, hget, fun j hj heq => ?_⟩, rfl⟩
    exact absurd ((hn.getElem_inj_iff).1 (heq.trans hget.symm)) (by omega)
  · rintro ⟨k, hk, rfl⟩
    obtain ⟨hlt, hget, -⟩ := List.idxOf?_eq_some_iff.1 hk
    rw [nameAt?_madeTable, attributeProperty, ← length_inverseNames,
      List.getElem?_append_right (Nat.le_add_right _ _), Nat.add_sub_cancel_left,
      List.getElem?_eq_getElem hlt, hget]

lemma NamesApart.forwardOf?_eq {i : Inverse} (hi : i ∈ s.declaredInverses) (k : Nat) :
    s.madeTable.forwardOf? (pendingAt k i) = (s.forwardPlace? i).map s.attributeProperty := by
  rw [PropertyTable.forwardOf?, pendingAt, h.idOf?_eq (h.forward_notMem i hi),
    h.idOf?_eq (h.qualified_notMem i hi), forwardPlace?, Option.map_or]

lemma NamesApart.claimOf?_eq {i : Inverse} (hi : i ∈ s.declaredInverses) (k : Nat) :
    s.madeTable.claimOf? (pendingAt k i) =
      ((s.forwardPlace? i).filter fun l => !s.isCollectionPlace l).map s.attributeProperty := by
  rw [PropertyTable.claimOf?, h.forwardOf?_eq hi, Option.filter_map]
  simp only [Function.comp_def, isCollectionAt_madeTable]

lemma NamesApart.claimOf?_eq_some_iff {i : Inverse} {j : Nat}
    (hj : s.declaredInverses[j]? = some i) (target : PropertyId) :
    s.madeTable.claimOf? (pendingAt j i) = some target ↔
      ∃ k, target = s.attributeProperty k ∧
        (s.declaredInverses[j]?).bind s.forwardPlace? = some k ∧
        s.isCollectionPlace k = false := by
  rw [h.claimOf?_eq (List.mem_of_getElem? hj), hj, Option.bind_some, Option.map_eq_some_iff]
  simp only [Option.filter_eq_some_iff, Bool.not_eq_true', and_comm, eq_comm (b := target)]

/-- The names within the schema make the inverses fit for pairing. -/
lemma NamesApart.pairable : Pairable s.madeTable s.madePending where
  idOf?_iff := h.idOf?_iff
  partner?_eq_none :=
    PropertyTable.partner?_insertAll fun _ => inverse_eq_none_of_mem_madeProperties
  nodup_own := by
    have howns : s.madePending.map (·.own) =
        (List.range s.declaredInverses.length).map PropertyId.mk := by
      apply List.ext_getElem
      · simp [madePending]
      · simp [madePending, pendingAt]
    rw [howns]
    exact List.nodup_range.map fun _ _ heq => PropertyId.mk.inj heq
  own_named p hp := by
    obtain ⟨name, -, hname⟩ := s.nameAt?_inverse_mem hp
    exact ⟨name, hname⟩
  forward_ne p hp q hq := by
    obtain ⟨j, hj, rfl⟩ := List.mem_mapIdx.1 hp
    exact nameAt?_own_ne (h.forward_notMem _ (List.getElem_mem hj)) hq
  qualified_ne p hp q hq := by
    obtain ⟨j, hj, rfl⟩ := List.mem_mapIdx.1 hp
    exact nameAt?_own_ne (h.qualified_notMem _ (List.getElem_mem hj)) hq

/-- The inverses that are alone with their claims are those that run alone. -/
lemma NamesApart.claimsAlone_iff {i : Inverse} {j : Nat}
    (hj : s.declaredInverses[j]? = some i) (target : PropertyId) :
    ClaimsAlone s.madeTable s.madePending (pendingAt j i) target ↔
      ∃ k, target = s.attributeProperty k ∧ s.RunsAlone j k := by
  constructor
  · rintro ⟨-, hclaims, halone⟩
    obtain ⟨k, rfl, hruns, hsingle⟩ := (h.claimOf?_eq_some_iff hj target).1 hclaims
    refine ⟨k, rfl, hruns, hsingle, fun l hl => ?_⟩
    obtain ⟨i', hi', -⟩ := Option.bind_eq_some_iff.1 hl
    -- another inverse that runs against the same attribute has the same claim
    have heq := halone _ (pendingAt_mem_madePending hi')
      ((h.claimOf?_eq_some_iff hi' _).2 ⟨k, rfl, hl, hsingle⟩)
    simpa [pendingAt] using congrArg (·.own) heq
  · rintro ⟨k, rfl, hruns, hsingle, halone⟩
    refine ⟨pendingAt_mem_madePending hj,
      (h.claimOf?_eq_some_iff hj _).2 ⟨k, rfl, hruns, hsingle⟩, fun q hq hclaim => ?_⟩
    obtain ⟨l, hl, rfl⟩ := List.mem_mapIdx.1 hq
    have hl' := List.getElem?_eq_getElem hl
    obtain ⟨k', hk', hruns', -⟩ := (h.claimOf?_eq_some_iff hl' _).1 hclaim
    rw [← s.attributeProperty_injective hk'] at hruns'
    have hlj := halone l hruns'
    subst hlj
    rw [Option.some.inj (hl'.symm.trans hj)]

lemma NamesApart.joined_iff (a b : PropertyId) :
    Joined s.madeTable s.madePending a b ↔
      ∃ j k, s.RunsAlone j k ∧
        (a = ⟨j⟩ ∧ b = s.attributeProperty k ∨ a = s.attributeProperty k ∧ b = ⟨j⟩) := by
  constructor
  · rintro ⟨p, target, hp, hab⟩
    obtain ⟨j, hj, rfl⟩ := List.mem_mapIdx.1 hp.mem
    obtain ⟨k, rfl, hjk⟩ := (h.claimsAlone_iff (List.getElem?_eq_getElem hj) target).1 hp
    exact ⟨j, k, hjk, hab⟩
  · rintro ⟨j, k, hjk, hab⟩
    obtain ⟨i, hi, -⟩ := Option.bind_eq_some_iff.1 hjk.runs
    exact ⟨pendingAt j i, s.attributeProperty k, (h.claimsAlone_iff hi _).2 ⟨k, rfl, hjk⟩, hab⟩

end Made
end Schema
end ExpressSchema
