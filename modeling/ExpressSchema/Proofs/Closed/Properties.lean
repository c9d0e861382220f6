/-
# Making and pairing properties keeps a schema closed

New properties are owned by the entities that declare them, and an inverse gets the identifier of
the property that is made for it.  Pairing makes properties each other's inverse and takes names
away, but properties it takes from the arena of which all identifiers are known.
-/
import ExpressSchema.Proofs.Closed.Inheritance
import ExpressSchema.Proofs.Resolution.MadeProperties

namespace ExpressSchema

namespace PropertyTable

lemma Closed.insert {t : PropertyTable} {n : Nat} (ht : t.Closed n) {p : Property}
    (howner : p.owner.index < n) (hinverse : p.inverse = none) : (t.insert p).Closed n where
  owner q hq := by
    rcases List.mem_append.1 hq with hq | hq
    · exact ht.owner q hq
    · rw [List.mem_singleton.1 hq]
      exact howner
  inverse q hq id hid := by
    rcases List.mem_append.1 hq with hq | hq
    · exact (ht.inverse q hq id hid).trans_le (by simp [PropertyTable.insert])
    · rw [List.mem_singleton.1 hq, hinverse] at hid
      cases hid
  name name id hid := by
    rw [idOf?_insert] at hid
    split_ifs at hid
    · obtain rfl := Option.some.inj hid
      rw [PropertyTable.insert, List.length_append]
      exact Nat.lt_succ_of_le (wordOf_le _)
    · exact (ht.name name id hid).trans_le (by simp [PropertyTable.insert])

lemma Closed.insertAll {t : PropertyTable} {n : Nat} (ht : t.Closed n) {ps : List Property}
    (howner : ∀ p ∈ ps, p.owner.index < n) (hinverse : ∀ p ∈ ps, p.inverse = none) :
    (t.insertAll ps).Closed n := by
  induction ps generalizing t with
  | nil => exact ht
  | cons p ps ih =>
    exact ih (ht.insert (howner p List.mem_cons_self) (hinverse p List.mem_cons_self))
      (fun q hq => howner q (List.mem_cons_of_mem p hq))
      fun q hq => hinverse q (List.mem_cons_of_mem p hq)

end PropertyTable

namespace Schema

variable {s : Schema}

/-- What a closed schema stays if its properties are replaced. -/
lemma Closed.setProperties (hs : s.Closed) {t : PropertyTable} (ht : t.Closed s.entities.size)
    (hlength : s.properties.arena.length ≤ t.arena.length) :
    ({ s with properties := t } : Schema).Closed := by
  have hg : s.Grows { s with properties := t } :=
    ⟨⟨le_rfl, le_rfl, le_rfl⟩, fun _ => id, fun _ => id, hlength, fun _ => id⟩
  exact ⟨fun id e he => (hs.entity id e he).grow hg,
    fun p hp => ⟨(hs.type p hp).key_eq, (hs.type p hp).selects⟩, ht, hs.sibling,
    hs.builtinSelect⟩

lemma Closed.addProperties (hs : s.Closed) {ps : List Property}
    (howner : ∀ p ∈ ps, p.owner.index < s.entities.size) (hinverse : ∀ p ∈ ps, p.inverse = none) :
    (s.addProperties ps).Closed :=
  hs.setProperties (hs.properties.insertAll howner hinverse) (by
    rw [PropertyTable.arena_insertAll]
    simp)

lemma at?_qualifyNames (s : Schema) (i : Nat) :
    ∃ first, s.qualifyNames.entities.at? i =
      (s.entities.at? i).map fun e => e.qualify (.ofNat i) first := by
  -- over the entries, from any position and any first number, as both go up along the list
  have key : ∀ (es : List (String × Entity)) (i first j : Nat),
      ∃ f, (Table.scanEntries numberInverses i first es).2[j]? =
        es[j]?.map fun p => (p.1, p.2.qualify (.ofNat (i + j)) f) := by
    intro es
    induction es with
    | nil => exact fun _ _ _ => ⟨0, by simp [Table.scanEntries]⟩
    | cons e es ih =>
      intro i first j
      cases j with
      | zero => exact ⟨first, by simp [Table.scanEntries, numberInverses]⟩
      | succ j =>
        obtain ⟨f, hf⟩ := ih (i + 1) (first + e.2.inverses.length) j
        refine ⟨f, ?_⟩
        simpa [Table.scanEntries, numberInverses, Nat.add_comm, Nat.add_left_comm] using hf
  obtain ⟨f, hf⟩ := key s.entities.entries 0 s.properties.arena.length i
  refine ⟨f, ?_⟩
  rw [Nat.zero_add] at hf
  rw [entities_qualifyNames, Table.at?, Table.entryAt?]
  exact (congrArg (Option.map Prod.snd) hf).trans (by
    simp [Table.at?, Table.entryAt?, Function.comp_def])

lemma length_inverseProperties (s : Schema) :
    s.inverseProperties.length = s.declaredInverses.length := by
  rw [← length_inverseNames, ← map_name_inverseProperties, List.length_map]

/-- The properties that inverses get are those that are made for them. -/
lemma property_lt_of_mem_qualifyNames {id : EntityId} {e : Entity}
    (he : s.qualifyNames.entities.at? id.index = some e) {i : Inverse} (hi : i ∈ e.inverses)
    {p : PropertyId} (hp : p ∈ i.property) :
    p.index < s.properties.arena.length + s.inverseProperties.length := by
  have hmem : i ∈ s.qualifyNames.declaredInverses := by
    rw [Table.at?_eq_getElem?] at he
    exact List.mem_flatMap.2 ⟨e, List.mem_of_getElem? he, hi⟩
  rw [declaredInverses_qualifyNames] at hmem
  obtain ⟨k, hk, rfl⟩ := List.mem_mapIdx.1 hmem
  obtain rfl := Option.some.inj hp
  rw [length_inverseProperties]
  exact (wordOf_le _).trans_lt (Nat.add_lt_add_left hk _)

lemma owner_lt_of_mem_inverseProperties {p : Property} (h : p ∈ s.inverseProperties) :
    p.owner.index < s.entities.size := by
  simp only [inverseProperties, List.mem_flatten, List.mem_map] at h
  obtain ⟨_, ⟨⟨e, k⟩, hmem, rfl⟩, hp⟩ := h
  obtain ⟨i, -, rfl⟩ := List.mem_map.1 hp
  have hk := (List.mem_zipIdx_iff_getElem?.1 hmem)
  obtain ⟨hlt, -⟩ := List.getElem?_eq_some_iff.1 hk
  have hplace : k < s.entities.size := by simpa [Table.values, Table.size] using hlt
  exact (wordOf_le k).trans_lt hplace

lemma Closed.makeInverseProperties (hs : s.Closed) : s.makeInverseProperties.Closed := by
  have hadd : (s.addProperties s.inverseProperties).Closed :=
    hs.addProperties (fun _ => owner_lt_of_mem_inverseProperties)
      fun _ => inverse_eq_none_of_mem_inverseProperties
  have harena : (s.addProperties s.inverseProperties).properties.arena.length =
      s.properties.arena.length + s.inverseProperties.length := by
    rw [Schema.addProperties, PropertyTable.arena_insertAll, List.length_append]
  -- the properties are entered first, so that the inverses may refer to them
  have hg : (s.addProperties s.inverseProperties).Grows
      { s.addProperties s.inverseProperties with entities := s.qualifyNames.entities } := by
    refine grows_setEntities (Table.size_scan _ _ _).ge fun i e he => ?_
    obtain ⟨first, hfirst⟩ := s.at?_qualifyNames i
    have he : s.entities.at? i = some e := he
    refine ⟨e.qualify (.ofNat i) first, by rw [hfirst, he, Option.map_some], ?_, ?_⟩
    · simp [Entity.qualify]
    · simp [Entity.qualify]
  refine (hadd.setEntities hg fun id e' he' => ?_).reportAll _
  have hproperty := fun i hi p hp => property_lt_of_mem_qualifyNames (i := i) he' hi (p := p) hp
  obtain ⟨first, hfirst⟩ := s.at?_qualifyNames id.index
  rw [hfirst] at he'
  obtain ⟨e, he, rfl⟩ := Option.map_eq_some_iff.1 he'
  have hclosed := (hadd.entity id e he).grow hg
  refine { hclosed with
    reached := fun hlarge => ?_
    attribute_owner := ?_
    inverse_owner := ?_
    invertedBy := ?_
    property := ?_ }
  · obtain ⟨hattributes, hinverses⟩ := hclosed.reached hlarge
    simp [Entity.qualify, hattributes, hinverses]
  · intro a ha
    obtain ⟨b, hb, rfl⟩ := List.mem_map.1 ha
    exact hclosed.reached.ofNat_index (.inl (List.ne_nil_of_mem hb))
  · intro i hi
    obtain ⟨k, hk, rfl⟩ := List.mem_mapIdx.1 hi
    exact hclosed.inverse_owner e.inverses[k] (List.getElem_mem hk)
  · intro a ha
    obtain ⟨b, hb, rfl⟩ := List.mem_map.1 ha
    exact hclosed.invertedBy b hb
  · intro i hi p hp
    exact (hproperty i hi p hp).trans_eq harena.symm

lemma Closed.placeRanges (hs : s.Closed) : s.placeRanges.Closed := by
  refine hs.mapEntities (fun _ _ => ⟨by simp, le_rfl⟩) fun id e _ he =>
    { he with
      reached := fun hlarge => ⟨by simp [(he.reached hlarge).1], (he.reached hlarge).2⟩
      attribute_owner := ?_
      invertedBy := ?_ }
  · intro a ha
    obtain ⟨b, hb, rfl⟩ := List.mem_map.1 ha
    exact he.attribute_owner b hb
  · intro a ha
    obtain ⟨b, hb, rfl⟩ := List.mem_map.1 ha
    exact he.invertedBy b hb

lemma owner_toProperty (a : Attribute) (types : Table String TypeDecl) :
    (a.toProperty types).owner = a.owner := by
  obtain ⟨range, underlying, members, h⟩ := a.exists_propertyOver types
  rw [h]
  rfl

/-- The properties of attributes are owned by the entities of the attributes. -/
lemma Closed.owner_lt_of_mem_attributeProperties (hs : s.Closed) {p : Property}
    (h : p ∈ s.attributeProperties) : p.owner.index < s.entities.size := by
  obtain ⟨e, he, hp⟩ := List.mem_flatMap.1 h
  obtain ⟨a, ha, rfl⟩ := List.mem_map.1 hp
  obtain ⟨k, hk⟩ := List.getElem?_of_mem he
  obtain ⟨hlt, -⟩ := List.getElem?_eq_some_iff.1 hk
  rw [← Table.at?_eq_getElem?] at hk
  rw [owner_toProperty, (hs.entity ⟨k⟩ e hk).attribute_owner a ha]
  simpa [Table.values, Table.size] using hlt

lemma inverse_eq_none_of_mem_attributeProperties {p : Property}
    (h : p ∈ s.attributeProperties) : p.inverse = none := by
  rw [attributeProperties_eq] at h
  obtain ⟨a, -, rfl⟩ := List.mem_map.1 h
  exact inverse_toProperty a _

lemma Closed.makeAttributeProperties (hs : s.Closed) : s.makeAttributeProperties.Closed := by
  refine (hs.placeRanges.addProperties (fun p hp => ?_)
    fun _ => inverse_eq_none_of_mem_attributeProperties).reportAll _
  exact (hs.owner_lt_of_mem_attributeProperties hp).trans_eq (Table.size_mapIdx _ _).symm

end Schema

/-! ## Pairing -/

namespace PropertyTable

variable {t : PropertyTable} {n : Nat}

lemma length_arena_congr {t u : PropertyTable} (h : t.unlinkedArena = u.unlinkedArena) :
    t.arena.length = u.arena.length := by
  simpa [unlinkedArena] using congrArg List.length h

lemma Closed.remove (ht : t.Closed n) (name : String) : (t.remove name).Closed n where
  owner := ht.owner
  inverse := ht.inverse
  name other id hid := by
    rw [idOf?_remove] at hid
    split_ifs at hid
    exact ht.name other id hid

/-- Changing the inverse of a property to that of a property. -/
lemma Closed.setInverse (ht : t.Closed n) (id : PropertyId) {inverse : Option PropertyId}
    (h : ∀ other ∈ inverse, other.index < t.arena.length) :
    (t.modifyById id fun p => { p with inverse := inverse }).Closed n where
  owner p hp := by
    rcases List.mem_modify hp with hp | ⟨q, hq, rfl⟩
    · exact ht.owner p hp
    · exact ht.owner q hq
  inverse p hp other hother := by
    refine lt_of_lt_of_eq ?_ (List.length_modify ..).symm
    rcases List.mem_modify hp with hp | ⟨q, -, rfl⟩
    · exact ht.inverse p hp other hother
    · exact h other hother
  name name other hother :=
    (ht.name name other hother).trans_eq (List.length_modify ..).symm

lemma Closed.link (ht : t.Closed n) {a b : PropertyId} (ha : a.index < t.arena.length)
    (hb : b.index < t.arena.length) : (t.link a b).Closed n := by
  have hlink := ht.setInverse a fun other hother => by
    obtain rfl := Option.some.inj hother
    exact hb
  refine hlink.setInverse b fun other hother => ?_
  obtain rfl := Option.some.inj hother
  exact ha.trans_eq (List.length_modify ..).symm

lemma Closed.unlink (ht : t.Closed n) (id : PropertyId) : (t.unlink id).Closed n :=
  ht.setInverse id fun _ h => by cases h

lemma Closed.letGo (ht : t.Closed n) (id : PropertyId) : (t.letGo id).Closed n := by
  unfold PropertyTable.letGo
  cases t.byId? id with
  | none => exact ht
  | some p => exact ht.remove p.name

lemma Closed.dropPartner (ht : t.Closed n) (target : PropertyId) :
    (t.dropPartner target).Closed n := by
  unfold PropertyTable.dropPartner
  cases (t.byId? target).bind (·.inverse) with
  | none => exact ht
  | some previous =>
    refine Closed.unlink ?_ previous
    cases t.byId? previous with
    | none => exact ht
    | some p =>
      dsimp only
      split_ifs
      · exact ht.remove p.name
      · exact ht.remove p.declaredName

end PropertyTable

namespace Pairing

lemma closed_step {x : Pairing} {n : Nat} (hx : x.properties.Closed n) {p : PendingInverse}
    (hp : p.own.index < x.properties.arena.length) : (x.step p).properties.Closed n := by
  unfold step
  cases hforward : x.properties.forwardOf? p with
  | none => exact hx.letGo p.own
  | some target =>
    have htarget : target.index < x.properties.arena.length := by
      rcases Option.or_eq_some_iff.1 hforward with h | ⟨-, h⟩
      · exact hx.name _ target h
      · exact hx.name _ target h
    have hlink := hx.link hp htarget
    dsimp only
    split_ifs
    · exact ((hx.dropPartner target).letGo p.own).unlink target
    · unfold pairFree
      dsimp only
      split_ifs
      · exact ((hlink.letGo p.own).unlink p.own).unlink target
      · exact hlink

lemma closed_foldl_step (ps : List PendingInverse) {x : Pairing} {n : Nat}
    (hx : x.properties.Closed n) (hps : ∀ p ∈ ps, p.own.index < x.properties.arena.length) :
    (ps.foldl step x).properties.Closed n := by
  induction ps generalizing x with
  | nil => exact hx
  | cons p ps ih =>
    refine ih (closed_step hx (hps p List.mem_cons_self)) fun q hq => ?_
    rw [PropertyTable.length_arena_congr (unlinkedArena_step x p)]
    exact hps q (List.mem_cons_of_mem p hq)

end Pairing

namespace Schema

variable {s : Schema}

/-- The inverses to be paired have properties. -/
lemma Closed.own_lt_of_mem_pendingInverses (hs : s.Closed) {p : PendingInverse}
    (h : p ∈ s.pendingInverses) : p.own.index < s.properties.arena.length := by
  obtain ⟨e, he, hp⟩ := List.mem_flatMap.1 h
  obtain ⟨i, hi, hip⟩ := List.mem_filterMap.1 hp
  obtain ⟨own, hown, rfl⟩ := Option.map_eq_some_iff.1 hip
  obtain ⟨k, hk⟩ := List.getElem?_of_mem he
  rw [← Table.at?_eq_getElem?] at hk
  exact (hs.entity ⟨k⟩ e hk).property i hi own hown

lemma Closed.pairInverses (hs : s.Closed) : s.pairInverses.Closed := by
  have hlength := PropertyTable.length_arena_congr
    (Pairing.unlinkedArena_foldl_step s.pendingInverses { properties := s.properties })
  refine (hs.setProperties ?_ hlength.ge).reportAll _
  exact Pairing.closed_foldl_step _ hs.properties fun p => hs.own_lt_of_mem_pendingInverses

end Schema
end ExpressSchema
