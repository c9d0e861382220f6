/-
# What an entity inherits

After resolution the attributes of an entity are those that its supertypes have of their own, the
furthest first, and then its own; the same holds of its inverses.  This is so for any text, whatever
its supertypes look like: they may be missing, and the way up may lead back to where it came from.
`Inherits` says it of one entity, in identifiers, which are made from places and slots.  As long as
no entity has more attributes than there are words, the identifiers lead to the attributes again
(`filterMap_allAttributes`).
-/
import ExpressSchema.Proofs.Closed.Inheritance
import ExpressSchema.Proofs.Inheritance.Climb
import ExpressSchema.Proofs.Printing.RoundTrip

namespace ExpressSchema
namespace Schema

/-! ## What is collected -/

lemma map_allAttributes_markForward (index : AttributeIndex) (s : Schema) (id : InverseId) :
    (s.markForward index id).entities.values.map (·.allAttributes) =
      s.entities.values.map (·.allAttributes) := by
  unfold markForward
  cases s.inverseAt? id with
  | none => rfl
  | some inverse =>
    dsimp only
    cases index.get? inverse.forwardKey with
    | none =>
      change (s.modifyInverse id _).entities.values.map _ = _
      rw [modifyInverse, map_values_modifyEntity]
      exact fun _ => rfl
    | some target =>
      change ((s.modifyAttribute target _).modifyInverse id _).entities.values.map _ = _
      rw [modifyInverse, map_values_modifyEntity, modifyAttribute, map_values_modifyEntity]
      · exact fun _ => rfl
      · exact fun _ => rfl

lemma map_allAttributes_foldl_markForward (index : AttributeIndex) (ids : List InverseId)
    (s : Schema) :
    (ids.foldl (markForward index) s).entities.values.map (·.allAttributes) =
      s.entities.values.map (·.allAttributes) := by
  induction ids generalizing s with
  | nil => rfl
  | cons id ids ih => rw [List.foldl_cons, ih, map_allAttributes_markForward]

/-- Before inverses are collected, the same is inherited as in the schema that was read. -/
lemma sameDescent_foldl_markForward (s : Schema) (index : AttributeIndex) (ids : List InverseId) :
    (ids.foldl (markForward index) s.inheritAttributes).SameDescent s :=
  sameDescent_of_readEntities
    ((readEntities_foldl_markForward index ids _).trans (readEntities_inheritAttributes s))

/-- Every entity has the attributes of its chain. -/
theorem allAttributes_resolve {s : Schema} {id : EntityId} {e : Entity}
    (he : s.resolve.entityAt? id = some e) :
    e.allAttributes = (s.resolve.chainAttributes id).map Prod.snd := by
  have hcollected : s.resolve.entities.values.map (·.allAttributes) =
      s.inheritAttributes.entities.values.map (·.allAttributes) := by
    rw [s.map_values_resolve _ (·.allAttributes) (fun _ _ _ => rfl) (fun _ _ => rfl) fun _ _ => rfl]
    change ((s.inheritAttributes.inverseIds.foldl (markForward _) _).entities.mapIdx
      _).values.map _ = _
    rw [Table.map_values_mapIdx, map_allAttributes_foldl_markForward]
    exact fun _ _ => rfl
  have hid := map_entityAt?_of_map_values hcollected id
  rw [he, inheritAttributes, collectAttributes, entityAt?, Table.at?_mapIdx, Option.map_map,
    Option.map_some] at hid
  obtain ⟨e', -, hchain⟩ := Option.map_eq_some_iff.1 hid.symm
  -- what is reported makes no difference to the chain
  have hreport : (s.reportAll (s.entityIds.filterMap s.chainProblem?)).SameDescent s := ⟨rfl, rfl⟩
  rw [← hchain, (s.sameDescent_resolve.trans hreport.symm).chainAttributes_eq]
  rfl

/-- Every entity has the inverses of its chain. -/
theorem allInverses_resolve {s : Schema} {id : EntityId} {e : Entity}
    (he : s.resolve.entityAt? id = some e) : e.allInverses = s.resolve.chainInverses id := by
  have hcollected : s.resolve.entities.values.map (·.allInverses) =
      s.inherit.entities.values.map (·.allInverses) :=
    s.map_values_resolve _ _ (fun _ _ _ => rfl) (fun _ _ => rfl) fun _ _ => rfl
  have hid := map_entityAt?_of_map_values hcollected id
  change _ = ((inheritInverses _ _).entityAt? id).map _ at hid
  rw [he, inheritInverses, collectInverses, entityAt?, Table.at?_mapIdx, Option.map_map,
    Option.map_some] at hid
  obtain ⟨e', -, hchain⟩ := Option.map_eq_some_iff.1 hid.symm
  have hmarked := s.sameDescent_foldl_markForward (AttributeIndex.ofSchema s)
    s.inheritAttributes.inverseIds
  rw [← hchain, (s.sameDescent_resolve.trans hmarked.symm).chainInverses_eq]
  rfl

/-- Every entity has what the members of its chain have of their own. -/
structure Collected (s : Schema) : Prop where
  attributes : ∀ id e, s.entityAt? id = some e →
    e.allAttributes = (s.chainAttributes id).map Prod.snd
  inverses : ∀ id e, s.entityAt? id = some e → e.allInverses = s.chainInverses id

lemma collected_resolve (s : Schema) : s.resolve.Collected :=
  ⟨fun _ _ he => allAttributes_resolve he, fun _ _ he => allInverses_resolve he⟩

/-! ## Where identifiers lead -/

lemma SameDescent.reached {s t : Schema} (h : s.SameDescent t) (ht : t.Reached) : s.Reached := by
  intro id e he hlarge
  have hcounts := h.map_entityAt? (fun e => (e.attributes.length, e.inverses.length))
    (fun d => (d.attributes, d.inverses)) (fun _ => rfl) id
  rw [he, Option.map_some] at hcounts
  obtain ⟨e', he', hsame⟩ := Option.map_eq_some_iff.1 hcounts.symm
  obtain ⟨hattributes, hinverses⟩ := Prod.mk.inj hsame
  obtain ⟨hnone, hnone'⟩ := ht id e' he' hlarge
  rw [hnone] at hattributes
  rw [hnone'] at hinverses
  exact ⟨List.length_eq_zero_iff.1 hattributes.symm, List.length_eq_zero_iff.1 hinverses.symm⟩

lemma SameDescent.slotsFit {s t : Schema} (h : s.SameDescent t) (ht : t.SlotsFit) :
    s.SlotsFit := by
  have hcounts := congrArg (List.map fun d : Descent => (d.attributes, d.inverses)) h.descent
  rw [List.map_map, List.map_map] at hcounts
  have hall : ∀ p ∈ t.entities.values.map
      ((fun d : Descent => (d.attributes, d.inverses)) ∘ Entity.descent),
      p.1 ≤ UInt32.size ∧ p.2 ≤ UInt32.size := List.forall_mem_map.2 ht
  rw [← hcounts] at hall
  exact List.forall_mem_map.1 hall

/-! ## What is inherited -/

/-- The identifiers of the own attributes of an entity, slot by slot. -/
def ownAttributeIds (s : Schema) (e : Entity) : List AttributeId :=
  match s.placeOf? e.name with
  | some id => (List.range e.attributes.length).map (AttributeId.ofNat id)
  | none => []

/-- The identifiers of the own inverses of an entity, slot by slot. -/
def ownInverseIds (s : Schema) (e : Entity) : List InverseId :=
  match s.placeOf? e.name with
  | some id => (List.range e.inverses.length).map (InverseId.ofNat id)
  | none => []

/-- How an entity inherits. -/
structure Inherits (s : Schema) (e : Entity) : Prop where
  /-- The way up ends, and its supertypes are those on the way. -/
  climbs : s.Climbs [e.key] e (s.ancestors e)
  /-- None of them comes twice, and the entity itself is none of them. -/
  nodup : ((e :: s.ancestors e).map (·.key)).Nodup
  /-- Each of them is found under its name. -/
  declared : ∀ a ∈ s.lineage e, s.entity? a.name = some a
  /-- The attributes are those of the supertypes, the furthest first, and then its own. -/
  attributes : e.allAttributes = (s.lineage e).flatMap s.ownAttributeIds
  /-- The inverses are those of the supertypes, the furthest first, and then its own. -/
  inverses : e.allInverses = (s.lineage e).flatMap s.ownInverseIds
  /-- Away from cycles, whatever the direct supertype has comes first. -/
  supertype : ∀ parent, s.supertype? e = some parent → ¬ s.IsBelow e e →
    e.allAttributes = parent.allAttributes ++ s.ownAttributeIds e ∧
      e.allInverses = parent.allInverses ++ s.ownInverseIds e

namespace Registered

variable {s : Schema} (h : s.Registered)
include h

lemma ownAttributeIds_eq (hr : s.Reached) {id : EntityId} {e : Entity}
    (he : s.entityAt? id = some e) : (s.ownAttributes id).map Prod.snd = s.ownAttributeIds e := by
  rw [map_snd_ownAttributes, he, ownAttributeIds, h.placeOf?_name he, Option.map_some,
    Option.getD_some]
  by_cases hnone : e.attributes = []
  · rw [hnone]
    rfl
  · rw [(hr id e he).ofNat_index (.inl hnone)]

lemma ownInverseIds_eq (hr : s.Reached) {id : EntityId} {e : Entity}
    (he : s.entityAt? id = some e) : s.ownInverses id = s.ownInverseIds e := by
  rw [s.ownInverses_eq, he, ownInverseIds, h.placeOf?_name he, Option.map_some, Option.getD_some]
  by_cases hnone : e.inverses = []
  · rw [hnone]
    rfl
  · rw [(hr id e he).ofNat_index (.inr hnone)]

/-- What is put together along the chain is put together along the lineage. -/
lemma flatMap_chain {α : Type} {f : EntityId → List α} {g : Entity → List α}
    (hfg : ∀ id e, s.entityAt? id = some e → f id = g e) {id : EntityId} {e : Entity}
    (he : s.entityAt? id = some e) :
    (s.chain id).members.flatMap f = (s.lineage e).flatMap g := by
  have key : ∀ (ids : List EntityId) (es : List Entity), ids.map s.entityAt? = es.map some →
      ids.flatMap f = es.flatMap g := by
    intro ids
    induction ids with
    | nil =>
      intro es hes
      rw [List.map_eq_nil_iff.1 hes.symm]
      rfl
    | cons id ids ih =>
      intro es hes
      obtain ⟨e, es, rfl, hid, hids⟩ := List.map_eq_cons_iff.1 hes.symm
      rw [List.flatMap_cons, List.flatMap_cons, hfg id e hid.symm, ih es hids.symm]
  exact key _ _ (h.climbs_ancestors he).2

/-- The lineage of an entity that is not its own supertype is that of its direct supertype and
then the entity. -/
lemma lineage_eq_append {id : EntityId} {e parent : Entity} (he : s.entityAt? id = some e)
    (hparent : s.supertype? e = some parent) (hcycle : ¬ s.IsBelow e e) :
    s.lineage e = s.lineage parent ++ [e] := by
  rw [lineage, h.ancestors_eq_cons he hparent hcycle, List.reverse_cons]
  rfl

lemma exists_entityAt?_of_mem_lineage {id : EntityId} {e a : Entity}
    (he : s.entityAt? id = some e) (ha : a ∈ s.lineage e) : ∃ i, s.entityAt? i = some a := by
  rcases List.mem_append.1 ha with ha | ha
  · exact (h.climbs_ancestors he).1.exists_entityAt? a (List.mem_reverse.1 ha)
  · rw [List.mem_singleton.1 ha]
    exact ⟨id, he⟩

lemma entity?_name {id : EntityId} {e : Entity} (he : s.entityAt? id = some e) :
    s.entity? e.name = some e := by
  have hindex := Table.indexOf?_eq_some_iff.2 (h.key_eq he)
  rw [← h.canonical_name he] at hindex
  rw [entity?_of_indexOf? hindex, he]

/-- The attributes with these identifiers are the own attributes of the entity, as long as there are
words for all slots. -/
lemma filterMap_ownAttributeIds (hr : s.Reached) (hfits : s.SlotsFit) {id : EntityId} {e : Entity}
    (he : s.entityAt? id = some e) :
    (s.ownAttributeIds e).filterMap s.attributeAt? = e.attributes := by
  have hown : (s.ownAttributes id).map Prod.fst = e.attributes := by
    unfold ownAttributes
    rw [he]
    simp only [List.map_map, Function.comp_def]
    exact List.zipIdx_map_fst 0 e.attributes
  have hat : ∀ p ∈ s.ownAttributes id, s.attributeAt? p.2 = some p.1 :=
    fun p hp => hr.attributeAt?_of_mem_own hfits hp
  rw [← h.ownAttributeIds_eq hr he, List.filterMap_map, ← hown, Function.comp_def,
    List.filterMap_congr hat, List.filterMap_eq_map']

variable (hr : s.Reached) (hc : s.Collected)
include hr hc

lemma allAttributes_eq {id : EntityId} {e : Entity} (he : s.entityAt? id = some e) :
    e.allAttributes = (s.lineage e).flatMap s.ownAttributeIds := by
  rw [hc.attributes id e he, chainAttributes, attributesAlong, List.map_flatMap]
  exact h.flatMap_chain (fun _ _ => h.ownAttributeIds_eq hr) he

lemma allInverses_eq {id : EntityId} {e : Entity} (he : s.entityAt? id = some e) :
    e.allInverses = (s.lineage e).flatMap s.ownInverseIds := by
  rw [hc.inverses id e he, chainInverses]
  exact h.flatMap_chain (fun _ _ => h.ownInverseIds_eq hr) he

/-- The attributes that are found under the identifiers. -/
lemma filterMap_allAttributes (hfits : s.SlotsFit) {id : EntityId} {e : Entity}
    (he : s.entityAt? id = some e) : s.allAttributes e = (s.lineage e).flatMap (·.attributes) := by
  rw [Schema.allAttributes, h.allAttributes_eq hr hc he, List.filterMap_flatMap]
  refine List.flatMap_congr fun a ha => ?_
  obtain ⟨i, hi⟩ := h.exists_entityAt?_of_mem_lineage he ha
  exact h.filterMap_ownAttributeIds hr hfits hi

/-- What has been collected along the chains is what is inherited. -/
theorem inherits {id : EntityId} {e : Entity} (he : s.entityAt? id = some e) : s.Inherits e where
  climbs := (h.climbs_ancestors he).1
  nodup := List.nodup_append_comm.1
    ((h.climbs_ancestors he).1.nodup (List.nodup_singleton e.key))
  declared a ha := by
    obtain ⟨i, hi⟩ := h.exists_entityAt?_of_mem_lineage he ha
    exact h.entity?_name hi
  attributes := h.allAttributes_eq hr hc he
  inverses := h.allInverses_eq hr hc he
  supertype parent hparent hcycle := by
    obtain ⟨-, i, -, -, hi⟩ := exists_entityAt?_of_supertype? hparent
    rw [h.allAttributes_eq hr hc he, h.allAttributes_eq hr hc hi, h.allInverses_eq hr hc he,
      h.allInverses_eq hr hc hi, h.lineage_eq_append he hparent hcycle]
    simp only [List.flatMap_append, List.flatMap_singleton, and_self]

end Registered

end Schema

/-- The way up of the first entity leads into a loop. -/
def loopText : String :=
  "ENTITY t SUBTYPE OF (a); x : REAL; END_ENTITY; " ++
    "ENTITY a SUBTYPE OF (b); y : REAL; END_ENTITY; " ++
    "ENTITY b SUBTYPE OF (a); z : REAL; END_ENTITY;"

/-- However many attributes an entity has, each is listed under the identifier that is made from its
place. -/
lemma Outline.exists_resolve_manyAttributes {n k : Nat} (hk : k < n)
    (inverses : List InverseOutline) :
    ∃ e, (Outline.ofEntity (manyAttributes n) inverses).toSchema.resolve.entityAt? ⟨0⟩ = some e ∧
      e.supertype = none ∧ e.attributes.length = n ∧
      e.allAttributes[k]? = some (.ofNat ⟨0⟩ k) := by
  have hsame := (Outline.ofEntity (manyAttributes n) inverses).toSchema.sameDescent_resolve
  have hread : (Outline.ofEntity (manyAttributes n) inverses).toSchema.entityAt? ⟨0⟩ =
      some ((EntityOutline.plain (.ofLength 0) (manyAttributes n) inverses).toEntity ⟨0⟩ ⟨0⟩) := rfl
  have hentity := hsame.map_entityAt? (fun e => (e.supertype, e.attributes.length))
    (fun d => (d.supertype, d.attributes)) (fun _ => rfl) ⟨0⟩
  rw [hread, Option.map_some] at hentity
  obtain ⟨e, he, hdescent⟩ := Option.map_eq_some_iff.1 hentity
  obtain ⟨hsupertype, hlength⟩ := Prod.mk.inj hdescent
  refine ⟨e, he, hsupertype, ?_, ?_⟩
  · rw [hlength]
    simp [EntityOutline.toEntity, EntityOutline.plain, manyAttributes]
  · rw [Schema.allAttributes_resolve he, hsame.chainAttributes_eq, List.getElem?_map,
      getElem?_chainAttributes_ofEntity hk, Option.map_some]

end ExpressSchema
