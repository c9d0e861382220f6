/-
# Declarations in their places

Attributes and inverses stand in entities, and an entity has its own in their slots.  Properties are
made place by place, so that what is made can be told from the declarations as they were read and
from where they stand.  Resolution leaves every declaration in its place.
-/
import ExpressSchema.Proofs.Closed.Inheritance
import ExpressSchema.Proofs.Pairing.Found

namespace ExpressSchema

/-! ## Declarations in their places -/

/-- An attribute or an inverse and where it stands. -/
structure Placed (α : Type) where
  /-- The entity that declares it. -/
  owner : EntityId
  /-- Its place among the attributes or among the inverses of the entity. -/
  slot : Nat
  /-- The name of the entity, as first written. -/
  entity : String
  /-- The declaration. -/
  declaration : α

/-- The declarations of all entities in their places, entity by entity and slot by slot. -/
def Schema.placed {α : Type} (s : Schema) (f : Entity → List α) : List (Placed α) :=
  s.entities.values.zipIdx.flatMap fun p =>
    (f p.1).zipIdx.map fun q => ⟨⟨p.2⟩, q.2, p.1.name, q.1⟩

namespace Schema

/-! ## Places -/

section Places

variable {α β : Type} (s : Schema) (f : Entity → List α)

/-- What is worked out in each place but for the slot can be worked out entity by entity. -/
lemma map_placed (g : EntityId → String → α → β) :
    ((s.placed f).map fun d => g d.owner d.entity d.declaration) =
      s.entities.values.zipIdx.flatMap fun p => (f p.1).map (g ⟨p.2⟩ p.1.name) := by
  simp only [placed, List.map_flatMap, List.map_map, Function.comp_def, map_zipIdx_fst]

lemma map_declaration_placed :
    (s.placed f).map (·.declaration) = s.entities.values.flatMap f := by
  rw [s.map_placed f fun _ _ x => x]
  simp only [List.map_id', List.flatMap_def]
  rw [map_zipIdx_fst]

/-- The places alone follow from how many declarations each entity has. -/
lemma map_place_placed :
    ((s.placed f).map fun d => (d.owner, d.slot)) =
      (s.entities.values.map fun e => (f e).length).zipIdx.flatMap fun p =>
        (List.range p.1).map fun slot => (⟨p.2⟩, slot) := by
  have hslots : ∀ (xs : List α) (owner : EntityId),
      (xs.zipIdx.map fun q => (owner, q.2)) = (List.range xs.length).map fun slot =>
        (owner, slot) := by
    intro xs owner
    rw [List.range_eq_range', ← List.zipIdx_map_snd, List.map_map]
    rfl
  simp only [placed, List.map_flatMap, List.map_map, Function.comp_def, List.zipIdx_map,
    List.flatMap_map, hslots]
  rfl

/-- A declaration stands where its place says. -/
lemma declaration_of_mem_placed {d : Placed α} (h : d ∈ s.placed f) :
    (s.entityAt? d.owner).bind (fun e => (f e)[d.slot]?) = some d.declaration := by
  obtain ⟨⟨e, i⟩, he, hd⟩ := List.mem_flatMap.1 h
  obtain ⟨⟨x, slot⟩, hx, rfl⟩ := List.mem_map.1 hd
  have he : s.entityAt? ⟨i⟩ = some e := by
    rw [entityAt?_eq_getElem?]
    exact List.mem_zipIdx_iff_getElem?.1 he
  rw [he, Option.bind_some]
  exact List.mem_zipIdx_iff_getElem?.1 hx

/-- Its owner is the entity to which the identifier of the owner leads. -/
lemma Reached.map_owner_placed {s : Schema} (h : s.Reached)
    (hf : ∀ e, f e ≠ [] → e.attributes ≠ [] ∨ e.inverses ≠ []) (g : EntityId → Placed α → β) :
    ((s.placed f).map fun d => g (.ofNat d.owner.index) d) =
      (s.placed f).map fun d => g d.owner d := by
  refine List.map_congr_left fun d hd => ?_
  obtain ⟨e, he, hslot⟩ := Option.bind_eq_some_iff.1 (s.declaration_of_mem_placed f hd)
  have hsome : f e ≠ [] := List.ne_nil_of_mem (List.mem_of_getElem? hslot)
  rw [(h _ e he).ofNat_index (hf e hsome)]

/-- Where an entity keeps as many declarations as were read, one stands in each place, and it comes
as far behind the others as it did. -/
lemma exists_in_place {t : Schema}
    (hlength : (t.entities.values.map fun e => (f e).length) =
      s.entities.values.map fun e => (f e).length)
    {k : Nat} {d : Placed α} (hd : (s.placed f)[k]? = some d) :
    ∃ x, (t.entities.values.flatMap f)[k]? = some x ∧
      (t.entityAt? d.owner).bind (fun e => (f e)[d.slot]?) = some x := by
  have hplaces : ((t.placed f).map fun d => (d.owner, d.slot)) =
      (s.placed f).map fun d => (d.owner, d.slot) := by
    rw [map_place_placed, map_place_placed, hlength]
  have hplace := congrArg (·[k]?) hplaces
  simp only [List.getElem?_map, hd, Option.map_some] at hplace
  obtain ⟨d', hd', hsame⟩ := Option.map_eq_some_iff.1 hplace
  obtain ⟨howner, hslot⟩ := Prod.mk.inj hsame
  refine ⟨d'.declaration, ?_, ?_⟩
  · rw [← map_declaration_placed, List.getElem?_map, hd', Option.map_some]
  · rw [← howner, ← hslot]
    exact t.declaration_of_mem_placed f (List.mem_of_getElem? hd')

end Places

/-! ## What is made, place by place -/

section Made

variable (s : Schema)

/-- What is the same for declarations as read can be worked out from what was read. -/
lemma flatMap_zipIdx_inherit {α β : Type} (f : Entity → List α) (g : EntityId → String → α → β)
    (hg : ∀ e owner, (f e.asRead).map (g owner e.name) = (f e).map (g owner e.name)) :
    (s.inherit.entities.values.zipIdx.flatMap fun p => (f p.1).map (g ⟨p.2⟩ p.1.name)) =
      (s.placed f).map fun d => g d.owner d.entity d.declaration := by
  have hread : s.inherit.entities.values.map Entity.asRead =
      s.entities.values.map Entity.asRead :=
    map_values_congr (readEntities_inherit s) _ fun e => by
      simp [Entity.asRead, Attribute.asRead, Inverse.asRead, Function.comp_def]
  have key : ∀ es : List Entity, (es.zipIdx.flatMap fun p => (f p.1).map (g ⟨p.2⟩ p.1.name)) =
      (es.map Entity.asRead).zipIdx.flatMap fun p => (f p.1).map (g ⟨p.2⟩ p.1.name) := by
    intro es
    rw [List.zipIdx_map, List.flatMap_map]
    exact congrArg (List.flatMap · _) (funext fun p => (hg p.1 ⟨p.2⟩).symm)
  rw [map_placed, key, key s.entities.values, hread]

variable {s} (h : s.Reached)
include h

lemma Reached.inverseProperties_inherit :
    s.inherit.inverseProperties =
      (s.placed (·.inverses)).map fun d => d.declaration.toProperty d.owner d.entity := by
  rw [inverseProperties, ← List.flatMap_def, ← h.map_owner_placed (·.inverses) (fun _ => .inr)
    fun owner d => d.declaration.toProperty owner d.entity]
  refine s.flatMap_zipIdx_inherit (·.inverses)
    (fun owner entity i => i.toProperty (.ofNat owner.index) entity) fun e owner => ?_
  simp only [Entity.asRead, List.map_map]
  rfl

lemma Reached.attributeProperties_inherit :
    s.inherit.makeInverseProperties.attributeProperties =
      (s.placed (·.attributes)).map fun d =>
        (d.declaration.qualify d.owner d.entity).toProperty s.types := by
  rw [attributeProperties, types_makeInverseProperties, types_inherit,
    entities_makeInverseProperties, s.inherit.flatMap_zipIdx_qualifyNames _
      fun p => p.1.attributes.map fun a => (a.qualify (.ofNat p.2) p.1.name).toProperty s.types,
    ← h.map_owner_placed (·.attributes) (fun _ => .inl)
      fun owner d => (d.declaration.qualify owner d.entity).toProperty s.types]
  swap
  · intro e i first
    simp only [Entity.qualify, List.map_map, Function.comp_def]
  refine s.flatMap_zipIdx_inherit (·.attributes)
    (fun owner entity a => (a.qualify (.ofNat owner.index) entity).toProperty s.types)
      fun e owner => ?_
  simp only [Entity.asRead, List.map_map]
  rfl

/-- The properties that are made, told from what was read. -/
lemma Reached.madeProperties_eq :
    s.madeProperties =
      ((s.placed (·.inverses)).map fun d => d.declaration.toProperty d.owner d.entity) ++
        (s.placed (·.attributes)).map fun d =>
          (d.declaration.qualify d.owner d.entity).toProperty s.types := by
  rw [madeProperties, h.inverseProperties_inherit, h.attributeProperties_inherit]

omit h in
/-- Apart from partners, the properties at the end are those that were made. -/
lemma unlinkedArena_resolve_eq (hp : s.properties = {}) :
    s.resolve.properties.unlinkedArena = s.madeProperties := by
  rw [unlinkedArena_resolve hp, madeTable, PropertyTable.unlinkedArena,
    PropertyTable.arena_insertAll, List.nil_append]
  exact (List.map_congr_left fun p hp => Property.unlinked_eq_self
    (inverse_eq_none_of_mem_madeProperties hp)).trans (List.map_id' _)

end Made

end Schema

end ExpressSchema
