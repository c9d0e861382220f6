/-
# Closed schemas

A schema is closed if everything in it that stands for something else stands for something that is
there: identifiers of entities, attributes, inverses, properties and groups of siblings, and the
canonical names of selects.

Work on a schema takes nothing away, so what is there stays there (`Grows`), and to see that a
schema stays closed one only has to look at what is new in it.
-/
import ExpressSchema.Proofs.Reading.Edit
import ExpressSchema.Resolution

namespace ExpressSchema

/-! ## What is there stays there -/

/-- Everything that can be stood for in the one schema can be stood for in the other. -/
structure Schema.Grows (s t : Schema) : Prop extends s.Within t where
  attributeAt : ∀ id, (s.attributeAt? id).isSome → (t.attributeAt? id).isSome
  inverseAt : ∀ id, (s.inverseAt? id).isSome → (t.inverseAt? id).isSome
  property : s.properties.arena.length ≤ t.properties.arena.length
  select : ∀ key ∈ s.types.keys, key ∈ t.types.keys

lemma Schema.Grows.refl (s : Schema) : s.Grows s :=
  ⟨.refl s, fun _ => id, fun _ => id, le_rfl, fun _ => id⟩

lemma Schema.Grows.trans {s t u : Schema} (h₁ : s.Grows t) (h₂ : t.Grows u) : s.Grows u :=
  ⟨h₁.toWithin.trans h₂.toWithin, fun id h => h₂.attributeAt id (h₁.attributeAt id h),
    fun id h => h₂.inverseAt id (h₁.inverseAt id h), h₁.property.trans h₂.property,
    fun key h => h₂.select key (h₁.select key h)⟩

/-! ## Closed parts -/

/-- Nothing is declared of an entity whose place is too large for a word, as no identifier leads
there. -/
def Entity.Reached (id : EntityId) (e : Entity) : Prop :=
  UInt32.size ≤ id.index → e.attributes = [] ∧ e.inverses = []

/-- So an entity of which anything is declared stands where its identifier leads. -/
lemma Entity.Reached.ofNat_index {id : EntityId} {e : Entity} (h : e.Reached id)
    (hsome : e.attributes ≠ [] ∨ e.inverses ≠ []) : EntityId.ofNat id.index = id := by
  refine EntityId.ofNat_of_lt (Nat.lt_of_not_le fun hlarge => ?_)
  obtain ⟨hattributes, hinverses⟩ := h hlarge
  exact hsome.elim (absurd hattributes) (absurd hinverses)

/-- Whatever an entity stands for is there in the schema, and its attributes and inverses know that
they are its own. -/
structure Entity.Closed (s : Schema) (id : EntityId) (e : Entity) : Prop where
  reached : e.Reached id
  attribute_owner : ∀ a ∈ e.attributes, a.owner = id
  inverse_owner : ∀ i ∈ e.inverses, i.owner = id
  subtypes : ∀ set ∈ e.subtypes, set.index < s.siblings.sets.length
  allAttributes : ∀ a ∈ e.allAttributes, (s.attributeAt? a).isSome
  allInverses : ∀ i ∈ e.allInverses, (s.inverseAt? i).isSome
  invertedBy : ∀ a ∈ e.attributes, ∀ i ∈ a.invertedBy, (s.inverseAt? i).isSome
  property : ∀ i ∈ e.inverses, ∀ p ∈ i.property, p.index < s.properties.arena.length
  selects : ∀ key ∈ e.selects, key ∈ s.types.keys

lemma Entity.Closed.grow {s t : Schema} (h : s.Grows t) {id : EntityId} {e : Entity}
    (he : e.Closed s id) : e.Closed t id where
  reached := he.reached
  attribute_owner := he.attribute_owner
  inverse_owner := he.inverse_owner
  subtypes set hset := (he.subtypes set hset).trans_le h.sets
  allAttributes a ha := h.attributeAt a (he.allAttributes a ha)
  allInverses i hi := h.inverseAt i (he.allInverses i hi)
  invertedBy a ha i hi := h.inverseAt i (he.invertedBy a ha i hi)
  property i hi p hp := (he.property i hi p hp).trans_le h.property
  selects key hkey := h.select key (he.selects key hkey)

lemma Entity.closed_ofName (s : Schema) (id : EntityId) (name : String) :
    (Entity.ofName name).Closed s id := by
  constructor <;> simp [Entity.ofName, Entity.Reached]

/-- A type is registered under its canonical name, and so are the selects that list it. -/
structure TypeDecl.Closed (s : Schema) (key : String) (t : TypeDecl) : Prop where
  key_eq : t.key = key
  selects : ∀ select ∈ t.selects, select ∈ s.types.keys

/-- Every property is owned by an entity that is there, and the identifiers that the properties
know of one another are those of properties. -/
structure PropertyTable.Closed (entities : Nat) (t : PropertyTable) : Prop where
  owner : ∀ p ∈ t.arena, p.owner.index < entities
  inverse : ∀ p ∈ t.arena, ∀ id ∈ p.inverse, id.index < t.arena.length
  name : ∀ name id, t.idOf? name = some id → id.index < t.arena.length

/-- Everything that stands for something in the schema stands for something that is there. -/
structure Schema.Closed (s : Schema) : Prop where
  entity : ∀ id e, s.entityAt? id = some e → e.Closed s id
  type : ∀ p ∈ s.types.entries, p.2.Closed s p.1
  properties : s.properties.Closed s.entities.size
  sibling : ∀ p ∈ s.siblings.byMember.entries, p.2.index < s.siblings.sets.length
  builtinSelect : ∀ p ∈ s.builtinSelects.entries, ∀ key ∈ p.2, key ∈ s.types.keys

lemma Schema.closed_empty : ({} : Schema).Closed where
  entity id e he := by simp [Schema.entityAt?, Table.empty, Table.at?, Table.entryAt?] at he
  type p hp := by simp [Table.empty] at hp
  properties := ⟨by simp, by simp, by simp [PropertyTable.idOf?, Table.empty, Table.get?]⟩
  sibling p hp := by simp [Table.empty] at hp
  builtinSelect p hp := by simp [Table.empty] at hp

namespace Schema

variable {s : Schema}

/-- Whatever is declared is declared of an entity to which an identifier leads. -/
def Reached (s : Schema) : Prop := ∀ id e, s.entityAt? id = some e → e.Reached id

lemma Closed.reached (hs : s.Closed) : s.Reached := fun id e he => (hs.entity id e he).reached

/-! ## Changing one part -/

/-- The name, the individuals and the diagnostics stand for nothing. -/
lemma Closed.congr {t : Schema} (hs : s.Closed) (hentities : t.entities = s.entities)
    (htypes : t.types = s.types) (hproperties : t.properties = s.properties)
    (hsiblings : t.siblings = s.siblings) (hselects : t.builtinSelects = s.builtinSelects) :
    t.Closed := by
  obtain ⟨name, entities, types, siblings, properties, individuals, selects, diagnostics⟩ := t
  dsimp only at hentities htypes hproperties hsiblings hselects
  subst hentities htypes hproperties hsiblings hselects
  refine ⟨fun id e he => ?_, fun p hp => ?_, hs.properties, hs.sibling, hs.builtinSelect⟩
  · have hentity := hs.entity id e he
    exact ⟨hentity.reached, hentity.attribute_owner, hentity.inverse_owner, hentity.subtypes,
      hentity.allAttributes, hentity.allInverses, hentity.invertedBy, hentity.property,
      hentity.selects⟩
  · exact ⟨(hs.type p hp).key_eq, (hs.type p hp).selects⟩

/-- What a closed schema stays if its entities are replaced: the new ones have to be closed. -/
lemma Closed.setEntities (hs : s.Closed) {entities : Table String Entity}
    (hg : s.Grows { s with entities := entities })
    (h : ∀ id e, entities.at? id.index = some e → e.Closed { s with entities := entities } id) :
    ({ s with entities := entities } : Schema).Closed where
  entity := h
  type p hp := ⟨(hs.type p hp).key_eq, (hs.type p hp).selects⟩
  properties :=
    ⟨fun p hp => (hs.properties.owner p hp).trans_le hg.entities, hs.properties.inverse,
      hs.properties.name⟩
  sibling := hs.sibling
  builtinSelect := hs.builtinSelect

/-- The entities after a change that leaves each of them at its place and takes no attribute or
inverse away. -/
lemma grows_setEntities {entities : Table String Entity}
    (hsize : s.entities.size ≤ entities.size)
    (h : ∀ i e, s.entities.at? i = some e → ∃ e', entities.at? i = some e' ∧
      e.attributes.length ≤ e'.attributes.length ∧ e.inverses.length ≤ e'.inverses.length) :
    s.Grows { s with entities := entities } := by
  refine ⟨⟨hsize, le_rfl, le_rfl⟩, fun id hid => ?_, fun id hid => ?_, le_rfl, fun _ => id⟩
  · obtain ⟨a, ha⟩ := Option.isSome_iff_exists.1 hid
    obtain ⟨e, he, hslot⟩ := Option.bind_eq_some_iff.1 ha
    obtain ⟨hlt, -⟩ := List.getElem?_eq_some_iff.1 hslot
    obtain ⟨e', he', hattributes, -⟩ := h _ e he
    simp [attributeAt?, entityAt?, he', hlt.trans_le hattributes]
  · obtain ⟨a, ha⟩ := Option.isSome_iff_exists.1 hid
    obtain ⟨e, he, hslot⟩ := Option.bind_eq_some_iff.1 ha
    obtain ⟨hlt, -⟩ := List.getElem?_eq_some_iff.1 hslot
    obtain ⟨e', he', -, hinverses⟩ := h _ e he
    simp [inverseAt?, entityAt?, he', hlt.trans_le hinverses]

/-- A change of entities that takes no attribute or inverse away. -/
def Keeps (f : Entity → Entity) : Prop :=
  ∀ e, e.attributes.length ≤ (f e).attributes.length ∧ e.inverses.length ≤ (f e).inverses.length

lemma grows_modifyEntity (s : Schema) (id : EntityId) {f : Entity → Entity} (hf : Keeps f) :
    s.Grows (s.modifyEntity id f) := by
  refine grows_setEntities (Table.size_modifyAt _ _ _).ge fun i e he => ?_
  rw [Table.at?_modifyAt, he]
  by_cases h : id.index = i
  · exact ⟨f e, by rw [if_pos h, Option.map_some], hf e⟩
  · exact ⟨e, by rw [if_neg h], le_rfl, le_rfl⟩

lemma Closed.modifyEntity (hs : s.Closed) {id : EntityId} {f : Entity → Entity} (hf : Keeps f)
    (h : ∀ e, e.Closed (s.modifyEntity id f) id → (f e).Closed (s.modifyEntity id f) id) :
    (s.modifyEntity id f).Closed := by
  have hg := s.grows_modifyEntity id hf
  refine hs.setEntities hg fun i e' he' => ?_
  rw [Table.at?_modifyAt] at he'
  split_ifs at he' with hi
  · obtain ⟨e, he, rfl⟩ := Option.map_eq_some_iff.1 he'
    obtain rfl : id = i := by
      cases id
      cases i
      exact congrArg EntityId.mk hi
    exact h e ((hs.entity id e he).grow hg)
  · exact (hs.entity i e' he').grow hg

lemma grows_mapEntities (s : Schema) {f : Nat → Entity → Entity} (hf : ∀ i, Keeps (f i)) :
    s.Grows { s with entities := s.entities.mapIdx f } := by
  refine grows_setEntities (Table.size_mapIdx _ _).ge fun i e he => ?_
  exact ⟨f i e, by rw [Table.at?_mapIdx, he, Option.map_some], hf i e⟩

lemma Closed.mapEntities (hs : s.Closed) {f : Nat → Entity → Entity} (hf : ∀ i, Keeps (f i))
    (h : ∀ id e, s.entityAt? id = some e →
      e.Closed { s with entities := s.entities.mapIdx f } id →
        (f id.index e).Closed { s with entities := s.entities.mapIdx f } id) :
    ({ s with entities := s.entities.mapIdx f } : Schema).Closed := by
  have hg := s.grows_mapEntities hf
  refine hs.setEntities hg fun id e' he' => ?_
  rw [Table.at?_mapIdx] at he'
  obtain ⟨e, he, rfl⟩ := Option.map_eq_some_iff.1 he'
  exact h id e he ((hs.entity id e he).grow hg)

/-- What a closed schema stays if its types are replaced: the new ones have to be closed, and no
canonical name may go. -/
lemma Closed.setTypes (hs : s.Closed) {types : Table String TypeDecl}
    (hsize : s.types.size ≤ types.size) (hkeys : ∀ key ∈ s.types.keys, key ∈ types.keys)
    (h : ∀ p ∈ types.entries, p.2.Closed { s with types := types } p.1) :
    ({ s with types := types } : Schema).Closed ∧ s.Grows { s with types := types } := by
  have hg : s.Grows { s with types := types } :=
    ⟨⟨le_rfl, hsize, le_rfl⟩, fun _ => id, fun _ => id, le_rfl, hkeys⟩
  refine ⟨⟨fun id e he => (hs.entity id e he).grow hg, h, hs.properties, hs.sibling,
    fun p hp key hkey => hkeys key (hs.builtinSelect p hp key hkey)⟩, hg⟩

end Schema
end ExpressSchema
