/-
# What inheritance rests on

What an entity inherits depends on little: on the names of the entities, on the supertypes as
written, and on how many attributes and inverses each entity has of its own.  Resolution changes
none of these, so that inheritance can be told from the schema that comes out of it just as well as
from the schema that was read (`sameDescent_resolve`).
-/
import ExpressSchema.Proofs.Resolution.MadeProperties
import ExpressSchema.Proofs.Resolution.Reported

namespace ExpressSchema

/-- What is known of an entity before anything is inherited. -/
structure Descent where
  /-- The canonical name, as the entity has it. -/
  key : String
  /-- The name as first written. -/
  name : String
  /-- The supertype, as written. -/
  supertype : Option String
  /-- The number of its own attributes. -/
  attributes : Nat
  /-- The number of its own inverses. -/
  inverses : Nat

/-- What is known of this entity before anything is inherited. -/
def Entity.descent (e : Entity) : Descent :=
  ⟨e.key, e.name, e.supertype, e.attributes.length, e.inverses.length⟩

namespace Schema

/-! ## What comes after inheritance -/

/-- What the passes after inheritance leave alone, but for the names within the schema, can be told
from the entities before them. -/
lemma map_values_pairInverses {α : Type} (s : Schema) (f g : Entity → α)
    (hqualify : ∀ e id first, f (e.qualify id first) = g e)
    (hplace : ∀ e (origin : Attribute → Option RangeOrigin), f { e with
      attributes := e.attributes.map fun a => { a with rangeOrigin := origin a } } = f e) :
    s.makeProperties.pairInverses.entities.values.map f = s.inherit.entities.values.map g := by
  rw [List.map_eq_flatMap, List.map_eq_flatMap]
  change s.inherit.makeInverseProperties.placeRanges.entities.values.flatMap _ = _
  rw [flatMap_values_placeRanges _ _ fun e => by rw [hplace]]
  exact s.inherit.flatMap_values_qualifyNames _ _ fun e id first => by rw [hqualify]

/-- Apart from the selects that list them, the same holds of the entities in the end. -/
lemma map_values_resolve {α : Type} (s : Schema) (f g : Entity → α)
    (hqualify : ∀ e id first, f (e.qualify id first) = g e)
    (hplace : ∀ e (origin : Attribute → Option RangeOrigin), f { e with
      attributes := e.attributes.map fun a => { a with rangeOrigin := origin a } } = f e)
    (hselects : ∀ e selects, f { e with selects := selects } = f e) :
    s.resolve.entities.values.map f = s.inherit.entities.values.map g := by
  rw [← s.map_values_pairInverses f g hqualify hplace, List.map_eq_flatMap, List.map_eq_flatMap,
    resolve, flatMap_values_noteSelects _ _ fun e selects => by rw [hselects]]

lemma keys_noteSelects (s : Schema) : s.noteSelects.entities.keys = s.entities.keys := by
  refine apply_noteSelects (·.entities.keys) (fun s p => ?_) s
  unfold noteSelect
  cases s.selectMember p.2 with
  | entity key => exact Table.keys_modify _ _ _
  | type key | builtin b | unknown => rfl

/-- Between inheritance and the end no entity is declared or dropped. -/
lemma keys_pairInverses (s : Schema) :
    s.makeProperties.pairInverses.entities.keys = s.inherit.entities.keys := by
  change s.inherit.makeInverseProperties.placeRanges.entities.keys = _
  rw [placeRanges, Table.keys_mapIdx]
  change s.inherit.qualifyNames.entities.keys = _
  rw [entities_qualifyNames, Table.keys_scan]

/-- After inheritance no entity is declared or dropped. -/
lemma keys_resolve (s : Schema) : s.resolve.entities.keys = s.inherit.entities.keys := by
  rw [resolve, keys_noteSelects, keys_pairInverses]

/-! ## The identifiers of own attributes and inverses -/

lemma map_snd_ownAttributes (s : Schema) (id : EntityId) :
    (s.ownAttributes id).map Prod.snd =
      ((s.entityAt? id).map fun e =>
        (List.range e.attributes.length).map (.ofNat (.ofNat id.index))).getD [] := by
  unfold ownAttributes
  cases s.entityAt? id with
  | none => rfl
  | some e =>
    have hsnd : Prod.snd ∘ (fun p : Attribute × Nat =>
        (p.1, AttributeId.ofNat (.ofNat id.index) p.2)) =
          AttributeId.ofNat (.ofNat id.index) ∘ Prod.snd := rfl
    dsimp only [Option.map_some, Option.getD_some]
    rw [List.map_map, hsnd, ← List.map_map, List.zipIdx_map_snd, List.range_eq_range']

lemma ownInverses_eq (s : Schema) (id : EntityId) :
    s.ownInverses id =
      ((s.entityAt? id).map fun e =>
        (List.range e.inverses.length).map (.ofNat (.ofNat id.index))).getD [] := by
  unfold ownInverses
  cases s.entityAt? id <;> rfl

/-! ## The same descent -/

/-- Two schemas in which every entity inherits the same. -/
structure SameDescent (s t : Schema) : Prop where
  keys : s.entities.keys = t.entities.keys
  descent : s.entities.values.map Entity.descent = t.entities.values.map Entity.descent

lemma SameDescent.symm {s t : Schema} (h : s.SameDescent t) : t.SameDescent s :=
  ⟨h.keys.symm, h.descent.symm⟩

lemma SameDescent.trans {s t u : Schema} (h₁ : s.SameDescent t) (h₂ : t.SameDescent u) :
    s.SameDescent u :=
  ⟨h₁.keys.trans h₂.keys, h₁.descent.trans h₂.descent⟩

/-- Entities that are the same as read inherit the same. -/
lemma sameDescent_of_readEntities {s t : Schema} (h : s.readEntities = t.readEntities) :
    s.SameDescent t where
  keys := by
    have hkeys := congrArg Table.keys h
    rwa [readEntities, readEntities, Table.keys_mapIdx, Table.keys_mapIdx] at hkeys
  descent := map_values_congr h _ fun e => by simp [Entity.descent, Entity.asRead]

/-- Resolution changes nothing on which inheritance rests. -/
theorem sameDescent_resolve (s : Schema) : s.resolve.SameDescent s := by
  refine SameDescent.trans ⟨keys_resolve s, ?_⟩
    (sameDescent_of_readEntities (readEntities_inherit s))
  exact s.map_values_resolve _ _ (fun e id first => by simp [Entity.descent, Entity.qualify])
    (fun e origin => by simp [Entity.descent]) fun _ _ => rfl

namespace SameDescent

variable {s t : Schema} (h : s.SameDescent t)
include h

/-- At each place the two schemas have entities that inherit the same. -/
lemma map_entityAt? {α : Type} (f : Entity → α) (g : Descent → α)
    (hf : ∀ e, f e = g e.descent) (id : EntityId) :
    (s.entityAt? id).map f = (t.entityAt? id).map f := by
  have hcomp : f = g ∘ Entity.descent := funext hf
  rw [hcomp, ← Option.map_map, ← Option.map_map, map_entityAt?_of_map_values h.descent]

lemma supertypeName?_eq (id : EntityId) : s.supertypeName? id = t.supertypeName? id := by
  have hmap := h.map_entityAt? (·.supertype) (·.supertype) (fun _ => rfl) id
  have hbind : ∀ o : Option Entity, o.bind (·.supertype) = (o.map (·.supertype)).join := by
    intro o
    cases o <;> rfl
  rw [supertypeName?, supertypeName?, hbind, hbind, hmap]

lemma indexOf?_eq (key : String) : s.entities.indexOf? key = t.entities.indexOf? key := by
  rw [Table.indexOf?, Table.indexOf?, h.keys]

/-- The chains are the same. -/
lemma chain_eq (entity : EntityId) : s.chain entity = t.chain entity :=
  followChain_congr h.supertypeName?_eq h.indexOf?_eq entity [entity]

/-- The own attributes of an entity have the same identifiers. -/
lemma ownAttributes_congr (entity : EntityId) :
    (s.ownAttributes entity).map Prod.snd = (t.ownAttributes entity).map Prod.snd := by
  have hmap := h.map_entityAt?
    (fun e => (List.range e.attributes.length).map (AttributeId.ofNat (.ofNat entity.index)))
    (fun d => (List.range d.attributes).map (.ofNat (.ofNat entity.index))) (fun _ => rfl) entity
  rw [map_snd_ownAttributes, map_snd_ownAttributes, hmap]

lemma ownInverses_congr (entity : EntityId) : s.ownInverses entity = t.ownInverses entity := by
  have hmap := h.map_entityAt?
    (fun e => (List.range e.inverses.length).map (InverseId.ofNat (.ofNat entity.index)))
    (fun d => (List.range d.inverses).map (.ofNat (.ofNat entity.index))) (fun _ => rfl) entity
  rw [s.ownInverses_eq, t.ownInverses_eq, hmap]

lemma chainAttributes_eq (entity : EntityId) :
    (s.chainAttributes entity).map Prod.snd = (t.chainAttributes entity).map Prod.snd := by
  simp only [chainAttributes, attributesAlong, List.map_flatMap, h.chain_eq, h.ownAttributes_congr]

lemma chainInverses_eq (entity : EntityId) : s.chainInverses entity = t.chainInverses entity := by
  have hown : s.ownInverses = t.ownInverses := funext h.ownInverses_congr
  rw [chainInverses, chainInverses, h.chain_eq, hown]

end SameDescent

end Schema
end ExpressSchema
