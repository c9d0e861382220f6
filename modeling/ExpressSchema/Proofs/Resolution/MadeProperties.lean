/-
# The properties that are made

Each inverse and then each attribute becomes a property.  When the schema had no properties before,
the properties stand in the order of the declarations, inverses first, so that the place of an
inverse among all inverses is the identifier of its property, and that of an attribute follows from
its place among all attributes.  If the names within the schema tell all of them apart, each
property is found under its name.
-/
import ExpressSchema.Proofs.Pairing.Partner
import ExpressSchema.Proofs.Resolution.Declared
import Mathlib.Data.List.Induction
import Mathlib.Data.List.Nodup

namespace ExpressSchema

/-! ## Adding properties -/

namespace PropertyTable

lemma arena_insertAll (t : PropertyTable) (ps : List Property) :
    (t.insertAll ps).arena = t.arena ++ ps := by
  induction ps generalizing t with
  | nil => simp [insertAll]
  | cons p ps ih =>
    have h : t.insertAll (p :: ps) = (t.insert p).insertAll ps := rfl
    rw [h, ih]
    simp [insert]

lemma insertAll_append (t : PropertyTable) (ps qs : List Property) :
    t.insertAll (ps ++ qs) = (t.insertAll ps).insertAll qs := by
  simp [insertAll]

lemma length_arena_insertAll (ps : List Property) :
    (insertAll {} ps).arena.length = ps.length := by
  rw [arena_insertAll, List.nil_append]

/-- Properties with names of their own are found under them, if there are identifiers for all of
them. -/
lemma idOf?_insertAll_iff {ps : List Property} (hfits : ps.length ≤ UInt32.size)
    (h : (ps.map (·.name)).Nodup) (name : String) (id : PropertyId) :
    (insertAll {} ps).idOf? name = some id ↔ (insertAll {} ps).nameAt? id = some name := by
  -- properties are entered at the end, where the last one has the highest number
  induction ps using List.reverseRecOn generalizing id with
  | nil => simp [insertAll, idOf?, nameAt?, byId?, Table.get?, Table.empty]
  | append_singleton ps p ih =>
    rw [List.length_append, List.length_singleton] at hfits
    rw [List.map_append, List.nodup_append] at h
    obtain ⟨hps, -, hnew⟩ := h
    have hlt : (insertAll {} ps).arena.length < UInt32.size := by rwa [length_arena_insertAll]
    replace ih := ih (Nat.le_of_succ_le hfits)
    have hfresh : ∀ id, (insertAll {} ps).nameAt? id ≠ some p.name := by
      intro id hid
      obtain ⟨q, hq, hname⟩ := Option.map_eq_some_iff.1 hid
      rw [byId?, arena_insertAll, List.nil_append] at hq
      exact hnew _ (List.mem_map_of_mem (List.mem_of_getElem? hq)) p.name (by simp) hname
    have hnext : (insertAll {} ps).byId? (insertAll {} ps).nextId = none := by
      simp [byId?, nextId_of_lt hlt]
    rw [insertAll_append]
    change ((insertAll {} ps).insert p).idOf? name = some id ↔
      ((insertAll {} ps).insert p).nameAt? id = some name
    rw [idOf?_insert, nameAt?, byId?_insert_of_lt hlt]
    -- the name and the number may each be that of the new property or another one
    by_cases hname : name = p.name <;> by_cases hid : id = (insertAll {} ps).nextId
    · simp [hname, hid]
    · rw [if_pos hname, if_neg hid, hname]
      exact iff_of_false (fun heq => hid (Option.some.inj heq).symm) (hfresh id)
    · rw [if_neg hname, if_pos hid, ih hps, hid, nameAt?, hnext]
      simp [eq_comm, hname]
    · rw [if_neg hname, if_neg hid, ih hps]
      rfl

lemma partner?_insertAll {ps : List Property} (h : ∀ p ∈ ps, p.inverse = none)
    (id : PropertyId) : (insertAll {} ps).partner? id = none := by
  rw [partner?, byId?, arena_insertAll, List.nil_append]
  cases hp : ps[id.index]? with
  | none => rfl
  | some p => exact h p (List.mem_of_getElem? hp)

end PropertyTable

/-! ## The property of an attribute -/

/-- The property of an attribute whose range has this name and stands for such a type, with these
members if it is a select. -/
def Attribute.propertyOver (a : Attribute) (range : String) (underlying : UnderlyingType)
    (members : List String) : Property :=
  { Property.ofRange a.name a.owner range with
    declaredName := a.declaredName
    aggregation := a.aggregation
    cardinality := a.cardinality
    innerCardinality := a.innerCardinality
    isOptional := a.isOptional
    kind := underlying.propertyKind
    members := if underlying = .select then members else [] }

lemma Attribute.toProperty_eq (a : Attribute) (types : Table String TypeDecl) :
    a.toProperty types =
      match a.builtin with
      | some b => a.propertyOver b.keyword (.builtin b) []
      | none =>
        match types.get? a.rangeKey with
        | some t => a.propertyOver t.name t.underlying t.members
        | none => a.propertyOver a.range .entity [] :=
  rfl

/-- All but the range, the kind and the members is taken over from the attribute. -/
lemma Attribute.exists_propertyOver (a : Attribute) (types : Table String TypeDecl) :
    ∃ range underlying members,
      a.toProperty types = a.propertyOver range underlying members := by
  rw [toProperty_eq]
  cases a.builtin with
  | some b => exact ⟨_, _, _, rfl⟩
  | none => cases types.get? a.rangeKey <;> exact ⟨_, _, _, rfl⟩

/-! ## Names within the schema -/

namespace Schema

/-- An entity is qualified with the number of the first of its inverses, and the number that comes
after them is handed on. -/
def numberInverses (i first : Nat) (e : Entity) : Nat × Entity :=
  (first + e.inverses.length, e.qualify (.ofNat i) first)

lemma entities_qualifyNames (s : Schema) :
    s.qualifyNames.entities = (s.entities.scan numberInverses s.properties.arena.length).2 := rfl

lemma map_zipIdx_fst {α β : Type} (l : List α) (f : α → β) :
    (l.zipIdx.map fun p => f p.1) = l.map f := by
  have h : (fun p : α × Nat => f p.1) = f ∘ Prod.fst := rfl
  rw [h, ← List.map_map, List.zipIdx_map_fst]

/-- What does not depend on the numbers of inverses can be worked out entity by entity, each in its
place. -/
lemma flatMap_zipIdx_qualifyNames {α : Type} (s : Schema) (f : Entity → List α)
    (g : Entity × Nat → List α) (h : ∀ e i first, f (e.qualify (.ofNat i) first) = g (e, i)) :
    s.qualifyNames.entities.values.flatMap f = s.entities.values.zipIdx.flatMap g := by
  have key : ∀ (es : List (String × Entity)) (i first : Nat),
      ((Table.scanEntries numberInverses i first es).2.map Prod.snd).flatMap f =
        ((es.map Prod.snd).zipIdx i).flatMap g := by
    intro es
    induction es with
    | nil => simp [Table.scanEntries]
    | cons e es ih =>
      intro i first
      simp [Table.scanEntries, ih, numberInverses, h]
  exact key s.entities.entries 0 s.properties.arena.length

/-- What does not depend on places either can be worked out without them. -/
lemma flatMap_values_qualifyNames {α : Type} (s : Schema) (f g : Entity → List α)
    (h : ∀ e id first, f (e.qualify id first) = g e) :
    s.qualifyNames.entities.values.flatMap f = s.entities.values.flatMap g := by
  rw [s.flatMap_zipIdx_qualifyNames f (fun p => g p.1) fun e i first => h e (.ofNat i) first,
    List.flatMap_def, map_zipIdx_fst, List.flatMap_def]

/-- Inverses are numbered without a gap. -/
lemma declaredInverses_qualifyNames (s : Schema) :
    s.qualifyNames.declaredInverses = s.declaredInverses.mapIdx fun k i =>
      { i with property := some (.ofNat (s.properties.arena.length + k)) } := by
  have key : ∀ (es : List (String × Entity)) (i first : Nat),
      ((Table.scanEntries numberInverses i first es).2.map Prod.snd).flatMap (·.inverses) =
        ((es.map Prod.snd).flatMap (·.inverses)).mapIdx fun k i =>
          { i with property := some (.ofNat (first + k)) } := by
    intro es
    induction es with
    | nil => simp [Table.scanEntries]
    | cons e es ih =>
      intro i first
      simp only [Table.scanEntries, numberInverses, List.map_cons, List.flatMap_cons,
        List.mapIdx_append, ih]
      congr 1
      simp only [Nat.add_comm, Nat.add_left_comm]
  exact key s.entities.entries 0 s.properties.arena.length

lemma map_name_attributes_qualifyNames (s : Schema) :
    s.qualifyNames.declaredAttributes.map (·.name) = s.attributeNames := by
  simp only [declaredAttributes, List.map_flatMap, attributeNames]
  exact s.flatMap_values_qualifyNames _ _ fun e id first => by
    simp [Entity.qualify, Attribute.qualify]

lemma map_aggregation_qualifyNames (s : Schema) :
    s.qualifyNames.declaredAttributes.map (·.aggregation) =
      s.declaredAttributes.map (·.aggregation) := by
  simp only [declaredAttributes, List.map_flatMap]
  exact s.flatMap_values_qualifyNames _ _ fun e id first => by
    simp [Entity.qualify, Attribute.qualify]

/-! ## Properties of inverses and attributes -/

lemma map_name_inverseProperties (s : Schema) :
    s.inverseProperties.map (·.name) = s.inverseNames := by
  have h : ∀ p : Entity × Nat, (p.1.inverseProperties (.ofNat p.2)).map (·.name) =
      p.1.inverses.map fun i => Name.qualified i.name p.1.name := by
    intro p
    simp [Entity.inverseProperties, Inverse.toProperty, Property.ofRange]
  rw [inverseProperties, List.map_flatten, List.map_map, inverseNames, List.flatMap_def,
    ← map_zipIdx_fst s.entities.values, Function.comp_def]
  simp only [h]

lemma inverse_eq_none_of_mem_inverseProperties {s : Schema} {p : Property}
    (h : p ∈ s.inverseProperties) : p.inverse = none := by
  simp only [inverseProperties, List.mem_flatten, List.mem_map] at h
  obtain ⟨_, ⟨e, -, rfl⟩, hp⟩ := h
  obtain ⟨i, -, rfl⟩ := List.mem_map.1 hp
  rfl

lemma name_toProperty (a : Attribute) (types : Table String TypeDecl) :
    (a.toProperty types).name = a.name := by
  obtain ⟨range, underlying, members, h⟩ := a.exists_propertyOver types
  rw [h]
  rfl

lemma aggregation_toProperty (a : Attribute) (types : Table String TypeDecl) :
    (a.toProperty types).aggregation = a.aggregation := by
  obtain ⟨range, underlying, members, h⟩ := a.exists_propertyOver types
  rw [h]
  rfl

lemma inverse_toProperty (a : Attribute) (types : Table String TypeDecl) :
    (a.toProperty types).inverse = none := by
  obtain ⟨range, underlying, members, h⟩ := a.exists_propertyOver types
  rw [h]
  rfl

lemma attributeProperties_eq (s : Schema) :
    s.attributeProperties = s.declaredAttributes.map fun a => a.toProperty s.types := by
  simp [attributeProperties, declaredAttributes, List.map_flatMap]

lemma declaredInverses_enterProperties (s : Schema) (ps : List Property) :
    (s.enterProperties ps).declaredInverses = s.declaredInverses := rfl

lemma declaredAttributes_enterProperties (s : Schema) (ps : List Property) :
    (s.enterProperties ps).declaredAttributes = s.declaredAttributes := rfl

lemma properties_enterProperties (s : Schema) (ps : List Property) :
    (s.enterProperties ps).properties = s.properties.insertAll ps := rfl

lemma entities_makeInverseProperties (s : Schema) :
    s.makeInverseProperties.entities = s.qualifyNames.entities := rfl

lemma types_makeInverseProperties (s : Schema) : s.makeInverseProperties.types = s.types := rfl

lemma declaredAttributes_makeInverseProperties (s : Schema) :
    s.makeInverseProperties.declaredAttributes = s.qualifyNames.declaredAttributes := rfl

lemma properties_makeInverseProperties (s : Schema) :
    s.makeInverseProperties.properties = s.properties.insertAll s.inverseProperties := rfl

/-- Apart from where ranges are declared, entities stay as they are. -/
lemma flatMap_values_placeRanges {α : Type} (s : Schema) (f : Entity → List α)
    (hf : ∀ e, (f { e with attributes := e.attributes.map fun a =>
      { a with rangeOrigin := some (a.toProperty s.types).rangeOrigin } }) = f e) :
    s.placeRanges.entities.values.flatMap f = s.entities.values.flatMap f := by
  simp only [placeRanges, Table.values_mapIdx, List.flatMap_def, List.mapIdx_eq_zipIdx_map,
    List.map_map, Function.comp_def, hf]
  rw [map_zipIdx_fst]

lemma declaredInverses_placeRanges (s : Schema) :
    s.placeRanges.declaredInverses = s.declaredInverses :=
  s.flatMap_values_placeRanges _ fun _ => rfl

/-- Where ranges are declared is noted with the attributes. -/
lemma declaredAttributes_placeRanges (s : Schema) :
    s.placeRanges.declaredAttributes = s.declaredAttributes.map fun a =>
      { a with rangeOrigin := some (a.toProperty s.types).rangeOrigin } := by
  have hvalues : s.placeRanges.entities.values = s.entities.values.map fun e =>
      { e with attributes := e.attributes.map fun a =>
          { a with rangeOrigin := some (a.toProperty s.types).rangeOrigin } } := by
    apply List.ext_getElem?
    intro i
    simp [placeRanges, Table.values_mapIdx]
  rw [declaredAttributes, hvalues, List.flatMap_map, declaredAttributes, List.map_flatMap]

lemma map_name_attributes_placeRanges (s : Schema) :
    s.placeRanges.declaredAttributes.map (·.name) = s.declaredAttributes.map (·.name) := by
  rw [declaredAttributes_placeRanges, List.map_map]
  rfl

/-! ## All properties -/

/-- All properties that are made, in order. -/
def madeProperties (s : Schema) : List Property :=
  s.inherit.inverseProperties ++ s.inherit.makeInverseProperties.attributeProperties

lemma properties_makeProperties {s : Schema} (h : s.properties = {}) :
    s.makeProperties.properties = PropertyTable.insertAll {} s.madeProperties := by
  have hinherit : s.inherit.properties = {} := (properties_inherit s).trans h
  have hplace : ∀ s : Schema, s.placeRanges.properties = s.properties := fun _ => rfl
  rw [makeProperties, makeAttributeProperties, properties_enterProperties, hplace,
    properties_makeInverseProperties, hinherit, madeProperties, PropertyTable.insertAll_append]

lemma map_name_madeProperties (s : Schema) :
    s.madeProperties.map (·.name) = s.inverseNames ++ s.attributeNames := by
  have hinverse : s.inherit.inverseProperties.map (·.name) = s.inverseNames := by
    rw [map_name_inverseProperties, inverseNames_congr (readEntities_inherit s)]
  have hattribute : s.inherit.makeInverseProperties.attributeProperties.map (·.name) =
      s.attributeNames := by
    rw [attributeProperties_eq, List.map_map, Function.comp_def]
    simp only [name_toProperty]
    rw [declaredAttributes_makeInverseProperties, map_name_attributes_qualifyNames,
      attributeNames_congr (readEntities_inherit s)]
  rw [madeProperties, List.map_append, hinverse, hattribute]

lemma length_inverseProperties_inherit (s : Schema) :
    s.inherit.inverseProperties.length = s.declaredInverses.length := by
  rw [← List.length_map (f := (·.name)), map_name_inverseProperties,
    inverseNames_congr (readEntities_inherit s), length_inverseNames]

/-- After the properties of inverses come those of attributes. -/
lemma getElem?_madeProperties (s : Schema) (k : Nat) :
    (s.madeProperties[s.declaredInverses.length + k]?).map (·.aggregation) =
      (s.declaredAttributes[k]?).map (·.aggregation) := by
  have haggregation : s.inherit.makeInverseProperties.attributeProperties.map (·.aggregation) =
      s.declaredAttributes.map (·.aggregation) := by
    rw [attributeProperties_eq, List.map_map, Function.comp_def]
    simp only [aggregation_toProperty]
    rw [declaredAttributes_makeInverseProperties, map_aggregation_qualifyNames]
    exact map_declaredAttributes_congr (readEntities_inherit s) _ fun _ => rfl
  rw [madeProperties, ← length_inverseProperties_inherit,
    List.getElem?_append_right (Nat.le_add_right _ _), Nat.add_sub_cancel_left,
    ← List.getElem?_map, haggregation, List.getElem?_map]

lemma map_name_declaredAttributes_makeProperties (s : Schema) :
    s.makeProperties.declaredAttributes.map (·.name) = s.attributeNames := by
  rw [makeProperties, makeAttributeProperties, declaredAttributes_enterProperties,
    map_name_attributes_placeRanges, makeInverseProperties, declaredAttributes_enterProperties,
    map_name_attributes_qualifyNames, attributeNames_congr (readEntities_inherit s)]

lemma inverse_eq_none_of_mem_madeProperties {s : Schema} {p : Property}
    (h : p ∈ s.madeProperties) : p.inverse = none := by
  rcases List.mem_append.1 h with h | h
  · exact inverse_eq_none_of_mem_inverseProperties h
  · rw [attributeProperties_eq] at h
    obtain ⟨a, -, rfl⟩ := List.mem_map.1 h
    exact inverse_toProperty a _

/-- There are identifiers for the properties of all inverses and attributes. -/
def PropertiesFit (s : Schema) : Prop :=
  s.declaredInverses.length + s.declaredAttributes.length ≤ UInt32.size

instance (s : Schema) : Decidable s.PropertiesFit := inferInstanceAs (Decidable (_ ≤ _))

/-- So the place of an inverse is the identifier of its property. -/
lemma PropertiesFit.ofNat_eq {s : Schema} (h : s.PropertiesFit) {k : Nat}
    (hk : k < s.declaredInverses.length) : PropertyId.ofNat k = ⟨k⟩ :=
  PropertyId.ofNat_of_lt (Nat.lt_of_lt_of_le hk (Nat.le_trans (Nat.le_add_right _ _) h))

lemma length_madeProperties (s : Schema) :
    s.madeProperties.length = s.declaredInverses.length + s.declaredAttributes.length := by
  rw [← List.length_map (f := (·.name)), map_name_madeProperties, List.length_append,
    length_inverseNames, length_attributeNames]

/-- The inverses get the first properties of the schema, in order. -/
lemma declaredInverses_makeProperties {s : Schema} (h : s.properties = {}) :
    s.makeProperties.declaredInverses =
      s.inherit.declaredInverses.mapIdx fun k i => { i with property := some (.ofNat k) } := by
  have hinherit : s.inherit.properties = {} := (properties_inherit s).trans h
  have hplace : s.makeProperties.declaredInverses = s.inherit.qualifyNames.declaredInverses := by
    rw [makeProperties, makeAttributeProperties, declaredInverses_enterProperties,
      declaredInverses_placeRanges, makeInverseProperties, declaredInverses_enterProperties]
  rw [hplace, declaredInverses_qualifyNames, hinherit]
  simp

lemma pendingInverses_makeProperties {s : Schema} (h : s.properties = {}) :
    s.makeProperties.pendingInverses =
      s.declaredInverses.mapIdx fun k i => ⟨.ofNat k, i.forward, i.range⟩ := by
  have hpending : s.makeProperties.pendingInverses =
      s.makeProperties.declaredInverses.filterMap fun i =>
        i.property.map fun own => ⟨own, i.forward, i.range⟩ := by
    simp only [pendingInverses, declaredInverses, List.filterMap_flatMap]
  have hsame := map_declaredInverses_congr (readEntities_inherit s)
    (fun i => (i.forward, i.range)) fun _ => rfl
  rw [hpending, declaredInverses_makeProperties h, List.mapIdx_eq_zipIdx_map,
    List.filterMap_map, Function.comp_def]
  simp only [Option.map_some, List.filterMap_eq_map']
  apply List.ext_getElem?
  intro k
  have hk := congrArg (·[k]?) hsame
  simp only [List.getElem?_map, List.getElem?_zipIdx, List.getElem?_mapIdx] at hk ⊢
  cases hs : s.declaredInverses[k]? <;> cases hi : s.inherit.declaredInverses[k]? <;>
    simp_all

end Schema
end ExpressSchema
