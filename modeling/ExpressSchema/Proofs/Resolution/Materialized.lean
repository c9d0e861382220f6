/-
# What becomes a property

Every inverse and every attribute that is read becomes one property, inverses first, in the order
of their entities and of their slots in them.  What such a property says is told here field by
field from the declaration as it was read.  Inverses know it by the identifier that is made from its
place, and attributes know the name and where their ranges are declared.  Later passes change
nothing of a property but its partner.
-/
import ExpressSchema.Proofs.Printing.RoundTrip
import ExpressSchema.Proofs.Reading.Ranges
import ExpressSchema.Proofs.Resolution.DistinctNames
import ExpressSchema.Proofs.Resolution.Placed
import Mathlib.Data.List.Dedup

namespace ExpressSchema

/-! ## Declarations and their properties -/

/-- Where the range is declared can be told from its name: in the language if this is a keyword for
a built-in type in either case of its letters, and else in the schema. -/
def Property.HasOrigin (p : Property) : Prop :=
  p.rangeOrigin = .language ↔
    ∃ b : Builtin, Text.sameLetters b.keyword.toList p.range.toList = true

/-- The property of an inverse. -/
structure MadeOfInverse (d : Placed Inverse) (p : Property) : Prop where
  name : p.name = d.declaration.name ++ "_" ++ d.entity
  declaredName : p.declaredName = d.declaration.name
  owner : p.owner = d.owner
  range : p.range = d.declaration.range
  rangeOrigin : p.HasOrigin
  aggregation : p.aggregation = if d.declaration.isSet then .set else .scalar
  cardinality : p.cardinality = d.declaration.cardinality
  innerCardinality : p.innerCardinality = {}
  isOptional : p.isOptional = false
  kind : p.kind = .entity
  members : p.members = []

/-- What the range of an attribute makes of the range, the kind and the members of its property. -/
inductive RangesOver (types : Table String TypeDecl) (a : Attribute) (p : Property) : Prop
  /-- A built-in type goes by its keyword and is plain data. -/
  | builtin (b : Builtin) (builtin : a.builtin = some b) (range : p.range = b.keyword)
      (rangeOrigin : p.rangeOrigin = .language) (kind : p.kind = .datatype)
      (members : p.members = [])
  /-- An enumeration of the schema. -/
  | enumeration (t : TypeDecl) (builtin : a.builtin = none)
      (type : types.get? (Name.canonical a.range) = some t)
      (underlying : t.underlying = .enumeration) (range : p.range = t.name)
      (kind : p.kind = .enumeration) (members : p.members = [])
  /-- A select of the schema, with its members. -/
  | select (t : TypeDecl) (builtin : a.builtin = none)
      (type : types.get? (Name.canonical a.range) = some t)
      (underlying : t.underlying = .select) (range : p.range = t.name)
      (kind : p.kind = .select) (members : p.members = t.members)
  /-- Any other type of the schema is plain data. -/
  | datatype (t : TypeDecl) (builtin : a.builtin = none)
      (type : types.get? (Name.canonical a.range) = some t)
      (enumeration : t.underlying ≠ .enumeration) (select : t.underlying ≠ .select)
      (range : p.range = t.name) (kind : p.kind = .datatype) (members : p.members = [])
  /-- Anything else is taken for an entity. -/
  | entity (builtin : a.builtin = none) (type : types.get? (Name.canonical a.range) = none)
      (range : p.range = a.range) (rangeOrigin : p.rangeOrigin = .schema)
      (kind : p.kind = .entity) (members : p.members = [])

/-- The property of an attribute. -/
structure MadeOfAttribute (types : Table String TypeDecl) (d : Placed Attribute) (p : Property) :
    Prop where
  name : p.name = d.declaration.name ++ "_" ++ d.entity
  declaredName : p.declaredName = d.declaration.name
  owner : p.owner = d.owner
  rangeOrigin : p.HasOrigin
  aggregation : p.aggregation = d.declaration.aggregation
  cardinality : p.cardinality = d.declaration.cardinality
  innerCardinality : p.innerCardinality = d.declaration.innerCardinality
  isOptional : p.isOptional = d.declaration.isOptional
  ranges : RangesOver types d.declaration p

/-- What an attribute tells of its property once that is made. -/
structure Attribute.TellsOf (a : Attribute) (p : Property) : Prop where
  name : a.name = p.name
  declaredName : a.declaredName = p.declaredName
  owner : a.owner = p.owner
  rangeOrigin : a.rangeOrigin = some p.rangeOrigin

/-- Which properties there are: `resolved` is made of `read`. -/
structure Materialized (read resolved : Schema) : Prop where
  /-- Before there are none. -/
  properties_read : read.properties = {}
  /-- There is one for each inverse and one for each attribute. -/
  length_arena : resolved.properties.arena.length =
    (read.placed (·.inverses)).length + (read.placed (·.attributes)).length
  /-- First come those of the inverses, each of which knows its property by the identifier that is
  made from its place. -/
  inverses : ∀ k d, (read.placed (·.inverses))[k]? = some d →
    ∃ p i, resolved.properties.byId? ⟨k⟩ = some p ∧ MadeOfInverse d p ∧
      resolved.inverseAt? ⟨d.owner, d.slot⟩ = some i ∧ i.property = some (.ofNat k)
  /-- Then come those of the attributes. -/
  attributes : ∀ k d, (read.placed (·.attributes))[k]? = some d →
    ∃ p a, resolved.properties.byId? ⟨(read.placed (·.inverses)).length + k⟩ = some p ∧
      MadeOfAttribute read.types d p ∧
      resolved.attributeAt? ⟨d.owner, d.slot⟩ = some a ∧ a.TellsOf p
  /-- For each property but the first of its name it is said that the name is declared twice. -/
  duplicates : resolved.countDiagnostics .duplicateProperty +
    (resolved.properties.arena.map (·.name)).dedup.length = resolved.properties.arena.length

/-! ## Field by field -/

lemma Property.HasOrigin.of_ofRange {p : Property} {range : String} (hrange : p.range = range)
    (horigin : p.rangeOrigin = RangeOrigin.ofRange range) : p.HasOrigin := by
  have hkeyword : (Builtin.ofKeyword? p.range.toList).isSome = true ↔
      ∃ b : Builtin, Text.sameLetters b.keyword.toList p.range.toList = true := by
    rw [Builtin.ofKeyword?, List.find?_isSome]
    constructor
    · rintro ⟨b, -, hb⟩
      exact ⟨b, hb⟩
    · rintro ⟨b, hb⟩
      exact ⟨b, b.mem_all, hb⟩
  rw [HasOrigin, ← hkeyword, horigin, RangeOrigin.ofRange, hrange]
  split_ifs with h
  · exact iff_of_true rfl h
  · exact iff_of_false (fun heq => by cases heq) h

lemma MadeOfInverse.of_unlinked {d : Placed Inverse} {p : Property}
    (h : p.unlinked = d.declaration.toProperty d.owner d.entity) : MadeOfInverse d p where
  name := congrArg Property.name h
  declaredName := congrArg Property.declaredName h
  owner := congrArg Property.owner h
  range := congrArg Property.range h
  rangeOrigin := by
    have hrange : p.range = d.declaration.range := congrArg Property.range h
    exact .of_ofRange hrange (congrArg Property.rangeOrigin h)
  aggregation := congrArg Property.aggregation h
  cardinality := congrArg Property.cardinality h
  innerCardinality := congrArg Property.innerCardinality h
  isOptional := congrArg Property.isOptional h
  kind := congrArg Property.kind h
  members := congrArg Property.members h

lemma MadeOfAttribute.of_propertyOver {types : Table String TypeDecl} {d : Placed Attribute}
    {p : Property} {range : String} {underlying : UnderlyingType} {members : List String}
    (h : p.unlinked =
      (d.declaration.qualify d.owner d.entity).propertyOver range underlying members)
    (hranges : RangesOver types d.declaration p) : MadeOfAttribute types d p where
  name := congrArg Property.name h
  declaredName := congrArg Property.declaredName h
  owner := congrArg Property.owner h
  rangeOrigin := by
    have hrange : p.range = range := congrArg Property.range h
    exact .of_ofRange hrange (congrArg Property.rangeOrigin h)
  aggregation := congrArg Property.aggregation h
  cardinality := congrArg Property.cardinality h
  innerCardinality := congrArg Property.innerCardinality h
  isOptional := congrArg Property.isOptional h
  ranges := hranges

/-- A range that is no built-in type and under whose canonical name a type is registered goes by
what the type stands for. -/
lemma RangesOver.of_type {types : Table String TypeDecl} {a : Attribute} {p : Property}
    {t : TypeDecl} (hbuiltin : a.builtin = none)
    (htype : types.get? (Name.canonical a.range) = some t) (hentity : t.underlying ≠ .entity)
    (hrange : p.range = t.name) (hkind : p.kind = t.underlying.propertyKind)
    (hmembers : p.members = if t.underlying = .select then t.members else []) :
    RangesOver types a p := by
  cases hu : t.underlying with
  | enumeration =>
    rw [hu] at hkind hmembers
    exact .enumeration t hbuiltin htype hu hrange hkind hmembers
  | select =>
    rw [hu] at hkind hmembers
    exact .select t hbuiltin htype hu hrange hkind hmembers
  | entity => exact absurd hu hentity
  | builtin _ | named _ | aggregate _ =>
    have henumeration : t.underlying ≠ .enumeration := hu ▸ UnderlyingType.noConfusion
    have hselect : t.underlying ≠ .select := hu ▸ UnderlyingType.noConfusion
    rw [if_neg hselect] at hmembers
    rw [hu] at hkind
    exact .datatype t hbuiltin htype henumeration hselect hrange hkind hmembers

lemma Schema.KnowsRanges.madeOfAttribute {s : Schema} (hs : s.KnowsRanges)
    {d : Placed Attribute} (hd : d.declaration ∈ s.declaredAttributes) {p : Property}
    (h : p.unlinked = (d.declaration.qualify d.owner d.entity).toProperty s.types) :
    MadeOfAttribute s.types d p := by
  obtain ⟨hrangeKey, hbuiltin⟩ := hs.attributes _ hd
  have hkey : (d.declaration.qualify d.owner d.entity).rangeKey =
      Name.canonical d.declaration.range := hrangeKey
  have hsame : (d.declaration.qualify d.owner d.entity).builtin = d.declaration.builtin := rfl
  rw [Attribute.toProperty_eq, hkey, hsame] at h
  cases hb : d.declaration.builtin with
  | some b =>
    rw [hb] at h
    have horigin : p.rangeOrigin = RangeOrigin.ofRange b.keyword := congrArg Property.rangeOrigin h
    rw [RangeOrigin.ofRange, b.ofKeyword?_keyword] at horigin
    exact .of_propertyOver h (.builtin b hb (congrArg Property.range h) horigin
      (congrArg Property.kind h) (congrArg Property.members h))
  | none =>
    rw [hb] at h
    cases htype : s.types.get? (Name.canonical d.declaration.range) with
    | some t =>
      rw [htype] at h
      have hentity : t.underlying ≠ .entity :=
        hs.types t (List.mem_map_of_mem (Table.get?_eq_some_iff.1 htype))
      exact .of_propertyOver h (.of_type hb htype hentity (congrArg Property.range h)
        (congrArg Property.kind h) (congrArg Property.members h))
    | none =>
      rw [htype] at h
      have horigin : p.rangeOrigin = RangeOrigin.ofRange d.declaration.range :=
        congrArg Property.rangeOrigin h
      rw [RangeOrigin.ofRange, ← hbuiltin, hb] at horigin
      exact .of_propertyOver h (.entity hb htype (congrArg Property.range h) horigin
        (congrArg Property.kind h) (congrArg Property.members h))

/-! ## Attributes and their properties -/

namespace Schema

variable {s : Schema}

/-- Where the range of an attribute is declared is noted with it. -/
lemma rangeOrigin_of_mem_resolve {a : Attribute} (h : a ∈ s.resolve.declaredAttributes) :
    a.rangeOrigin = some (a.toProperty s.types).rangeOrigin := by
  rw [declaredAttributes_resolve, makeProperties, makeAttributeProperties,
    declaredAttributes_enterProperties, declaredAttributes_placeRanges,
    types_makeInverseProperties, types_inherit] at h
  obtain ⟨b, -, rfl⟩ := List.mem_map.1 h
  rfl

lemma tellsOf_of_mem_resolve {a : Attribute} (h : a ∈ s.resolve.declaredAttributes)
    {p : Property} (hp : p.unlinked = a.toProperty s.types) : a.TellsOf p := by
  have horigin := rangeOrigin_of_mem_resolve h
  obtain ⟨range, underlying, members, hover⟩ := a.exists_propertyOver s.types
  rw [hover] at hp horigin
  exact ⟨(congrArg Property.name hp).symm, (congrArg Property.declaredName hp).symm,
    (congrArg Property.owner hp).symm,
    horigin.trans (congrArg some (congrArg Property.rangeOrigin hp).symm)⟩

end Schema

/-! ## Names that are taken -/

namespace PropertyTable

lemma mem_names_insertAll (t : PropertyTable) (ps : List Property) (name : String) :
    name ∈ (t.insertAll ps).names ↔ name ∈ t.names ∨ name ∈ ps.map (·.name) := by
  induction ps generalizing t with
  | nil => simp [insertAll]
  | cons p ps ih =>
    have hcons : t.insertAll (p :: ps) = (t.insert p).insertAll ps := rfl
    rw [hcons, ih, names_insert, List.map_cons, List.mem_cons]
    split_ifs with hp
    · constructor
      · rintro (h | h)
        · exact .inl h
        · exact .inr (.inr h)
      · rintro (h | rfl | h)
        · exact .inl h
        · exact .inl hp
        · exact .inr h
    · rw [List.mem_append, List.mem_singleton, or_assoc]

/-- Each property either is the first of its name or finds the name taken. -/
lemma length_clashes (t : PropertyTable) (ps : List Property) :
    (t.clashes ps).length + (t.insertAll ps).names.length = t.names.length + ps.length := by
  induction ps generalizing t with
  | nil => simp [clashes, insertAll]
  | cons p ps ih =>
    have hcons : t.insertAll (p :: ps) = (t.insert p).insertAll ps := rfl
    have hcontains : t.contains p.name = true ↔ p.name ∈ t.names := Table.contains_iff
    have hrest := ih (t.insert p)
    rw [names_insert] at hrest
    simp only [clashes, hcons, hcontains, List.length_cons]
    split_ifs at hrest ⊢
    · rw [List.length_cons]
      omega
    · rw [List.length_append, List.length_singleton] at hrest
      omega

lemma length_names_insertAll (ps : List Property) :
    (insertAll {} ps).names.length = (ps.map (·.name)).dedup.length := by
  have hnodup : (insertAll {} ps).names.Nodup := (insertAll {} ps).byName.nodup_keys
  refine ((List.perm_ext_iff_of_nodup hnodup (List.nodup_dedup _)).2 fun name => ?_).length_eq
  rw [mem_names_insertAll, List.mem_dedup]
  exact or_iff_right List.not_mem_nil

end PropertyTable

/-! ## All properties -/

namespace Schema

variable {s : Schema}

lemma map_name_arena_resolve_eq (hp : s.properties = {}) :
    s.resolve.properties.arena.map (·.name) = s.madeProperties.map (·.name) :=
  (map_name_arena_resolve hp).trans s.map_name_madeProperties.symm

lemma length_arena_resolve (hp : s.properties = {}) :
    s.resolve.properties.arena.length = s.madeProperties.length := by
  simpa using congrArg List.length (map_name_arena_resolve_eq hp)

lemma countDiagnostics_add_length_dedup (hs : s.Unresolved) :
    s.resolve.countDiagnostics .duplicateProperty +
        (s.resolve.properties.arena.map (·.name)).dedup.length =
      s.resolve.properties.arena.length := by
  have htaken : s.takenNames = PropertyTable.clashes {} s.madeProperties := by
    rw [takenNames, hs.properties]
    rfl
  have hclashes := PropertyTable.length_clashes {} s.madeProperties
  rw [PropertyTable.length_names_insertAll] at hclashes
  rw [countDiagnostics_duplicateProperty hs, map_name_arena_resolve_eq hs.properties,
    length_arena_resolve hs.properties, htaken, hclashes]
  exact Nat.zero_add _

/-- At each place is a property that was made there, apart from its partner. -/
lemma exists_byId?_resolve (hp : s.properties = {}) {k : Nat} {made : Property}
    (h : s.madeProperties[k]? = some made) :
    ∃ p, s.resolve.properties.byId? ⟨k⟩ = some p ∧ p.unlinked = made := by
  rw [← unlinkedArena_resolve_eq hp, PropertyTable.unlinkedArena, List.getElem?_map] at h
  exact Option.map_eq_some_iff.1 h

/-- The inverse that stands where one was read knows its property by the identifier that is made
from its place. -/
lemma exists_inverse_resolve (hp : s.properties = {}) {k : Nat} {d : Placed Inverse}
    (hd : (s.placed (·.inverses))[k]? = some d) :
    ∃ i, s.resolve.inverseAt? ⟨d.owner, d.slot⟩ = some i ∧ i.property = some (.ofNat k) := by
  have hresolve : (s.resolve.entities.values.map fun e => e.inverses.length) =
      s.inherit.entities.values.map fun e => e.inverses.length :=
    s.map_values_resolve _ _ (fun e id first => by simp [Entity.qualify]) (fun _ _ => rfl)
      fun _ _ => rfl
  have hlength := hresolve.trans (map_values_congr (readEntities_inherit s)
    (fun e => e.inverses.length) fun e => by simp [Entity.asRead])
  obtain ⟨i, hi, hplace⟩ := s.exists_in_place (·.inverses) hlength hd
  refine ⟨i, hplace, ?_⟩
  have hk : s.resolve.declaredInverses[k]? = some i := hi
  rw [declaredInverses_resolve, declaredInverses_makeProperties hp, List.getElem?_mapIdx] at hk
  obtain ⟨j, -, rfl⟩ := Option.map_eq_some_iff.1 hk
  rfl

/-- The property of the attribute that stands where one was read is made of the one that was
read. -/
lemma Reached.exists_attribute_resolve (h : s.Reached) {k : Nat} {d : Placed Attribute}
    (hd : (s.placed (·.attributes))[k]? = some d) :
    ∃ a ∈ s.resolve.declaredAttributes, s.resolve.attributeAt? ⟨d.owner, d.slot⟩ = some a ∧
      a.toProperty s.types = (d.declaration.qualify d.owner d.entity).toProperty s.types := by
  have hresolve : (s.resolve.entities.values.map fun e => e.attributes.length) =
      s.inherit.entities.values.map fun e => e.attributes.length :=
    s.map_values_resolve _ _ (fun e id first => by simp [Entity.qualify]) (fun _ _ => by simp)
      fun _ _ => rfl
  have hlength := hresolve.trans (map_values_congr (readEntities_inherit s)
    (fun e => e.attributes.length) fun e => by simp [Entity.asRead])
  obtain ⟨a, ha, hplace⟩ := s.exists_in_place (·.attributes) hlength hd
  have ha : s.resolve.declaredAttributes[k]? = some a := ha
  refine ⟨a, List.mem_of_getElem? ha, hplace, ?_⟩
  have hsame := s.attributeProperties_makeInverseProperties.symm.trans
    h.attributeProperties_inherit
  have hk := congrArg (·[k]?) hsame
  simpa [ha, hd] using hk

/-- The outcome for a schema that has only been read. -/
theorem KnowsRanges.outcome_resolve (h : s.KnowsRanges) (hs : s.Unresolved) (hr : s.Reached) :
    Materialized s s.resolve where
  properties_read := hs.properties
  length_arena := by
    rw [length_arena_resolve hs.properties, hr.madeProperties_eq, List.length_append,
      List.length_map, List.length_map]
  inverses k d hd := by
    have hk : k < (s.placed (·.inverses)).length := (List.getElem?_eq_some_iff.1 hd).1
    have hmade : s.madeProperties[k]? = some (d.declaration.toProperty d.owner d.entity) := by
      rw [hr.madeProperties_eq, List.getElem?_append_left (by rwa [List.length_map]),
        List.getElem?_map, hd, Option.map_some]
    obtain ⟨p, hp, hunlinked⟩ := exists_byId?_resolve hs.properties hmade
    obtain ⟨i, hi, hproperty⟩ := exists_inverse_resolve hs.properties hd
    exact ⟨p, i, hp, .of_unlinked hunlinked, hi, hproperty⟩
  attributes k d hd := by
    have hmade : s.madeProperties[(s.placed (·.inverses)).length + k]? =
        some ((d.declaration.qualify d.owner d.entity).toProperty s.types) := by
      rw [hr.madeProperties_eq, List.getElem?_append_right (by simp), List.length_map,
        Nat.add_sub_cancel_left, List.getElem?_map, hd, Option.map_some]
    have hmem : d.declaration ∈ s.declaredAttributes := by
      rw [declaredAttributes, ← map_declaration_placed]
      exact List.mem_map_of_mem (List.mem_of_getElem? hd)
    obtain ⟨p, hp, hunlinked⟩ := exists_byId?_resolve hs.properties hmade
    obtain ⟨a, ha, hplace, hsame⟩ := hr.exists_attribute_resolve hd
    exact ⟨p, a, hp, h.madeOfAttribute hmem hunlinked, hplace,
      tellsOf_of_mem_resolve ha (hunlinked.trans hsame.symm)⟩
  duplicates := countDiagnostics_add_length_dedup hs

end Schema

/-- In any text, every inverse and every attribute becomes one property. -/
theorem Load.materialized (strips : Bool) (builtins : Catalogue) (text : String) :
    Materialized (Load.text ⟨false, strips⟩ builtins text).schema
      (Load.text ⟨true, strips⟩ builtins text).schema := by
  rw [Load.schema_text_resolves]
  exact (Load.knowsRanges builtins strips _).outcome_resolve (Load.unresolved builtins strips _)
    (Load.closed builtins strips _).reached

/-- Of one inverse more than there are words, the last one knows the first property for its own. -/
theorem property_comesAround :
    let inverse : InverseOutline := ⟨.ofLength 0, none, .ofLength 0, .ofLength 0⟩
    let text := (Outline.ofEntity [] (List.replicate (UInt32.size + 1) inverse)).text
    let read := (Load.text ⟨false, false⟩ {} text).schema
    let resolved := (Load.text ⟨true, false⟩ {} text).schema
    ∃ d i, (read.placed (·.inverses))[UInt32.size]? = some d ∧
      resolved.inverseAt? ⟨d.owner, d.slot⟩ = some i ∧ i.property = some ⟨0⟩ := by
  intro inverse text read resolved
  have hread : read = (Outline.ofEntity [] (List.replicate (UInt32.size + 1) inverse)).toSchema :=
    Load.schema_text_ofEntity _ _
  have hresolved : resolved =
      (Outline.ofEntity [] (List.replicate (UInt32.size + 1) inverse)).toSchema.resolve :=
    Load.schema_text_resolve_ofEntity _ _
  have hlength : (read.placed (·.inverses)).length = UInt32.size + 1 := by
    have hplaced := congrArg List.length (read.map_declaration_placed (·.inverses))
    rw [List.length_map] at hplaced
    rw [hplaced, hread]
    refine (congrArg List.length Outline.declaredInverses_ofEntity).trans ?_
    rw [List.length_map, List.length_replicate]
  have hlast : UInt32.size < (read.placed (·.inverses)).length := by
    rw [hlength]
    exact Nat.lt_succ_self _
  obtain ⟨i, hplace, hproperty⟩ :=
    Schema.exists_inverse_resolve (hread ▸ rfl) (List.getElem?_eq_getElem hlast)
  rw [PropertyId.ofNat, wordOf_size] at hproperty
  refine ⟨_, i, List.getElem?_eq_getElem hlast, ?_, hproperty⟩
  rw [hresolved, ← hread]
  exact hplace

end ExpressSchema
