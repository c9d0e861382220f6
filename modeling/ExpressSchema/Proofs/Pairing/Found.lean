/-
# Attributes that stay found

An inverse that cannot be paired is let go by its name.  If an attribute has the same name within
the schema, it is the attribute that can no longer be found.  So much is true: where no inverse is
looked for as a forward attribute (`InversesApart`), every attribute whose name is not that of an
inverse is still found under its name, and what is found is the property of an attribute.
-/
import ExpressSchema.Proofs.Pairing.Apart
import ExpressSchema.Proofs.Pairing.Outcome

namespace ExpressSchema

lemma Property.unlinked_eq_self {p : Property} (h : p.inverse = none) : p.unlinked = p := by
  obtain ⟨_, _, _, _, _, _, _, _, _, _, _, inverse⟩ := p
  obtain rfl : inverse = none := h
  rfl

namespace PropertyTable

/-! ## Names that several properties share -/

/-- What is found under a name has this name, if there are identifiers for all properties. -/
lemma nameAt?_of_idOf?_insertAll {ps : List Property} (hfits : ps.length ≤ UInt32.size)
    {name : String} {id : PropertyId} (h : (insertAll {} ps).idOf? name = some id) :
    (insertAll {} ps).nameAt? id = some name := by
  induction ps using List.reverseRecOn with
  | nil => simp [insertAll, idOf?, Table.get?, Table.empty] at h
  | append_singleton ps p ih =>
    rw [List.length_append, List.length_singleton] at hfits
    have hlt : (insertAll {} ps).arena.length < UInt32.size := by rwa [length_arena_insertAll]
    rw [insertAll_append] at h ⊢
    change ((insertAll {} ps).insert p).idOf? name = some id at h
    change ((insertAll {} ps).insert p).nameAt? id = some name
    rw [idOf?_insert] at h
    rw [nameAt?, byId?_insert_of_lt hlt]
    split_ifs at h with hname
    · rw [if_pos (Option.some.inj h).symm, Option.map_some, hname]
    · have hid := ih (Nat.le_of_succ_le hfits) h
      have hne : id ≠ (insertAll {} ps).nextId := by
        rintro rfl
        simp [nameAt?, byId?, nextId_of_lt hlt] at hid
      rwa [if_neg hne]

/-- Every name leads to some property. -/
lemma isSome_idOf?_insertAll {ps : List Property} {name : String}
    (h : name ∈ ps.map (·.name)) : ((insertAll {} ps).idOf? name).isSome := by
  induction ps using List.reverseRecOn with
  | nil => simp at h
  | append_singleton ps p ih =>
    rw [insertAll_append]
    change (((insertAll {} ps).insert p).idOf? name).isSome
    rw [idOf?_insert]
    split_ifs with hname
    · rfl
    · rw [List.map_append, List.mem_append] at h
      exact ih (h.resolve_right (by simpa using hname))

end PropertyTable

namespace Schema

/-- The names of the inverses within the schema tell them apart, and no inverse gives one of them
for the name of its forward attribute; there is an identifier for each property. -/
structure InversesApart (s : Schema) : Prop where
  fits : s.PropertiesFit
  nodup : s.inverseNames.Nodup
  forward_notMem : ∀ i ∈ s.declaredInverses, i.forward ∉ s.inverseNames
  qualified_notMem : ∀ i ∈ s.declaredInverses, Name.qualified i.forward i.range ∉ s.inverseNames

instance (s : Schema) : Decidable s.InversesApart :=
  decidable_of_iff
    (s.PropertiesFit ∧ s.inverseNames.Nodup ∧ ∀ i ∈ s.declaredInverses,
      i.forward ∉ s.inverseNames ∧ Name.qualified i.forward i.range ∉ s.inverseNames)
    ⟨fun h => ⟨h.1, h.2.1, fun i hi => (h.2.2 i hi).1, fun i hi => (h.2.2 i hi).2⟩,
      fun h => ⟨h.fits, h.nodup, fun i hi => ⟨h.forward_notMem i hi, h.qualified_notMem i hi⟩⟩⟩

variable {s : Schema}

lemma nameAt?_of_idOf?_madeTable (hfits : s.PropertiesFit) {name : String} {id : PropertyId}
    (h : s.madeTable.idOf? name = some id) : s.madeTable.nameAt? id = some name :=
  PropertyTable.nameAt?_of_idOf?_insertAll hfits.length_madeProperties_le h

lemma isSome_idOf?_madeTable {name : String} (h : name ∈ s.inverseNames ++ s.attributeNames) :
    (s.madeTable.idOf? name).isSome := by
  rw [← map_name_madeProperties] at h
  exact PropertyTable.isSome_idOf?_insertAll h

/-- The names of the inverses are those of their properties. -/
lemma map_nameAt?_madePending (s : Schema) :
    (s.madePending.map fun p => s.madeTable.nameAt? p.own) = s.inverseNames.map some := by
  apply List.ext_getElem
  · simp [madePending, length_inverseNames]
  · intro j _ hj
    rw [List.length_map] at hj
    simp [madePending, pendingAt, nameAt?_madeTable, List.getElem?_append_left hj]

/-- No inverse that waits to be paired looks for the name of an inverse. -/
lemma InversesApart.notMem_of_madePending (h : s.InversesApart) {p : PendingInverse}
    (hp : p ∈ s.madePending) :
    p.forward ∉ s.inverseNames ∧ Name.qualified p.forward p.range ∉ s.inverseNames := by
  obtain ⟨j, hj, rfl⟩ := List.mem_mapIdx.1 hp
  exact ⟨h.forward_notMem _ (List.getElem_mem hj), h.qualified_notMem _ (List.getElem_mem hj)⟩

lemma InversesApart.apart (h : s.InversesApart) : s.madeTable.Apart s.madePending where
  partner?_eq_none :=
    PropertyTable.partner?_insertAll fun _ => inverse_eq_none_of_mem_madeProperties
  nameAt?_of_idOf? _ _ := nameAt?_of_idOf?_madeTable h.fits
  own_named p hp := by
    obtain ⟨name, hmem, hname⟩ := s.nameAt?_inverse_mem hp
    refine ⟨name, hname, ?_⟩
    rw [PropertyTable.contains_iff_isSome]
    exact isSome_idOf?_madeTable (List.mem_append_left _ hmem)
  nodup_name := by
    rw [map_nameAt?_madePending]
    exact h.nodup.map (Option.some_injective _)
  forward_ne _ hp _ hq := nameAt?_own_ne (h.notMem_of_madePending hp).1 hq
  qualified_ne _ hp _ hq := nameAt?_own_ne (h.notMem_of_madePending hp).2 hq

/-- Resolution ends with what the invariant says of all inverses. -/
lemma InversesApart.steady_pairing (h : s.InversesApart) (hp : s.properties = {}) :
    Pairing.Steady s.madeTable s.madePending s.makeProperties.pairing := by
  rw [pairing_makeProperties hp h.fits]
  exact h.apart.steady_foldl

/-! ## The properties of attributes -/

/-- Where the range of an attribute is declared makes no difference to its property, so that the
property can be made again of what the attribute has become. -/
lemma attributeProperties_makeInverseProperties (s : Schema) :
    s.inherit.makeInverseProperties.attributeProperties =
      s.resolve.declaredAttributes.map fun a => a.toProperty s.types := by
  rw [attributeProperties_eq, types_makeInverseProperties, types_inherit,
    declaredAttributes_resolve, makeProperties, makeAttributeProperties,
    declaredAttributes_enterProperties, declaredAttributes_placeRanges, List.map_map]
  rfl

/-- Pairing changes nothing of a property but its partner. -/
lemma unlinkedArena_resolve (hp : s.properties = {}) :
    s.resolve.properties.unlinkedArena = s.madeTable.unlinkedArena := by
  rw [properties_resolve, pairing, Pairing.unlinkedArena_foldl_step, properties_makeProperties hp]
  rfl

lemma nameAt?_resolve (hp : s.properties = {}) (id : PropertyId) :
    s.resolve.properties.nameAt? id = s.madeTable.nameAt? id :=
  PropertyTable.nameAt?_congr (unlinkedArena_resolve hp) id

/-- At the place of an attribute stands the property that is made of it. -/
lemma byId?_attributeProperty (hp : s.properties = {}) (k : Nat) :
    (s.resolve.properties.byId? (s.attributeProperty k)).map Property.unlinked =
      (s.resolve.declaredAttributes[k]?).map fun a => a.toProperty s.types := by
  rw [PropertyTable.map_unlinked_byId?_congr (unlinkedArena_resolve hp), PropertyTable.byId?,
    madeTable, PropertyTable.arena_insertAll, List.nil_append, madeProperties, attributeProperty,
    ← length_inverseProperties_inherit, List.getElem?_append_right (Nat.le_add_right _ _),
    Nat.add_sub_cancel_left, attributeProperties_makeInverseProperties, List.getElem?_map,
    Option.map_map]
  have hself : Property.unlinked ∘ (fun a : Attribute => a.toProperty s.types) =
      fun a => a.toProperty s.types :=
    funext fun a => Property.unlinked_eq_self (inverse_toProperty a s.types)
  rw [hself]

/-! ## Names that stay -/

variable (h : s.InversesApart) (hp : s.properties = {})
include h hp

/-- A name that is not that of an inverse leads to the same property before and after pairing. -/
lemma InversesApart.idOf?_resolve {name : String} (hname : name ∉ s.inverseNames) :
    s.resolve.properties.idOf? name = s.madeTable.idOf? name := by
  rw [properties_resolve]
  exact (h.steady_pairing hp).idOf?_eq name fun p hmem => nameAt?_own_ne hname hmem

/-- The name of an attribute that is not that of an inverse leads to the property of an
attribute. -/
lemma InversesApart.exists_attributeProperty {name : String} (hname : name ∉ s.inverseNames)
    (hmem : name ∈ s.attributeNames) :
    ∃ k, s.attributeNames[k]? = some name ∧
      s.resolve.properties.idOf? name = some (s.attributeProperty k) := by
  obtain ⟨id, hid⟩ := Option.isSome_iff_exists.1
    (isSome_idOf?_madeTable (List.mem_append_right s.inverseNames hmem))
  obtain ⟨k, rfl, hk⟩ := exists_place_of_nameAt? hname (nameAt?_of_idOf?_madeTable h.fits hid)
  exact ⟨k, hk, (h.idOf?_resolve hp hname).trans hid⟩

/-- An attribute whose name is not that of an inverse is found, or another one with this name. -/
theorem InversesApart.exists_found {a : Attribute} (ha : a ∈ s.resolve.declaredAttributes)
    (hname : a.name ∉ s.inverseNames) :
    ∃ b ∈ s.resolve.declaredAttributes, b.name = a.name ∧
      (s.resolve.properties.get? a.name).map Property.unlinked = some (b.toProperty s.types) := by
  have hnames := s.map_name_declaredAttributes_resolve
  obtain ⟨k, hk, hid⟩ := h.exists_attributeProperty hp hname
    (hnames ▸ List.mem_map_of_mem ha)
  rw [← hnames, List.getElem?_map, Option.map_eq_some_iff] at hk
  obtain ⟨b, hb, hbname⟩ := hk
  refine ⟨b, List.mem_of_getElem? hb, hbname, ?_⟩
  rw [PropertyTable.get?, hid, Option.bind_some, byId?_attributeProperty hp, hb, Option.map_some]

end Schema

/-- In any text whose inverses are apart, every attribute whose name is not that of an inverse is
found under its name as the property of an attribute. -/
theorem Load.attributes_found (strips : Bool) (builtins : Catalogue) (text : String)
    (h : (Load.text ⟨false, strips⟩ builtins text).schema.InversesApart) :
    let read := (Load.text ⟨false, strips⟩ builtins text).schema
    let resolved := (Load.text ⟨true, strips⟩ builtins text).schema
    ∀ a ∈ resolved.declaredAttributes, a.name ∉ read.inverseNames →
      ∃ b ∈ resolved.declaredAttributes, b.name = a.name ∧
        (resolved.properties.get? a.name).map Property.unlinked =
          some (b.toProperty read.types) := by
  dsimp only
  have hread := Load.unresolved builtins strips (Text.lines text.toList)
  rw [Load.schema_text_resolves]
  exact fun a ha hname => h.exists_found hread.properties ha hname

/-- The inverse `a` of `B_C` and the attribute `a_B` of `C` get the same name within the schema. -/
def sharedNameText : String :=
  "ENTITY R; Many : SET [1:?] OF B_C; END_ENTITY; " ++
    "ENTITY B_C; INVERSE a : SET OF R FOR Many; END_ENTITY; ENTITY C; a_B : REAL; END_ENTITY;"

/-- The attribute whose name is not shared is found. -/
theorem attributes_found_sharedNameText :
    (Load.text ⟨false, false⟩ {} sharedNameText).schema.InversesApart ∧
      ∃ a ∈ (Load.text ⟨true, false⟩ {} sharedNameText).schema.declaredAttributes,
        a.name ∉ (Load.text ⟨false, false⟩ {} sharedNameText).schema.inverseNames ∧
          ∃ b ∈ (Load.text ⟨true, false⟩ {} sharedNameText).schema.declaredAttributes,
            b.name = a.name ∧
              ((Load.text ⟨true, false⟩ {} sharedNameText).schema.properties.get? a.name).map
                  Property.unlinked =
                some (b.toProperty (Load.text ⟨false, false⟩ {} sharedNameText).schema.types) := by
  have h : (Load.text ⟨false, false⟩ {} sharedNameText).schema.InversesApart := by decide +kernel
  obtain ⟨a, ha, hname⟩ :
      ∃ a ∈ (Load.text ⟨true, false⟩ {} sharedNameText).schema.declaredAttributes,
        a.name ∉ (Load.text ⟨false, false⟩ {} sharedNameText).schema.inverseNames := by
    decide +kernel
  exact ⟨h, a, ha, hname, Load.attributes_found false {} sharedNameText h a ha hname⟩

/-- The inverse runs against a collection and is let go, and the attribute that has its name can no
longer be found. -/
theorem attribute_lost_sharedNameText :
    ∃ a ∈ (Load.text ⟨true, false⟩ {} sharedNameText).schema.declaredAttributes,
      (Load.text ⟨true, false⟩ {} sharedNameText).schema.properties.get? a.name = none := by
  decide +kernel

end ExpressSchema
