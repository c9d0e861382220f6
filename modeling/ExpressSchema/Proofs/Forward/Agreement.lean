/-
# An inverse and its forward attribute, looked for twice

The forward attribute of an inverse is looked for twice: to be marked, it is looked for under the
canonical name of the entity that the inverse leads to, among inherited attributes too; to be
paired, under its name within the schema, which has the name of the entity that declares it as it
was first written.  The two agree for an attribute that is declared by the very entity the inverse
names, in the same spelling: an inverse with which it is marked is not reported, and what the
inverse is paired against is the property of this attribute, unless another name is in the way.
An inherited attribute is marked, and its inverse is let go.
-/
import ExpressSchema.Proofs.Forward.Target
import ExpressSchema.Proofs.Pairing.Turn

namespace ExpressSchema

namespace Schema

variable {s : Schema}

/-- An attribute gets its own name and that of the entity that declares it. -/
lemma name_attributeAt?_resolve {id : AttributeId} {e : Entity} {a b : Attribute}
    (he : s.entityAt? id.entity = some e) (hb : s.attributeAt? id = some b)
    (ha : s.resolve.attributeAt? id = some a) : a.name = Name.qualified b.name e.name := by
  have hvalues : (s.resolve.entities.values.map fun e => e.attributes.map (·.name)) =
      s.entities.values.map fun e => e.attributes.map fun a => Name.qualified a.name e.name := by
    rw [← map_values_congr (readEntities_inherit s) _ fun e => by
      simp [Entity.asRead, Attribute.asRead]]
    exact s.map_values_resolve _ _ (fun e id first => by simp [Entity.qualify, Attribute.qualify])
      (fun e origin => by simp) fun _ _ => rfl
  have hat := map_entityAt?_of_map_values hvalues id.entity
  have hname := s.resolve.map_attributeAt? (·.name) id
  obtain ⟨e', he', hslot⟩ := Option.bind_eq_some_iff.1 hb
  obtain rfl := Option.some.inj (he.symm.trans he')
  rw [ha, hat, he, Option.map_some, Option.map_some, Option.bind_some, List.getElem?_map, hslot,
    Option.map_some] at hname
  exact Option.some.inj hname

/-- An inverse waits to be paired at its place among all inverses. -/
lemma exists_place_of_inverseAt? (hp : s.properties = {}) (hfits : s.PropertiesFit)
    {id : InverseId} {i : Inverse} (hi : s.resolve.inverseAt? id = some i) :
    ∃ j, i.property = some ⟨j⟩ ∧ s.madePending[j]? = some (pendingAt j i) := by
  have hmem := mem_declaredInverses hi
  rw [declaredInverses_resolve, declaredInverses_makeProperties hp] at hmem
  obtain ⟨j, hj, rfl⟩ := List.mem_mapIdx.1 hmem
  have hsame := congrArg (·[j]?) (map_declaredInverses_congr (readEntities_inherit s)
    (fun i => (i.forward, i.range)) fun _ => rfl)
  simp only [List.getElem?_map, List.getElem?_eq_getElem hj, Option.map_some] at hsame
  obtain ⟨k, hk, hfields⟩ := Option.map_eq_some_iff.1 hsame.symm
  have hlt : j < s.declaredInverses.length := (List.getElem?_eq_some_iff.1 hk).1
  refine ⟨j, congrArg some (hfits.ofNat_eq hlt), ?_⟩
  rw [madePending, List.getElem?_mapIdx, hk, Option.map_some]
  simp only [Prod.mk.injEq] at hfields
  rw [pendingAt, pendingAt, hfields.1, hfields.2]

/-- Where there are words for all properties there are words for all slots. -/
lemma PropertiesFit.slotsFit (h : s.PropertiesFit) : s.SlotsFit := by
  intro e he
  obtain ⟨before, after, hvalues⟩ := List.append_of_mem he
  simp only [PropertiesFit, declaredInverses, declaredAttributes, hvalues, List.flatMap_append,
    List.flatMap_cons, List.length_append] at h
  omega

/-! ## The two agree -/

section Marks

variable (hreg : s.Registered) (hr : s.Reached) (hfits : s.SlotsFit) (hunmarked : s.Unmarked)
  (hkeys : ∀ key ∈ s.entities.keys, '#' ∉ key.toList)
  {target : AttributeId} {a : Attribute} {id : InverseId} {i : Inverse} {e : Entity}
  (ha : s.resolve.attributeAt? target = some a) (hid : a.invertedBy = some id)
  (hi : s.resolve.inverseAt? id = some i) (he : s.resolve.entityAt? target.entity = some e)
  (hname : e.name = i.range)
include hreg hr hfits hunmarked hkeys ha hid hi he hname

/-- If an attribute of the entity that an inverse names is marked with this inverse, it has the name
for which pairing looks. -/
theorem name_of_mark : a.name = Name.qualified i.forward i.range := by
  have hsame := sameDescent_resolve s
  have hindex := hunmarked.mark_resolve hr ha hid
  rw [forwardKey?, hi, Option.map_some, Option.bind_some] at hindex
  obtain ⟨top, eTop, b, htop, hb, hkey⟩ := hr.exists_of_index hfits hindex
  obtain ⟨e', he', -⟩ := Option.bind_eq_some_iff.1 hb
  -- neither of the two entities has a number sign in its canonical name
  have htopKey : '#' ∉ eTop.key.toList := hkeys _ (hreg.key_mem htop)
  have hrange : '#' ∉ (Name.canonical i.range).toList := by
    rw [← hname, (hsame.registered hreg).canonical_name he]
    exact hkeys _ (hsame.keys ▸ (hsame.registered hreg).key_mem he)
  have hforward := (attributeKey_inj hrange htopKey hkey).2
  have hentity := hsame.map_entityAt? (·.name) (·.name) (fun _ => rfl) target.entity
  rw [he, he', Option.map_some, Option.map_some, Option.some.injEq] at hentity
  rw [name_attributeAt?_resolve he' hb ha, ← hforward, ← hentity, hname]

end Marks

/-- The inverse finds something at its turn, and it is not reported; if the names of attributes tell
them apart and none of them is the forward attribute as the inverse gives it, what it finds is the
property of this attribute. -/
structure Agrees (s : Schema) (i : Inverse) (a : Attribute) (j : Nat) (target : PropertyId) :
    Prop where
  /-- The inverse has the turn that belongs to its property. -/
  property : i.property = some ⟨j⟩
  /-- It finds what it runs against. -/
  found : s.makeProperties.targetAt? j = some target
  /-- Every report of an inverse against nothing known is that of another inverse. -/
  reported : ∀ d ∈ s.resolve.diagnostics, d.kind = .unresolvedInverse →
    ∃ l ≠ j, s.makeProperties.targetAt? l = none ∧
      s.makeProperties.unknownForwardAt? l = some d
  /-- What it finds is the property of the attribute. -/
  same : s.attributeNames.Nodup → i.forward ∉ s.attributeNames →
    (s.resolve.properties.byId? target).map Property.unlinked = some (a.toProperty s.types)

/-- Nothing is found under a name that no inverse and no attribute has. -/
lemma idOf?_madeTable_eq_none (hfits : s.PropertiesFit) {name : String}
    (hinverse : name ∉ s.inverseNames) (hattribute : name ∉ s.attributeNames) :
    s.madeTable.idOf? name = none := by
  cases hid : s.madeTable.idOf? name with
  | none => rfl
  | some id =>
    have hat := nameAt?_of_idOf?_madeTable hfits hid
    rw [nameAt?_madeTable] at hat
    rcases List.mem_append.1 (List.mem_of_getElem? hat) with hmem | hmem
    · exact absurd hmem hinverse
    · exact absurd hmem hattribute

/-- An inverse that looks for the name of an attribute finds it. -/
theorem InversesApart.exists_agrees (h : s.InversesApart) (hs : s.Unresolved)
    {a : Attribute} {id : InverseId} {i : Inverse} (ha : a ∈ s.resolve.declaredAttributes)
    (hi : s.resolve.inverseAt? id = some i)
    (hname : a.name = Name.qualified i.forward i.range) :
    ∃ j target, s.Agrees i a j target := by
  obtain ⟨j, hown, hj⟩ := exists_place_of_inverseAt? hs.properties h.fits hi
  obtain ⟨hforward, hqualified⟩ := h.notMem_of_madePending (List.mem_of_getElem? hj)
  dsimp only [pendingAt] at hforward hqualified
  have hnames := s.map_name_declaredAttributes_resolve
  have hmem : a.name ∈ s.attributeNames := hnames ▸ List.mem_map_of_mem ha
  rw [← hname] at hqualified
  -- under its name within the schema the attribute, or another one of this name, is always found
  obtain ⟨k, hk, hkid⟩ := h.exists_attributeProperty hs.properties hqualified hmem
  rw [h.idOf?_resolve hs.properties hqualified] at hkid
  have hturn : s.makeProperties.targetAt? j =
      (s.madeTable.idOf? i.forward).or (some (s.attributeProperty k)) := by
    rw [h.targetAt?_eq hs.properties, hj, Option.bind_some, ← hkid, hname]
    rfl
  obtain ⟨target, htarget⟩ : ∃ target, s.makeProperties.targetAt? j = some target := by
    rw [hturn]
    cases s.madeTable.idOf? i.forward with
    | none => exact ⟨_, rfl⟩
    | some other => exact ⟨_, rfl⟩
  refine ⟨j, target, hown, htarget, fun d hd hkind => ?_, fun hnodup hnone => ?_⟩
  · obtain ⟨l, hl, hreport⟩ := exists_of_unresolvedInverse hs hd hkind
    refine ⟨l, ?_, hl, hreport⟩
    rintro rfl
    rw [hl] at htarget
    cases htarget
  · rw [hturn, idOf?_madeTable_eq_none h.fits hforward hnone, Option.none_or] at htarget
    obtain rfl := Option.some.inj htarget
    rw [← hnames] at hk hnodup
    rw [List.getElem?_map] at hk
    obtain ⟨b, hb, hbname⟩ := Option.map_eq_some_iff.1 hk
    have hba := List.inj_on_of_nodup_map hnodup (List.mem_of_getElem? hb) ha hbname
    rw [byId?_attributeProperty hs.properties, hb, Option.map_some, hba]

end Schema

/-- In any text whose inverses are apart, and in which no canonical name has a number sign: if an
attribute is marked with an inverse that names the very entity by which it is declared, in the same
spelling, the two ways to look for the attribute agree. -/
theorem Load.forward_agrees (strips : Bool) (builtins : Catalogue) (text : String)
    (h : (Load.text ⟨false, strips⟩ builtins text).schema.InversesApart)
    (hkeys : ∀ key ∈ (Load.text ⟨false, strips⟩ builtins text).schema.entities.keys,
      '#' ∉ key.toList) :
    let read := (Load.text ⟨false, strips⟩ builtins text).schema
    let resolved := (Load.text ⟨true, strips⟩ builtins text).schema
    ∀ target a id i e, resolved.attributeAt? target = some a → a.invertedBy = some id →
      resolved.inverseAt? id = some i → resolved.entityAt? target.entity = some e →
      e.name = i.range → ∃ j property, read.Agrees i a j property := by
  dsimp only
  have hread := Load.unresolved builtins strips (Text.lines text.toList)
  have hregistered := Load.registered builtins strips (Text.lines text.toList)
  have hclosed := Load.closed builtins strips (Text.lines text.toList)
  have hunmarked := Load.unmarked builtins strips (Text.lines text.toList)
  rw [Load.schema_text_resolves]
  intro target a id i e ha hid hi he hname
  exact h.exists_agrees hread (Schema.mem_declaredAttributes ha) hi
    (Schema.name_of_mark hregistered hclosed.reached h.fits.slotsFit hunmarked hkeys ha hid hi he
      hname)

/-- Of two inverses against one attribute, the attribute is marked with the second. -/
theorem forward_agrees_rivalsText :
    (Load.text ⟨false, false⟩ {} rivalsText).schema.InversesApart ∧
      (∀ key ∈ (Load.text ⟨false, false⟩ {} rivalsText).schema.entities.keys,
        '#' ∉ key.toList) ∧
      ∃ a i e,
        (Load.text ⟨true, false⟩ {} rivalsText).schema.attributeAt? ⟨⟨0⟩, 1⟩ = some a ∧
          a.invertedBy = some ⟨⟨1⟩, 2⟩ ∧
          (Load.text ⟨true, false⟩ {} rivalsText).schema.inverseAt? ⟨⟨1⟩, 2⟩ = some i ∧
          (Load.text ⟨true, false⟩ {} rivalsText).schema.entityAt? ⟨0⟩ = some e ∧
          e.name = i.range ∧
          ∃ j property,
            (Load.text ⟨false, false⟩ {} rivalsText).schema.Agrees i a j property := by
  have h : (Load.text ⟨false, false⟩ {} rivalsText).schema.InversesApart := by decide +kernel
  have hkeys : ∀ key ∈ (Load.text ⟨false, false⟩ {} rivalsText).schema.entities.keys,
      '#' ∉ key.toList := by decide +kernel
  obtain ⟨a, ha, hid, i, hi, e, he, hname⟩ :
      ∃ a ∈ (Load.text ⟨true, false⟩ {} rivalsText).schema.attributeAt? ⟨⟨0⟩, 1⟩,
        a.invertedBy = some ⟨⟨1⟩, 2⟩ ∧
          ∃ i ∈ (Load.text ⟨true, false⟩ {} rivalsText).schema.inverseAt? ⟨⟨1⟩, 2⟩,
            ∃ e ∈ (Load.text ⟨true, false⟩ {} rivalsText).schema.entityAt? ⟨0⟩,
              e.name = i.range := by
    decide +kernel
  exact ⟨h, hkeys, a, i, e, ha, hid, hi, he, hname,
    Load.forward_agrees false {} rivalsText h hkeys _ a _ i e ha hid hi he hname⟩

/-- The inverse of `X` names `Rel`, which inherits the attribute `a`. -/
def inheritedText : String :=
  "ENTITY Base; a : X; END_ENTITY; ENTITY Rel SUBTYPE OF (Base); END_ENTITY; " ++
    "ENTITY X; INVERSE i : SET OF Rel FOR a; END_ENTITY;"

/-- The attribute is marked with the inverse, which then finds nothing at its turn and is
reported. -/
theorem marked_letGo_inheritedText :
    ∃ a ∈ (Load.text ⟨true, false⟩ {} inheritedText).schema.attributeAt? ⟨⟨0⟩, 0⟩,
      ∃ i ∈ (Load.text ⟨true, false⟩ {} inheritedText).schema.inverseAt? ⟨⟨2⟩, 0⟩,
        ∃ d ∈ (Load.text ⟨true, false⟩ {} inheritedText).schema.diagnostics,
          a.invertedBy = some ⟨⟨2⟩, 0⟩ ∧ i.property = some ⟨0⟩ ∧ d.kind = .unresolvedInverse ∧
            (Load.text ⟨false, false⟩ {} inheritedText).schema.makeProperties.targetAt? 0 = none ∧
            (Load.text ⟨false, false⟩ {} inheritedText).schema.makeProperties.unknownForwardAt? 0 =
              some d := by
  decide +kernel

end ExpressSchema
