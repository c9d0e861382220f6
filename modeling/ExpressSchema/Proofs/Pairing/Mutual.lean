/-
# Partners that know each other

Linking two properties writes each into the other and asks nothing of the partners they had, so an
inverse whose own property is claimed by another inverse ends with a partner that knows nothing of
it.  Where no inverse is looked for as a forward attribute and no inverse shares its name with an
attribute, this does not happen: partners know each other and are found under their names
(`Mutual`), so that to look for the inverse of a property by its identifier is the same as to look
for it by its name, and leads back.
-/
import ExpressSchema.Lookup
import ExpressSchema.Proofs.Pairing.Found

namespace ExpressSchema
namespace Schema

/-- Partners know each other, and are found. -/
structure Mutual (s : Schema) : Prop where
  /-- Two partners are each other's, and both are found under their names. -/
  partner : ∀ a b, s.properties.partner? a = some b →
    s.properties.isIndexed a = true ∧ s.properties.isIndexed b = true ∧
      s.properties.partner? b = some a
  /-- The inverse of a property is the same whichever way it is looked for. -/
  agree : ∀ a p, s.properties.byId? a = some p → s.properties.isIndexed a = true →
    s.pairedInverse? p = s.properties.inverseOf? p.name
  /-- The inverse of the inverse of a property is the property. -/
  back : ∀ a p q, s.properties.byId? a = some p → s.pairedInverse? p = some q →
    s.pairedInverse? q = some p

variable {s : Schema}

/-- Everything follows from partners that are each other's. -/
lemma mutual_of_partner (h : ∀ a b, s.properties.partner? a = some b →
    s.properties.isIndexed b = true ∧ s.properties.partner? b = some a) : s.Mutual := by
  have hpartner : ∀ {a p}, s.properties.byId? a = some p → s.properties.partner? a = p.inverse := by
    intro a p hp
    rw [PropertyTable.partner?, hp, Option.bind_some]
  have hpaired : ∀ {a p}, s.properties.byId? a = some p →
      s.pairedInverse? p = p.inverse.bind s.properties.byId? := by
    intro a p hp
    unfold pairedInverse?
    cases hinverse : p.inverse with
    | none => rfl
    | some b =>
      have hab := (hpartner hp).trans hinverse
      rw [Option.bind_some, if_pos (h a b hab).1, Option.bind_some]
  refine ⟨fun a b hab => ?_, fun a p hp ha => ?_, fun a p q hp hq => ?_⟩
  · have hba := (h a b hab).2
    exact ⟨(h b a hba).1, (h a b hab).1, hba⟩
  · unfold PropertyTable.isIndexed at ha
    rw [hp] at ha
    rw [hpaired hp, PropertyTable.inverseOf?, PropertyTable.get?, beq_iff_eq.1 ha,
      Option.bind_some, hp, Option.bind_some]
  · rw [hpaired hp] at hq
    obtain ⟨b, hb, hbq⟩ := Option.bind_eq_some_iff.1 hq
    have hba := (h a b ((hpartner hp).trans hb)).2
    rw [hpaired hbq, ← hpartner hbq, hba, Option.bind_some, hp]

/-- A property whose name is not that of an attribute is that of an inverse. -/
lemma getElem?_inverseNames {name : String} {id : PropertyId} (hname : name ∉ s.attributeNames)
    (hid : s.madeTable.nameAt? id = some name) : s.inverseNames[id.index]? = some name := by
  rw [nameAt?_madeTable, List.getElem?_append] at hid
  split_ifs at hid
  · exact hid
  · exact absurd (List.mem_of_getElem? hid) hname

section Apart

variable (h : s.InversesApart) (hshared : ∀ name ∈ s.inverseNames, name ∉ s.attributeNames)
  (hp : s.properties = {})
include h hp

/-- What an inverse runs against is found under its name. -/
lemma InversesApart.isIndexed_target {p : PendingInverse} (hmem : p ∈ s.madePending)
    {target : PropertyId} (ht : s.madeTable.forwardOf? p = some target) :
    s.resolve.properties.isIndexed target = true := by
  obtain ⟨hforward, hqualified⟩ := h.notMem_of_madePending hmem
  obtain ⟨name, hname, hid⟩ : ∃ name, name ∉ s.inverseNames ∧
      s.madeTable.idOf? name = some target := by
    rcases Option.or_eq_some_iff.1 ht with hid | ⟨-, hid⟩
    · exact ⟨_, hforward, hid⟩
    · exact ⟨_, hqualified, hid⟩
  refine PropertyTable.isIndexed_iff.2 ⟨name, ?_, ?_⟩
  · rw [nameAt?_resolve hp, nameAt?_of_idOf?_madeTable h.fits hid]
  · rw [h.idOf?_resolve hp hname, hid]

include hshared

/-- An inverse that shares its name with nothing keeps its name if it has a partner. -/
lemma InversesApart.isIndexed_own {p : PendingInverse} (hmem : p ∈ s.madePending)
    (hpartner : s.resolve.properties.partner? p.own ≠ none) :
    s.resolve.properties.isIndexed p.own = true := by
  obtain ⟨name, hinverse, hname⟩ := s.nameAt?_inverse_mem hmem
  obtain ⟨id, hid⟩ := Option.isSome_iff_exists.1
    (isSome_idOf?_madeTable (List.mem_append_left s.attributeNames hinverse))
  -- what the name leads to is an inverse, and no other inverse has this name
  have hown : id = p.own := by
    have hat := getElem?_inverseNames (hshared name hinverse)
      (nameAt?_of_idOf?_madeTable h.fits hid)
    have hpat := getElem?_inverseNames (hshared name hinverse) hname
    obtain ⟨hlt, -⟩ := List.getElem?_eq_some_iff.1 hat
    have hindex := (List.getElem?_inj hlt h.nodup).1 (hat.trans hpat.symm)
    cases id
    exact congrArg PropertyId.mk hindex
  refine PropertyTable.isIndexed_iff.2 ⟨name, (nameAt?_resolve hp _).trans hname, ?_⟩
  rw [properties_resolve] at hpartner ⊢
  rw [(h.steady_pairing hp).own_idOf? p hmem hpartner name hname, hid, hown]

/-- Resolution makes partners that know each other. -/
theorem InversesApart.mutual : s.resolve.Mutual := by
  have hsteady := h.steady_pairing hp
  refine mutual_of_partner fun a b hab => ?_
  rw [properties_resolve] at hab
  have hba := hsteady.partner?_symm a b hab
  rw [← properties_resolve] at hba
  refine ⟨?_, hba⟩
  obtain ⟨p, hmem, ⟨-, ht⟩ | ⟨rfl, -⟩⟩ := hsteady.runs a b hab
  · exact h.isIndexed_target hp hmem ht
  · refine h.isIndexed_own hshared hp hmem ?_
    rw [hba]
    simp

end Apart

end Schema

/-- In any text whose inverses are apart and share no name with attributes, partners know each other
and are found. -/
theorem Load.partners_mutual (strips : Bool) (builtins : Catalogue) (text : String)
    (h : (Load.text ⟨false, strips⟩ builtins text).schema.InversesApart)
    (hshared : ∀ name ∈ (Load.text ⟨false, strips⟩ builtins text).schema.inverseNames,
      name ∉ (Load.text ⟨false, strips⟩ builtins text).schema.attributeNames) :
    (Load.text ⟨true, strips⟩ builtins text).schema.Mutual := by
  have hread := Load.unresolved builtins strips (Text.lines text.toList)
  rw [Load.schema_text_resolves]
  exact h.mutual hshared hread.properties

/-- Partners of the text in which two inverses run against one attribute, and one runs alone. -/
theorem partners_mutual_rivalsText :
    (Load.text ⟨false, false⟩ {} rivalsText).schema.InversesApart ∧
      (∀ name ∈ (Load.text ⟨false, false⟩ {} rivalsText).schema.inverseNames,
        name ∉ (Load.text ⟨false, false⟩ {} rivalsText).schema.attributeNames) ∧
      (Load.text ⟨true, false⟩ {} rivalsText).schema.Mutual := by
  have h : (Load.text ⟨false, false⟩ {} rivalsText).schema.InversesApart := by decide +kernel
  have hshared : ∀ name ∈ (Load.text ⟨false, false⟩ {} rivalsText).schema.inverseNames,
      name ∉ (Load.text ⟨false, false⟩ {} rivalsText).schema.attributeNames := by decide +kernel
  exact ⟨h, hshared, Load.partners_mutual false {} rivalsText h hshared⟩

/-- The inverse `x` of `A` runs against the inverse `y` of `B`, which runs against an attribute. -/
def inverseOfInverseText : String :=
  "ENTITY A; INVERSE x : B FOR y; END_ENTITY; ENTITY B; INVERSE y : C FOR z; END_ENTITY; " ++
    "ENTITY C; z : B; END_ENTITY;"

/-- The first of them keeps a partner that is the partner of another property. -/
theorem not_mutual_inverseOfInverseText :
    ∃ a ∈ (Load.text ⟨true, false⟩ {} inverseOfInverseText).schema.properties.byName.values,
      ∃ b ∈ (Load.text ⟨true, false⟩ {} inverseOfInverseText).schema.properties.partner? a,
        (Load.text ⟨true, false⟩ {} inverseOfInverseText).schema.properties.isIndexed a = true ∧
          (Load.text ⟨true, false⟩ {} inverseOfInverseText).schema.properties.partner? b ≠
            some a := by
  decide +kernel

end ExpressSchema
