/-
# Marks of inverses

Before properties are made, each inverse marks the attribute against which it runs: the one that
the index of attributes gives for its key.  The last mark counts, and the inverse in turn learns
whether the attribute is unique (`Marked`).  Reading marks nothing, and what comes after leaves the
marks alone, so that the marks in a resolved schema tell what the index gave (`marked_resolve`).
-/
import ExpressSchema.Proofs.Closed.Inheritance
import ExpressSchema.Proofs.Inheritance.Registered
import ExpressSchema.Proofs.Reading.Ranges

namespace ExpressSchema
namespace Schema

/-! ## Reading attributes and inverses off entities -/

lemma map_attributeAt? {α : Type} (s : Schema) (g : Attribute → α) (id : AttributeId) :
    (s.attributeAt? id).map g =
      ((s.entityAt? id.entity).map fun e => e.attributes.map g).bind (·[id.slot]?) := by
  unfold attributeAt?
  cases s.entityAt? id.entity <;> simp

lemma map_inverseAt? {α : Type} (s : Schema) (g : Inverse → α) (id : InverseId) :
    (s.inverseAt? id).map g =
      ((s.entityAt? id.entity).map fun e => e.inverses.map g).bind (·[id.slot]?) := by
  unfold inverseAt?
  cases s.entityAt? id.entity <;> simp

/-- What is the same for the attributes of all entities is the same for each attribute. -/
lemma map_attributeAt?_of_map_values {α : Type} {s t : Schema} {f g : Attribute → α}
    (h : (s.entities.values.map fun e => e.attributes.map f) =
      t.entities.values.map fun e => e.attributes.map g) (id : AttributeId) :
    (s.attributeAt? id).map f = (t.attributeAt? id).map g := by
  rw [map_attributeAt?, map_attributeAt?, map_entityAt?_of_map_values h]

lemma map_inverseAt?_of_map_values {α : Type} {s t : Schema} {f g : Inverse → α}
    (h : (s.entities.values.map fun e => e.inverses.map f) =
      t.entities.values.map fun e => e.inverses.map g) (id : InverseId) :
    (s.inverseAt? id).map f = (t.inverseAt? id).map g := by
  rw [map_inverseAt?, map_inverseAt?, map_entityAt?_of_map_values h]

/-- Whatever is the same for an attribute as read is the same where the same was read. -/
lemma map_attributeAt?_congr {α : Type} {s t : Schema} (h : s.readEntities = t.readEntities)
    {f : Attribute → α} (hf : ∀ a, f a.asRead = f a) (id : AttributeId) :
    (s.attributeAt? id).map f = (t.attributeAt? id).map f :=
  map_attributeAt?_of_map_values (map_values_congr h _ fun e => by
    simp [Entity.asRead, Function.comp_def, hf]) id

lemma map_inverseAt?_congr {α : Type} {s t : Schema} (h : s.readEntities = t.readEntities)
    {f : Inverse → α} (hf : ∀ i, f i.asRead = f i) (id : InverseId) :
    (s.inverseAt? id).map f = (t.inverseAt? id).map f :=
  map_inverseAt?_of_map_values (map_values_congr h _ fun e => by
    simp [Entity.asRead, Function.comp_def, hf]) id

lemma attributeAt?_modifyAttribute (s : Schema) (target id : AttributeId)
    (f : Attribute → Attribute) :
    (s.modifyAttribute target f).attributeAt? id =
      if target = id then (s.attributeAt? id).map f else s.attributeAt? id := by
  obtain ⟨⟨i⟩, slot⟩ := target
  obtain ⟨⟨j⟩, slot'⟩ := id
  simp only [attributeAt?, modifyAttribute, modifyEntity, entityAt?, Table.at?_modifyAt,
    AttributeId.mk.injEq, EntityId.mk.injEq]
  by_cases hij : i = j
  · subst hij
    cases s.entities.at? i with
    | none => simp
    | some e => by_cases hslot : slot = slot' <;> simp [hslot]
  · simp [hij]

lemma attributeAt?_modifyInverse (s : Schema) (target : InverseId) (id : AttributeId)
    (f : Inverse → Inverse) : (s.modifyInverse target f).attributeAt? id = s.attributeAt? id := by
  simp only [attributeAt?, modifyInverse, modifyEntity, entityAt?, Table.at?_modifyAt]
  split
  · cases s.entities.at? id.entity.index <;> rfl
  · rfl

lemma inverseAt?_modifyInverse (s : Schema) (target id : InverseId) (f : Inverse → Inverse) :
    (s.modifyInverse target f).inverseAt? id =
      if target = id then (s.inverseAt? id).map f else s.inverseAt? id := by
  obtain ⟨⟨i⟩, slot⟩ := target
  obtain ⟨⟨j⟩, slot'⟩ := id
  simp only [inverseAt?, modifyInverse, modifyEntity, entityAt?, Table.at?_modifyAt,
    InverseId.mk.injEq, EntityId.mk.injEq]
  by_cases hij : i = j
  · subst hij
    cases s.entities.at? i with
    | none => simp
    | some e => by_cases hslot : slot = slot' <;> simp [hslot]
  · simp [hij]

lemma inverseAt?_modifyAttribute (s : Schema) (target : AttributeId) (id : InverseId)
    (f : Attribute → Attribute) : (s.modifyAttribute target f).inverseAt? id = s.inverseAt? id := by
  simp only [inverseAt?, modifyAttribute, modifyEntity, entityAt?, Table.at?_modifyAt]
  split
  · cases s.entities.at? id.entity.index <;> rfl
  · rfl

lemma mem_declaredAttributes {s : Schema} {id : AttributeId} {a : Attribute}
    (h : s.attributeAt? id = some a) : a ∈ s.declaredAttributes := by
  obtain ⟨e, he, ha⟩ := Option.bind_eq_some_iff.1 h
  rw [entityAt?_eq_getElem?] at he
  exact List.mem_flatMap.2 ⟨e, List.mem_of_getElem? he, List.mem_of_getElem? ha⟩

lemma mem_declaredInverses {s : Schema} {id : InverseId} {i : Inverse}
    (h : s.inverseAt? id = some i) : i ∈ s.declaredInverses := by
  obtain ⟨e, he, hi⟩ := Option.bind_eq_some_iff.1 h
  rw [entityAt?_eq_getElem?] at he
  exact List.mem_flatMap.2 ⟨e, List.mem_of_getElem? he, List.mem_of_getElem? hi⟩

/-! ## The keys of inverses -/

/-- The key under which the forward attribute of an inverse is looked for. -/
def forwardKey? (s : Schema) (id : InverseId) : Option String :=
  (s.inverseAt? id).map Inverse.forwardKey

lemma forwardKey?_congr {s t : Schema} (h : s.readEntities = t.readEntities) (id : InverseId) :
    s.forwardKey? id = t.forwardKey? id :=
  map_inverseAt?_congr h (fun _ => rfl) id

/-- What an inverse looks for does not change until the end. -/
lemma forwardKey?_resolve (s : Schema) (id : InverseId) :
    s.resolve.forwardKey? id = s.forwardKey? id := by
  rw [← forwardKey?_congr (readEntities_inherit s)]
  exact map_inverseAt?_of_map_values (s.map_values_resolve _ _
    (fun e id first => map_mapIdx_of_eq _ fun _ _ => rfl) (fun _ _ => rfl) fun _ _ => rfl) id

end Schema

/-! ## Marking -/

/-- Nothing is noted with an attribute that has only been read. -/
structure Attribute.Unmarked (a : Attribute) : Prop where
  declaredName : a.declaredName = a.name
  isInverted : a.isInverted = false
  invertedBy : a.invertedBy = none
  isOneToOne : a.isOneToOne = false

/-- What is noted with an attribute against which these inverses run, and no others. -/
structure Attribute.MarkedBy (a : Attribute) (read : Schema) (ids : List InverseId) : Prop where
  /-- Some inverse runs against it. -/
  isInverted : a.isInverted = true ↔ ids ≠ []
  /-- The last of them is noted. -/
  invertedBy : a.invertedBy = ids.getLast?
  /-- The attribute has one value, and one of the inverses has at most one. -/
  isOneToOne : a.isOneToOne = true ↔ a.aggregation.isCollection = false ∧
    ∃ id ∈ ids, ∃ i, read.inverseAt? id = some i ∧ i.cardinality.max = some 1

namespace Attribute

variable {a : Attribute} {read : Schema} {ids : List InverseId}

lemma Unmarked.markedBy (h : a.Unmarked) (read : Schema) : a.MarkedBy read [] := by
  constructor <;> simp [h.isInverted, h.invertedBy, h.isOneToOne]

/-- One more inverse. -/
lemma MarkedBy.markInverted (h : a.MarkedBy read ids) {id : InverseId} {i inverse : Inverse}
    (hi : read.inverseAt? id = some i) (hsame : inverse.cardinality = i.cardinality) :
    (a.markInverted id inverse).MarkedBy read (ids ++ [id]) where
  isInverted := by simp [Attribute.markInverted]
  invertedBy := by simp [Attribute.markInverted]
  isOneToOne := by
    have hone := h.isOneToOne
    simp only [Attribute.markInverted, Cardinality.isSingle, hsame, Bool.or_eq_true, hone]
    simp [or_and_right, exists_or, hi, and_or_left, and_comm]

end Attribute

namespace Schema

/-- What the inverse with this identifier looks for is, in the index, this attribute. -/
def indexed? (read : Schema) (index : AttributeIndex) (id : InverseId) : Option AttributeId :=
  (read.forwardKey? id).bind index.get?

/-- The marks that these inverses have left, one after the other, in a schema that is as it was read
otherwise. -/
structure Marked (index : AttributeIndex) (read s : Schema) (done : List InverseId) : Prop where
  same : s.readEntities = read.readEntities
  attributes : ∀ target a, s.attributeAt? target = some a →
    a.MarkedBy read (done.filter fun id => read.indexed? index id = some target)
  inverses : ∀ id ∈ done, ∀ i, s.inverseAt? id = some i →
    i.isUnique = ((read.indexed? index id).bind read.attributeAt?).any (·.isUnique)

/-- No attribute is marked. -/
def Unmarked (s : Schema) : Prop := ∀ a ∈ s.declaredAttributes, a.Unmarked

lemma Unmarked.marked {read s : Schema} (h : s.Unmarked) (index : AttributeIndex)
    (hread : s.readEntities = read.readEntities) : Marked index read s [] where
  same := hread
  attributes _ _ ha := (h _ (mem_declaredAttributes ha)).markedBy read
  inverses _ hid := absurd hid List.not_mem_nil

variable {s : Schema}

section Step

variable {index : AttributeIndex} {read : Schema} {done : List InverseId}

/-- One inverse marks the attribute that the index gives for it. -/
lemma attributeAt?_markForward {id : InverseId} {inverse : Inverse}
    (hi : s.inverseAt? id = some inverse) (target : AttributeId) :
    (s.markForward index id).attributeAt? target =
      if index.get? inverse.forwardKey = some target then
        (s.attributeAt? target).map (·.markInverted id inverse)
      else s.attributeAt? target := by
  unfold markForward
  rw [hi]
  dsimp only
  cases index.get? inverse.forwardKey with
  | none => simp [attributeAt?_modifyInverse]
  | some found => simp [attributeAt?_modifyInverse, attributeAt?_modifyAttribute]

/-- It learns whether that is unique. -/
lemma inverseAt?_markForward {id : InverseId} {inverse : Inverse}
    (hi : s.inverseAt? id = some inverse) (other : InverseId) :
    (s.markForward index id).inverseAt? other =
      if id = other then
        some { inverse with
          isUnique := ((index.get? inverse.forwardKey).bind s.attributeAt?).any (·.isUnique) }
      else s.inverseAt? other := by
  unfold markForward
  rw [hi]
  dsimp only
  cases index.get? inverse.forwardKey with
  | none =>
    rw [inverseAt?_modifyInverse]
    split_ifs with hid
    · rw [← hid, hi]
      rfl
    · rfl
  | some found =>
    rw [inverseAt?_modifyInverse, inverseAt?_modifyAttribute]
    split_ifs with hid
    · rw [← hid, hi]
      rfl
    · rfl

/-- What is unique here is unique there. -/
lemma any_isUnique_congr {s t : Schema}
    (h : ∀ id, (s.attributeAt? id).map (·.isUnique) = (t.attributeAt? id).map (·.isUnique))
    (o : Option AttributeId) :
    (o.bind s.attributeAt?).any (·.isUnique) = (o.bind t.attributeAt?).any (·.isUnique) := by
  have hany : ∀ o : Option Attribute, o.any (·.isUnique) = (o.map (·.isUnique)).getD false := by
    intro o
    cases o <;> rfl
  cases o with
  | none => rfl
  | some id => rw [Option.bind_some, Option.bind_some, hany, hany, h]

/-- One inverse more leaves its mark after those of the others. -/
lemma Marked.markForward (h : Marked index read s done) {id : InverseId}
    (hid : (s.inverseAt? id).isSome) :
    Marked index read (s.markForward index id) (done ++ [id]) := by
  obtain ⟨inverse, hi⟩ := Option.isSome_iff_exists.1 hid
  -- the inverse itself may have changed since it was read, but not in what counts here
  obtain ⟨i, hri, hasRead⟩ : ∃ i, read.inverseAt? id = some i ∧ i.asRead = inverse.asRead := by
    have hsame := map_inverseAt?_congr h.same (f := Inverse.asRead) (fun _ => rfl) id
    rw [hi, Option.map_some] at hsame
    exact Option.map_eq_some_iff.1 hsame.symm
  have hkey : read.indexed? index id = index.get? inverse.forwardKey := by
    rw [indexed?, ← forwardKey?_congr h.same, forwardKey?, hi, Option.map_some, Option.bind_some]
  constructor
  · rw [readEntities_markForward]
    exact h.same
  · intro target a ha
    rw [attributeAt?_markForward hi] at ha
    rw [List.filter_append, List.filter_singleton, hkey]
    split_ifs at ha with htarget
    · obtain ⟨b, hb, rfl⟩ := Option.map_eq_some_iff.1 ha
      have hcardinality : inverse.cardinality = i.cardinality :=
        (congrArg Inverse.cardinality hasRead).symm
      simpa [htarget] using (h.attributes target b hb).markInverted hri hcardinality
    · simpa [htarget] using h.attributes target a ha
  · intro other hother j hj
    rw [inverseAt?_markForward hi] at hj
    split_ifs at hj with heq
    · obtain rfl := Option.some.inj hj
      rw [← heq, hkey]
      exact any_isUnique_congr (map_attributeAt?_congr h.same fun _ => rfl) _
    · refine h.inverses other ?_ j hj
      simpa [Ne.symm heq] using hother

/-- Any number of inverses leave their marks. -/
lemma Marked.foldl_markForward (h : Marked index read s done) {ids : List InverseId}
    (hids : ∀ id ∈ ids, (read.inverseAt? id).isSome) :
    Marked index read (ids.foldl (Schema.markForward index) s) (done ++ ids) := by
  induction ids generalizing s done with
  | nil => rwa [List.append_nil]
  | cons id ids ih =>
    obtain ⟨hid, hrest⟩ := List.forall_mem_cons.1 hids
    have hthere : (s.inverseAt? id).isSome := by
      have hsame := map_inverseAt?_congr h.same (f := Inverse.asRead) (fun _ => rfl) id
      rwa [← Option.isSome_map (f := Inverse.asRead), hsame, Option.isSome_map]
    have hmarked := ih (h.markForward hthere) hrest
    rwa [List.append_assoc, List.singleton_append] at hmarked

end Step

/-! ## The marks in the end -/

/-- The schema when all inverses have left their marks. -/
def markInverses (s : Schema) : Schema :=
  s.inheritAttributes.inverseIds.foldl (markForward (AttributeIndex.ofSchema s))
    s.inheritAttributes

/-- After inheritance marks stay as they are. -/
lemma map_attributeAt?_resolve {α : Type} {g : Attribute → α}
    (hqualify : ∀ a owner entity, g (a.qualify owner entity) = g a)
    (hplace : ∀ a origin, g { a with rangeOrigin := origin } = g a) (s : Schema)
    (target : AttributeId) :
    (s.resolve.attributeAt? target).map g = (s.markInverses.attributeAt? target).map g := by
  refine map_attributeAt?_of_map_values ?_ target
  rw [s.map_values_resolve _ (fun e => e.attributes.map g)
    (fun e id first => by simp [Entity.qualify, Function.comp_def, hqualify])
    (fun e origin => by simp [Function.comp_def, hplace]) fun _ _ => rfl]
  exact Table.map_values_mapIdx _ fun _ _ => rfl

lemma map_inverseAt?_resolve {α : Type} {g : Inverse → α}
    (hproperty : ∀ i property, g { i with property := property } = g i) (s : Schema)
    (id : InverseId) : (s.resolve.inverseAt? id).map g = (s.markInverses.inverseAt? id).map g := by
  refine map_inverseAt?_of_map_values ?_ id
  rw [s.map_values_resolve _ (fun e => e.inverses.map g)
    (fun e id first => map_mapIdx_of_eq _ fun _ _ => hproperty _ _) (fun _ _ => rfl)
    fun _ _ => rfl]
  exact Table.map_values_mapIdx _ fun _ _ => rfl

lemma inverseIds_inheritAttributes (s : Schema) : s.inheritAttributes.inverseIds = s.inverseIds := by
  have hsame := sameDescent_of_readEntities (readEntities_inheritAttributes s)
  have hsize : s.inheritAttributes.entities.size = s.entities.size := by
    rw [← Table.length_keys, hsame.keys, Table.length_keys]
  rw [inverseIds, inverseIds, funext hsame.ownInverses_congr, entityIds, entityIds, hsize]

/-- What neither marks nor names within the schema change of an attribute is as it was read. -/
lemma map_attributeAt?_resolve_of_asRead {α : Type} {g : Attribute → α}
    (hqualify : ∀ a owner entity, g (a.qualify owner entity) = g a)
    (hplace : ∀ a origin, g { a with rangeOrigin := origin } = g a)
    (hread : ∀ a, g a.asRead = g a) (s : Schema) (target : AttributeId) :
    (s.resolve.attributeAt? target).map g = (s.attributeAt? target).map g := by
  have hmarked : s.markInverses.readEntities = s.readEntities :=
    (readEntities_foldl_markForward _ _ _).trans (readEntities_inheritAttributes s)
  rw [s.map_attributeAt?_resolve hqualify hplace, map_attributeAt?_congr hmarked hread]

/-- Every inverse that is there has its turn, as long as there are words for all slots. -/
lemma Reached.mem_inverseIds (hr : s.Reached) (hfits : s.SlotsFit) {id : InverseId} {i : Inverse}
    (hi : s.inverseAt? id = some i) : id ∈ s.inverseIds := by
  obtain ⟨e, he, hslot⟩ := Option.bind_eq_some_iff.1 hi
  have hentity : id.entity ∈ s.entityIds :=
    List.mem_map.2 ⟨id.entity.index, List.mem_range.2 (Table.lt_size_of_at? he), rfl⟩
  have hmem : e ∈ s.entities.values := by
    rw [entityAt?_eq_getElem?] at he
    exact List.mem_of_getElem? he
  have hlt := (List.getElem?_eq_some_iff.1 hslot).1
  have hid : InverseId.ofNat (.ofNat id.entity.index) id.slot = id := by
    rw [(hr _ e he).ofNat_index (.inr (List.ne_nil_of_mem (List.mem_of_getElem? hslot))),
      InverseId.ofNat, wordOf_of_lt (hlt.trans_le (hfits e hmem).2)]
  refine List.mem_flatMap.2 ⟨id.entity, hentity, ?_⟩
  rw [ownInverses_eq, he]
  exact List.mem_map.2 ⟨id.slot, List.mem_range.2 hlt, hid⟩

/-- All inverses that have been read leave their marks. -/
lemma Unmarked.marked_markInverses (h : s.Unmarked) (hr : s.Reached) :
    Marked (AttributeIndex.ofSchema s) s s.markInverses s.inverseIds := by
  have hdeclared : s.inheritAttributes.declaredAttributes = s.declaredAttributes := by
    rw [declaredAttributes, declaredAttributes, List.flatMap_def, List.flatMap_def]
    exact congrArg _ (Table.map_values_mapIdx _ fun _ _ => rfl)
  have hinherit : s.inheritAttributes.Unmarked := fun a ha => h a (hdeclared ▸ ha)
  have hmarked := hinherit.marked (AttributeIndex.ofSchema s) (readEntities_inheritAttributes s)
  rw [markInverses, inverseIds_inheritAttributes]
  refine hmarked.foldl_markForward fun id hid => ?_
  obtain ⟨entity, -, hown⟩ := List.mem_flatMap.1 hid
  exact hr.isSome_inverseAt?_of_mem_own hown

/-- Every attribute of a resolved schema is marked by the inverses for which the index gives it. -/
theorem Unmarked.markedBy_resolve (h : s.Unmarked) (hr : s.Reached) {target : AttributeId}
    {a : Attribute} (ha : s.resolve.attributeAt? target = some a) :
    a.MarkedBy s (s.inverseIds.filter fun id =>
      s.indexed? (AttributeIndex.ofSchema s) id = some target) := by
  have hmarks := s.map_attributeAt?_resolve
    (g := fun a => (a.isInverted, a.invertedBy, a.isOneToOne, a.aggregation))
    (fun _ _ _ => rfl) (fun _ _ => rfl) target
  rw [ha, Option.map_some] at hmarks
  obtain ⟨b, hb, heq⟩ := Option.map_eq_some_iff.1 hmarks.symm
  have hmarked := (h.marked_markInverses hr).attributes target b hb
  simp only [Prod.mk.injEq] at heq
  obtain ⟨hinverted, hby, hone, haggregation⟩ := heq
  exact ⟨hinverted ▸ hmarked.isInverted, hby ▸ hmarked.invertedBy,
    haggregation ▸ hone ▸ hmarked.isOneToOne⟩

/-- A mark in a resolved schema is that of an inverse for which the index gives the attribute. -/
theorem Unmarked.mark_resolve (h : s.Unmarked) (hr : s.Reached) {target : AttributeId}
    {a : Attribute} {id : InverseId} (ha : s.resolve.attributeAt? target = some a)
    (hid : a.invertedBy = some id) :
    (s.resolve.forwardKey? id).bind (AttributeIndex.ofSchema s).get? = some target := by
  have hlast := (h.markedBy_resolve hr ha).invertedBy
  rw [hid] at hlast
  have hmem := List.mem_filter.1 (List.mem_of_getLast? hlast.symm)
  rw [forwardKey?_resolve]
  exact of_decide_eq_true hmem.2

/-- Every inverse of a resolved schema knows whether what the index gives for it is unique. -/
theorem Unmarked.isUnique_resolve (h : s.Unmarked) (hr : s.Reached) (hfits : s.SlotsFit)
    {id : InverseId} {i : Inverse} (hi : s.resolve.inverseAt? id = some i) :
    i.isUnique = ((s.indexed? (AttributeIndex.ofSchema s) id).bind s.resolve.attributeAt?).any
      (·.isUnique) := by
  have hunique := s.map_inverseAt?_resolve (g := (·.isUnique)) (fun _ _ => rfl) id
  rw [hi, Option.map_some] at hunique
  obtain ⟨j, hj, heq⟩ := Option.map_eq_some_iff.1 hunique.symm
  have hmarked := h.marked_markInverses hr
  -- nothing becomes unique between reading and the end
  have hattributes := s.map_attributeAt?_resolve_of_asRead (g := (·.isUnique)) (fun _ _ _ => rfl)
    (fun _ _ => rfl) fun _ => rfl
  have hread : (s.inverseAt? id).isSome := by
    have hsame := map_inverseAt?_congr hmarked.same (f := Inverse.asRead) (fun _ => rfl) id
    rw [← Option.isSome_map (f := Inverse.asRead), ← hsame, hj]
    rfl
  obtain ⟨i', hi'⟩ := Option.isSome_iff_exists.1 hread
  rw [← heq, hmarked.inverses id (hr.mem_inverseIds hfits hi') j hj, any_isUnique_congr hattributes]

/-! ## Reading marks nothing -/

lemma Edits.unmarked {s t : Schema} (h : Edits s t) (hs : s.Unmarked) : t.Unmarked := by
  refine h.forall_attributes (fun draft owner range => ?_)
    (fun _ ha => ⟨ha.declaredName, ha.isInverted, ha.invertedBy, ha.isOneToOne⟩) hs
  unfold AttributeDraft.finish
  cases Builtin.ofText? range <;> exact ⟨rfl, rfl, rfl, rfl⟩

end Schema

/-- Reading leaves marks to resolution. -/
theorem Load.unmarked (builtins : Catalogue) (strips : Bool) (lines : List (List Char)) :
    (Load.lines ⟨false, strips⟩ builtins lines).schema.Unmarked :=
  (edits_lines builtins strips lines).unmarked fun _ ha => absurd ha List.not_mem_nil

end ExpressSchema
