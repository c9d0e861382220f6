/-
# What resolution leaves of the declarations

The first passes of resolution note things with attributes and inverses, and give each entity the
lists of all its attributes and inverses.  Of what was read they change nothing: without these
notes the entities are the same before and after (`readEntities`).  The names that attributes and
inverses will get in the schema are worked out from what was read alone.
-/
import ExpressSchema.Proofs.Resolution.Passes

namespace ExpressSchema

/-! ## Tables of the same shape -/

lemma map_mapIdx_of_eq {α β : Type} {f : Nat → α → α} {g : α → β} (l : List α)
    (h : ∀ i a, g (f i a) = g a) : (l.mapIdx f).map g = l.map g := by
  apply List.ext_getElem?
  intro j
  simp only [List.getElem?_map, List.getElem?_mapIdx, Option.map_map, Function.comp_def, h]

namespace Table

variable {κ α β : Type}

lemma mapIdx_modifyAt {g : Nat → α → α} {f : α → α} (t : Table κ α) (i : Nat)
    (h : ∀ j a, g j (f a) = g j a) : (t.modifyAt i f).mapIdx g = t.mapIdx g := by
  apply Table.ext
  apply List.ext_getElem?
  intro j
  simp only [mapIdx, modifyAt, List.getElem?_mapIdx, List.getElem?_modify]
  cases t.entries[j]? with
  | none => rfl
  | some e => by_cases hij : i = j <;> simp [hij, h]

lemma mapIdx_mapIdx {g f : Nat → α → α} (t : Table κ α) (h : ∀ j a, g j (f j a) = g j a) :
    (t.mapIdx f).mapIdx g = t.mapIdx g := by
  apply Table.ext
  apply List.ext_getElem?
  intro j
  simp only [mapIdx, List.getElem?_mapIdx, Option.map_map, Function.comp_def, h]

lemma values_mapIdx (t : Table κ α) (f : Nat → α → α) :
    (t.mapIdx f).values = t.values.mapIdx f := by
  apply List.ext_getElem?
  intro j
  rw [← at?_eq_getElem?, at?_mapIdx, List.getElem?_mapIdx, at?_eq_getElem?]

/-- What a change of the values leaves alone is the same before and after. -/
lemma map_values_mapIdx {f : Nat → α → α} {g : α → β} (t : Table κ α) (h : ∀ i a, g (f i a) = g a) :
    (t.mapIdx f).values.map g = t.values.map g := by
  rw [values_mapIdx, map_mapIdx_of_eq _ h]

end Table

/-! ## Declarations as read -/

/-- An attribute without what resolution notes with it. -/
def Attribute.asRead (a : Attribute) : Attribute :=
  { a with isOneToOne := false, isInverted := false, invertedBy := none }

/-- An inverse without what resolution notes with it. -/
def Inverse.asRead (i : Inverse) : Inverse := { i with isUnique := false }

/-- An entity without what resolution notes with it and with its attributes and inverses. -/
def Entity.asRead (e : Entity) : Entity :=
  { e with
    attributes := e.attributes.map Attribute.asRead
    inverses := e.inverses.map Inverse.asRead
    allAttributes := []
    allInverses := [] }

namespace Schema

/-- The entities without what resolution notes with them. -/
def readEntities (s : Schema) : Table String Entity := s.entities.mapIdx fun _ e => e.asRead

/-- Whatever is the same for an entity as read can be worked out from the entities as read. -/
lemma flatMap_values_readEntities {α : Type} (s : Schema) (f : Entity → List α)
    (hf : ∀ e, f e.asRead = f e) :
    s.readEntities.values.flatMap f = s.entities.values.flatMap f := by
  have hvalues : s.readEntities.values = s.entities.values.map Entity.asRead := by
    apply List.ext_getElem?
    intro i
    simp [readEntities, Table.values_mapIdx]
  rw [hvalues, List.flatMap_map]
  simp only [hf]

lemma map_modify_of_eq {α β : Type} {g : α → β} {f : α → α} (h : ∀ a, g (f a) = g a)
    (xs : List α) (i : Nat) : (xs.modify i f).map g = xs.map g := by
  apply List.ext_getElem?
  intro j
  simp only [List.getElem?_map, List.getElem?_modify]
  cases xs[j]? with
  | none => rfl
  | some a => by_cases hij : i = j <;> simp [hij, h]

/-- What a change of one entity leaves alone is the same for all entities. -/
lemma map_values_modifyEntity {α : Type} (s : Schema) (id : EntityId) {f : Entity → Entity}
    {g : Entity → α} (h : ∀ e, g (f e) = g e) :
    (s.modifyEntity id f).entities.values.map g = s.entities.values.map g := by
  rw [modifyEntity, Table.values_modifyAt, map_modify_of_eq h]

/-- An entity stands in its place in the list. -/
lemma entityAt?_eq_getElem? (s : Schema) (id : EntityId) :
    s.entityAt? id = s.entities.values[id.index]? :=
  Table.at?_eq_getElem? _ _

lemma entityAt?_eq_some_get (s : Schema) {i : Nat} (hi : i < s.entities.values.length) :
    s.entityAt? ⟨i⟩ = some (s.entities.values.get ⟨i, hi⟩) := by
  rw [entityAt?_eq_getElem?, List.get_eq_getElem, List.getElem?_eq_getElem]

/-- What is the same for all entities is the same at each place. -/
lemma map_entityAt?_of_map_values {α : Type} {s t : Schema} {f g : Entity → α}
    (h : s.entities.values.map f = t.entities.values.map g) (id : EntityId) :
    (s.entityAt? id).map f = (t.entityAt? id).map g := by
  rw [entityAt?_eq_getElem?, entityAt?_eq_getElem?, ← List.getElem?_map, h, List.getElem?_map]

lemma readEntities_modifyAttribute (s : Schema) (id : AttributeId) (f : Attribute → Attribute)
    (hf : ∀ a, (f a).asRead = a.asRead) :
    (s.modifyAttribute id f).readEntities = s.readEntities := by
  apply Table.mapIdx_modifyAt
  intro _ e
  simp only [Entity.asRead, map_modify_of_eq hf]

lemma readEntities_modifyInverse (s : Schema) (id : InverseId) (f : Inverse → Inverse)
    (hf : ∀ i, (f i).asRead = i.asRead) :
    (s.modifyInverse id f).readEntities = s.readEntities := by
  apply Table.mapIdx_modifyAt
  intro _ e
  simp only [Entity.asRead, map_modify_of_eq hf]

lemma readEntities_inheritAttributes (s : Schema) :
    s.inheritAttributes.readEntities = s.readEntities := by
  unfold inheritAttributes collectAttributes readEntities
  rw [Table.mapIdx_mapIdx, entities_reportAll]
  exact fun _ _ => rfl

lemma readEntities_markForward (index : AttributeIndex) (s : Schema) (id : InverseId) :
    (s.markForward index id).readEntities = s.readEntities := by
  unfold markForward
  cases s.inverseAt? id with
  | none => rfl
  | some inverse =>
    dsimp only
    cases index.get? inverse.forwardKey with
    | none =>
      rw [readEntities_modifyInverse]
      exact fun _ => rfl
    | some target =>
      rw [readEntities_modifyInverse, readEntities_modifyAttribute]
      · exact fun _ => rfl
      · exact fun _ => rfl

lemma readEntities_foldl_markForward (index : AttributeIndex) (ids : List InverseId)
    (s : Schema) : (ids.foldl (markForward index) s).readEntities = s.readEntities := by
  induction ids generalizing s with
  | nil => rfl
  | cons id ids ih => rw [List.foldl_cons, ih, readEntities_markForward]

lemma readEntities_inheritInverses (s : Schema) (index : AttributeIndex) :
    (s.inheritInverses index).readEntities = s.readEntities := by
  rw [← readEntities_foldl_markForward index s.inverseIds s]
  unfold inheritInverses collectInverses readEntities
  rw [Table.mapIdx_mapIdx]
  exact fun _ _ => rfl

/-- Before names are qualified, nothing that was read of the entities has changed. -/
theorem readEntities_inherit (s : Schema) : s.inherit.readEntities = s.readEntities :=
  (readEntities_inheritInverses _ _).trans (readEntities_inheritAttributes s)

/-! ## Everything but the entities -/

lemma foldl_markForward_eq (index : AttributeIndex) (ids : List InverseId) (s : Schema) :
    ids.foldl (markForward index) s =
      { s with entities := (ids.foldl (markForward index) s).entities } := by
  induction ids generalizing s with
  | nil => rfl
  | cons id ids ih =>
    have hid : s.markForward index id =
        { s with entities := (s.markForward index id).entities } := by
      unfold markForward
      cases s.inverseAt? id with
      | none => rfl
      | some inverse => cases h : index.get? inverse.forwardKey <;> simp only [h] <;> rfl
    rw [List.foldl_cons, ih, hid]

/-- Before properties are made, resolution changes the entities, adds individuals and lists what is
wrong with supertypes. -/
lemma inherit_eq (s : Schema) :
    s.inherit = { s with
      entities := s.inherit.entities
      individuals := s.individuals ++ s.types.values.flatMap TypeDecl.individuals
      diagnostics := s.diagnostics ++
        (s.entityIds.filterMap s.chainProblem?).map Problem.toDiagnostic } := by
  unfold inherit inheritInverses
  rw [foldl_markForward_eq]
  rfl

lemma properties_inherit (s : Schema) : s.inherit.properties = s.properties := by
  rw [inherit_eq]

lemma types_inherit (s : Schema) : s.inherit.types = s.types := by
  rw [inherit_eq]

lemma diagnostics_inherit (s : Schema) :
    s.inherit.diagnostics =
      s.diagnostics ++ (s.entityIds.filterMap s.chainProblem?).map Problem.toDiagnostic := by
  rw [inherit_eq]

/-! ## The names within the schema -/

/-- The declared inverses of all entities, in order. -/
def declaredInverses (s : Schema) : List Inverse := s.entities.values.flatMap (·.inverses)

/-- The declared attributes of all entities, in order. -/
def declaredAttributes (s : Schema) : List Attribute := s.entities.values.flatMap (·.attributes)

/-- The names that the declared inverses get within the schema, in order. -/
def inverseNames (s : Schema) : List String :=
  s.entities.values.flatMap fun e => e.inverses.map fun i => Name.qualified i.name e.name

/-- The names that the declared attributes get within the schema, in order. -/
def attributeNames (s : Schema) : List String :=
  s.entities.values.flatMap fun e => e.attributes.map fun a => Name.qualified a.name e.name

lemma length_inverseNames (s : Schema) : s.inverseNames.length = s.declaredInverses.length := by
  simp [inverseNames, declaredInverses, List.length_flatMap]

lemma length_attributeNames (s : Schema) :
    s.attributeNames.length = s.declaredAttributes.length := by
  simp [attributeNames, declaredAttributes, List.length_flatMap]

section Same

variable {s s' : Schema} (h : s.readEntities = s'.readEntities)
include h

lemma flatMap_values_congr {α : Type} (f : Entity → List α) (hf : ∀ e, f e.asRead = f e) :
    s.entities.values.flatMap f = s'.entities.values.flatMap f := by
  rw [← s.flatMap_values_readEntities f hf, h, s'.flatMap_values_readEntities f hf]

lemma map_values_congr {α : Type} (f : Entity → α) (hf : ∀ e, f e.asRead = f e) :
    s.entities.values.map f = s'.entities.values.map f := by
  rw [List.map_eq_flatMap, List.map_eq_flatMap]
  exact flatMap_values_congr h _ fun e => by rw [hf]

lemma inverseNames_congr : s.inverseNames = s'.inverseNames :=
  flatMap_values_congr h _ fun e => by
    simp only [Entity.asRead, List.map_map, Function.comp_def, Inverse.asRead]

lemma attributeNames_congr : s.attributeNames = s'.attributeNames :=
  flatMap_values_congr h _ fun e => by
    simp only [Entity.asRead, List.map_map, Function.comp_def, Attribute.asRead]

lemma map_declaredInverses_congr {α : Type} (f : Inverse → α) (hf : ∀ i, f i.asRead = f i) :
    s.declaredInverses.map f = s'.declaredInverses.map f := by
  simp only [declaredInverses, List.map_flatMap]
  exact flatMap_values_congr h _ fun e => by
    simp only [Entity.asRead, List.map_map, Function.comp_def, hf]

lemma map_declaredAttributes_congr {α : Type} (f : Attribute → α)
    (hf : ∀ a, f a.asRead = f a) : s.declaredAttributes.map f = s'.declaredAttributes.map f := by
  simp only [declaredAttributes, List.map_flatMap]
  exact flatMap_values_congr h _ fun e => by
    simp only [Entity.asRead, List.map_map, Function.comp_def, hf]

end Same

end Schema
end ExpressSchema
