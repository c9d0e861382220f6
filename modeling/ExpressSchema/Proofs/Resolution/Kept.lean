/-
# What was read stays

Resolution adds to the declarations and takes nothing back.  The entities and types stay where they
are, and whatever the text says of them, of their attributes and of their inverses is said of them
afterwards; only the name that an attribute was declared with is its declared name now.  New
diagnostics come after those of reading.

The entity that owns an attribute is written again when names are qualified.  That it is the same
entity as before follows from both schemas being closed.
-/
import ExpressSchema.Proofs.Closed.Run
import ExpressSchema.Proofs.Inheritance.Descent
import ExpressSchema.Proofs.Reading.Loaded
import ExpressSchema.Proofs.Selects.Noted
import Mathlib.Data.List.Forall2

namespace ExpressSchema

/-! ## Declarations that say the same -/

/-- Everything that is read of an attribute is said of it in `b` as it is in `a`, which was read. -/
structure Attribute.Kept (a b : Attribute) : Prop where
  declaredName : b.declaredName = a.name
  owner : b.owner = a.owner
  range : b.range = a.range
  rangeKey : b.rangeKey = a.rangeKey
  builtin : b.builtin = a.builtin
  aggregation : b.aggregation = a.aggregation
  cardinality : b.cardinality = a.cardinality
  innerCardinality : b.innerCardinality = a.innerCardinality
  isOptional : b.isOptional = a.isOptional
  isUnique : b.isUnique = a.isUnique

/-- Everything that is read of an inverse is said of it in `j` as it is in `i`. -/
structure Inverse.Kept (i j : Inverse) : Prop where
  name : j.name = i.name
  owner : j.owner = i.owner
  range : j.range = i.range
  forward : j.forward = i.forward
  isSet : j.isSet = i.isSet
  cardinality : j.cardinality = i.cardinality

/-- Everything that is read of an entity is said of it in `f` as it is in `e`, and its attributes
and inverses stand where they stood. -/
structure Entity.Kept (e f : Entity) : Prop where
  key : f.key = e.key
  name : f.name = e.name
  supertype : f.supertype = e.supertype
  isAbstract : f.isAbstract = e.isAbstract
  subtypes : f.subtypes = e.subtypes
  attributes : List.Forall₂ Attribute.Kept e.attributes f.attributes
  inverses : List.Forall₂ Inverse.Kept e.inverses f.inverses

/-- Everything that is read of a type is said of it in `u` as it is in `t`. -/
structure TypeDecl.Kept (t u : TypeDecl) : Prop where
  key : u.key = t.key
  name : u.name = t.name
  underlying : u.underlying = t.underlying
  values : u.values = t.values
  members : u.members = t.members

/-- Everything that the schema `s` declares is declared in `t`, in the same order and under the same
canonical names, and what was wrong in `s` is listed first in `t`. -/
structure Schema.Kept (s t : Schema) : Prop where
  name : t.name = s.name
  entityKeys : t.entities.keys = s.entities.keys
  typeKeys : t.types.keys = s.types.keys
  siblings : t.siblings = s.siblings
  entities : List.Forall₂ Entity.Kept s.entities.values t.entities.values
  types : List.Forall₂ TypeDecl.Kept s.types.values t.types.values
  diagnostics : s.diagnostics <+: t.diagnostics

/-! ## Declarations without what is noted with them -/

/-- An attribute as declared under this name, without its owner and without what resolution notes
with it. -/
def Attribute.declaration (a : Attribute) (name : String) : Attribute :=
  { a with
    name := ""
    declaredName := name
    owner := {}
    isOneToOne := false
    isInverted := false
    invertedBy := none
    rangeOrigin := none }

/-- An inverse without what resolution notes with it. -/
def Inverse.declaration (i : Inverse) : Inverse := { i with isUnique := false, property := none }

/-- An entity without what resolution notes with it.  The name with which an attribute was declared
is found where `name` says. -/
def Entity.declaration (name : Attribute → String) (e : Entity) : Entity :=
  { e with
    attributes := e.attributes.map fun a => a.declaration (name a)
    inverses := e.inverses.map Inverse.declaration
    allAttributes := []
    allInverses := []
    selects := [] }

/-- A type without what resolution notes with it. -/
def TypeDecl.declaration (t : TypeDecl) : TypeDecl := { t with selects := [] }

lemma Attribute.kept_of_declaration_eq {a b : Attribute}
    (h : a.declaration a.name = b.declaration b.declaredName) (howner : b.owner = a.owner) :
    a.Kept b := by
  simp only [declaration, Attribute.mk.injEq] at h
  obtain ⟨-, hname, -, hrange, hkey, hbuiltin, haggregation, hcardinality, hinner, hoptional,
    hunique, -⟩ := h
  exact ⟨hname.symm, howner, hrange.symm, hkey.symm, hbuiltin.symm, haggregation.symm,
    hcardinality.symm, hinner.symm, hoptional.symm, hunique.symm⟩

lemma Inverse.kept_of_declaration_eq {i j : Inverse} (h : i.declaration = j.declaration) :
    i.Kept j := by
  simp only [declaration, Inverse.mk.injEq] at h
  obtain ⟨hname, howner, hrange, hforward, hset, hcardinality, -⟩ := h
  exact ⟨hname.symm, howner.symm, hrange.symm, hforward.symm, hset.symm, hcardinality.symm⟩

lemma TypeDecl.kept_of_declaration_eq {t u : TypeDecl} (h : t.declaration = u.declaration) :
    t.Kept u := by
  simp only [declaration, TypeDecl.mk.injEq] at h
  obtain ⟨hkey, hname, hunderlying, hvalues, hmembers, -⟩ := h
  exact ⟨hkey.symm, hname.symm, hunderlying.symm, hvalues.symm, hmembers.symm⟩

/-- Lists with the same images go together member by member. -/
lemma forall₂_of_map_eq {α β γ : Type} {f : α → γ} {g : β → γ} {xs : List α} {ys : List β}
    (h : xs.map f = ys.map g) : List.Forall₂ (fun x y => f x = g y) xs ys := by
  rw [← List.forall₂_eq_eq_eq, List.forall₂_map_left_iff, List.forall₂_map_right_iff] at h
  exact h

/-- An entity that owns all of its attributes both before and after. -/
lemma Entity.kept_of_declaration_eq {e f : Entity} {id : EntityId}
    (h : e.declaration (·.name) = f.declaration (·.declaredName))
    (he : ∀ a ∈ e.attributes, a.owner = id) (hf : ∀ a ∈ f.attributes, a.owner = id) :
    e.Kept f := by
  simp only [declaration, Entity.mk.injEq] at h
  obtain ⟨hkey, hname, hsupertype, habstract, hsubtypes, hattributes, hinverses, -⟩ := h
  refine ⟨hkey.symm, hname.symm, hsupertype.symm, habstract.symm, hsubtypes.symm, ?_,
    (forall₂_of_map_eq hinverses).imp fun _ _ => Inverse.kept_of_declaration_eq⟩
  -- the owners are no part of the declarations, so they come from the two sides
  have hleft := (List.forall₂_and_left _ _).2 ⟨he, forall₂_of_map_eq hattributes⟩
  have hboth := (List.forall₂_and_left _ _).2 ⟨hf, hleft.flip⟩
  exact hboth.flip.imp fun a b hab =>
    Attribute.kept_of_declaration_eq hab.2.2 (hab.1.trans hab.2.1.symm)

namespace Schema

/-! ## What resolution leaves alone -/

lemma map_declaration_inherit (s : Schema) :
    s.inherit.entities.values.map (Entity.declaration (·.name)) =
      s.entities.values.map (Entity.declaration (·.name)) :=
  map_values_congr (readEntities_inherit s) _ fun e => by
    simp [Entity.declaration, Entity.asRead, Attribute.declaration, Attribute.asRead,
      Inverse.declaration, Inverse.asRead, Function.comp_def]

/-- The entities declare after resolution what they declared before it. -/
lemma map_declaration_resolve (s : Schema) :
    s.resolve.entities.values.map (Entity.declaration (·.declaredName)) =
      s.entities.values.map (Entity.declaration (·.name)) := by
  rw [← map_declaration_inherit]
  refine s.map_values_resolve _ _ (fun e id first => ?_) (fun e origin => ?_) fun _ _ => rfl
  · have hinverses : (e.qualify id first).inverses.map Inverse.declaration =
        e.inverses.map Inverse.declaration := map_mapIdx_of_eq _ fun _ _ => rfl
    rw [Entity.declaration, hinverses]
    simp [Entity.declaration, Entity.qualify, Attribute.qualify, Attribute.declaration,
      Function.comp_def]
  · simp [Entity.declaration, Attribute.declaration, Function.comp_def]

/-- What depends neither on the entities nor on the properties and diagnostics is the same after
properties are made and paired. -/
lemma apply_pairInverses_makeProperties {α : Type} (f : Schema → α)
    (h : ∀ (s : Schema) entities properties diagnostics,
      f { s with entities, properties, diagnostics } = f s) (s : Schema) :
    f s.makeProperties.pairInverses = f s.inherit := by
  have hinverse : ∀ s : Schema, f s.makeInverseProperties = f s := fun s => h s _ _ _
  have hattribute : ∀ s : Schema, f s.makeAttributeProperties = f s := fun s => h s _ _ _
  have hpair : ∀ s : Schema, f s.pairInverses = f s := fun s => h s s.entities _ _
  rw [hpair, makeProperties, hattribute, hinverse]

lemma name_resolve (s : Schema) : s.resolve.name = s.name := by
  have hnote : ∀ s : Schema, s.noteSelects.name = s.name :=
    apply_noteSelects (·.name) fun s p => by
      unfold noteSelect
      cases s.selectMember p.2 <;> rfl
  rw [resolve, hnote, apply_pairInverses_makeProperties (·.name) fun _ _ _ _ => rfl, inherit_eq]

lemma siblings_resolve (s : Schema) : s.resolve.siblings = s.siblings := by
  have hnote : ∀ s : Schema, s.noteSelects.siblings = s.siblings :=
    apply_noteSelects (·.siblings) fun s p => by
      unfold noteSelect
      cases s.selectMember p.2 <;> rfl
  rw [resolve, hnote, apply_pairInverses_makeProperties (·.siblings) fun _ _ _ _ => rfl,
    inherit_eq]

lemma types_pairInverses_makeProperties (s : Schema) :
    s.makeProperties.pairInverses.types = s.types := by
  rw [apply_pairInverses_makeProperties (·.types) fun _ _ _ _ => rfl, types_inherit]

lemma keys_types_resolve (s : Schema) : s.resolve.types.keys = s.types.keys := by
  rw [resolve, apply_noteSelects (·.types.keys) keys_types_noteSelect,
    types_pairInverses_makeProperties]

lemma map_types_resolve (s : Schema) :
    s.resolve.types.values.map TypeDecl.declaration =
      s.types.values.map TypeDecl.declaration := by
  rw [resolve, map_types_noteSelects _ _ fun _ _ => rfl, types_pairInverses_makeProperties]

/-- Each pass lists what it finds wrong after what is already listed. -/
lemma diagnostics_prefix_resolve (s : Schema) : s.diagnostics <+: s.resolve.diagnostics := by
  have hinherit : s.diagnostics <+: s.inherit.diagnostics := by
    rw [diagnostics_inherit]
    exact List.prefix_append _ _
  have hinverse : ∀ s : Schema, s.diagnostics <+: s.makeInverseProperties.diagnostics :=
    fun _ => List.prefix_append _ _
  have hattribute : ∀ s : Schema, s.diagnostics <+: s.makeAttributeProperties.diagnostics :=
    fun _ => List.prefix_append _ _
  have hpair : ∀ s : Schema, s.diagnostics <+: s.pairInverses.diagnostics :=
    fun _ => List.prefix_append _ _
  have hnote : ∀ s : Schema, s.diagnostics <+: s.noteSelects.diagnostics := by
    intro s
    rw [diagnostics_noteSelects]
    exact List.prefix_append _ _
  rw [resolve, makeProperties]
  exact (((hinherit.trans (hinverse _)).trans (hattribute _)).trans (hpair _)).trans (hnote _)

/-- Resolution of a closed schema keeps all that it declares. -/
theorem Closed.kept_resolve {s : Schema} (h : s.Closed) : s.Kept s.resolve where
  name := s.name_resolve
  entityKeys := s.sameDescent_resolve.keys
  typeKeys := s.keys_types_resolve
  siblings := s.siblings_resolve
  entities := by
    have hdeclare := forall₂_of_map_eq s.map_declaration_resolve.symm
    refine List.forall₂_iff_get.2 ⟨hdeclare.length_eq, fun i hi hi' => ?_⟩
    exact Entity.kept_of_declaration_eq (hdeclare.get hi hi')
      (h.entity _ _ (s.entityAt?_eq_some_get hi)).attribute_owner
      (h.resolve.entity _ _ (s.resolve.entityAt?_eq_some_get hi')).attribute_owner
  types := (forall₂_of_map_eq s.map_types_resolve.symm).imp
    fun _ _ => TypeDecl.kept_of_declaration_eq
  diagnostics := s.diagnostics_prefix_resolve

end Schema

/-- Loading with resolution declares all that loading without it declares. -/
theorem Load.declarations_kept (strips : Bool) (builtins : Catalogue) (text : String) :
    (Load.text ⟨false, strips⟩ builtins text).schema.Kept
      (Load.text ⟨true, strips⟩ builtins text).schema := by
  have hclosed : (Load.text ⟨false, strips⟩ builtins text).schema.Closed :=
    Load.closed builtins strips _
  rw [Load.schema_text_resolves]
  exact hclosed.kept_resolve

end ExpressSchema
