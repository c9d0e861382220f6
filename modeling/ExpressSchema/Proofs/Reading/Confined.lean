/-
# What a token leaves alone

A token is read for the declaration that is open.  It may extend that declaration, or open one that
comes last; all other declarations stay as they are, whatever the registry, the state and the token,
and so does everything that the resolution of references fills in (`confined_step`).
-/
import ExpressSchema.Proofs.Reading.Writes
import ExpressSchema.Table.Lemmas
import Mathlib.Data.List.Forall2

namespace ExpressSchema

/-! ## Tables of declarations -/

namespace Table

variable {α : Type}

/-- Of a table of declarations only the one at this place is extended, and where a declaration may
be opened at most one comes last. -/
structure ConfinedTo (opens : Prop) (place? : Option Nat) (extends? : α → α → Prop)
    (t u : Table String α) : Prop where
  /-- At most one key is new, and it comes last. -/
  keys : ∃ new, new.length ≤ 1 ∧ (¬ opens → new = []) ∧ u.keys = t.keys ++ new
  /-- What stands at another place stays. -/
  other : ∀ i a, place? ≠ some i → t.at? i = some a → u.at? i = some a
  /-- What stands at the place is extended. -/
  own : ∀ i a, place? = some i → t.at? i = some a → ∃ b, u.at? i = some b ∧ extends? a b

variable {opens : Prop} {place? : Option Nat} {extends? : α → α → Prop} (t : Table String α)

lemma ConfinedTo.refl (hrefl : ∀ a, extends? a a) : t.ConfinedTo opens place? extends? t where
  keys := ⟨[], Nat.zero_le 1, fun _ => rfl, (List.append_nil _).symm⟩
  other _ _ _ h := h
  own _ a _ h := ⟨a, h, hrefl a⟩

lemma confinedTo_modifyAt {f : α → α} (hf : ∀ a, extends? a (f a)) (i : Nat) :
    t.ConfinedTo opens (some i) extends? (t.modifyAt i f) where
  keys := ⟨[], Nat.zero_le 1, fun _ => rfl, by rw [keys_modifyAt, List.append_nil]⟩
  other j a hne h := by
    have hij : i ≠ j := fun heq => hne (congrArg some heq)
    rw [at?_modifyAt, if_neg hij, h]
  own j a heq h := by
    have hij : i = j := Option.some.inj heq
    exact ⟨f a, by rw [at?_modifyAt, if_pos hij, h, Option.map_some], hf a⟩

lemma confinedTo_findOrInsert (hopens : opens) (hrefl : ∀ a, extends? a a) (k : String) (a : α) :
    t.ConfinedTo opens place? extends? (t.findOrInsert k a).2 where
  keys := by
    rcases t.findOrInsert_cases k a with ⟨i, -, hfound⟩ | ⟨-, -, hentries⟩
    · exact ⟨[], Nat.zero_le 1, fun _ => rfl, by rw [hfound, List.append_nil]⟩
    · exact ⟨[k], Nat.le_refl 1, fun h => absurd hopens h, by simp [Table.keys, hentries]⟩
  other _ _ _ h := at?_findOrInsert_of_some h
  own _ b _ h := ⟨b, at?_findOrInsert_of_some h, hrefl b⟩

end Table

namespace State

/-! ## The open declaration -/

/-- How an attribute that is there may be left: as it is, or marked by a rule on uniqueness. -/
def Keeps (state : State) (a b : Attribute) : Prop :=
  b = a ∨ (∃ entity, state = uniqueName entity) ∧ b = { a with isUnique := true }

/-- How a token may leave the entity that is being read. -/
structure ExtendsEntity (state : State) (e e' : Entity) : Prop where
  key : e'.key = e.key
  name : e'.name = e.name
  selects : e'.selects = e.selects
  allAttributes : e'.allAttributes = e.allAttributes
  allInverses : e'.allInverses = e.allInverses
  /-- Attributes and inverses are kept in their places, and at most one of them is new. -/
  own : ∃ kept attributes inverses,
    List.Forall₂ state.Keeps e.attributes kept ∧ e'.attributes = kept ++ attributes ∧
      e'.inverses = e.inverses ++ inverses ∧ attributes.length + inverses.length ≤ 1

/-- How a token may leave the type that is being read. -/
structure ExtendsType (t t' : TypeDecl) : Prop where
  key : t'.key = t.key
  name : t'.name = t.name
  selects : t'.selects = t.selects
  values : t.values <+: t'.values
  members : t.members <+: t'.members

lemma forall₂_keeps_self (state : State) (as : List Attribute) :
    List.Forall₂ state.Keeps as as :=
  List.forall₂_same.2 fun _ _ => .inl rfl

/-- What is said of an entity as a whole does not touch its attributes and inverses. -/
lemma extendsEntity_whole (state : State) (e : Entity) (supertype : Option String)
    (isAbstract : Bool) (subtypes : Option SiblingSetId) :
    state.ExtendsEntity e
      { e with supertype := supertype, isAbstract := isAbstract, subtypes := subtypes } :=
  ⟨rfl, rfl, rfl, rfl, rfl, e.attributes, [], [], forall₂_keeps_self state _,
    (List.append_nil _).symm, (List.append_nil _).symm, Nat.zero_le 1⟩

/-- Whatever is written into an entity extends it. -/
lemma WritesEntity.extendsEntity {state : State} {f : Entity → Entity} (h : WritesEntity state f)
    (e : Entity) : state.ExtendsEntity e (f e) := by
  cases h with
  | nothing | setAbstract | setSupertype | setSubtypes => exact extendsEntity_whole _ e _ _ _
  | addAttribute a =>
    exact ⟨rfl, rfl, rfl, rfl, rfl, e.attributes, [a], [], forall₂_keeps_self _ _, rfl,
      (List.append_nil _).symm, Nat.le_refl 1⟩
  | addInverse i =>
    exact ⟨rfl, rfl, rfl, rfl, rfl, e.attributes, [], [i], forall₂_keeps_self _ _,
      (List.append_nil _).symm, rfl, Nat.le_refl 1⟩
  | @markUnique entity name =>
    refine ⟨rfl, rfl, rfl, rfl, rfl, _, [], [], ?_, (List.append_nil _).symm,
      (List.append_nil _).symm, Nat.zero_le 1⟩
    rw [List.forall₂_map_right_iff, List.forall₂_same]
    intro a _
    by_cases hname : a.name = name
    · rw [if_pos hname]
      exact .inr ⟨⟨entity, rfl⟩, rfl⟩
    · rw [if_neg hname]
      exact .inl rfl

lemma ExtendsType.refl (t : TypeDecl) : ExtendsType t t :=
  ⟨rfl, rfl, rfl, List.prefix_rfl, List.prefix_rfl⟩

/-- Whatever is written into a type extends it. -/
lemma WritesType.extendsType {state : State} {f : TypeDecl → TypeDecl} (h : WritesType state f)
    (t : TypeDecl) : ExtendsType t (f t) := by
  cases h with
  | settle | settleAggregate => exact ⟨rfl, rfl, rfl, List.prefix_rfl, List.prefix_rfl⟩
  | addMembers names => exact ⟨rfl, rfl, rfl, List.prefix_rfl, List.prefix_append _ _⟩
  | addValues values => exact ⟨rfl, rfl, rfl, List.prefix_append _ _, List.prefix_rfl⟩

/-! ## The schema -/

/-- What a token makes of a schema is confined to the declaration that is open in the state. -/
structure Confined (state : State) (s t : Schema) : Prop where
  properties : t.properties = s.properties
  individuals : t.individuals = s.individuals
  builtinSelects : t.builtinSelects = s.builtinSelects
  /-- What has been reported stays. -/
  diagnostics : s.diagnostics <+: t.diagnostics
  /-- The name is written only where the name of the schema is read. -/
  name : state ≠ schemaName → t.name = s.name
  /-- Groups of siblings are opened and filled only in a clause about subtypes. -/
  siblings : state.isAmongSubtypes = false → t.siblings = s.siblings
  /-- An entity is opened only where the name of one is read. -/
  entities : s.entities.ConfinedTo (state = entityName) (state.entity?.map (·.index))
    state.ExtendsEntity t.entities
  /-- A type is opened only where the name of one is read. -/
  types : s.types.ConfinedTo (∃ type, state = typeName type) (state.type?.map (·.index))
    ExtendsType t.types

lemma Confined.refl (state : State) (s : Schema) : state.Confined s s where
  properties := rfl
  individuals := rfl
  builtinSelects := rfl
  diagnostics := List.prefix_rfl
  name _ := rfl
  siblings _ := rfl
  entities := .refl _ WritesEntity.nothing.extendsEntity
  types := .refl _ ExtendsType.refl

/-- Every way of touching a schema is confined. -/
lemma Touches.confined {state : State} {s t : Schema} (h : Touches s state t) :
    state.Confined s t := by
  have hrefl := Confined.refl state s
  cases h with
  | nothing => exact hrefl
  | ofSchemaName name => exact { hrefl with name := fun hne => absurd rfl hne }
  | ofEntityName name =>
    exact { hrefl with
      entities := Table.confinedTo_findOrInsert _ rfl WritesEntity.nothing.extendsEntity _ _ }
  | ofTypeName name =>
    exact { hrefl with
      types := Table.confinedTo_findOrInsert _ ⟨_, rfl⟩ ExtendsType.refl _ _ }
  | @intoType _ id f hstate hf =>
    have htypes : s.types.ConfinedTo (∃ type, state = typeName type) (state.type?.map (·.index))
        ExtendsType (s.types.modifyAt id.index f) := by
      rw [hstate]
      exact s.types.confinedTo_modifyAt hf.extendsType id.index
    exact { hrefl with types := htypes }
  | @intoEntity _ id f hstate hf siblings hsiblings problems =>
    have hentities : s.entities.ConfinedTo (state = entityName) (state.entity?.map (·.index))
        state.ExtendsEntity (s.entities.modifyAt id.index f) := by
      rw [hstate]
      exact s.entities.confinedTo_modifyAt hf.extendsEntity id.index
    refine { hrefl with
      diagnostics := List.prefix_append _ _
      siblings := fun hno => ?_
      entities := hentities }
    rcases hsiblings with hamong | rfl
    · exact absurd hamong (by rw [hno]; decide)
    · rfl

/-- In every state, over every schema, a token touches only the declaration that is open. -/
theorem confined_step (state : State) (token : Token) (w : Workspace) :
    state.Confined w.schema (state.step token w).2.schema :=
  (touches_step token w state).confined

end State
end ExpressSchema
