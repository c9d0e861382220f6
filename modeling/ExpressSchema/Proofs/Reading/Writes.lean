/-
# What a token writes

A token is read in a state, and the state says where it may write: into the name of the schema, into
the entity or the type that is being read, or at the end of the list of entities or types.
`Touches` lists the ways, with what may be written into a declaration that is there, and every token
goes one of them (`touches_step`).  The names of such a declaration are not written again; `Writes`
says no more of it than that.
-/
import ExpressSchema.Proofs.Workspace
import ExpressSchema.Reader

namespace ExpressSchema
namespace State

/-- The entity that is being read. -/
def entity? : State → Option EntityId
  | entityBody entity | attributeRange entity _ | subtypeOf entity | firstSupertype entity
  | furtherSupertypes entity | subtypeClause entity | siblings entity _ | inverseName entity _
  | inverseRange entity _ | inverseFor entity _ | uniqueLabel entity | uniqueName entity
  | domainRules entity | derivedAttributes entity => some entity
  | _ => none

/-- The type that is being read. -/
def type? : State → Option TypeId
  | typeName type => type
  | typeBody type | selectMembers type | enumerationOf type | enumerationValues type
  | aggregateText type _ => some type
  | _ => none

/-- Whether the subtypes of an entity are being read. -/
def isAmongSubtypes : State → Bool
  | subtypeClause _ | siblings _ _ => true
  | _ => false

/-- What may be written into the type that is being read. -/
inductive WritesType : State → (TypeDecl → TypeDecl) → Prop
  | settle {type : TypeId} (underlying : UnderlyingType) :
      WritesType (typeBody type) fun t => { t with underlying := underlying }
  | settleAggregate {type : TypeId} {text : String} (underlying : UnderlyingType) :
      WritesType (aggregateText type text) fun t => { t with underlying := underlying }
  | addMembers {type : TypeId} (names : List String) :
      WritesType (selectMembers type) fun t => { t with members := t.members ++ names }
  | addValues {type : TypeId} (values : List String) :
      WritesType (enumerationValues type) fun t => { t with values := t.values ++ values }

/-- What may be written into the entity that is being read. -/
inductive WritesEntity : State → (Entity → Entity) → Prop
  | nothing {state : State} : WritesEntity state id
  | setAbstract {entity : EntityId} :
      WritesEntity (entityBody entity) fun e => { e with isAbstract := true }
  | addAttribute {entity : EntityId} {draft : AttributeDraft} (a : Attribute) :
      WritesEntity (attributeRange entity draft) fun e =>
        { e with attributes := e.attributes ++ [a] }
  | setSupertype {entity : EntityId} (name : String) :
      WritesEntity (firstSupertype entity) fun e => { e with supertype := some name }
  | setSubtypes {state : State} (h : state.isAmongSubtypes = true) (set : SiblingSetId) :
      WritesEntity state fun e => { e with subtypes := some set }
  | addInverse {entity : EntityId} {draft : InverseDraft} (i : Inverse) :
      WritesEntity (inverseFor entity draft) fun e => { e with inverses := e.inverses ++ [i] }
  | markUnique {entity : EntityId} (name : String) :
      WritesEntity (uniqueName entity) fun e =>
        { e with attributes := e.attributes.map fun a =>
            if a.name = name then { a with isUnique := true } else a }

/-- What a token may make of a schema, by the state in which it is read. -/
inductive Touches (s : Schema) : State → Schema → Prop
  /-- Nothing is written. -/
  | nothing {state : State} : Touches s state s
  /-- The schema gets its name. -/
  | ofSchemaName (name : String) : Touches s schemaName { s with name := some name }
  /-- An entity is declared, unless it is there. -/
  | ofEntityName (name : String) :
      Touches s entityName (s.declareEntity (Name.canonical name) name).2
  /-- A type is declared, unless it is there. -/
  | ofTypeName {type : Option TypeId} (name : String) :
      Touches s (typeName type) (s.declareType (Name.canonical name) name).2
  /-- Something is written into the type that is being read. -/
  | intoType {state : State} {id : TypeId} {f : TypeDecl → TypeDecl} (h : state.type? = some id)
      (hf : WritesType state f) : Touches s state (s.modifyType id f)
  /-- Something is written into the entity that is being read, and problems are reported; among
  subtypes siblings are listed. -/
  | intoEntity {state : State} {id : EntityId} {f : Entity → Entity} (h : state.entity? = some id)
      (hf : WritesEntity state f) {siblings : SiblingIndex}
      (hsiblings : state.isAmongSubtypes = true ∨ siblings = s.siblings) (problems : List Problem) :
      Touches s state
        (({ s.modifyEntity id f with siblings := siblings } : Schema).reportAll problems)

/-- What a token may make of a schema, as far as the names of declarations go. -/
inductive Writes (s : Schema) : State → Schema → Prop
  /-- Nothing is written. -/
  | nothing {state : State} : Writes s state s
  /-- The schema gets its name. -/
  | ofSchemaName (name : String) : Writes s schemaName { s with name := some name }
  /-- An entity is declared, unless it is there. -/
  | ofEntityName (name : String) :
      Writes s entityName (s.declareEntity (Name.canonical name) name).2
  /-- A type is declared, unless it is there. -/
  | ofTypeName {type : Option TypeId} (name : String) :
      Writes s (typeName type) (s.declareType (Name.canonical name) name).2
  /-- Something is written into the type that is being read. -/
  | intoType {state : State} {id : TypeId} {f : TypeDecl → TypeDecl} (h : state.type? = some id)
      (hf : ∀ t, (f t).key = t.key ∧ (f t).name = t.name) : Writes s state (s.modifyType id f)
  /-- Something is written into the entity that is being read; siblings are listed, and problems are
  reported. -/
  | intoEntity {state : State} {id : EntityId} {f : Entity → Entity} (h : state.entity? = some id)
      (hf : ∀ e, (f e).key = e.key ∧ (f e).name = e.name) (siblings : SiblingIndex)
      (problems : List Problem) :
      Writes s state (({ s.modifyEntity id f with siblings := siblings } : Schema).reportAll problems)

variable (token : Token) (w : Workspace)

/-! ## Types -/

lemma touches_typeName (type : Option TypeId) :
    Touches w.schema (typeName type) (readTypeName type token w).2.schema := by
  unfold readTypeName
  split
  · rw [Workspace.schema_declareType]
    exact .ofTypeName _
  · cases type <;> exact .nothing
  · rw [Workspace.schema_declareType]
    exact .ofTypeName _

lemma touches_typeBody (type : TypeId) :
    Touches w.schema (typeBody type) (readTypeBody type token w).2.schema := by
  unfold readTypeBody settleType
  dsimp only
  split_ifs
  · exact .intoType rfl (.settle _)
  · exact .intoType rfl (.settle _)
  · exact .intoType rfl (.settle _)
  · exact .nothing
  · split <;> exact .intoType rfl (.settle _)
  · exact .intoType rfl (.settle _)

lemma touches_selectMembers (type : TypeId) :
    Touches w.schema (selectMembers type) (readSelectMembers type token w).2.schema := by
  unfold readSelectMembers
  dsimp only
  split_ifs <;> exact .intoType rfl (.addMembers _)

lemma touches_enumerationOf (type : TypeId) :
    Touches w.schema (enumerationOf type) (readEnumerationOf type token w).2.schema := by
  unfold readEnumerationOf
  split_ifs <;> exact .nothing

lemma touches_enumerationValues (type : TypeId) :
    Touches w.schema (enumerationValues type) (readEnumerationValues type token w).2.schema := by
  unfold readEnumerationValues
  dsimp only
  split_ifs <;>
  · rw [Workspace.schema_modifyType, Workspace.schema_canonicalAll]
    exact .intoType rfl (.addValues _)

lemma touches_aggregate (type : TypeId) (text : String) :
    Touches w.schema (aggregateText type text) (readAggregate type text token w).2.schema := by
  unfold readAggregate settleType
  dsimp only
  split_ifs
  · exact .intoType rfl (.settleAggregate _)
  · exact .nothing

/-! ## Entities -/

section Entity

variable {s : Schema} {state : State} {entity : EntityId}

lemma modifyEntity_id (s : Schema) (entity : EntityId) : s.modifyEntity entity id = s := by
  have htable : s.entities.modifyAt entity.index id = s.entities := Table.ext (List.modify_id _ _)
  rw [Schema.modifyEntity, htable]

/-- Something is written into the entity, and problems are reported. -/
lemma Touches.modify {f : Entity → Entity} (h : state.entity? = some entity)
    (hf : WritesEntity state f) (problems : List Problem) :
    Touches s state ((s.modifyEntity entity f).reportAll problems) :=
  .intoEntity h hf (.inr rfl) problems

lemma Touches.modifyOnly {f : Entity → Entity} (h : state.entity? = some entity)
    (hf : WritesEntity state f) : Touches s state (s.modifyEntity entity f) :=
  Schema.reportAll_nil (s.modifyEntity entity f) ▸ .modify h hf []

/-- Problems are reported. -/
lemma Touches.report (h : state.entity? = some entity) (problems : List Problem) :
    Touches s state (s.reportAll problems) := by
  have htouches := Touches.modify (s := s) h .nothing problems
  rwa [modifyEntity_id] at htouches

variable (entity)

lemma touches_entityBody :
    Touches w.schema (entityBody entity) (readEntityBody entity token w).2.schema := by
  unfold readEntityBody
  split_ifs
  · exact .nothing
  · exact .nothing
  · exact .modifyOnly rfl .setAbstract
  · exact .nothing
  · exact .nothing
  · exact .nothing
  · exact .nothing
  · exact .nothing
  · exact .nothing

lemma touches_derivedAttributes :
    Touches w.schema (derivedAttributes entity)
      (readDerivedAttributes entity token w).2.schema := by
  unfold readDerivedAttributes
  split
  · exact .nothing
  · split_ifs <;> exact .nothing

lemma touches_attribute (draft : AttributeDraft) :
    Touches w.schema (attributeRange entity draft)
      (readAttribute entity draft token w).2.schema := by
  unfold readAttribute
  split_ifs
  · exact .nothing
  · exact .nothing
  · exact .nothing
  · exact .nothing
  · exact .report rfl [.listTooDeep draft.name entity]
  · exact .nothing
  · dsimp only
    unfold readBounds
    split
    · exact .report rfl [.badBounds token.text draft.name]
    · split
      · exact .report rfl [.boundsTooDeep token.text draft.name]
      · exact .nothing
  · exact .nothing
  · unfold addAttribute
    dsimp only
    split <;> exact .modifyOnly rfl (.addAttribute _)
  · exact .nothing

/-! ### Supertypes and subtypes -/

lemma touches_subtypeOf :
    Touches w.schema (subtypeOf entity) (readSubtypeOf entity token w).2.schema := by
  unfold readSubtypeOf
  split_ifs <;> exact .nothing

lemma touches_firstSupertype :
    Touches w.schema (firstSupertype entity) (readFirstSupertype entity token w).2.schema := by
  unfold readFirstSupertype
  by_cases hend : token.is entityEnd
  · rw [if_pos hend]
    exact .nothing
  · rw [if_neg hend]
    split
    · exact .nothing
    · dsimp only
      rw [Workspace.schema_reportAll, Workspace.schema_modifyEntity]
      exact .modify rfl (.setSupertype _) _

lemma touches_furtherSupertypes :
    Touches w.schema (furtherSupertypes entity)
      (readFurtherSupertypes entity token w).2.schema := by
  unfold readFurtherSupertypes
  by_cases hend : token.is entityEnd
  · rw [if_pos hend]
    exact .nothing
  · rw [if_neg hend]
    dsimp only
    by_cases hname : (Name.bare token).isEmpty
    · rw [if_pos hname]
      exact .nothing
    · rw [if_neg hname]
      exact .report rfl [.extraSupertype (String.ofList (Name.bare token)) entity]

/-- Listing siblings. -/
lemma exists_foldl_addSibling (set : SiblingSetId) (names : List String) :
    ∃ siblings problems, (names.foldl (addSibling set) w).schema =
      ({ w.schema with siblings := siblings } : Schema).reportAll problems := by
  induction names generalizing w with
  | nil => exact ⟨w.schema.siblings, [], (Schema.reportAll_nil _).symm⟩
  | cons name names ih =>
    obtain ⟨siblings, problems, hrest⟩ := ih (addSibling set w name)
    rw [List.foldl_cons, hrest]
    unfold addSibling
    dsimp only
    split_ifs
    · exact ⟨siblings, problems, rfl⟩
    · exact ⟨siblings, .siblingTwice name :: problems, by simp [Schema.reportAll]⟩

/-- Among siblings a token may write into the entity, list siblings and report problems. -/
lemma exists_readSiblings (set : SiblingSetId) (hstate : state.isAmongSubtypes = true) :
    ∃ (f : Entity → Entity) (siblings : SiblingIndex) (problems : List Problem),
      WritesEntity state f ∧
        (readSiblings entity set token w).2.schema =
          ({ w.schema.modifyEntity entity f with siblings := siblings } : Schema).reportAll
            problems := by
  obtain ⟨siblings, problems, hlisted⟩ := exists_foldl_addSibling w set (Token.names token)
  unfold readSiblings
  split
  · exact ⟨id, w.schema.siblings, [], .nothing, by
      rw [modifyEntity_id, Schema.reportAll_nil]⟩
  · dsimp only
    by_cases hend : endsSupertypes token
    · rw [if_pos hend]
      refine ⟨fun e => { e with subtypes := some set }, siblings, problems,
        .setSubtypes hstate set, ?_⟩
      dsimp only
      rw [Workspace.schema_modifyEntity, hlisted]
      rfl
    · rw [if_neg hend]
      exact ⟨id, siblings, problems, .nothing, by rw [modifyEntity_id, hlisted]⟩

lemma touches_siblings (set : SiblingSetId) :
    Touches w.schema (siblings entity set) (readSiblings entity set token w).2.schema := by
  have hstate : (siblings entity set).isAmongSubtypes = true := rfl
  obtain ⟨f, listed, problems, hf, hschema⟩ := exists_readSiblings token w entity set hstate
  rw [hschema]
  exact .intoEntity rfl hf (.inl hstate) problems

lemma touches_subtypeClause :
    Touches w.schema (subtypeClause entity) (readSubtypeClause entity token w).2.schema := by
  have hstate : (subtypeClause entity).isAmongSubtypes = true := rfl
  unfold readSubtypeClause
  split
  · exact .nothing
  · split_ifs
    · dsimp only
      split
      · have hopen : Touches w.schema (subtypeClause entity)
            (({ w.schema.modifyEntity entity id with
              siblings := w.schema.siblings.openSet.2 } : Schema).reportAll []) :=
          .intoEntity rfl .nothing (.inl hstate) []
        rwa [modifyEntity_id, Schema.reportAll_nil] at hopen
      · obtain ⟨f, listed, problems, hf, hschema⟩ := exists_readSiblings _ _ entity _ hstate
        rw [hschema]
        exact .intoEntity rfl hf (.inl hstate) problems
    · exact .nothing
    · exact .nothing

/-! ### Inverses and uniqueness rules -/

lemma touches_inverseName (name : Option String) :
    Touches w.schema (inverseName entity name) (readInverseName entity name token w).2.schema := by
  unfold readInverseName
  split
  · exact .nothing
  · split_ifs
    · exact .nothing
    · exact .nothing
    · exact .nothing
    · split <;> exact .nothing

lemma touches_inverseRange (draft : InverseDraft) :
    Touches w.schema (inverseRange entity draft)
      (readInverseRange entity draft token w).2.schema := by
  unfold readInverseRange
  split
  · exact .nothing
  · split_ifs
    · exact .nothing
    · exact .nothing
    · dsimp only
      unfold readInverseBounds
      split
      · exact .nothing
      · exact .report rfl [.badInverseBounds token.text draft.name]
    · exact .nothing
    · exact .nothing

lemma touches_inverseFor (draft : InverseDraft) :
    Touches w.schema (inverseFor entity draft) (readInverseFor entity draft token w).2.schema := by
  unfold readInverseFor
  split
  · exact .nothing
  · split_ifs
    · exact .modifyOnly rfl (.addInverse _)
    · exact .nothing

lemma touches_uniqueLabel :
    Touches w.schema (uniqueLabel entity) (readUniqueLabel entity token w).2.schema := by
  unfold readUniqueLabel
  split
  · exact .nothing
  · split_ifs <;> exact .nothing

lemma touches_uniqueName :
    Touches w.schema (uniqueName entity) (readUniqueName entity token w).2.schema := by
  unfold readUniqueName
  split
  · exact .nothing
  · unfold markUnique
    dsimp only
    split_ifs
    · exact .report rfl [.uniqueOverSeveral entity token.text]
    · exact .modifyOnly rfl (.markUnique _)

end Entity

/-! ## Any state -/

/-- In any state a token writes only where the state says, and what it may write there. -/
theorem touches_step (state : State) : Touches w.schema state (state.step token w).2.schema := by
  cases state with
  | topLevel | skipping | domainRules => exact .nothing
  | schemaName =>
    unfold step readSchemaName
    dsimp only
    split_ifs
    · exact .nothing
    · exact .ofSchemaName _
  | typeName type => exact touches_typeName token w type
  | typeBody type => exact touches_typeBody token w type
  | selectMembers type => exact touches_selectMembers token w type
  | enumerationOf type => exact touches_enumerationOf token w type
  | enumerationValues type => exact touches_enumerationValues token w type
  | aggregateText type text => exact touches_aggregate token w type text
  | entityName =>
    change Touches w.schema entityName (w.declareEntity _).2.schema
    rw [Workspace.schema_declareEntity]
    exact .ofEntityName _
  | entityBody entity => exact touches_entityBody token w entity
  | attributeRange entity draft => exact touches_attribute token w entity draft
  | subtypeOf entity => exact touches_subtypeOf token w entity
  | firstSupertype entity => exact touches_firstSupertype token w entity
  | furtherSupertypes entity => exact touches_furtherSupertypes token w entity
  | subtypeClause entity => exact touches_subtypeClause token w entity
  | siblings entity set => exact touches_siblings token w entity set
  | inverseName entity name => exact touches_inverseName token w entity name
  | inverseRange entity draft => exact touches_inverseRange token w entity draft
  | inverseFor entity draft => exact touches_inverseFor token w entity draft
  | uniqueLabel entity => exact touches_uniqueLabel token w entity
  | uniqueName entity => exact touches_uniqueName token w entity
  | derivedAttributes entity => exact touches_derivedAttributes token w entity

/-! ## Names of declarations -/

lemma WritesType.names {state : State} {f : TypeDecl → TypeDecl} (h : WritesType state f)
    (t : TypeDecl) : (f t).key = t.key ∧ (f t).name = t.name := by
  cases h <;> exact ⟨rfl, rfl⟩

lemma WritesEntity.names {state : State} {f : Entity → Entity} (h : WritesEntity state f)
    (e : Entity) : (f e).key = e.key ∧ (f e).name = e.name := by
  cases h <;> exact ⟨rfl, rfl⟩

lemma Touches.writes {s t : Schema} {state : State} (h : Touches s state t) :
    Writes s state t := by
  cases h with
  | nothing => exact .nothing
  | ofSchemaName name => exact .ofSchemaName name
  | ofEntityName name => exact .ofEntityName name
  | ofTypeName name => exact .ofTypeName name
  | intoType h hf => exact .intoType h hf.names
  | intoEntity h hf _ problems => exact .intoEntity h hf.names _ problems

/-- In any state a token leaves the names of the declarations that are there. -/
theorem writes_step (state : State) : Writes w.schema state (state.step token w).2.schema :=
  (touches_step token w state).writes

end State
end ExpressSchema
