/-
# What reading does to a schema

Each token does little to the schema: it declares something, adds to what is declared, or reports
a problem.  `Schema.Edit` lists these changes, and `Schema.Edits` is what any number of them come
to.  A state of the reader speaks of an entity, a type or a group of siblings that is being read,
and `State.Held` says that the schema has it.

`State.reads_step` ties the two to the reader: from a state that holds nothing unknown, a token
leads by edits to a state that again holds nothing unknown.
-/
import ExpressSchema.Proofs.Workspace
import ExpressSchema.Load
import Mathlib.Logic.Relation
import Mathlib.Order.Nat

namespace ExpressSchema

/-- Whether problems of this kind are met while a schema is read, and not only when its references
are resolved. -/
def DiagnosticKind.isOfReading : DiagnosticKind → Bool
  | multipleSupertypes | duplicateSibling | nestedListUnsupported | multiNameUnique
  | malformedCardinality => true
  | unresolvedSuperclass | inheritanceCycle | unresolvedInverse | inverseConflict
  | unresolvedSelectMember | duplicateProperty => false

namespace Schema

/-- One change that reading makes to a schema. -/
inductive Edit : Schema → Schema → Prop
  | setName (s : Schema) (name : String) : Edit s { s with name := some name }
  | declareEntity (s : Schema) (name : String) :
      Edit s (s.declareEntity (Name.canonical name) name).2
  | declareType (s : Schema) (name : String) : Edit s (s.declareType (Name.canonical name) name).2
  | settleType (s : Schema) (type : TypeId) (underlying : UnderlyingType)
      (h : underlying ≠ .entity) :
      Edit s (s.modifyType type fun t => { t with underlying := underlying })
  | addMembers (s : Schema) (type : TypeId) (names : List String) :
      Edit s (s.modifyType type fun t => { t with members := t.members ++ names })
  | addValues (s : Schema) (type : TypeId) (names : List String) :
      Edit s (s.modifyType type fun t => { t with values := t.values ++ names })
  | setAbstract (s : Schema) (entity : EntityId) :
      Edit s (s.modifyEntity entity fun e => { e with isAbstract := true })
  | setSupertype (s : Schema) (entity : EntityId) (name : String) :
      Edit s (s.modifyEntity entity fun e => { e with supertype := some name })
  | setSubtypes (s : Schema) (entity : EntityId) (set : SiblingSetId)
      (h : set.index < s.siblings.sets.length) :
      Edit s (s.modifyEntity entity fun e => { e with subtypes := some set })
  | addAttribute (s : Schema) (entity : EntityId) (draft : AttributeDraft) (range : List Char)
      (h : entity.index < UInt32.size) :
      Edit s (s.modifyEntity entity fun e =>
        { e with attributes := e.attributes ++ [draft.finish entity range] })
  | addInverse (s : Schema) (entity : EntityId) (draft : InverseDraft) (forward : List Char)
      (h : entity.index < UInt32.size) :
      Edit s (s.modifyEntity entity fun e =>
        { e with inverses := e.inverses ++ [draft.finish entity forward] })
  | markUnique (s : Schema) (entity : EntityId) (name : String) :
      Edit s (s.modifyEntity entity fun e =>
        { e with attributes := e.attributes.map fun a =>
            if a.name = name then { a with isUnique := true } else a })
  | openSet (s : Schema) : Edit s { s with siblings := s.siblings.openSet.2 }
  | addSibling (s : Schema) (set : SiblingSetId) (member : String)
      (h : set.index < s.siblings.sets.length) :
      Edit s { s with siblings := (s.siblings.add set member).2 }
  | report (s : Schema) (p : Problem) (h : p.kind.isOfReading = true) : Edit s (s.reportAll [p])

/-- Any number of changes that reading makes to a schema. -/
def Edits : Schema → Schema → Prop := Relation.ReflTransGen Edit

lemma Edits.refl (s : Schema) : Edits s s := Relation.ReflTransGen.refl

lemma Edits.trans {s t u : Schema} (h₁ : Edits s t) (h₂ : Edits t u) : Edits s u :=
  Relation.ReflTransGen.trans h₁ h₂

lemma Edits.single {s t : Schema} (h : Edit s t) : Edits s t := Relation.ReflTransGen.single h

lemma Edits.reportAll (s : Schema) {ps : List Problem}
    (h : ∀ p ∈ ps, p.kind.isOfReading = true) : Edits s (s.reportAll ps) := by
  induction ps generalizing s with
  | nil => rw [reportAll_nil]; exact Edits.refl s
  | cons p ps ih =>
    have hps := ih (s.reportAll [p]) fun q hq => h q (List.mem_cons_of_mem p hq)
    rw [reportAll_reportAll] at hps
    exact (Edits.single (.report s p (h p List.mem_cons_self))).trans hps

/-! ## Nothing is ever taken away -/

/-- Everything that has an identifier in the one schema has it in the other. -/
structure Within (s t : Schema) : Prop where
  entities : s.entities.size ≤ t.entities.size
  types : s.types.size ≤ t.types.size
  sets : s.siblings.sets.length ≤ t.siblings.sets.length

lemma Within.refl (s : Schema) : Within s s := ⟨le_rfl, le_rfl, le_rfl⟩

lemma Within.trans {s t u : Schema} (h₁ : Within s t) (h₂ : Within t u) : Within s u :=
  ⟨h₁.entities.trans h₂.entities, h₁.types.trans h₂.types, h₁.sets.trans h₂.sets⟩

lemma Edit.within {s t : Schema} (h : Edit s t) : Within s t := by
  cases h with
  | declareEntity name => exact ⟨Table.size_le_findOrInsert _ _ _, le_rfl, le_rfl⟩
  | declareType name => exact ⟨le_rfl, Table.size_le_findOrInsert _ _ _, le_rfl⟩
  | settleType | addMembers | addValues =>
    exact ⟨le_rfl, (Table.size_modifyAt _ _ _).ge, le_rfl⟩
  | setAbstract | setSupertype | setSubtypes | addAttribute | addInverse | markUnique =>
    exact ⟨(Table.size_modifyAt _ _ _).ge, le_rfl, le_rfl⟩
  | openSet => exact ⟨le_rfl, le_rfl, by simp [SiblingIndex.openSet]⟩
  | addSibling set member hset => exact ⟨le_rfl, le_rfl, by simp [SiblingIndex.add]⟩
  | setName | report => exact ⟨le_rfl, le_rfl, le_rfl⟩

lemma Edits.within {s t : Schema} (h : Edits s t) : Within s t := by
  induction h with
  | refl => exact Within.refl s
  | tail _ hedit ih => exact ih.trans hedit.within

end Schema

/-! ## What a state of the reader holds -/

/-- The schema has an entity with this identifier, and the identifier is a word. -/
def Schema.HasEntity (s : Schema) (id : EntityId) : Prop :=
  id.index < s.entities.size ∧ id.index < UInt32.size

lemma Schema.HasEntity.mono {s t : Schema} (hst : s.Within t) {id : EntityId}
    (h : s.HasEntity id) : t.HasEntity id :=
  ⟨h.1.trans_le hst.entities, h.2⟩

namespace State

/-- The schema has the entity, the type and the group of siblings that the state speaks of. -/
def Held (s : Schema) : State → Prop
  | topLevel | schemaName | skipping _ | entityName => True
  | typeName type => ∀ id ∈ type, id.index < s.types.size
  | typeBody type | selectMembers type | enumerationOf type | enumerationValues type
  | aggregateText type _ => type.index < s.types.size
  | siblings entity set => s.HasEntity entity ∧ set.index < s.siblings.sets.length
  | entityBody entity | attributeRange entity _ | subtypeOf entity | firstSupertype entity
  | furtherSupertypes entity | subtypeClause entity | inverseName entity _
  | inverseRange entity _ | inverseFor entity _ | uniqueLabel entity | uniqueName entity
  | domainRules entity | derivedAttributes entity => s.HasEntity entity

lemma Held.mono {s t : Schema} (hst : s.Within t) {state : State} (h : state.Held s) :
    state.Held t := by
  -- every state speaks of one thing, but for a type that may be missing and for siblings
  cases state with
  | topLevel | schemaName | skipping _ | entityName => trivial
  | typeName type => exact fun id hid => (h id hid).trans_le hst.types
  | typeBody | selectMembers | enumerationOf | enumerationValues | aggregateText =>
    exact h.trans_le hst.types
  | siblings entity set => exact ⟨h.1.mono hst, h.2.trans_le hst.sets⟩
  | _ => exact Schema.HasEntity.mono hst h

/-- What one token, or several, may come to: the schema is edited, and the state holds nothing
that the schema lacks. -/
structure Reads (w : Workspace) (read : State × Workspace) : Prop where
  edits : w.schema.Edits read.2.schema
  held : read.1.Held read.2.schema

/-- A token that only leads to another state. -/
lemma Reads.of_held {w : Workspace} {next : State} (h : next.Held w.schema) :
    Reads w (next, w) :=
  ⟨.refl _, h⟩

/-- A token that leads to another state with an edit. -/
lemma Reads.of_edits {w w' : Workspace} {next : State} (hedits : w.schema.Edits w'.schema)
    (h : next.Held w.schema) : Reads w (next, w') :=
  ⟨hedits, h.mono hedits.within⟩

lemma Reads.after {w w' : Workspace} {read : State × Workspace}
    (hedits : w.schema.Edits w'.schema) (h : Reads w' read) : Reads w read :=
  ⟨hedits.trans h.edits, h.held⟩

/-! ## Declarations -/

variable (token : Token) (w : Workspace)

lemma held_ofTopLevel (s : Schema) : (ofTopLevel token).Held s := by
  unfold ofTopLevel
  split_ifs <;> simp [Held]

lemma reads_schemaName : Reads w (readSchemaName token w) := by
  unfold readSchemaName
  dsimp only
  split_ifs with h
  · exact .of_held trivial
  · exact .of_edits (.single (.setName ..)) trivial

lemma edits_declareEntity (name : String) : w.schema.Edits (w.declareEntity name).2.schema := by
  rw [Workspace.schema_declareEntity]
  exact .single (.declareEntity ..)

lemma edits_declareType (name : String) : w.schema.Edits (w.declareType name).2.schema := by
  rw [Workspace.schema_declareType]
  exact .single (.declareType ..)

lemma hasEntity_declareEntity (name : String) :
    (w.declareEntity name).2.schema.HasEntity (w.declareEntity name).1 := by
  rw [Workspace.declareEntity_fst, Workspace.schema_declareEntity]
  exact ⟨(wordOf_le _).trans_lt (Table.fst_findOrInsert_lt _ _ _), wordOf_lt _⟩

lemma declareType_lt (name : String) :
    (w.declareType name).1.index < (w.declareType name).2.schema.types.size := by
  rw [Workspace.declareType_fst, Workspace.schema_declareType]
  exact Table.fst_findOrInsert_lt _ _ _

lemma reads_entityName : Reads w (readEntityName token w) :=
  ⟨edits_declareEntity w _, hasEntity_declareEntity w _⟩

/-! ## Types -/

lemma reads_typeName {type : Option TypeId} (h : (typeName type).Held w.schema) :
    Reads w (readTypeName type token w) := by
  unfold readTypeName
  split
  · refine ⟨edits_declareType w _, fun id hid => ?_⟩
    obtain rfl := Option.some.inj hid
    exact declareType_lt w _
  · cases type with
    | none => exact .of_held trivial
    | some type => exact .of_held (h type rfl)
  · exact ⟨edits_declareType w _, declareType_lt w _⟩

lemma edits_settleType (type : TypeId) {underlying : UnderlyingType} (h : underlying ≠ .entity) :
    w.schema.Edits (settleType type underlying w).schema :=
  .single (.settleType _ _ _ h)

lemma aggregateOfText_ne_entity (text : String) : aggregateOfText text ≠ .entity :=
  UnderlyingType.noConfusion

variable {type : TypeId} (htype : type.index < w.schema.types.size)
include htype

lemma reads_typeBody : Reads w (readTypeBody type token w) := by
  unfold readTypeBody
  dsimp only
  split_ifs with hselect henum hcapitals haggregate hend
  · exact .of_edits (edits_settleType w type UnderlyingType.noConfusion) htype
  · exact .of_edits (edits_settleType w type UnderlyingType.noConfusion) htype
  · exact .of_edits (edits_settleType w type (aggregateOfText_ne_entity _)) trivial
  · exact .of_edits (.refl _) htype
  · split
    · exact .of_edits (edits_settleType w type UnderlyingType.noConfusion) trivial
    · exact .of_edits (edits_settleType w type UnderlyingType.noConfusion) trivial
  · exact .of_edits (edits_settleType w type UnderlyingType.noConfusion) trivial

lemma reads_selectMembers : Reads w (readSelectMembers type token w) := by
  unfold readSelectMembers
  dsimp only
  split_ifs with hend
  · exact .of_edits (.single (.addMembers ..)) trivial
  · exact .of_edits (.single (.addMembers ..)) htype

lemma reads_enumerationOf : Reads w (readEnumerationOf type token w) := by
  unfold readEnumerationOf
  split_ifs with hof
  · exact .of_held htype
  · exact .of_held htype

lemma reads_enumerationValues : Reads w (readEnumerationValues type token w) := by
  have hedits : w.schema.Edits (w.schema.modifyType type fun t =>
      { t with values := t.values ++ (w.canonicalAll token.names).1 }) :=
    .single (.addValues ..)
  unfold readEnumerationValues
  dsimp only
  split_ifs with hend
  · exact .of_edits (by simpa using hedits) trivial
  · exact .of_edits (by simpa using hedits) htype

lemma reads_aggregate (text : String) : Reads w (readAggregate type text token w) := by
  unfold readAggregate
  dsimp only
  split_ifs with hend
  · exact .of_edits (edits_settleType w type (aggregateOfText_ne_entity _)) trivial
  · exact .of_held htype

omit htype

/-! ## Entities -/

section Entity

variable {entity : EntityId} (h : w.schema.HasEntity entity)
include h

lemma held_leaveClause? {next : State} (hnext : leaveClause? entity token = some next) :
    next.Held w.schema := by
  unfold leaveClause? at hnext
  split_ifs at hnext <;> obtain rfl := Option.some.inj hnext
  · trivial
  · exact h

lemma held_leaveUnique? {next : State} (hnext : leaveUnique? entity token = some next) :
    next.Held w.schema := by
  unfold leaveUnique? at hnext
  split_ifs at hnext
  · obtain rfl := Option.some.inj hnext
    exact h
  · exact held_leaveClause? token w h hnext

lemma reads_entityBody : Reads w (readEntityBody entity token w) := by
  unfold readEntityBody
  split_ifs
  · exact .of_held h
  · exact .of_held h
  · exact .of_edits (.single (.setAbstract ..)) h
  · exact .of_held h
  · exact .of_held h
  · exact .of_held h
  · exact .of_held h
  · exact .of_held trivial
  · exact .of_held h

lemma reads_domainRules : Reads w (readDomainRules entity token w) := by
  refine .of_held ?_
  cases hnext : leaveClause? entity token with
  | none => exact h
  | some next => exact held_leaveClause? token w h hnext

lemma reads_derivedAttributes : Reads w (readDerivedAttributes entity token w) := by
  unfold readDerivedAttributes
  split
  · rename_i hnext
    exact .of_held (held_leaveClause? token w h hnext)
  · split_ifs <;> exact .of_held h

/-! ### Attributes -/

lemma edits_addAttribute (draft : AttributeDraft) (range : List Char) :
    w.schema.Edits (addAttribute entity (draft.finish entity range) w).schema := by
  unfold addAttribute
  cases (draft.finish entity range).builtin <;> exact .single (.addAttribute _ _ _ _ h.2)

omit h in
lemma edits_readBounds (draft : AttributeDraft) :
    w.schema.Edits (readBounds draft token w).2.schema := by
  unfold readBounds
  split
  · exact .single (.report _ _ rfl)
  · split
    · exact .single (.report _ _ rfl)
    · exact .refl _

lemma reads_attribute (draft : AttributeDraft) :
    Reads w (readAttribute entity draft token w) := by
  unfold readAttribute
  split_ifs
  · exact .of_held trivial
  · exact .of_held h
  · exact .of_held h
  · exact .of_held h
  · exact .of_edits (.single (.report _ _ rfl)) h
  · exact .of_held h
  · exact .of_edits (edits_readBounds token w draft) h
  · exact .of_held h
  · exact .of_edits (edits_addAttribute w h draft _) h
  · exact .of_held h

/-! ### Supertypes and subtypes -/

lemma reads_subtypeOf : Reads w (readSubtypeOf entity token w) := by
  unfold readSubtypeOf
  split_ifs <;> exact .of_held h

lemma held_endsSupertypes : Held w.schema
    (if endsSupertypes token then entityBody entity else furtherSupertypes entity) := by
  split_ifs <;> exact h

lemma reads_firstSupertype : Reads w (readFirstSupertype entity token w) := by
  unfold readFirstSupertype
  by_cases hend : token.is entityEnd
  · rw [if_pos hend]
    exact .of_held trivial
  · rw [if_neg hend]
    split
    · exact .of_held h
    · rename_i first further _
      refine .of_edits ?_ (held_endsSupertypes token w h)
      rw [Workspace.schema_reportAll]
      refine .trans (.single (.setSupertype _ entity first)) (.reportAll _ fun p hp => ?_)
      obtain ⟨name, -, rfl⟩ := List.mem_map.1 hp
      rfl

lemma reads_furtherSupertypes : Reads w (readFurtherSupertypes entity token w) := by
  unfold readFurtherSupertypes
  by_cases hend : token.is entityEnd
  · rw [if_pos hend]
    exact .of_held trivial
  · rw [if_neg hend]
    refine .of_edits ?_ (held_endsSupertypes token w h)
    split_ifs
    · exact .refl _
    · exact .single (.report _ _ rfl)

omit h in
lemma edits_addSibling {set : SiblingSetId} (hset : set.index < w.schema.siblings.sets.length)
    (member : String) : w.schema.Edits (addSibling set w member).schema := by
  have hedit : w.schema.Edits
      { w.schema with siblings := (w.schema.siblings.add set member).2 } :=
    .single (.addSibling _ _ _ hset)
  unfold addSibling
  dsimp only
  split_ifs
  · exact hedit
  · exact hedit.trans (.single (.report _ _ rfl))

omit h in
lemma edits_foldl_addSibling {set : SiblingSetId} (members : List String)
    (hset : set.index < w.schema.siblings.sets.length) :
    w.schema.Edits (members.foldl (addSibling set) w).schema := by
  induction members generalizing w with
  | nil => exact .refl _
  | cons member members ih =>
    have hedits := edits_addSibling w hset member
    exact hedits.trans (ih _ (hset.trans_le hedits.within.sets))

lemma reads_siblings {set : SiblingSetId} (hset : set.index < w.schema.siblings.sets.length) :
    Reads w (readSiblings entity set token w) := by
  have hedits := edits_foldl_addSibling w token.names hset
  unfold readSiblings
  split
  · rename_i hnext
    exact .of_held (held_leaveClause? token w h hnext)
  · dsimp only
    split_ifs
    · exact .of_edits
        (hedits.trans (.single (.setSubtypes _ _ _ (hset.trans_le hedits.within.sets)))) h
    · exact .of_edits
        (hedits.trans (.single (.setSubtypes _ _ _ (hset.trans_le hedits.within.sets)))) h
    · exact .of_edits hedits ⟨h, hset⟩

lemma reads_subtypeClause : Reads w (readSubtypeClause entity token w) := by
  unfold readSubtypeClause
  split
  · rename_i hnext
    exact .of_held (held_leaveClause? token w h hnext)
  · split_ifs
    · have hopen : w.schema.Edits { w.schema with siblings := w.schema.siblings.openSet.2 } :=
        .single (.openSet _)
      have hset : w.schema.siblings.openSet.1.index <
          w.schema.siblings.openSet.2.sets.length := w.schema.siblings.index_openSet_lt
      dsimp only
      split
      · exact ⟨hopen, h, hset⟩
      · refine .after hopen (reads_siblings _ _ ?_ ?_)
        · exact h
        · exact hset
    · exact .of_held h
    · exact .of_held h

/-! ### Inverses and uniqueness rules -/

lemma reads_inverseName (name : Option String) :
    Reads w (readInverseName entity name token w) := by
  unfold readInverseName
  split
  · rename_i hnext
    exact .of_held (held_leaveClause? token w h hnext)
  · split_ifs
    · exact .of_held h
    · exact .of_held h
    · exact .of_held h
    · split <;> exact .of_held h

omit h in
lemma edits_readInverseBounds (draft : InverseDraft) :
    w.schema.Edits (readInverseBounds draft token w).2.schema := by
  unfold readInverseBounds
  split
  · exact .refl _
  · exact .single (.report _ _ rfl)

lemma reads_inverseRange (draft : InverseDraft) :
    Reads w (readInverseRange entity draft token w) := by
  unfold readInverseRange
  split
  · rename_i hnext
    exact .of_held (held_leaveClause? token w h hnext)
  · split_ifs
    · exact .of_held h
    · exact .of_held h
    · exact .of_edits (edits_readInverseBounds token w draft) h
    · exact .of_held h
    · exact .of_held h

lemma reads_inverseFor (draft : InverseDraft) : Reads w (readInverseFor entity draft token w) := by
  unfold readInverseFor
  split
  · rename_i hnext
    exact .of_held (held_leaveClause? token w h hnext)
  · split_ifs
    · exact .of_edits (.single (.addInverse _ _ _ _ h.2)) h
    · exact .of_held h

lemma reads_uniqueLabel : Reads w (readUniqueLabel entity token w) := by
  unfold readUniqueLabel
  split
  · rename_i hnext
    exact .of_held (held_leaveUnique? token w h hnext)
  · split_ifs <;> exact .of_held h

omit h in
lemma edits_markUnique : w.schema.Edits (markUnique entity token w).schema := by
  unfold markUnique
  split_ifs
  · exact .single (.report _ _ rfl)
  · exact .single (.markUnique ..)

lemma reads_uniqueName : Reads w (readUniqueName entity token w) := by
  unfold readUniqueName
  split
  · rename_i hnext
    exact .of_held (held_leaveUnique? token w h hnext)
  · exact .of_edits (edits_markUnique token w) h

end Entity

/-! ## Any state -/

/-- What a token does in any state. -/
theorem reads_step {state : State} (h : state.Held w.schema) :
    Reads w (state.step token w) := by
  cases state with
  | topLevel => exact .of_held (held_ofTopLevel token _)
  | schemaName => exact reads_schemaName token w
  | skipping body =>
    refine .of_held ?_
    split_ifs <;> trivial
  | typeName type => exact reads_typeName token w h
  | typeBody type => exact reads_typeBody token w h
  | selectMembers type => exact reads_selectMembers token w h
  | enumerationOf type => exact reads_enumerationOf token w h
  | enumerationValues type => exact reads_enumerationValues token w h
  | aggregateText type text => exact reads_aggregate token w h text
  | entityName => exact reads_entityName token w
  | entityBody entity => exact reads_entityBody token w h
  | attributeRange entity draft => exact reads_attribute token w h draft
  | subtypeOf entity => exact reads_subtypeOf token w h
  | firstSupertype entity => exact reads_firstSupertype token w h
  | furtherSupertypes entity => exact reads_furtherSupertypes token w h
  | subtypeClause entity => exact reads_subtypeClause token w h
  | siblings entity set => exact reads_siblings token w h.1 h.2
  | inverseName entity name => exact reads_inverseName token w h name
  | inverseRange entity draft => exact reads_inverseRange token w h draft
  | inverseFor entity draft => exact reads_inverseFor token w h draft
  | uniqueLabel entity => exact reads_uniqueLabel token w h
  | uniqueName entity => exact reads_uniqueName token w h
  | domainRules entity => exact reads_domainRules token w h
  | derivedAttributes entity => exact reads_derivedAttributes token w h

/-! ## Runs of tokens -/

/-- The log is no part of the schema. -/
lemma schema_feed (state : State) :
    (state.feed token w).2.schema = (state.step token w).2.schema := by
  unfold feed
  dsimp only
  split_ifs <;> rfl

lemma reads_feed {state : State} (h : state.Held w.schema) :
    Reads w (state.feed token w) := by
  have hstep := reads_step token w h
  exact ⟨by rw [schema_feed]; exact hstep.edits, by rw [schema_feed]; exact hstep.held⟩

lemma reads_feedAll (tokens : List Token) {state : State} (h : state.Held w.schema) :
    Reads w (state.feedAll tokens w) := by
  induction tokens generalizing state w with
  | nil => exact .of_held h
  | cons token tokens ih =>
    have hfeed := reads_feed token w h
    exact .after hfeed.edits (ih _ hfeed.held)

lemma reads_feedLines (lines : List (List Char)) {state : State} (h : state.Held w.schema) :
    Reads w (state.feedLines lines w) := by
  induction lines generalizing state w with
  | nil => exact .of_held h
  | cons line lines ih =>
    have hline := reads_feedAll w (Text.words line) h
    exact .after hline.edits (ih _ hline.held)

end State
end ExpressSchema
