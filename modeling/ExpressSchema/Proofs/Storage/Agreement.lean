/-
# What reading depends on

The reader asks a workspace for its schema and for canonical names, and for nothing else.  Of a
name it gets the canonical form whatever the memory holds, so two workspaces with the same schema
cannot be told apart by any token: `State.Agree` says that two readers are in the same state with
the same schema, and `State.agree_feed` that a token keeps it so.
-/
import ExpressSchema.Proofs.Workspace
import ExpressSchema.Reader

namespace ExpressSchema
namespace State

/-- Two readers in the same state with the same schema, whatever else their workspaces hold. -/
structure Agree (p q : State × Workspace) : Prop where
  state : p.1 = q.1
  schema : p.2.schema = q.2.schema

lemma Agree.trans {p q r : State × Workspace} (h : Agree p q) (h' : Agree q r) : Agree p r :=
  ⟨h.state.trans h'.state, h.schema.trans h'.schema⟩

variable {w w' : Workspace} (h : w.schema = w'.schema)
include h

/-! ## Steps that all readers share -/

/-- A token that only leads to another state. -/
lemma agree_move (next : State) : Agree (next, w) (next, w') := ⟨rfl, h⟩

/-- A token that leads to another state with a change of the schema. -/
lemma agree_update (next : State) (f : Schema → Schema) :
    Agree (next, w.update f) (next, w'.update f) :=
  ⟨rfl, congrArg f h⟩

lemma agree_report (next : State) (p : Problem) :
    Agree (next, w.report p) (next, w'.report p) where
  state := rfl
  schema := by rw [Workspace.schema_report, Workspace.schema_report, h]

lemma agree_declareEntity (next : EntityId → State) (name : String) :
    Agree (next (w.declareEntity name).1, (w.declareEntity name).2)
      (next (w'.declareEntity name).1, (w'.declareEntity name).2) where
  state := by rw [Workspace.declareEntity_fst, Workspace.declareEntity_fst, h]
  schema := by rw [Workspace.schema_declareEntity, Workspace.schema_declareEntity, h]

lemma agree_declareType (next : TypeId → State) (name : String) :
    Agree (next (w.declareType name).1, (w.declareType name).2)
      (next (w'.declareType name).1, (w'.declareType name).2) where
  state := by rw [Workspace.declareType_fst, Workspace.declareType_fst, h]
  schema := by rw [Workspace.schema_declareType, Workspace.schema_declareType, h]

variable (token : Token)

lemma agree_schemaName : Agree (readSchemaName token w) (readSchemaName token w') := by
  unfold readSchemaName
  dsimp only
  split_ifs
  · exact agree_move h _
  · exact agree_update h _ _

/-! ## Types -/

lemma agree_typeName (type : Option TypeId) :
    Agree (readTypeName type token w) (readTypeName type token w') := by
  unfold readTypeName
  split
  · exact agree_declareType h (fun id => typeName (some id)) _
  · cases type with
    | none => exact agree_move h _
    | some type => exact agree_move h _
  · exact agree_declareType h typeBody _

lemma agree_settleType (next : State) (type : TypeId) (underlying : UnderlyingType) :
    Agree (next, settleType type underlying w) (next, settleType type underlying w') := by
  unfold settleType
  exact agree_update h next _

/-- What a type stands for may come from the memory, which answers with the canonical form. -/
lemma agree_typeBody (type : TypeId) :
    Agree (readTypeBody type token w) (readTypeBody type token w') := by
  have hname : ∀ name, (w.canonical name).2.schema = (w'.canonical name).2.schema := fun _ => h
  have hregister : ∀ b, (w.register b).schema = (w'.register b).schema := fun _ => h
  unfold readTypeBody
  simp only [Workspace.canonical_fst]
  split_ifs
  · exact agree_settleType h _ _ _
  · exact agree_settleType h _ _ _
  · exact agree_settleType (hname _) _ _ _
  · exact agree_move (hname _) _
  · split
    · exact agree_settleType (hregister _) _ _ _
    · exact agree_settleType (hname _) _ _ _
  · exact agree_settleType h _ _ _

lemma agree_selectMembers (type : TypeId) :
    Agree (readSelectMembers type token w) (readSelectMembers type token w') := by
  unfold readSelectMembers
  dsimp only
  split_ifs <;> exact agree_update h _ _

lemma agree_enumerationOf (type : TypeId) :
    Agree (readEnumerationOf type token w) (readEnumerationOf type token w') := by
  unfold readEnumerationOf
  split_ifs <;> exact agree_move h _

lemma agree_enumerationValues (type : TypeId) :
    Agree (readEnumerationValues type token w) (readEnumerationValues type token w') := by
  have hvalues :
      (w.canonicalAll token.names).2.schema = (w'.canonicalAll token.names).2.schema := by
    rw [Workspace.schema_canonicalAll, Workspace.schema_canonicalAll, h]
  unfold readEnumerationValues
  simp only [Workspace.canonicalAll_fst]
  split_ifs <;> exact agree_update hvalues _ _

lemma agree_aggregate (type : TypeId) (text : String) :
    Agree (readAggregate type text token w) (readAggregate type text token w') := by
  unfold readAggregate
  dsimp only
  split_ifs
  · exact agree_settleType h _ _ _
  · exact agree_move h _

/-! ## Entities -/

lemma agree_entityName : Agree (readEntityName token w) (readEntityName token w') where
  state := (agree_declareEntity h entityBody _).state
  schema := (agree_declareEntity h entityBody _).schema

variable (entity : EntityId)

lemma agree_entityBody :
    Agree (readEntityBody entity token w) (readEntityBody entity token w') := by
  unfold readEntityBody
  split_ifs
  · exact agree_move h _
  · exact agree_move h _
  · exact agree_update h _ _
  · exact agree_move h _
  · exact agree_move h _
  · exact agree_move h _
  · exact agree_move h _
  · exact agree_move h _
  · exact agree_move h _

lemma agree_derivedAttributes :
    Agree (readDerivedAttributes entity token w) (readDerivedAttributes entity token w') := by
  unfold readDerivedAttributes
  split
  · exact agree_move h _
  · split_ifs <;> exact agree_move h _

/-! ### Attributes -/

lemma agree_addAttribute (next : State) (a : Attribute) :
    Agree (next, addAttribute entity a w) (next, addAttribute entity a w') := by
  unfold addAttribute
  cases a.builtin with
  | none => exact agree_update h _ _
  | some b =>
    have hregister : (w.register b).schema = (w'.register b).schema := h
    exact agree_update hregister _ _

lemma agree_readBounds (draft : AttributeDraft) :
    Agree (attributeRange entity (readBounds draft token w).1, (readBounds draft token w).2)
      (attributeRange entity (readBounds draft token w').1, (readBounds draft token w').2) := by
  unfold readBounds
  split
  · exact agree_report h _ _
  · split
    · exact agree_report h _ _
    · exact agree_move h _

lemma agree_attribute (draft : AttributeDraft) :
    Agree (readAttribute entity draft token w) (readAttribute entity draft token w') := by
  unfold readAttribute
  split_ifs
  · exact agree_move h _
  · exact agree_move h _
  · exact agree_move h _
  · exact agree_move h _
  · exact agree_report h _ _
  · exact agree_move h _
  · exact agree_readBounds h token entity draft
  · exact agree_move h _
  · exact agree_addAttribute h entity _ _
  · exact agree_move h _

/-! ### Supertypes and subtypes -/

lemma agree_subtypeOf : Agree (readSubtypeOf entity token w) (readSubtypeOf entity token w') := by
  unfold readSubtypeOf
  split_ifs <;> exact agree_move h _

lemma agree_firstSupertype :
    Agree (readFirstSupertype entity token w) (readFirstSupertype entity token w') := by
  unfold readFirstSupertype
  by_cases hend : token.is entityEnd
  · rw [if_pos hend, if_pos hend]
    exact agree_move h _
  · rw [if_neg hend, if_neg hend]
    split
    · exact agree_move h _
    · refine ⟨rfl, ?_⟩
      simp only [Workspace.schema_reportAll, Workspace.schema_modifyEntity, h]

lemma agree_furtherSupertypes :
    Agree (readFurtherSupertypes entity token w) (readFurtherSupertypes entity token w') := by
  unfold readFurtherSupertypes
  by_cases hend : token.is entityEnd
  · rw [if_pos hend, if_pos hend]
    exact agree_move h _
  · rw [if_neg hend, if_neg hend]
    by_cases hempty : (Name.bare token).isEmpty
    · simp only [if_pos hempty]
      exact agree_move h _
    · simp only [if_neg hempty]
      exact agree_report h _ _

/-- Whether a sibling is new is asked of the groups in the schema. -/
lemma schema_addSibling_congr (set : SiblingSetId) (member : String) :
    (addSibling set w member).schema = (addSibling set w' member).schema := by
  unfold addSibling
  rw [h]
  dsimp only
  split_ifs
  · exact (agree_update h topLevel _).schema
  · rw [Workspace.schema_report, Workspace.schema_report, Workspace.schema_update,
      Workspace.schema_update, h]

lemma schema_foldl_addSibling_congr (set : SiblingSetId) (members : List String) :
    (members.foldl (addSibling set) w).schema = (members.foldl (addSibling set) w').schema := by
  induction members generalizing w w' with
  | nil => exact h
  | cons member members ih => exact ih (schema_addSibling_congr h set member)

lemma agree_siblings (set : SiblingSetId) :
    Agree (readSiblings entity set token w) (readSiblings entity set token w') := by
  have hadded := schema_foldl_addSibling_congr h set token.names
  unfold readSiblings
  split
  · exact agree_move h _
  · dsimp only
    split_ifs
    · exact agree_update hadded _ _
    · exact agree_update hadded _ _
    · exact agree_move hadded _

lemma agree_subtypeClause :
    Agree (readSubtypeClause entity token w) (readSubtypeClause entity token w') := by
  unfold readSubtypeClause
  split
  · exact agree_move h _
  · rw [h]
    split_ifs
    · have hopened := (agree_update h topLevel fun s =>
        { s with siblings := w'.schema.siblings.openSet.2 }).schema
      dsimp only
      split
      · exact agree_move hopened _
      · exact agree_siblings hopened _ _ _
    · exact agree_move h _
    · exact agree_move h _

/-! ### Inverses and uniqueness rules -/

lemma agree_inverseName (name : Option String) :
    Agree (readInverseName entity name token w) (readInverseName entity name token w') := by
  unfold readInverseName
  split
  · exact agree_move h _
  · split_ifs
    · exact agree_move h _
    · exact agree_move h _
    · exact agree_move h _
    · split <;> exact agree_move h _

lemma agree_readInverseBounds (draft : InverseDraft) :
    Agree (inverseRange entity (readInverseBounds draft token w).1,
        (readInverseBounds draft token w).2)
      (inverseRange entity (readInverseBounds draft token w').1,
        (readInverseBounds draft token w').2) := by
  unfold readInverseBounds
  split
  · exact agree_move h _
  · exact agree_report h _ _

lemma agree_inverseRange (draft : InverseDraft) :
    Agree (readInverseRange entity draft token w) (readInverseRange entity draft token w') := by
  unfold readInverseRange
  split
  · exact agree_move h _
  · split_ifs
    · exact agree_move h _
    · exact agree_move h _
    · exact agree_readInverseBounds h token entity draft
    · exact agree_move h _
    · exact agree_move h _

lemma agree_inverseFor (draft : InverseDraft) :
    Agree (readInverseFor entity draft token w) (readInverseFor entity draft token w') := by
  unfold readInverseFor
  split
  · exact agree_move h _
  · split_ifs
    · exact agree_update h _ _
    · exact agree_move h _

lemma agree_uniqueLabel :
    Agree (readUniqueLabel entity token w) (readUniqueLabel entity token w') := by
  unfold readUniqueLabel
  split
  · exact agree_move h _
  · split_ifs <;> exact agree_move h _

lemma agree_uniqueName :
    Agree (readUniqueName entity token w) (readUniqueName entity token w') := by
  unfold readUniqueName markUnique
  split
  · exact agree_move h _
  · split_ifs
    · exact agree_report h _ _
    · exact agree_update h _ _

/-! ## Any state -/

omit entity

/-- In any state a token does the same with the same schema. -/
theorem agree_step (state : State) : Agree (state.step token w) (state.step token w') := by
  cases state with
  | topLevel => exact agree_move h _
  | schemaName => exact agree_schemaName h token
  | skipping body => exact agree_move h _
  | typeName type => exact agree_typeName h token type
  | typeBody type => exact agree_typeBody h token type
  | selectMembers type => exact agree_selectMembers h token type
  | enumerationOf type => exact agree_enumerationOf h token type
  | enumerationValues type => exact agree_enumerationValues h token type
  | aggregateText type text => exact agree_aggregate h token type text
  | entityName => exact agree_entityName h token
  | entityBody entity => exact agree_entityBody h token entity
  | attributeRange entity draft => exact agree_attribute h token entity draft
  | subtypeOf entity => exact agree_subtypeOf h token entity
  | firstSupertype entity => exact agree_firstSupertype h token entity
  | furtherSupertypes entity => exact agree_furtherSupertypes h token entity
  | subtypeClause entity => exact agree_subtypeClause h token entity
  | siblings entity set => exact agree_siblings h token entity set
  | inverseName entity name => exact agree_inverseName h token entity name
  | inverseRange entity draft => exact agree_inverseRange h token entity draft
  | inverseFor entity draft => exact agree_inverseFor h token entity draft
  | uniqueLabel entity => exact agree_uniqueLabel h token entity
  | uniqueName entity => exact agree_uniqueName h token entity
  | domainRules entity => exact agree_move h _
  | derivedAttributes entity => exact agree_derivedAttributes h token entity

end State
end ExpressSchema
