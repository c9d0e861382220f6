/-
# What leads the reader

Where a token leads is decided by the token and by what has been read of the part that is not
finished.  The workspace is written and asked on the way, for identifiers, for siblings that are
listed already, for canonical names, but none of what it answers leads the reader: two readers
whose states differ only in identifiers go through such states all along, whatever is declared in
their schemas and whether or not the identifiers belong to anything there (`alike_visited`).
-/
import ExpressSchema.Proofs.Workspace
import ExpressSchema.Reader
import Mathlib.Data.List.Forall2

namespace ExpressSchema
namespace State

/-! ## States up to their identifiers -/

/-- The state with these identifiers in the place of its own. -/
def withIds (type : TypeId) (entity : EntityId) (set : SiblingSetId) : State → State
  | topLevel => topLevel
  | schemaName => schemaName
  | skipping body => skipping body
  | typeName own => typeName (own.map fun _ => type)
  | typeBody _ => typeBody type
  | selectMembers _ => selectMembers type
  | enumerationOf _ => enumerationOf type
  | enumerationValues _ => enumerationValues type
  | aggregateText _ text => aggregateText type text
  | entityName => entityName
  | entityBody _ => entityBody entity
  | attributeRange _ draft => attributeRange entity draft
  | subtypeOf _ => subtypeOf entity
  | firstSupertype _ => firstSupertype entity
  | furtherSupertypes _ => furtherSupertypes entity
  | subtypeClause _ => subtypeClause entity
  | siblings _ _ => siblings entity set
  | inverseName _ name => inverseName entity name
  | inverseRange _ draft => inverseRange entity draft
  | inverseFor _ draft => inverseFor entity draft
  | uniqueLabel _ => uniqueLabel entity
  | uniqueName _ => uniqueName entity
  | domainRules _ => domainRules entity
  | derivedAttributes _ => derivedAttributes entity

/-- Two states of the same kind with the same data, which differ at most in identifiers. -/
def Alike (s s' : State) : Prop := ∃ type entity set, s' = s.withIds type entity set

/-- The state without identifiers of its own. -/
def anonymous (s : State) : State := s.withIds ⟨0⟩ ⟨0⟩ ⟨0⟩

lemma anonymous_withIds (s : State) (type : TypeId) (entity : EntityId) (set : SiblingSetId) :
    (s.withIds type entity set).anonymous = s.anonymous := by
  cases s with
  | typeName own => cases own <;> rfl
  | _ => rfl

/-- Every state has its own identifiers. -/
lemma exists_withIds_anonymous (s : State) :
    ∃ type entity set, s = s.anonymous.withIds type entity set := by
  cases s with
  | typeName own =>
    cases own with
    | none => exact ⟨⟨0⟩, ⟨0⟩, ⟨0⟩, rfl⟩
    | some type => exact ⟨type, ⟨0⟩, ⟨0⟩, rfl⟩
  | typeBody type | selectMembers type | enumerationOf type | enumerationValues type
  | aggregateText type text => exact ⟨type, ⟨0⟩, ⟨0⟩, rfl⟩
  | siblings entity set => exact ⟨⟨0⟩, entity, set, rfl⟩
  | entityBody entity | attributeRange entity _ | subtypeOf entity | firstSupertype entity
  | furtherSupertypes entity | subtypeClause entity | inverseName entity _
  | inverseRange entity _ | inverseFor entity _ | uniqueLabel entity | uniqueName entity
  | domainRules entity | derivedAttributes entity => exact ⟨⟨0⟩, entity, ⟨0⟩, rfl⟩
  | topLevel | schemaName | skipping body | entityName => exact ⟨⟨0⟩, ⟨0⟩, ⟨0⟩, rfl⟩

lemma alike_iff {s s' : State} : Alike s s' ↔ s.anonymous = s'.anonymous := by
  constructor
  · rintro ⟨type, entity, set, rfl⟩
    exact (s.anonymous_withIds type entity set).symm
  · intro h
    obtain ⟨type, entity, set, hs'⟩ := s'.exists_withIds_anonymous
    refine ⟨type, entity, set, hs'.trans ?_⟩
    rw [← h]
    cases s with
    | typeName own => cases own <;> rfl
    | _ => rfl

/-! ## Readers of one token -/

variable (token : Token) (w w' : Workspace)

section Types

/-- Whether a name has been read decides what a lone equals sign means; which type it is does
not. -/
lemma alike_typeName {type type' : Option TypeId} (h : Alike (typeName type) (typeName type')) :
    Alike (readTypeName type token w).1 (readTypeName type' token w').1 := by
  rw [alike_iff] at h ⊢
  unfold readTypeName
  split
  · rfl
  · cases type <;> cases type' <;> first | rfl | cases h
  · rfl

variable (type type' : TypeId)

/-- What is kept of an aggregate is the canonical form of its text, which the memory of either
workspace answers. -/
lemma alike_typeBody : Alike (readTypeBody type token w).1 (readTypeBody type' token w').1 := by
  rw [alike_iff]
  unfold readTypeBody
  simp only [Workspace.canonical_fst]
  split_ifs
  · rfl
  · rfl
  · rfl
  · rfl
  · split <;> rfl
  · rfl

lemma alike_selectMembers :
    Alike (readSelectMembers type token w).1 (readSelectMembers type' token w').1 := by
  rw [alike_iff]
  unfold readSelectMembers
  split_ifs <;> rfl

lemma alike_enumerationOf :
    Alike (readEnumerationOf type token w).1 (readEnumerationOf type' token w').1 := by
  rw [alike_iff]
  unfold readEnumerationOf
  split_ifs <;> rfl

lemma alike_enumerationValues :
    Alike (readEnumerationValues type token w).1 (readEnumerationValues type' token w').1 := by
  rw [alike_iff]
  unfold readEnumerationValues
  dsimp only
  split_ifs <;> rfl

lemma alike_aggregate (text : String) :
    Alike (readAggregate type text token w).1 (readAggregate type' text token w').1 := by
  rw [alike_iff]
  unfold readAggregate
  dsimp only
  split_ifs <;> rfl

end Types

section Entities

variable (entity entity' : EntityId)

lemma alike_entityBody :
    Alike (readEntityBody entity token w).1 (readEntityBody entity' token w').1 := by
  rw [alike_iff]
  unfold readEntityBody
  split_ifs <;> rfl

/-- A clause is left by the same tokens in both runs, and they lead to like states. -/
lemma alike_leaving {p p' : State × Workspace} (h : Alike p.1 p'.1) :
    Alike
      (match leaveClause? entity token with
        | some next => (next, w)
        | none => p).1
      (match leaveClause? entity' token with
        | some next => (next, w')
        | none => p').1 := by
  rw [alike_iff] at h ⊢
  unfold leaveClause?
  split_ifs
  · rfl
  · rfl
  · exact h

lemma alike_leavingUnique {p p' : State × Workspace} (h : Alike p.1 p'.1) :
    Alike
      (match leaveUnique? entity token with
        | some next => (next, w)
        | none => p).1
      (match leaveUnique? entity' token with
        | some next => (next, w')
        | none => p').1 := by
  unfold leaveUnique?
  split_ifs
  · exact alike_iff.2 rfl
  · exact alike_leaving token w w' entity entity' h

lemma alike_derivedAttributes :
    Alike (readDerivedAttributes entity token w).1 (readDerivedAttributes entity' token w').1 := by
  refine alike_leaving token w w' entity entity' (alike_iff.2 ?_)
  split_ifs <;> rfl

/-! ### Attributes -/

/-- Bounds that cannot be kept are reported, and the draft stays as it is in both runs. -/
lemma readBounds_fst (draft : AttributeDraft) :
    (readBounds draft token w).1 = (readBounds draft token w').1 := by
  unfold readBounds
  split
  · rfl
  · split <;> rfl

lemma alike_attribute (draft : AttributeDraft) :
    Alike (readAttribute entity draft token w).1 (readAttribute entity' draft token w').1 := by
  rw [alike_iff]
  unfold readAttribute
  split_ifs
  · rfl
  · rfl
  · rfl
  · rfl
  · rfl
  · rfl
  · exact congrArg (attributeRange ⟨0⟩) (readBounds_fst token w w' draft)
  · rfl
  · rfl
  · rfl

/-! ### Supertypes and subtypes -/

lemma alike_subtypeOf :
    Alike (readSubtypeOf entity token w).1 (readSubtypeOf entity' token w').1 := by
  rw [alike_iff]
  unfold readSubtypeOf
  split_ifs <;> rfl

lemma alike_firstSupertype :
    Alike (readFirstSupertype entity token w).1 (readFirstSupertype entity' token w').1 := by
  rw [alike_iff]
  unfold readFirstSupertype
  cases token.names with
  | nil => split_ifs <;> rfl
  | cons first further =>
    dsimp only
    split_ifs <;> rfl

lemma alike_furtherSupertypes :
    Alike (readFurtherSupertypes entity token w).1
      (readFurtherSupertypes entity' token w').1 := by
  rw [alike_iff]
  unfold readFurtherSupertypes
  split_ifs <;> rfl

/-- Whether a member is listed already makes a report or none, and no other state. -/
lemma alike_siblings (set set' : SiblingSetId) :
    Alike (readSiblings entity set token w).1 (readSiblings entity' set' token w').1 := by
  refine alike_leaving token w w' entity entity' (alike_iff.2 ?_)
  dsimp only
  split_ifs <;> rfl

/-- The group that is opened has another identifier in either run. -/
lemma alike_subtypeClause :
    Alike (readSubtypeClause entity token w).1 (readSubtypeClause entity' token w').1 := by
  refine alike_leaving token w w' entity entity' ?_
  split_ifs
  · dsimp only
    split
    · exact alike_iff.2 rfl
    · exact alike_siblings _ _ _ _ _ _ _
  · exact alike_iff.2 rfl
  · exact alike_iff.2 rfl

/-! ### Inverses and uniqueness rules -/

lemma alike_inverseName (name : Option String) :
    Alike (readInverseName entity name token w).1 (readInverseName entity' name token w').1 := by
  refine alike_leaving token w w' entity entity' (alike_iff.2 ?_)
  split_ifs
  · rfl
  · rfl
  · rfl
  · split <;> rfl

lemma readInverseBounds_fst (draft : InverseDraft) :
    (readInverseBounds draft token w).1 = (readInverseBounds draft token w').1 := by
  unfold readInverseBounds
  split <;> rfl

lemma alike_inverseRange (draft : InverseDraft) :
    Alike (readInverseRange entity draft token w).1
      (readInverseRange entity' draft token w').1 := by
  refine alike_leaving token w w' entity entity' (alike_iff.2 ?_)
  split_ifs
  · rfl
  · rfl
  · exact congrArg (inverseRange ⟨0⟩) (readInverseBounds_fst token w w' draft)
  · rfl
  · rfl

lemma alike_inverseFor (draft : InverseDraft) :
    Alike (readInverseFor entity draft token w).1 (readInverseFor entity' draft token w').1 := by
  refine alike_leaving token w w' entity entity' (alike_iff.2 ?_)
  split_ifs <;> rfl

lemma alike_uniqueLabel :
    Alike (readUniqueLabel entity token w).1 (readUniqueLabel entity' token w').1 := by
  refine alike_leavingUnique token w w' entity entity' (alike_iff.2 ?_)
  split_ifs <;> rfl

lemma alike_uniqueName :
    Alike (readUniqueName entity token w).1 (readUniqueName entity' token w').1 :=
  alike_leavingUnique token w w' entity entity' (alike_iff.2 rfl)

lemma alike_domainRules :
    Alike (readDomainRules entity token w).1 (readDomainRules entity' token w').1 := by
  rw [alike_iff]
  unfold readDomainRules leaveClause?
  split_ifs <;> rfl

end Entities

/-! ## Runs -/

/-- One token leads like states to like states. -/
theorem alike_step {s s' : State} (h : Alike s s') (token : Token) (w w' : Workspace) :
    Alike (s.step token w).1 (s'.step token w').1 := by
  have htype := h
  obtain ⟨type, entity, set, rfl⟩ := h
  cases s with
  | topLevel | schemaName | skipping _ | entityName => exact alike_iff.2 rfl
  | typeName own => exact alike_typeName token w w' htype
  | typeBody own => exact alike_typeBody token w w' own type
  | selectMembers own => exact alike_selectMembers token w w' own type
  | enumerationOf own => exact alike_enumerationOf token w w' own type
  | enumerationValues own => exact alike_enumerationValues token w w' own type
  | aggregateText own text => exact alike_aggregate token w w' own type text
  | entityBody own => exact alike_entityBody token w w' own entity
  | attributeRange own draft => exact alike_attribute token w w' own entity draft
  | subtypeOf own => exact alike_subtypeOf token w w' own entity
  | firstSupertype own => exact alike_firstSupertype token w w' own entity
  | furtherSupertypes own => exact alike_furtherSupertypes token w w' own entity
  | subtypeClause own => exact alike_subtypeClause token w w' own entity
  | siblings own ownSet => exact alike_siblings token w w' own entity ownSet set
  | inverseName own name => exact alike_inverseName token w w' own entity name
  | inverseRange own draft => exact alike_inverseRange token w w' own entity draft
  | inverseFor own draft => exact alike_inverseFor token w w' own entity draft
  | uniqueLabel own => exact alike_uniqueLabel token w w' own entity
  | uniqueName own => exact alike_uniqueName token w w' own entity
  | domainRules own => exact alike_domainRules token w w' own entity
  | derivedAttributes own => exact alike_derivedAttributes token w w' own entity

/-- The states through which tokens lead, step by step, the first state being one of them. -/
def visited (s : State) (w : Workspace) : List Token → List State
  | [] => [s]
  | token :: tokens => s :: visited (s.step token w).1 (s.step token w).2 tokens

/-- Tokens lead like states through like states, whatever is declared and whatever the identifiers
in the states belong to. -/
theorem alike_visited {s s' : State} (h : Alike s s') (w w' : Workspace) (tokens : List Token) :
    List.Forall₂ Alike (s.visited w tokens) (s'.visited w' tokens) := by
  induction tokens generalizing s s' w w' with
  | nil => exact .cons h .nil
  | cons token tokens ih => exact .cons h (ih (alike_step h token w w') _ _)

/-- Tokens that go on in the middle of a subtype list and come through an inverse and a type. -/
def siblingsTokens : List Token :=
  Token.ofLine "B, C)); INVERSE Of : SET [0:?] OF A FOR x; END_ENTITY; TYPE T = LIST [1:2] OF REAL;"

/-- A group that is there, after a declaration that names a member already, and a group of an entity
where nothing is declared. -/
theorem alike_visited_siblings :
    Alike (siblings ⟨0⟩ ⟨0⟩) (siblings ⟨4⟩ ⟨7⟩) ∧
      List.Forall₂ Alike
        ((siblings ⟨0⟩ ⟨0⟩).visited
          (topLevel.feedAll (Token.ofLine "ENTITY A; SUPERTYPE OF (ONEOF(B,") {}).2 siblingsTokens)
        ((siblings ⟨4⟩ ⟨7⟩).visited {} siblingsTokens) := by
  have h : Alike (siblings ⟨0⟩ ⟨0⟩) (siblings ⟨4⟩ ⟨7⟩) := ⟨⟨0⟩, ⟨4⟩, ⟨7⟩, rfl⟩
  exact ⟨h, alike_visited h _ _ _⟩

end State
end ExpressSchema
