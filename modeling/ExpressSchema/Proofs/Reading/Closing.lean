/-
# Where declarations end

An entity ends at the word `END_ENTITY;` and the right-hand side of a type at its semicolon,
whatever has been left unfinished before.  From there on the reader is between declarations, and
what follows is read as if nothing had been read before (`entityEnd_closes`, `semicolon_closes`).

Two states wait for one word each and take the end of the declaration for something else: right
after `SUBTYPE` any token but `OF` is dropped, and after `ENUMERATION` every token is until `OF`.
Neither state lets go of the declaration there, so that what follows is read as part of it.
-/
import ExpressSchema.Proofs.Printing.Word
import ExpressSchema.Proofs.Reading.Unread
import ExpressSchema.Proofs.Reading.Writes

namespace ExpressSchema
namespace State

/-- The type whose right-hand side is being read. -/
def rightHandSide? : State → Option TypeId
  | typeBody type | selectMembers type | enumerationOf type | enumerationValues type
  | aggregateText type _ => some type
  | _ => none

/-! ## One token -/

section Entity

variable {token : Token} (htoken : token.is entityEnd = true) (w : Workspace)
include htoken

/-- The word that ends an entity is none of the other words that mean something in it. -/
lemma is_eq_false_of_entityEnd {k : String} (hk : k ∈ "OF" :: clauseWords) (hne : k ≠ entityEnd) :
    token.is k = false := by
  have hdiffer : (("OF" :: clauseWords).map fun k => k.toList.map Char.toLower).Nodup := by
    decide +kernel
  have hword := Token.is_eq_decide hdiffer htoken (by decide) hk
  simpa [hne] using hword

lemma leaveClause?_entityEnd (entity : EntityId) :
    leaveClause? entity token = some topLevel := by
  simp [leaveClause?, htoken]

lemma leaveUnique?_entityEnd (entity : EntityId) :
    leaveUnique? entity token = some topLevel := by
  have hwhere := is_eq_false_of_entityEnd htoken (k := "WHERE") (by decide) (by decide)
  simp [leaveUnique?, hwhere, leaveClause?_entityEnd htoken]

lemma step_entityBody_entityEnd (entity : EntityId) :
    (entityBody entity).step token w = (topLevel, w) := by
  have hword : ∀ k ∈ clauseWords, k ≠ entityEnd → token.is k = false := fun k hk hne =>
    is_eq_false_of_entityEnd htoken (List.mem_cons_of_mem _ hk) hne
  simp only [step, readEntityBody, hword "SUBTYPE" (by decide) (by decide),
    hword "SUPERTYPE" (by decide) (by decide), hword "ABSTRACT" (by decide) (by decide),
    hword "INVERSE" (by decide) (by decide), hword "UNIQUE" (by decide) (by decide),
    hword "WHERE" (by decide) (by decide), hword "DERIVE" (by decide) (by decide), htoken]
  rfl

/-- Right after `SUBTYPE` the word is taken for a token that should have been `OF`. -/
lemma step_subtypeOf_entityEnd (entity : EntityId) :
    (subtypeOf entity).step token w = (entityBody entity, w) := by
  have hof := is_eq_false_of_entityEnd htoken (k := "OF") (by decide) (by decide)
  simp [step, readSubtypeOf, hof]

/-- Everywhere else in an entity the word ends it and does nothing else. -/
theorem step_entityEnd {s : State} {entity : EntityId} (hs : s.entity? = some entity)
    (hne : s ≠ subtypeOf entity) : s.step token w = (topLevel, w) := by
  have hleave := leaveClause?_entityEnd htoken
  have hunique := leaveUnique?_entityEnd htoken
  cases s with
  | entityBody own => exact step_entityBody_entityEnd htoken w own
  | subtypeOf own => exact absurd (congrArg subtypeOf (Option.some.inj hs)) hne
  | attributeRange own draft => simp [step, readAttribute, htoken]
  | firstSupertype own => simp [step, readFirstSupertype, htoken]
  | furtherSupertypes own => simp [step, readFurtherSupertypes, htoken]
  | subtypeClause own => simp [step, readSubtypeClause, hleave]
  | siblings own set => simp [step, readSiblings, hleave]
  | inverseName own name => simp [step, readInverseName, hleave]
  | inverseRange own draft => simp [step, readInverseRange, hleave]
  | inverseFor own draft => simp [step, readInverseFor, hleave]
  | uniqueLabel own => simp [step, readUniqueLabel, hunique]
  | uniqueName own => simp [step, readUniqueName, hunique]
  | domainRules own => simp [step, readDomainRules, hleave]
  | derivedAttributes own => simp [step, readDerivedAttributes, hleave]
  | _ => cases hs

end Entity

section RightHandSide

variable {token : Token} (hend : Text.endsWith token ';' = true) (w : Workspace)
include hend

/-- A token with a semicolon at its end is no keyword without one. -/
lemma is_eq_false_of_semicolon {k : String} (hk : ';' ∉ k.toList.map Char.toLower) :
    token.is k = false :=
  Token.is_eq_false_of_mem (c := ';') (List.mem_of_getLast? (of_decide_eq_true hend)) hk

/-- At the start of a right-hand side every way that such a token may go ends it. -/
lemma step_typeBody_semicolon (type : TypeId) : ((typeBody type).step token w).1 = topLevel := by
  have hselect : token.is "SELECT" = false := is_eq_false_of_semicolon hend (by decide)
  have henumeration : token.is "ENUMERATION" = false := is_eq_false_of_semicolon hend (by decide)
  simp only [step, readTypeBody, hselect, henumeration, hend, Bool.false_eq_true, if_false, if_true]
  split_ifs
  · rfl
  · split <;> rfl
  · rfl

theorem step_semicolon {s : State} {type : TypeId} (hs : s.rightHandSide? = some type)
    (hne : s ≠ enumerationOf type) : (s.step token w).1 = topLevel := by
  cases s with
  | typeBody own => exact step_typeBody_semicolon hend w own
  | enumerationOf own => exact absurd (congrArg enumerationOf (Option.some.inj hs)) hne
  | selectMembers own => simp [step, readSelectMembers, hend]
  | enumerationValues own => simp [step, readEnumerationValues, hend]
  | aggregateText own text => simp [step, readAggregate, hend]
  | _ => cases hs

end RightHandSide

/-- After `ENUMERATION` every token but `OF` is dropped. -/
lemma step_enumerationOf_stays {token : Token} (h : token.is "OF" = false) (type : TypeId)
    (w : Workspace) : (enumerationOf type).step token w = (enumerationOf type, w) := by
  simp [step, readEnumerationOf, h]

/-! ## What follows -/

/-- Once a token has led between declarations, the tokens after it are read from there. -/
lemma agree_feedAll_of_step {s : State} {tokens : List Token} {token : Token} {w : Workspace}
    (h : ((s.feedAll tokens w).1.step token (s.feedAll tokens w).2).1 = topLevel)
    (rest : List Token) :
    Agree (s.feedAll (tokens ++ token :: rest) w)
      (topLevel.feedAll rest ((s.feedAll tokens w).1.step token (s.feedAll tokens w).2).2) := by
  have hsteps := agree_feedAll_stepAll (s.feedAll tokens w).1 (token :: rest)
    (w := (s.feedAll tokens w).2) rfl
  rw [stepAll_cons, h] at hsteps
  have hrest := agree_feedAll_stepAll topLevel rest
    (w := ((s.feedAll tokens w).1.step token (s.feedAll tokens w).2).2) rfl
  rw [feedAll_append]
  exact ⟨hsteps.state.trans hrest.state.symm, hsteps.schema.trans hrest.schema.symm⟩

/-- Whatever tokens have led into an entity, the word that ends it leads between declarations,
leaves the workspace alone, and what follows is read from there.  Right after `SUBTYPE` it leads
between the clauses of the same entity instead. -/
theorem entityEnd_closes (tokens : List Token) (w : Workspace) {entity : EntityId}
    (h : (topLevel.feedAll tokens w).1.entity? = some entity) {token : Token}
    (htoken : token.is entityEnd = true) :
    let read := topLevel.feedAll tokens w
    (read.1 ≠ subtypeOf entity → read.1.step token read.2 = (topLevel, read.2) ∧
        ∀ rest, Agree (topLevel.feedAll (tokens ++ token :: rest) w)
          (topLevel.feedAll rest read.2)) ∧
      (read.1 = subtypeOf entity → read.1.step token read.2 = (entityBody entity, read.2)) := by
  dsimp only
  refine ⟨fun hne => ?_, fun heq => ?_⟩
  · have hstep := step_entityEnd htoken (topLevel.feedAll tokens w).2 h hne
    refine ⟨hstep, fun rest => ?_⟩
    have hagree := agree_feedAll_of_step (congrArg Prod.fst hstep) rest
    rwa [hstep] at hagree
  · rw [heq]
    exact step_subtypeOf_entityEnd htoken _ entity

/-- An inverse that breaks off inside its bounds. -/
def brokenInverse : List Token := Token.ofLine "ENTITY A; INVERSE x : SET [0:"

theorem entityEnd_closes_brokenInverse :
    (topLevel.feedAll brokenInverse {}).1.entity? = some ⟨0⟩ ∧
      Token.is "End_Entity;".toList entityEnd = true ∧
      Agree (topLevel.feedAll (brokenInverse ++ Token.ofLine "End_Entity; TYPE T = REAL;") {})
        (topLevel.feedAll (Token.ofLine "TYPE T = REAL;") (topLevel.feedAll brokenInverse {}).2) := by
  have hentity : (topLevel.feedAll brokenInverse {}).1.entity? = some ⟨0⟩ := by decide +kernel
  have htoken : Token.is "End_Entity;".toList entityEnd = true := by decide +kernel
  have hne : (topLevel.feedAll brokenInverse {}).1 ≠ subtypeOf ⟨0⟩ := by decide +kernel
  have htokens : Token.ofLine "End_Entity; TYPE T = REAL;" =
      "End_Entity;".toList :: Token.ofLine "TYPE T = REAL;" := by decide +kernel
  refine ⟨hentity, htoken, ?_⟩
  rw [htokens]
  exact ((entityEnd_closes brokenInverse {} hentity htoken).1 hne).2 _

/-- Where `SUBTYPE` has been read and no `OF`, the end of an entity is dropped, and the entity after
it is read as an attribute. -/
theorem entityEnd_dropped_afterSubtype :
    (topLevel.feedAll (Token.ofLine "ENTITY A; SUBTYPE") {}).1 = subtypeOf ⟨0⟩ ∧
      (topLevel.feedAll (Token.ofLine "ENTITY A; SUBTYPE END_ENTITY;") {}).1 ≠ topLevel ∧
      ((topLevel.feedAll (Token.ofLine "ENTITY A; SUBTYPE END_ENTITY; ENTITY B; END_ENTITY;")
          {}).2.schema.entities.values.map fun e => (e.name, e.attributes.map (·.name))) =
        [("A", ["ENTITY"])] := by
  decide +kernel

/-- Whatever tokens have led to the right-hand side of a type, a token with a semicolon at its end
leads between declarations, and what follows is read from there.  After `ENUMERATION` such a token
is dropped instead, and so is everything that follows up to the next `OF`. -/
theorem semicolon_closes (tokens : List Token) (w : Workspace) {type : TypeId}
    (h : (topLevel.feedAll tokens w).1.rightHandSide? = some type) {token : Token}
    (hend : Text.endsWith token ';' = true) :
    let read := topLevel.feedAll tokens w
    (read.1 ≠ enumerationOf type → (read.1.step token read.2).1 = topLevel ∧
        ∀ rest, Agree (topLevel.feedAll (tokens ++ token :: rest) w)
          (topLevel.feedAll rest (read.1.step token read.2).2)) ∧
      (read.1 = enumerationOf type → ∀ rest, (∀ t ∈ rest, t.is "OF" = false) →
        read.1.stepAll (token :: rest) read.2 = (enumerationOf type, read.2)) := by
  dsimp only
  refine ⟨fun hne => ?_, fun heq rest hrest => ?_⟩
  · have hstep := step_semicolon hend (topLevel.feedAll tokens w).2 h hne
    exact ⟨hstep, agree_feedAll_of_step hstep⟩
  · have hof : token.is "OF" = false := is_eq_false_of_semicolon hend (by decide)
    rw [heq]
    refine stepAll_of_stays _ fun t ht => step_enumerationOf_stays ?_ type _
    rcases List.mem_cons.1 ht with rfl | ht
    · exact hof
    · exact hrest t ht

/-- A select whose members are not closed by a parenthesis. -/
def openSelect : List Token := Token.ofLine "TYPE T = SELECT ( A ,"

theorem semicolon_closes_openSelect :
    (topLevel.feedAll openSelect {}).1.rightHandSide? = some ⟨0⟩ ∧
      Text.endsWith "B;".toList ';' = true ∧
      Agree (topLevel.feedAll (openSelect ++ Token.ofLine "B; ENTITY E; END_ENTITY;") {})
        (topLevel.feedAll (Token.ofLine "ENTITY E; END_ENTITY;")
          ((topLevel.feedAll openSelect {}).1.step "B;".toList
            (topLevel.feedAll openSelect {}).2).2) := by
  have htype : (topLevel.feedAll openSelect {}).1.rightHandSide? = some ⟨0⟩ := by decide +kernel
  have hend : Text.endsWith "B;".toList ';' = true := by decide +kernel
  have hne : (topLevel.feedAll openSelect {}).1 ≠ enumerationOf ⟨0⟩ := by decide +kernel
  have htokens : Token.ofLine "B; ENTITY E; END_ENTITY;" =
      "B;".toList :: Token.ofLine "ENTITY E; END_ENTITY;" := by decide +kernel
  refine ⟨htype, hend, ?_⟩
  rw [htokens]
  exact ((semicolon_closes openSelect {} htype hend).1 hne).2 _

/-- Where `OF` is written together with the values, an enumeration does not end at its semicolon,
and the entity after it is dropped. -/
theorem semicolon_dropped_afterEnumeration :
    (topLevel.feedAll (Token.ofLine "TYPE T = ENUMERATION") {}).1 = enumerationOf ⟨0⟩ ∧
      (topLevel.feedAll (Token.ofLine "TYPE T = ENUMERATION OF(A,B);") {}).1 ≠ topLevel ∧
      (topLevel.feedAll (Token.ofLine "TYPE T = ENUMERATION OF(A,B); ENTITY E; END_ENTITY;")
        {}).2.schema.entities.keys = [] := by
  decide +kernel

end State
end ExpressSchema
