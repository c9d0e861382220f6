/-
# Reading as changes to a workspace

Whatever a token makes of a workspace, it makes by changes, and a built-in type is entered into the
catalogue only if the token names it: as a whole, as far as its first semicolon, or with one of its
parts between commas.  These are the pieces of the token.  A type is settled, or an attribute added,
after its built-in type has been entered.
-/
import ExpressSchema.Proofs.Loading.LineEnding
import ExpressSchema.Proofs.Work.Change

namespace ExpressSchema

/-- The pieces of a token that may name something: the token as a whole, what it has before its
first semicolon, and its parts between commas. -/
def Token.pieces (t : Token) : List (List Char) := t :: t.beforeSemicolon :: t.splitOn ','

/-- A token's names are bare pieces of it. -/
lemma Token.heardIn_of_mem_names {t : Token} {name : String} (h : name ∈ t.names) :
    Name.HeardIn t.pieces name := by
  obtain ⟨bare, hbare, rfl⟩ := List.mem_map.1 h
  obtain ⟨piece, hpiece, rfl⟩ := List.mem_map.1 (List.mem_filter.1 hbare).1
  exact ⟨piece, List.mem_cons_of_mem _ (List.mem_cons_of_mem _ hpiece), rfl⟩

namespace Builtin

/-- A semicolon at the end makes no difference to the built-in type that is named. -/
lemma ofText?_dropEnd (cs : List Char) : ofText? (Text.dropEnd cs ';') = ofText? cs := by
  cases hend : Text.endsWith cs ';' with
  | false => rw [Text.dropEnd_of_not_endsWith hend]
  | true =>
    obtain ⟨init, rfl⟩ : ∃ init, cs = init ++ [';'] :=
      List.getLast?_eq_some_iff.1 (of_decide_eq_true hend)
    rw [Text.dropEnd_append, ofText?, ofText?]
    simp [Name.bareKeyword, Name.isPunctuation]

/-- Nor does the punctuation that clings to a name. -/
lemma ofText?_bare (cs : List Char) : ofText? (Name.bare cs) = ofText? cs := by
  have hbare : Name.bareKeyword (Name.bare cs) = Name.bareKeyword cs := by
    rw [Name.bareKeyword, Name.bare, List.filter_filter]
    refine List.filter_congr fun c _ => ?_
    cases Name.isPunctuation c <;> simp
  rw [ofText?, hbare, ofText?]

end Builtin

namespace State

open Workspace

variable {heard : List (List Char)} (token : Token) (w : Workspace)

/-! ## Types -/

lemma changes_typeName (type : Option TypeId) :
    Changes heard w (readTypeName type token w).2 := by
  unfold readTypeName
  split
  · exact .declareType w _
  · cases type <;> exact .refl w
  · exact .declareType w _

/-- A type may be settled for anything but a built-in type that has not been entered. -/
lemma changes_settleType (type : TypeId) {underlying : UnderlyingType}
    (h : ∀ b, underlying = .builtin b → w.builtins.contains b = true) :
    Changes heard w (settleType type underlying w) :=
  .modifyType w type (fun _ b hb => .inr (h b hb)) fun _ _ => .inl

lemma changes_typeBody (type : TypeId) :
    Changes token.pieces w (readTypeBody type token w).2 := by
  unfold readTypeBody
  dsimp only
  split_ifs
  · exact changes_settleType w type fun _ h => UnderlyingType.noConfusion h
  · exact changes_settleType w type fun _ h => UnderlyingType.noConfusion h
  · exact (Changes.canonical w _).trans
      (changes_settleType _ type fun _ h => UnderlyingType.noConfusion h)
  · exact .canonical w _
  · split
    · rename_i b hb
      have hnamed : b.NamedIn token.pieces :=
        ⟨token, List.mem_cons_self, Builtin.ofText?_dropEnd token ▸ hb⟩
      refine (Changes.single (.register w b hnamed)).trans
        (changes_settleType _ type fun a ha => ?_)
      obtain rfl := UnderlyingType.builtin.inj ha
      exact contains_register_self w b
    · exact (Changes.canonical w _).trans
        (changes_settleType _ type fun _ h => UnderlyingType.noConfusion h)
  · exact changes_settleType w type fun _ h => UnderlyingType.noConfusion h

lemma changes_selectMembers (type : TypeId) :
    Changes token.pieces w (readSelectMembers type token w).2 := by
  have hmembers : Changes token.pieces w
      (w.modifyType type fun t => { t with members := t.members ++ token.names }) :=
    .modifyType w type (fun _ _ => .inl) fun _ _ hm =>
      (List.mem_append.1 hm).imp_right Token.heardIn_of_mem_names
  unfold readSelectMembers
  dsimp only
  split_ifs <;> exact hmembers

lemma changes_enumerationValues (type : TypeId) :
    Changes heard w (readEnumerationValues type token w).2 := by
  have hvalues : Changes heard w ((w.canonicalAll token.names).2.modifyType type fun t =>
      { t with values := t.values ++ (w.canonicalAll token.names).1 }) :=
    (Changes.canonicalAll w _).trans (.modifyType _ type (fun _ _ => .inl) fun _ _ => .inl)
  unfold readEnumerationValues
  dsimp only
  split_ifs <;> exact hvalues

lemma changes_aggregate (type : TypeId) (text : String) :
    Changes heard w (readAggregate type text token w).2 := by
  unfold readAggregate
  dsimp only
  split_ifs
  · exact changes_settleType w type fun _ h => UnderlyingType.noConfusion h
  · exact .refl w

/-! ## Entities -/

lemma changes_entityName : Changes heard w (readEntityName token w).2 :=
  (Changes.declareEntity w _).trans (.record _ Level.noConfusion)

section Entity

variable (entity : EntityId)

lemma changes_entityBody : Changes heard w (readEntityBody entity token w).2 := by
  unfold readEntityBody
  split_ifs
  · exact .refl w
  · exact .refl w
  · exact .modifyEntity w entity fun _ => rfl
  · exact .refl w
  · exact .refl w
  · exact .refl w
  · exact .refl w
  · exact .refl w
  · exact .refl w

lemma changes_derivedAttributes : Changes heard w (readDerivedAttributes entity token w).2 := by
  unfold readDerivedAttributes
  split
  · exact .refl w
  · split_ifs <;> exact .refl w

/-! ### Attributes -/

/-- The built-in type of an attribute is the one that its range names. -/
lemma builtin_finish (draft : AttributeDraft) (range : List Char) :
    (draft.finish entity range).builtin = Builtin.ofText? range := by
  unfold AttributeDraft.finish
  cases Builtin.ofText? range <;> rfl

/-- An attribute is added after its built-in type has been entered, if it has one. -/
lemma changes_addAttribute {a : Attribute}
    (h : ∀ b, a.builtin = some b → b.NamedIn heard) :
    Changes heard w (addAttribute entity a w) := by
  have hadd : ∀ w : Workspace, (∀ b, a.builtin = some b → w.builtins.contains b = true) →
      Changes heard w
        (w.modifyEntity entity fun e => { e with attributes := e.attributes ++ [a] }) := by
    intro w hused
    refine .update (.entities _ fun e he a' ha' b hb => ?_)
    rcases Table.mem_values_modifyAt he with hold | ⟨e', hold, rfl⟩
    · exact .inl (Schema.mem_attributeBuiltins.2 ⟨e, hold, a', ha', hb⟩)
    · rcases List.mem_append.1 ha' with ha' | ha'
      · exact .inl (Schema.mem_attributeBuiltins.2 ⟨e', hold, a', ha', hb⟩)
      · obtain rfl := List.mem_singleton.1 ha'
        exact .inr (hused b hb)
  unfold addAttribute
  cases hbuiltin : a.builtin with
  | none => exact hadd w fun b hb => nomatch hbuiltin.symm.trans hb
  | some b =>
    refine (Changes.single (.register w b (h b hbuiltin))).trans (hadd _ fun b' hb' => ?_)
    obtain rfl := Option.some.inj (hbuiltin.symm.trans hb')
    exact contains_register_self w b

lemma changes_readBounds (draft : AttributeDraft) :
    Changes heard w (readBounds draft token w).2 := by
  unfold readBounds
  split
  · exact .report w _
  · split
    · exact .report w _
    · exact .refl w

lemma changes_attribute (draft : AttributeDraft) :
    Changes token.pieces w (readAttribute entity draft token w).2 := by
  unfold readAttribute
  split_ifs
  · exact .refl w
  · exact .refl w
  · exact .refl w
  · exact .refl w
  · exact .report w _
  · exact .refl w
  · exact changes_readBounds token w draft
  · exact .refl w
  · refine changes_addAttribute w entity fun b hb => ?_
    rw [builtin_finish] at hb
    exact ⟨token.beforeSemicolon, List.mem_cons_of_mem _ List.mem_cons_self, hb⟩
  · exact .refl w

/-! ### Supertypes and subtypes -/

lemma changes_subtypeOf : Changes heard w (readSubtypeOf entity token w).2 := by
  unfold readSubtypeOf
  split_ifs <;> exact .refl w

lemma changes_firstSupertype : Changes heard w (readFirstSupertype entity token w).2 := by
  unfold readFirstSupertype
  by_cases hend : token.is entityEnd
  · rw [if_pos hend]
    exact .refl w
  · rw [if_neg hend]
    split
    · exact .refl w
    · rename_i first further _
      have hsupertype : Changes heard w
          (w.modifyEntity entity fun e => { e with supertype := some first }) :=
        .modifyEntity w entity fun _ => rfl
      exact hsupertype.trans (.reportAll _ _)

lemma changes_furtherSupertypes : Changes heard w (readFurtherSupertypes entity token w).2 := by
  unfold readFurtherSupertypes
  by_cases hend : token.is entityEnd
  · rw [if_pos hend]
    exact .refl w
  · rw [if_neg hend]
    dsimp only
    split_ifs
    · exact .refl w
    · exact .report w _

/-- The index of siblings mentions nothing. -/
lemma changes_updateSiblings (siblings : SiblingIndex) :
    Changes heard w (w.update fun s => { s with siblings := siblings }) :=
  .update (.of_eq rfl rfl rfl rfl rfl)

lemma changes_addSibling (set : SiblingSetId) (member : String) :
    Changes heard w (addSibling set w member) := by
  have hupdate : Changes heard w
      (w.update fun s => { s with siblings := (w.schema.siblings.add set member).2 }) :=
    changes_updateSiblings w _
  unfold addSibling
  dsimp only
  split_ifs
  · exact hupdate
  · exact hupdate.trans (.report _ _)

lemma changes_siblings (set : SiblingSetId) :
    Changes heard w (readSiblings entity set token w).2 := by
  have hmembers : Changes heard w (token.names.foldl (addSibling set) w) :=
    .foldl (fun w member _ => changes_addSibling w set member) w
  unfold readSiblings
  split
  · exact .refl w
  · dsimp only
    split_ifs
    · exact hmembers.trans (.modifyEntity _ entity fun _ => rfl)
    · exact hmembers.trans (.modifyEntity _ entity fun _ => rfl)
    · exact hmembers

lemma changes_subtypeClause : Changes heard w (readSubtypeClause entity token w).2 := by
  unfold readSubtypeClause
  split
  · exact .refl w
  · split_ifs
    · have hopen : Changes heard w
          (w.update fun s => { s with siblings := w.schema.siblings.openSet.2 }) :=
        changes_updateSiblings w _
      dsimp only
      split
      · exact hopen
      · exact hopen.trans (changes_siblings _ _ entity _)
    · exact .refl w
    · exact .refl w

/-! ### Inverses and uniqueness rules -/

lemma changes_inverseName (name : Option String) :
    Changes heard w (readInverseName entity name token w).2 := by
  unfold readInverseName
  split
  · exact .refl w
  · split_ifs
    · exact .refl w
    · exact .refl w
    · exact .refl w
    · split <;> exact .refl w

lemma changes_readInverseBounds (draft : InverseDraft) :
    Changes heard w (readInverseBounds draft token w).2 := by
  unfold readInverseBounds
  split
  · exact .refl w
  · exact .report w _

lemma changes_inverseRange (draft : InverseDraft) :
    Changes heard w (readInverseRange entity draft token w).2 := by
  unfold readInverseRange
  split
  · exact .refl w
  · split_ifs
    · exact .refl w
    · exact .refl w
    · exact changes_readInverseBounds token w draft
    · exact .refl w
    · exact .refl w

lemma changes_inverseFor (draft : InverseDraft) :
    Changes heard w (readInverseFor entity draft token w).2 := by
  unfold readInverseFor
  split
  · exact .refl w
  · split_ifs
    · exact .modifyEntity w entity fun _ => rfl
    · exact .refl w

lemma changes_uniqueLabel : Changes heard w (readUniqueLabel entity token w).2 := by
  unfold readUniqueLabel
  split
  · exact .refl w
  · split_ifs <;> exact .refl w

/-- An attribute that is marked as unique ranges over what it ranged over before. -/
lemma changes_markUnique : Changes heard w (markUnique entity token w) := by
  unfold markUnique
  split_ifs
  · exact .report w _
  · refine .modifyEntity w entity fun e => ?_
    rw [List.map_map]
    refine List.map_congr_left fun a _ => ?_
    rw [Function.comp_apply]
    split_ifs <;> rfl

lemma changes_uniqueName : Changes heard w (readUniqueName entity token w).2 := by
  unfold readUniqueName
  split
  · exact .refl w
  · exact changes_markUnique token w entity

end Entity

/-! ## Any state -/

lemma changes_schemaName : Changes heard w (readSchemaName token w).2 := by
  unfold readSchemaName
  dsimp only
  split_ifs
  · exact .refl w
  · exact .update (.of_eq rfl rfl rfl rfl rfl)

lemma changes_enumerationOf (type : TypeId) :
    Changes heard w (readEnumerationOf type token w).2 := by
  unfold readEnumerationOf
  split_ifs <;> exact .refl w

/-- What a token makes of a workspace, it makes by changes. -/
theorem changes_step (state : State) : Changes token.pieces w (state.step token w).2 := by
  cases state with
  | topLevel | skipping _ | domainRules _ => exact .refl w
  | schemaName => exact changes_schemaName token w
  | typeName type => exact changes_typeName token w type
  | typeBody type => exact changes_typeBody token w type
  | selectMembers type => exact changes_selectMembers token w type
  | enumerationOf type => exact changes_enumerationOf token w type
  | enumerationValues type => exact changes_enumerationValues token w type
  | aggregateText type text => exact changes_aggregate token w type text
  | entityName => exact changes_entityName token w
  | entityBody entity => exact changes_entityBody token w entity
  | attributeRange entity draft => exact changes_attribute token w entity draft
  | subtypeOf entity => exact changes_subtypeOf token w entity
  | firstSupertype entity => exact changes_firstSupertype token w entity
  | furtherSupertypes entity => exact changes_furtherSupertypes token w entity
  | subtypeClause entity => exact changes_subtypeClause token w entity
  | siblings entity set => exact changes_siblings token w entity set
  | inverseName entity name => exact changes_inverseName token w entity name
  | inverseRange entity draft => exact changes_inverseRange token w entity draft
  | inverseFor entity draft => exact changes_inverseFor token w entity draft
  | uniqueLabel entity => exact changes_uniqueLabel token w entity
  | uniqueName entity => exact changes_uniqueName token w entity
  | derivedAttributes entity => exact changes_derivedAttributes token w entity

/-- That the kind of the state changes is noted in the log, but not as a warning. -/
lemma changes_feed (state : State) : Changes token.pieces w (state.feed token w).2 := by
  have hstep := changes_step token w state
  unfold feed
  dsimp only
  split_ifs
  · exact hstep
  · exact hstep.trans (.record _ Level.noConfusion)

lemma changes_feedAll (tokens : List Token) (state : State) :
    Changes (tokens.flatMap Token.pieces) w (state.feedAll tokens w).2 := by
  induction tokens generalizing state w with
  | nil => exact .refl w
  | cons token tokens ih =>
    rw [List.flatMap_cons, feedAll_cons]
    have hfirst := (changes_feed token w state).mono
      (List.subset_append_left token.pieces (tokens.flatMap Token.pieces))
    exact hfirst.trans ((ih _ _).mono (List.subset_append_right _ _))

end State

/-- What is heard of lines: the pieces of all their tokens. -/
def LoadSettings.heard (settings : LoadSettings) (lines : List (List Char)) : List (List Char) :=
  (settings.tokens lines).flatMap Token.pieces

/-- What reading lines makes of a workspace, it makes by changes. -/
lemma LoadSettings.changes_read (settings : LoadSettings) (builtins : Catalogue)
    (lines : List (List Char)) :
    Workspace.Changes (settings.heard lines) { builtins := builtins }
      (settings.read builtins lines).2 := by
  rw [read_eq_feedAll]
  exact State.changes_feedAll _ _ _

end ExpressSchema
