/-
# The first listing of a sibling

Reading a schema carries out operations on the index of siblings, token by token
(`State.siblingOperations`), and reports a duplicate for each addition of a member that is in the
index already.  So there are as many such reports as there are additions, less the number of names
(`siblings_keepFirst`).
-/
import ExpressSchema.Proofs.Loading.LineEnding
import ExpressSchema.Proofs.Reading.MemberLists
import ExpressSchema.Proofs.Reading.Reports
import ExpressSchema.Proofs.Resolution.Problems
import ExpressSchema.Proofs.Siblings.Operations

namespace ExpressSchema

open SiblingIndex (Operation additions keysOf)

/-! ## Reading -/

namespace State

/-- The members that a token lists where the members of a group are read. -/
def membersListed (entity : EntityId) (token : Token) : List String :=
  if (leaveClause? entity token).isSome then [] else token.names

/-- The operations on the index that a token comes to, by the state in which it is read: the word
that opens a group may have members written together with it. -/
def siblingOperations (index : SiblingIndex) (token : Token) : State → List Operation
  | siblings entity set => (membersListed entity token).map (.add set)
  | subtypeClause entity =>
    if (leaveClause? entity token).isNone ∧ Text.sameLetters (token.take oneOf.length) oneOf then
      .openSet ::
        (membersListed entity (token.drop oneOf.length)).map (.add index.openSet.1)
    else []
  | _ => []

/-- The operations on the index that several tokens come to. -/
def siblingOperationsOf (state : State) : List Token → Workspace → List Operation
  | [], _ => []
  | token :: tokens, w =>
    state.siblingOperations w.schema.siblings token ++
      (state.step token w).1.siblingOperationsOf tokens (state.step token w).2

end State

namespace Schema

/-- What the operations make of a schema: each addition is new to the index or reported. -/
structure ListsBy (operations : List Operation) (s t : Schema) : Prop where
  issued : s.siblings.Issued operations
  siblings : t.siblings = s.siblings.after operations
  told : t.countDiagnostics .duplicateSibling + t.siblings.byMember.size =
    s.countDiagnostics .duplicateSibling + s.siblings.byMember.size + (additions operations).length

namespace ListsBy

variable {s t u : Schema} {xs ys : List Operation}

lemma nothing (hsiblings : t.siblings = s.siblings)
    (hcount : t.countDiagnostics .duplicateSibling = s.countDiagnostics .duplicateSibling) :
    ListsBy [] s t :=
  ⟨trivial, hsiblings, by rw [hsiblings, hcount]; rfl⟩

lemma trans (h : ListsBy xs s t) (h' : ListsBy ys t u) : ListsBy (xs ++ ys) s u where
  issued := SiblingIndex.issued_append.2 ⟨h.issued, h.siblings ▸ h'.issued⟩
  siblings := by rw [h'.siblings, h.siblings, SiblingIndex.after_append]
  told := by
    rw [h'.told, h.told, SiblingIndex.additions_append, List.length_append, Nat.add_assoc]

end ListsBy
end Schema

namespace State

variable (token : Token) (w : Workspace) (entity : EntityId)

lemma listsBy_addSibling {set : SiblingSetId} (hset : set.index < w.schema.siblings.sets.length)
    (member : String) :
    Schema.ListsBy [.add set member] w.schema (addSibling set w member).schema := by
  have hsiblings : (addSibling set w member).schema.siblings =
      (w.schema.siblings.add set member).2 := by
    unfold addSibling
    dsimp only
    split_ifs <;> rfl
  refine ⟨⟨hset, trivial⟩, hsiblings, ?_⟩
  rw [hsiblings]
  by_cases hknown : Name.canonical member ∈ w.schema.siblings.byMember.keys
  · have hcontains : w.schema.siblings.byMember.contains (Name.canonical member) = true :=
      Table.contains_iff.2 hknown
    have hreport : (addSibling set w member).schema.diagnostics =
        w.schema.diagnostics ++ [Problem.siblingTwice member].map Problem.toDiagnostic := by
      simp [addSibling, SiblingIndex.add, hcontains]
    rw [SiblingIndex.byMember_add_of_mem hknown, Schema.countDiagnostics_of_diagnostics_eq hreport]
    exact Nat.add_right_comm _ _ _
  · have hcontains : w.schema.siblings.byMember.contains (Name.canonical member) = false := by
      simpa [Bool.eq_false_iff] using hknown
    have hnone : (addSibling set w member).schema.diagnostics =
        w.schema.diagnostics ++ [].map Problem.toDiagnostic := by
      simp [addSibling, SiblingIndex.add, hcontains]
    have hsize : (w.schema.siblings.byMember.insert (Name.canonical member) set).size =
        w.schema.siblings.byMember.size + 1 := by
      rw [Table.size, Table.entries_insert hknown, List.length_append]
      rfl
    rw [SiblingIndex.byMember_add_of_notMem hknown, Schema.countDiagnostics_of_diagnostics_eq hnone,
      hsize]
    rfl

lemma listsBy_foldl_addSibling {set : SiblingSetId} (members : List String)
    (hset : set.index < w.schema.siblings.sets.length) :
    Schema.ListsBy (members.map (.add set)) w.schema (members.foldl (addSibling set) w).schema := by
  induction members generalizing w with
  | nil => exact .nothing rfl rfl
  | cons member members ih =>
    have hadd := listsBy_addSibling w hset member
    refine hadd.trans (ih (addSibling set w member) ?_)
    rw [hadd.siblings]
    exact hset.trans_eq (List.length_modify _ _ _).symm

lemma listsBy_readSiblings {set : SiblingSetId}
    (hset : set.index < w.schema.siblings.sets.length) :
    Schema.ListsBy ((membersListed entity token).map (.add set)) w.schema
      (readSiblings entity set token w).2.schema := by
  unfold readSiblings membersListed
  cases leaveClause? entity token with
  | some next => exact .nothing rfl rfl
  | none =>
    have hmembers := listsBy_foldl_addSibling w token.names hset
    dsimp only
    simp only [Option.isSome_none, Bool.false_eq_true, if_false]
    split
    · rw [← List.append_nil (List.map _ _)]
      exact hmembers.trans (.nothing rfl rfl)
    · exact hmembers

lemma listsBy_openGroup : Schema.ListsBy [.openSet] w.schema (openGroup w).schema where
  issued := trivial
  siblings := rfl
  told := rfl

lemma listsBy_subtypeClause :
    Schema.ListsBy ((subtypeClause entity).siblingOperations w.schema.siblings token) w.schema
      (readSubtypeClause entity token w).2.schema := by
  cases hleave : leaveClause? entity token with
  | some next =>
    simp only [readSubtypeClause, siblingOperations, hleave]
    exact .nothing rfl rfl
  | none =>
    by_cases hopens : Text.sameLetters (token.take oneOf.length) oneOf = true
    · have hset : w.schema.siblings.openSet.1.index <
          (openGroup w).schema.siblings.sets.length :=
        w.schema.siblings.index_openSet_lt
      have hmembers := (listsBy_openGroup w).trans
        (listsBy_readSiblings (token.drop oneOf.length) (openGroup w) entity hset)
      simp only [readSubtypeClause, siblingOperations, hleave, hopens]
      -- a word that stands alone opens the group, and no member is listed with it
      cases hrest : token.drop oneOf.length with
      | nil => exact listsBy_openGroup w
      | cons c rest =>
        rw [hrest] at hmembers
        exact hmembers
    · simp only [readSubtypeClause, siblingOperations, hleave, hopens, Bool.false_eq_true,
        and_false, if_false]
      split <;> exact .nothing rfl rfl

/-- Outside the clauses about subtypes no sibling is listed. -/
lemma Touches.siblings_eq {state : State} {s t : Schema} (h : Touches s state t)
    (hstate : state.isAmongSubtypes = false) : t.siblings = s.siblings := by
  cases h with
  | intoEntity _ _ hsiblings => exact hsiblings.resolve_left (by simp [hstate])
  | _ => rfl

/-- A token that is not read among subtypes lists no sibling and reports none. -/
lemma listsBy_of_not_isAmongSubtypes {state : State} (h : state.isAmongSubtypes = false) :
    Schema.ListsBy [] w.schema (state.step token w).2.schema := by
  refine .nothing ?_ ?_
  · exact (touches_step token w state).siblings_eq h
  · obtain ⟨ps, hps, hdiagnostics⟩ := reports_step token w state
    have hkinds : .duplicateSibling ∉ state.reportedKinds := by
      cases state <;> simp_all [isAmongSubtypes, reportedKinds]
    have hnone : countProblems .duplicateSibling ps = 0 :=
      countProblems_eq_zero fun p hp heq => hkinds (heq ▸ hps p hp)
    rw [Schema.countDiagnostics_of_diagnostics_eq hdiagnostics, hnone, Nat.add_zero]

lemma listsBy_step {state : State} (hheld : state.Held w.schema) :
    Schema.ListsBy (state.siblingOperations w.schema.siblings token) w.schema
      (state.step token w).2.schema := by
  cases state with
  | siblings entity set => exact listsBy_readSiblings token w entity hheld.2
  | subtypeClause entity => exact listsBy_subtypeClause token w entity
  | _ => exact listsBy_of_not_isAmongSubtypes token w rfl

lemma listsBy_stepAll (tokens : List Token) {state : State} (hheld : state.Held w.schema) :
    Schema.ListsBy (state.siblingOperationsOf tokens w) w.schema
      (state.stepAll tokens w).2.schema := by
  induction tokens generalizing state w with
  | nil => exact .nothing rfl rfl
  | cons token tokens ih =>
    exact (listsBy_step token w hheld).trans (ih _ (reads_step token w hheld).held)

end State

/-! ## Reading and loading -/

/-- What can be told of the siblings of a schema from the operations that reading came to. -/
structure Schema.SiblingsTold (operations : List Operation) (s : Schema) : Prop where
  /-- Every sibling counts as a member of the group that listed it first. -/
  firstListing : SiblingIndex.FirstListing operations s.siblings
  /-- Each addition is reported but the first one of each name. -/
  duplicates : s.countDiagnostics .duplicateSibling +
    (keysOf (additions operations)).eraseDups.length = (additions operations).length

/-- Resolution lists no siblings and reports none. -/
lemma Schema.SiblingsTold.resolve {operations : List Operation} {s : Schema}
    (h : s.SiblingsTold operations) : s.resolve.SiblingsTold operations where
  firstListing := by
    rw [s.siblings_resolve]
    exact h.firstListing
  duplicates := by
    have hkinds : ∀ p ∈ s.supertypeProblems ++ s.laterProblems, p.kind ≠ .duplicateSibling := by
      intro p hp heq
      rcases List.mem_append.1 hp with hp | hp
      · rcases kind_of_mem_supertypeProblems hp with h | h <;> rw [heq] at h <;> cases h
      · rcases kind_of_mem_laterProblems hp with h | h | h | h <;> rw [heq] at h <;> cases h
    rw [countDiagnostics_of_diagnostics_eq s.diagnostics_resolve, countProblems_eq_zero hkinds]
    exact h.duplicates

lemma State.siblingsTold_stepAll (tokens : List Token) :
    Schema.SiblingsTold (State.topLevel.siblingOperationsOf tokens {})
      (State.topLevel.stepAll tokens {}).2.schema := by
  have hstart : State.topLevel.Held ({} : Schema) := trivial
  have hlists := State.listsBy_stepAll {} tokens hstart
  have hfirst := SiblingIndex.firstListing_after hlists.issued
  rw [← hlists.siblings] at hfirst
  refine ⟨hfirst, ?_⟩
  rw [← hfirst.keys, Table.length_keys, hlists.told]
  exact Nat.zero_add _

/-- In the index of siblings a member stays with the group to which it was added first, whatever is
opened and added in whatever order.  The keys are the different canonical forms in the order of
first addition, each of them leads to a group with such a member, an addition is answered in the
negative just when its key is there, and every key is listed once.  Any tokens that are read, and
any lines that are loaded with references resolved or not, come to such operations, and of the
members that they add as many are reported as are not the first of their name. -/
theorem siblings_keepFirst :
    (∀ operations, SiblingIndex.Issued {} operations →
      SiblingIndex.FirstListing operations (SiblingIndex.after {} operations)) ∧
    (∀ (tokens : List Token) (builtins : Catalogue),
      Schema.SiblingsTold (State.topLevel.siblingOperationsOf tokens {})
        (State.topLevel.feedAll tokens { builtins := builtins }).2.schema) ∧
    ∀ (settings : LoadSettings) (builtins : Catalogue) (lines : List (List Char)),
      Schema.SiblingsTold (State.topLevel.siblingOperationsOf (settings.tokens lines) {})
        (Load.lines settings builtins lines).schema := by
  have hread : ∀ (tokens : List Token) (builtins : Catalogue),
      (State.topLevel.feedAll tokens { builtins := builtins }).2.schema =
        (State.topLevel.stepAll tokens {}).2.schema := fun tokens builtins => by
    have hstart : ({ builtins := builtins } : Workspace).schema = ({} : Workspace).schema := rfl
    exact (State.agree_feedAll_stepAll .topLevel tokens hstart).schema
  refine ⟨fun operations h => SiblingIndex.firstListing_after h, fun tokens builtins => ?_,
    fun settings builtins lines => ?_⟩
  · rw [hread]
    exact State.siblingsTold_stepAll tokens
  · rw [Load.schema_lines, LoadSettings.read_eq_feedAll, hread]
    split_ifs
    · exact (State.siblingsTold_stepAll _).resolve
    · exact State.siblingsTold_stepAll _

/-- Two groups, and a name in each of them in two spellings. -/
def twoGroups : List Operation :=
  [.openSet, .add ⟨0⟩ "A", .openSet, .add ⟨1⟩ "(a)", .add ⟨1⟩ "B", .add ⟨0⟩ "b;"]

theorem siblings_keepFirst_twoGroups :
    SiblingIndex.Issued {} twoGroups ∧
      SiblingIndex.FirstListing twoGroups (SiblingIndex.after {} twoGroups) := by
  have hissued : SiblingIndex.Issued {} twoGroups :=
    ⟨by decide, by decide, by decide, by decide, trivial⟩
  exact ⟨hissued, siblings_keepFirst.1 twoGroups hissued⟩

end ExpressSchema
