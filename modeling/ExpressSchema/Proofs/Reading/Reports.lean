/-
# What a token is reported for

Of what is wrong in a schema, reading reports what can be told on the spot.  Each state of the
reader has its own kinds of problems, most have none at all, and a token adds problems of these
kinds and takes none away (`reports_step`).
-/
import ExpressSchema.Proofs.Reading.Writes

namespace ExpressSchema

/-- The one schema has the diagnostics of the other one, and after them any number of these
kinds. -/
def Schema.Reports (kinds : List DiagnosticKind) (s t : Schema) : Prop :=
  ∃ ps : List Problem, (∀ p ∈ ps, p.kind ∈ kinds) ∧
    t.diagnostics = s.diagnostics ++ ps.map Problem.toDiagnostic

namespace Schema.Reports

variable {kinds : List DiagnosticKind} {s t u : Schema}

lemma nothing (h : t.diagnostics = s.diagnostics) : s.Reports kinds t :=
  ⟨[], List.forall_mem_nil _, by rw [h, List.map_nil, List.append_nil]⟩

lemma problem {p : Problem} (hp : p.kind ∈ kinds) (h : t = s.reportAll [p]) : s.Reports kinds t :=
  ⟨[p], List.forall_mem_singleton.2 hp, by rw [h]; rfl⟩

lemma trans (h : s.Reports kinds t) (h' : t.Reports kinds u) : s.Reports kinds u := by
  obtain ⟨ps, hps, hs⟩ := h
  obtain ⟨qs, hqs, ht⟩ := h'
  exact ⟨ps ++ qs, List.forall_mem_append.2 ⟨hps, hqs⟩, by
    rw [ht, hs, List.map_append, List.append_assoc]⟩

end Schema.Reports

namespace State

/-- The kinds of problems that a token may be reported for, by the state in which it is read. -/
def reportedKinds : State → List DiagnosticKind
  | attributeRange _ _ => [.nestedListUnsupported, .malformedCardinality]
  | firstSupertype _ | furtherSupertypes _ => [.multipleSupertypes]
  | subtypeClause _ | siblings _ _ => [.duplicateSibling]
  | inverseRange _ _ => [.malformedCardinality]
  | uniqueName _ => [.multiNameUnique]
  | _ => []

variable (token : Token) (w : Workspace) (entity : EntityId)

/-- Outside entities nothing is reported. -/
lemma Touches.diagnostics_eq {state : State} {s t : Schema} (h : Touches s state t)
    (hstate : state.entity? = none) : t.diagnostics = s.diagnostics := by
  cases h with
  | intoEntity hentity =>
    rw [hstate] at hentity
    cases hentity
  | _ => rfl

/-! ## The states that report -/

lemma reports_attribute (draft : AttributeDraft) :
    w.schema.Reports (attributeRange entity draft).reportedKinds
      (readAttribute entity draft token w).2.schema := by
  have hlist : .nestedListUnsupported ∈ (attributeRange entity draft).reportedKinds :=
    List.mem_cons_self
  have hbounds : .malformedCardinality ∈ (attributeRange entity draft).reportedKinds :=
    List.mem_cons_of_mem _ List.mem_cons_self
  unfold readAttribute
  split_ifs
  · exact .nothing rfl
  · exact .nothing rfl
  · exact .nothing rfl
  · exact .nothing rfl
  · exact .problem (p := .listTooDeep draft.name entity) hlist rfl
  · exact .nothing rfl
  · dsimp only
    unfold readBounds
    split
    · exact .problem (p := .badBounds token.text draft.name) hbounds rfl
    · split
      · exact .problem (p := .boundsTooDeep token.text draft.name) hbounds rfl
      · exact .nothing rfl
  · exact .nothing rfl
  · unfold addAttribute
    dsimp only
    split <;> exact .nothing rfl
  · exact .nothing rfl

lemma reports_firstSupertype :
    w.schema.Reports (firstSupertype entity).reportedKinds
      (readFirstSupertype entity token w).2.schema := by
  unfold readFirstSupertype
  split
  · exact .nothing rfl
  · split
    · exact .nothing rfl
    · rename_i further _
      refine ⟨further.map (.extraSupertype · entity), fun p hp => ?_, ?_⟩
      · obtain ⟨name, -, rfl⟩ := List.mem_map.1 hp
        exact List.mem_cons_self
      · dsimp only
        rw [Workspace.schema_reportAll]
        rfl

lemma reports_furtherSupertypes :
    w.schema.Reports (furtherSupertypes entity).reportedKinds
      (readFurtherSupertypes entity token w).2.schema := by
  unfold readFurtherSupertypes
  split
  · exact .nothing rfl
  · dsimp only
    split
    · exact .nothing rfl
    · exact .problem (p := .extraSupertype _ entity) List.mem_cons_self rfl

lemma reports_foldl_addSibling (set : SiblingSetId) (names : List String) :
    w.schema.Reports [.duplicateSibling] (names.foldl (addSibling set) w).schema := by
  induction names generalizing w with
  | nil => exact .nothing rfl
  | cons name names ih =>
    refine .trans ?_ (ih (addSibling set w name))
    unfold addSibling
    dsimp only
    split_ifs
    · exact .nothing rfl
    · exact ⟨[.siblingTwice name], List.forall_mem_singleton.2 List.mem_cons_self, rfl⟩

lemma reports_readSiblings (set : SiblingSetId) :
    w.schema.Reports [.duplicateSibling] (readSiblings entity set token w).2.schema := by
  unfold readSiblings
  split
  · exact .nothing rfl
  · have hnames := reports_foldl_addSibling w set (Token.names token)
    dsimp only
    split
    · exact hnames.trans (.nothing rfl)
    · exact hnames

lemma reports_subtypeClause :
    w.schema.Reports [.duplicateSibling] (readSubtypeClause entity token w).2.schema := by
  unfold readSubtypeClause
  split
  · exact .nothing rfl
  · split
    · dsimp only
      split
      · exact .nothing rfl
      · exact .trans (.nothing rfl) (reports_readSiblings _ _ entity _)
    · split <;> exact .nothing rfl

lemma reports_inverseRange (draft : InverseDraft) :
    w.schema.Reports (inverseRange entity draft).reportedKinds
      (readInverseRange entity draft token w).2.schema := by
  unfold readInverseRange
  split
  · exact .nothing rfl
  · split_ifs
    · exact .nothing rfl
    · exact .nothing rfl
    · dsimp only
      unfold readInverseBounds
      split
      · exact .nothing rfl
      · exact .problem (p := .badInverseBounds token.text draft.name) List.mem_cons_self rfl
    · exact .nothing rfl
    · exact .nothing rfl

lemma reports_uniqueName :
    w.schema.Reports (uniqueName entity).reportedKinds
      (readUniqueName entity token w).2.schema := by
  unfold readUniqueName
  split
  · exact .nothing rfl
  · unfold markUnique
    dsimp only
    split
    · exact .problem (p := .uniqueOverSeveral entity token.text) List.mem_cons_self rfl
    · exact .nothing rfl

/-! ## Any state -/

/-- In any state a token adds problems of the kinds of the state, and takes none away. -/
theorem reports_step (state : State) :
    w.schema.Reports state.reportedKinds (state.step token w).2.schema := by
  cases state with
  | attributeRange entity draft => exact reports_attribute token w entity draft
  | firstSupertype entity => exact reports_firstSupertype token w entity
  | furtherSupertypes entity => exact reports_furtherSupertypes token w entity
  | siblings entity set => exact reports_readSiblings token w entity set
  | subtypeClause entity => exact reports_subtypeClause token w entity
  | inverseRange entity draft => exact reports_inverseRange token w entity draft
  | uniqueName entity => exact reports_uniqueName token w entity
  | entityBody entity =>
    refine .nothing ?_
    simp only [step, readEntityBody]
    split_ifs <;> rfl
  | subtypeOf entity =>
    refine .nothing ?_
    simp only [step, readSubtypeOf]
    split_ifs <;> rfl
  | derivedAttributes entity =>
    refine .nothing ?_
    simp only [step, readDerivedAttributes]
    split
    · rfl
    · split_ifs <;> rfl
  | inverseName entity name =>
    refine .nothing ?_
    simp only [step, readInverseName]
    split
    · rfl
    · split_ifs
      · rfl
      · rfl
      · rfl
      · split <;> rfl
  | inverseFor entity draft =>
    refine .nothing ?_
    simp only [step, readInverseFor]
    split
    · rfl
    · split_ifs <;> rfl
  | uniqueLabel entity =>
    refine .nothing ?_
    simp only [step, readUniqueLabel]
    split
    · rfl
    · split_ifs <;> rfl
  | domainRules entity => exact .nothing rfl
  | _ => exact .nothing ((touches_step token w _).diagnostics_eq rfl)

end State
end ExpressSchema
