/-
# Nested aggregates

An attribute may be an aggregate of aggregates, to any depth.  What the reader keeps of the levels
goes into a draft: their number, counted only as far as a byte goes, how the values are put
together, and the bounds of the first two levels.  Each of these, and what is reported on the way,
can be told from the list of the levels (`AttributeDraft.ofLevels`, `problemsFrom`): the first word
decides how the values are put together, but for a list in which a list comes up further in, and
however far the levels go on, the bounds of a third one are never taken for those of the first two.
-/
import ExpressSchema.Proofs.Printing.Leads
import ExpressSchema.Proofs.Reading.Unread

namespace ExpressSchema

/-! ## Levels as they are written -/

/-- Bounds as they are written. -/
structure WrittenBounds where
  /-- The token. -/
  token : Token
  /-- What it says. -/
  value : Bounds
  /-- It says so. -/
  ofText?_eq : Bounds.ofText? token = some value

/-- A level of a nested aggregate as it is written: a word for an aggregate, bounds that may be left
out, and `OF`. -/
structure AggregateLevel where
  /-- Which aggregate it is. -/
  kind : AggregateKind
  /-- The word for it. -/
  word : Spelling kind.keyword
  /-- The bounds, unless they are left out. -/
  bounds : Option WrittenBounds
  /-- The word between the aggregate and what it is made of. -/
  link : Spelling "OF"

namespace AggregateLevel

/-- The tokens of a level. -/
def tokens (l : AggregateLevel) : List Token :=
  l.word.1 :: (l.bounds.toList.map WrittenBounds.token ++ [l.link.1])

/-- Whether a level is a list. -/
def isList (l : AggregateLevel) : Bool := l.kind.aggregation == .list

/-- How the values are put together, given all levels from the outside in: as the first one says,
but a list in which a list comes up is a list of lists. -/
def aggregationOf : List AggregateLevel → Aggregation
  | [] => .scalar
  | first :: further =>
    if first.isList && further.any isList then .listOfList else first.kind.aggregation

/-- The cardinality of a level: the default one, restricted by bounds if there are any. -/
def cardinality (l : AggregateLevel) : Cardinality :=
  l.bounds.elim {} fun b => ({} : Cardinality).restrict b.value

/-- The cardinality of the level at a place, counted from the outside; the default one if there is
no such level. -/
def cardinalityAt (levels : List AggregateLevel) (i : Nat) : Cardinality :=
  levels[i]?.elim {} cardinality

/-- How many lists come up after the second one, if the first level is a list. -/
def excessLists (levels : List AggregateLevel) : Nat :=
  if levels.head?.any isList then levels.countP isList - 2 else 0

/-- The report on the bounds of a level that is too deep for them to be kept. -/
def boundsTooDeep (name : String) (l : AggregateLevel) : List Problem :=
  l.bounds.toList.map fun b => .boundsTooDeep b.token.text name

/-- What is reported of a level that comes after others. -/
def problems (name : String) (entity : EntityId) (before : List AggregateLevel)
    (l : AggregateLevel) : List Problem :=
  (if l.isList ∧ aggregationOf before = .listOfList then [.listTooDeep name entity] else []) ++
    if before.length < 2 then [] else l.boundsTooDeep name

/-- What is reported of levels that come after others. -/
def problemsFrom (name : String) (entity : EntityId) :
    List AggregateLevel → List AggregateLevel → List Problem
  | _, [] => []
  | before, l :: levels =>
    l.problems name entity before ++ problemsFrom name entity (before ++ [l]) levels

/-! ## What can be told from the list -/

/-- The next word changes how the values are put together as it does in a draft. -/
lemma aggregation_aggregate {d : AttributeDraft} (before : List AggregateLevel) (l : AggregateLevel)
    (hd : d.aggregation = aggregationOf before) :
    (d.aggregate l.kind.aggregation).aggregation = aggregationOf (before ++ [l]) := by
  obtain ⟨kind, word, bounds, link⟩ := l
  unfold AttributeDraft.aggregate
  rw [hd]
  cases before with
  | nil => cases kind <;> rfl
  | cons first further =>
    obtain ⟨outer, word', bounds', link'⟩ := first
    cases hlist : further.any isList <;> cases outer <;> cases kind <;>
      simp [aggregationOf, isList, AggregateKind.aggregation, hlist]

lemma cardinalityAt_append (before : List AggregateLevel) (l : AggregateLevel) (i : Nat) :
    cardinalityAt (before ++ [l]) i =
      if i = before.length then l.cardinality else cardinalityAt before i := by
  unfold cardinalityAt
  split_ifs with h
  · rw [h, List.getElem?_concat_length]
    rfl
  · rcases Nat.lt_or_ge i before.length with hlt | hge
    · rw [List.getElem?_append_left hlt]
    · have hlonger : (before ++ [l]).length ≤ i := by
        rw [List.length_append, List.length_singleton]
        omega
      rw [List.getElem?_eq_none hlonger, List.getElem?_eq_none hge]

/-- A list of lists has begun once two levels are lists, and the first one is. -/
lemma aggregationOf_eq_listOfList {levels : List AggregateLevel} :
    aggregationOf levels = .listOfList ↔ levels.head?.any isList ∧ 2 ≤ levels.countP isList := by
  cases levels with
  | nil => simp [aggregationOf]
  | cons first further =>
    have hkind : first.kind.aggregation ≠ .listOfList := by cases first.kind <;> decide
    cases hfirst : first.isList with
    | false => simp [aggregationOf, hfirst, hkind]
    | true =>
      have hfurther : further.any isList = true ↔ 1 ≤ further.countP isList := by
        rw [List.any_eq_true, Nat.one_le_iff_ne_zero, ← Nat.pos_iff_ne_zero, List.countP_pos_iff]
      rw [List.countP_cons_of_pos hfirst, List.head?_cons, Option.any_some, aggregationOf, hfirst,
        Bool.true_and]
      split_ifs with h
      · have hone := hfurther.1 h
        simp only [true_and, true_iff]
        omega
      · have hnone := mt hfurther.2 h
        simp only [hkind, true_and, false_iff]
        omega

lemma excessLists_append (before : List AggregateLevel) (l : AggregateLevel) :
    excessLists (before ++ [l]) =
      excessLists before + if l.isList ∧ aggregationOf before = .listOfList then 1 else 0 := by
  simp only [excessLists, aggregationOf_eq_listOfList]
  cases before with
  | nil => cases h : l.isList <;> simp [h]
  | cons first further =>
    rw [List.cons_append, List.head?_cons, List.head?_cons, ← List.cons_append, List.countP_append,
      List.countP_singleton]
    cases hfirst : first.isList with
    | false => simp [hfirst]
    | true =>
      simp only [Option.any_some, hfirst, if_true, true_and]
      cases l.isList with
      | false => simp
      | true =>
        simp only [true_and, if_true]
        split_ifs <;> omega

lemma excessLists_le_append (before levels : List AggregateLevel) :
    excessLists before ≤ excessLists (before ++ levels) := by
  induction levels generalizing before with
  | nil => rw [List.append_nil]
  | cons l levels ih =>
    rw [List.append_cons]
    refine le_trans ?_ (ih (before ++ [l]))
    rw [excessLists_append]
    exact Nat.le_add_right _ _

/-- What is reported, sorted by what is wrong. -/
lemma perm_problemsFrom (name : String) (entity : EntityId) (before levels : List AggregateLevel) :
    (problemsFrom name entity before levels).Perm
      (List.replicate (excessLists (before ++ levels) - excessLists before)
          (.listTooDeep name entity) ++
        (levels.drop (2 - before.length)).flatMap (boundsTooDeep name)) := by
  induction levels generalizing before with
  | nil => simp [problemsFrom]
  | cons l levels ih =>
    have hrest := ih (before ++ [l])
    have hmono := excessLists_le_append before [l]
    have hmono' := excessLists_le_append (before ++ [l]) levels
    rw [List.append_assoc, List.singleton_append] at hrest hmono'
    have hproblems : l.problems name entity before =
        List.replicate (excessLists (before ++ [l]) - excessLists before)
            (.listTooDeep name entity) ++
          if before.length < 2 then [] else l.boundsTooDeep name := by
      rw [excessLists_append, Nat.add_sub_cancel_left, problems]
      split_ifs <;> rfl
    have hlists : excessLists (before ++ l :: levels) - excessLists before =
        excessLists (before ++ [l]) - excessLists before +
          (excessLists (before ++ l :: levels) - excessLists (before ++ [l])) := by
      omega
    have hbounds : ((l :: levels).drop (2 - before.length)).flatMap (boundsTooDeep name) =
        (if before.length < 2 then [] else l.boundsTooDeep name) ++
          (levels.drop (2 - (before ++ [l]).length)).flatMap (boundsTooDeep name) := by
      rw [List.length_append, List.length_singleton]
      split_ifs with hlt
      · have hsucc : 2 - before.length = 2 - (before.length + 1) + 1 := by omega
        rw [hsucc, List.drop_succ_cons, List.nil_append]
      · have hzero : 2 - before.length = 0 ∧ 2 - (before.length + 1) = 0 := by omega
        rw [hzero.1, hzero.2, List.drop_zero, List.drop_zero, List.flatMap_cons]
    rw [problemsFrom, hproblems, hlists, hbounds, List.replicate_add, List.append_assoc,
      List.append_assoc]
    refine .append_left _ ((hrest.append_left _).trans ?_)
    rw [← List.append_assoc, ← List.append_assoc]
    exact List.perm_append_comm.append_right _

end AggregateLevel

namespace AttributeDraft

open AggregateLevel (aggregationOf cardinalityAt)

/-- What has been read of an attribute up to these levels. -/
def ofLevels (name : String) (isOptional : Bool) (levels : List AggregateLevel) :
    AttributeDraft where
  name := name
  isOptional := isOptional
  aggregation := aggregationOf levels
  depth := UInt8.ofNat (min levels.length 255)
  cardinality := cardinalityAt levels 0
  innerCardinality := cardinalityAt levels 1

variable {name : String} {isOptional : Bool}

/-- The count stands still once it has come to its end, so it never starts over. -/
lemma toNat_depth_ofLevels (levels : List AggregateLevel) :
    (ofLevels name isOptional levels).depth.toNat = min levels.length 255 := by
  rw [ofLevels, UInt8.toNat_ofNat']
  omega

lemma deeper_depth_ofLevels (before : List AggregateLevel) (l : AggregateLevel) :
    deeper (ofLevels name isOptional before).depth =
      (ofLevels name isOptional (before ++ [l])).depth := by
  rw [← UInt8.toNat_inj, toNat_deeper, toNat_depth_ofLevels, toNat_depth_ofLevels,
    List.length_append, List.length_singleton]
  omega

/-- A word for an aggregate is read. -/
lemma aggregate_ofLevels (before : List AggregateLevel) (l : AggregateLevel) :
    (ofLevels name isOptional before).aggregate l.kind.aggregation =
      { ofLevels name isOptional (before ++ [l]) with
        cardinality := cardinalityAt before 0
        innerCardinality := cardinalityAt before 1 } := by
  have hdraft : (ofLevels name isOptional before).aggregate l.kind.aggregation =
      { ofLevels name isOptional before with
        depth := deeper (ofLevels name isOptional before).depth
        aggregation :=
          ((ofLevels name isOptional before).aggregate l.kind.aggregation).aggregation } := rfl
  rw [hdraft, deeper_depth_ofLevels before l, AggregateLevel.aggregation_aggregate before l rfl]
  rfl

/-- Without bounds, and with bounds that are not kept, this is all that is read of a level. -/
lemma aggregate_ofLevels_of_unkept {before : List AggregateLevel} {l : AggregateLevel}
    (h : l.bounds = none ∨ 2 ≤ before.length) :
    (ofLevels name isOptional before).aggregate l.kind.aggregation =
      ofLevels name isOptional (before ++ [l]) := by
  have hsame : ∀ i < 2, cardinalityAt (before ++ [l]) i = cardinalityAt before i := fun i hi => by
    rw [AggregateLevel.cardinalityAt_append]
    split_ifs with hplace
    · have hnone : l.bounds = none := h.resolve_right (by omega)
      rw [hplace, AggregateLevel.cardinalityAt, List.getElem?_eq_none le_rfl,
        AggregateLevel.cardinality, hnone]
      rfl
    · rfl
  rw [aggregate_ofLevels, ← hsame 0 (by decide), ← hsame 1 (by decide)]
  rfl

/-- Bounds are kept in one of two places, each time by the level to which the place belongs. -/
lemma restrict?_ofLevels {before : List AggregateLevel} {l : AggregateLevel} {b : WrittenBounds}
    (hb : l.bounds = some b) :
    ((ofLevels name isOptional before).aggregate l.kind.aggregation).restrict? b.value =
      if before.length < 2 then some (ofLevels name isOptional (before ++ [l])) else none := by
  have hcardinality : l.cardinality = ({} : Cardinality).restrict b.value := by
    rw [AggregateLevel.cardinality, hb]
    rfl
  rw [aggregate_ofLevels, restrict?]
  rcases before with _ | ⟨outer, _ | ⟨inner, further⟩⟩
  · have hfirst : (ofLevels name isOptional ([] ++ [l])).depth = 1 := rfl
    rw [if_pos (by rw [hfirst]; decide), if_pos (by simp)]
    simp [ofLevels, cardinalityAt, hcardinality]
  · have hsecond : (ofLevels name isOptional ([outer] ++ [l])).depth = 2 := rfl
    rw [if_neg (by rw [hsecond]; decide), if_pos hsecond, if_pos (by simp)]
    simp [ofLevels, cardinalityAt, hcardinality]
  · have hdepth : (ofLevels name isOptional (outer :: inner :: further ++ [l])).depth.toNat = _ :=
      toNat_depth_ofLevels _
    rw [List.length_append, List.length_cons, List.length_cons, List.length_singleton] at hdepth
    have hfirst : ¬(ofLevels name isOptional (outer :: inner :: further ++ [l])).depth ≤ 1 := by
      rw [UInt8.le_iff_toNat_le, hdepth, UInt8.toNat_one]
      omega
    have hsecond : (ofLevels name isOptional (outer :: inner :: further ++ [l])).depth ≠ 2 := by
      rw [Ne, ← UInt8.toNat_inj, hdepth]
      have htwo : (2 : UInt8).toNat = 2 := rfl
      omega
    rw [if_neg hfirst, if_neg hsecond, if_neg (by simp)]

end AttributeDraft

/-! ## Bounds -/

namespace Bounds

/-- Bounds stand in brackets. -/
lemma brackets_of_ofText? {token : Token} {b : Bounds} (h : ofText? token = some b) :
    token.head? = some '[' ∧ Text.endsWith token ']' = true := by
  obtain ⟨left, right, rfl, -, -⟩ := ofText?_eq_some_iff.1 h
  have hlast : '[' :: (left ++ ':' :: (right ++ [']'])) =
      ('[' :: (left ++ ':' :: right)) ++ [']'] := by simp
  refine ⟨rfl, ?_⟩
  rw [hlast, Text.endsWith_append]

end Bounds

/-! ## One token -/

namespace State

/-- The words that mean something between the name of an attribute and the end of its range, but for
the one that ends an entity. -/
def attributeWords : List String := ["OPTIONAL", "ARRAY", "SET", "LIST", "SUBTYPE"]

lemma is_attributeWord {token : Token} {k k' : String} (h : token.is k = true)
    (hk : k ∈ entityEnd :: "OF" :: attributeWords)
    (hk' : k' ∈ entityEnd :: "OF" :: attributeWords) :
    token.is k' = decide (k' = k) :=
  Token.is_eq_decide (by decide +kernel) h hk hk'

variable (entity : EntityId) {token : Token} (draft : AttributeDraft) (w : Workspace)

/-- What is no word between the clauses of an entity is the name of an attribute. -/
lemma step_entityBody_name (h : token.isAny clauseWords = false) :
    (entityBody entity).step token w =
      (attributeRange entity { name := String.ofList (Text.dropEnd token ':') }, w) := by
  have hword := Token.isAny_eq_false_iff.1 h
  simp only [clauseWords, List.forall_mem_cons] at hword
  simp [step, readEntityBody, hword, Name.ofProperty]

lemma step_attributeRange_colon :
    (attributeRange entity draft).step [':'] w = (attributeRange entity draft, w) := rfl

lemma step_attributeRange_optional (h : token.is "OPTIONAL" = true) :
    (attributeRange entity draft).step token w =
      (attributeRange entity { draft with isOptional := true }, w) := by
  have hend : token.is entityEnd = false :=
    (is_attributeWord h (by decide) (by decide)).trans (by decide)
  simp [step, readAttribute, h, hend]

/-- The word between an aggregate and what it is made of is passed over. -/
lemma step_attributeRange_of (h : token.is "OF" = true) :
    (attributeRange entity draft).step token w = (attributeRange entity draft, w) := by
  have hend : token.is entityEnd = false :=
    (is_attributeWord h (by decide) (by decide)).trans (by decide)
  have hword : ∀ k ∈ attributeWords, token.is k = decide (k = "OF") :=
    fun k hk => is_attributeWord h (by decide) (List.mem_cons_of_mem _ (List.mem_cons_of_mem _ hk))
  have hsign : ∀ {c : Char}, c.toLower ∉ "OF".toList.map Char.toLower → c ∉ token :=
    fun hc hmem => Bool.false_ne_true ((Token.is_eq_false_of_mem hmem hc).symm.trans h)
  have hbracket : token.head? ≠ some '[' := fun hhead =>
    hsign (c := '[') (by decide) (List.mem_of_head? hhead)
  have hsemicolon : ';' ∉ token := hsign (by decide)
  simp only [attributeWords, List.forall_mem_cons] at hword
  simp [step, readAttribute, hend, hword, hbracket, hsemicolon]

lemma step_attributeRange_aggregate {kind : AggregateKind} (h : token.is kind.keyword = true) :
    (attributeRange entity draft).step token w =
      (attributeRange entity (draft.aggregate kind.aggregation),
        if kind.aggregation = .list ∧ draft.isListOfList then
          w.report (.listTooDeep draft.name entity)
        else w) := by
  have hkeyword : kind.keyword ∈ entityEnd :: "OF" :: attributeWords := by cases kind <;> decide
  have hend : token.is entityEnd = false :=
    (is_attributeWord h hkeyword (by decide)).trans (by cases kind <;> decide)
  have hword : ∀ k ∈ attributeWords, token.is k = decide (k = kind.keyword) :=
    fun k hk => is_attributeWord h hkeyword (List.mem_cons_of_mem _ (List.mem_cons_of_mem _ hk))
  simp only [attributeWords, List.forall_mem_cons] at hword
  cases kind <;>
    simp [step, readAttribute, hend, hword, AggregateKind.keyword, AggregateKind.aggregation]

/-- Bounds are no word. -/
lemma step_attributeRange_bounds (b : WrittenBounds) :
    (attributeRange entity draft).step b.token w =
      match draft.restrict? b.value with
      | some restricted => (attributeRange entity restricted, w)
      | none =>
        (attributeRange entity draft, w.report (.boundsTooDeep b.token.text draft.name)) := by
  obtain ⟨hhead, hlast⟩ := Bounds.brackets_of_ofText? b.ofText?_eq
  have hword : ∀ k ∈ entityEnd :: attributeWords, b.token.is k = false := fun k hk => by
    refine Token.is_eq_false_of_mem (List.mem_of_head? hhead) ?_
    revert k
    decide
  simp only [attributeWords, List.forall_mem_cons] at hword
  simp only [step, readAttribute, hword, hhead, hlast, readBounds, b.ofText?_eq]
  cases draft.restrict? b.value <;> rfl

lemma step_attributeRange_end {range : Token} (hsemicolon : ';' ∉ range)
    (hend : range.is "END_ENTITY" = false) :
    (attributeRange entity draft).step (range ++ [';']) w =
      (entityBody entity, addAttribute entity (draft.finish entity range) w) := by
  have hclose : Token.is (range ++ [';']) entityEnd = false := by
    rw [Token.is_append_semicolon range (k := "END_ENTITY") (by decide), hend]
  have hword : ∀ k ∈ attributeWords, Token.is (range ++ [';']) k = false := fun k hk => by
    refine Token.is_append_eq_false range ?_
    revert k
    decide
  simp only [attributeWords, List.forall_mem_cons] at hword
  simp [step, readAttribute, hclose, hword, Token.beforeSemicolon_append hsemicolon]

/-! ## Levels, one after the other -/

variable (name : String) (isOptional : Bool) {σ : Schema}

open AttributeDraft (ofLevels)
open AggregateLevel (problemsFrom)

lemma leads_word (before : List AggregateLevel) (l : AggregateLevel) :
    Leads (attributeRange entity (ofLevels name isOptional before)) σ [l.word.1]
      (attributeRange entity ((ofLevels name isOptional before).aggregate l.kind.aggregation))
      (σ.reportAll (if l.isList ∧ AggregateLevel.aggregationOf before = .listOfList then
        [.listTooDeep name entity] else [])) := by
  refine .write (fun w hw => ?_) .nil
  have hlist : (l.kind.aggregation = .list ∧ (ofLevels name isOptional before).isListOfList) =
      (l.isList ∧ AggregateLevel.aggregationOf before = .listOfList) := by
    simp [AggregateLevel.isList, AttributeDraft.isListOfList, ofLevels]
  rw [step_attributeRange_aggregate _ _ _ l.word.2]
  refine ⟨rfl, ?_⟩
  simp only [hlist]
  split_ifs
  · rw [Workspace.schema_report, hw]
    rfl
  · rw [hw, Schema.reportAll_nil]

/-- Bounds are read, or left out, after the word of their level. -/
lemma leads_bounds (before : List AggregateLevel) (l : AggregateLevel) :
    Leads (attributeRange entity ((ofLevels name isOptional before).aggregate l.kind.aggregation)) σ
      (l.bounds.toList.map WrittenBounds.token)
      (attributeRange entity (ofLevels name isOptional (before ++ [l])))
      (σ.reportAll (if before.length < 2 then [] else l.boundsTooDeep name)) := by
  cases hb : l.bounds with
  | none =>
    have hnothing : (if before.length < 2 then [] else l.boundsTooDeep name) = [] := by
      rw [AggregateLevel.boundsTooDeep, hb]
      exact ite_self _
    rw [hnothing, Schema.reportAll_nil, AttributeDraft.aggregate_ofLevels_of_unkept (.inl hb)]
    exact .nil
  | some b =>
    refine .write (fun w hw => ?_) .nil
    rw [step_attributeRange_bounds, AttributeDraft.restrict?_ofLevels hb]
    split_ifs with hkept
    · exact ⟨rfl, by rw [hw, Schema.reportAll_nil]⟩
    · rw [AttributeDraft.aggregate_ofLevels_of_unkept (.inr (Nat.not_lt.1 hkept)),
        AggregateLevel.boundsTooDeep, hb]
      exact ⟨rfl, by rw [Workspace.schema_report, hw]; rfl⟩

/-- A level is read after others. -/
lemma leads_level (before : List AggregateLevel) (l : AggregateLevel) :
    Leads (attributeRange entity (ofLevels name isOptional before)) σ l.tokens
      (attributeRange entity (ofLevels name isOptional (before ++ [l])))
      (σ.reportAll (l.problems name entity before)) := by
  rw [AggregateLevel.problems, ← Schema.reportAll_reportAll]
  refine (leads_word entity name isOptional before l).append ?_
  refine (leads_bounds entity name isOptional before l).append ?_
  exact .move (fun w => step_attributeRange_of entity _ w l.link.2) .nil

lemma leads_levels (before levels : List AggregateLevel) :
    Leads (attributeRange entity (ofLevels name isOptional before)) σ
      (levels.flatMap AggregateLevel.tokens)
      (attributeRange entity (ofLevels name isOptional (before ++ levels)))
      (σ.reportAll (problemsFrom name entity before levels)) := by
  induction levels generalizing before σ with
  | nil =>
    rw [List.append_nil, problemsFrom, Schema.reportAll_nil]
    exact .nil
  | cons l levels ih =>
    have hrest := ih (σ := σ.reportAll (l.problems name entity before)) (before ++ [l])
    rw [← List.append_cons, Schema.reportAll_reportAll] at hrest
    exact (leads_level entity name isOptional before l).append hrest

end State

/-! ## Attributes -/

/-- An attribute with any number of levels, as it is written. -/
structure NestedAttribute where
  /-- The name. -/
  name : Token
  /-- The name is no word that means something between the clauses of an entity. -/
  isAny_name : name.isAny State.clauseWords = false
  /-- No colon stands in the name. -/
  notMem_name : ':' ∉ name
  /-- The word that says that the attribute is optional, if it is. -/
  optional : Option (Spelling "OPTIONAL")
  /-- The levels, from the outside in. -/
  levels : List AggregateLevel
  /-- The range. -/
  range : Token
  /-- No semicolon stands in the range. -/
  notMem_range : ';' ∉ range
  /-- The range does not end the entity. -/
  is_range : range.is "END_ENTITY" = false

namespace NestedAttribute

variable (a : NestedAttribute)

/-- The tokens of the attribute. -/
def tokens : List Token :=
  a.name :: [':'] :: (a.optional.toList.map Subtype.val ++
    (a.levels.flatMap AggregateLevel.tokens ++ [a.range ++ [';']]))

/-- The name as text. -/
def nameText : String := String.ofList a.name

/-- The range as text; of a built-in type only the keyword is kept. -/
def rangeText : String :=
  (Builtin.ofText? a.range).elim (String.ofList a.range) Builtin.keyword

/-- The attribute that is declared. -/
def toAttribute (owner : EntityId) : Attribute where
  name := a.nameText
  declaredName := a.nameText
  owner := owner
  range := a.rangeText
  rangeKey := Name.canonical a.rangeText
  builtin := Builtin.ofText? a.range
  aggregation := AggregateLevel.aggregationOf a.levels
  cardinality := AggregateLevel.cardinalityAt a.levels 0
  innerCardinality := AggregateLevel.cardinalityAt a.levels 1
  isOptional := a.optional.isSome
  isUnique := false
  isOneToOne := false
  isInverted := false
  invertedBy := none
  rangeOrigin := none

/-- What is reported of the attribute. -/
def problems (entity : EntityId) : List Problem :=
  AggregateLevel.problemsFrom a.nameText entity [] a.levels

lemma finish_ofLevels (owner : EntityId) :
    (AttributeDraft.ofLevels a.nameText a.optional.isSome a.levels).finish owner a.range =
      a.toAttribute owner := by
  unfold AttributeDraft.finish toAttribute rangeText
  cases Builtin.ofText? a.range with
  | none => rfl
  | some b =>
    have hcanonical : Name.canonical b.keyword = b.keyword := by cases b <;> rfl
    simp only [Option.elim_some, hcanonical]
    rfl

end NestedAttribute

namespace State

lemma leads_optional (entity : EntityId) (σ : Schema) (name : String)
    (optional : Option (Spelling "OPTIONAL")) :
    Leads (attributeRange entity { name := name }) σ (optional.toList.map Subtype.val)
      (attributeRange entity (AttributeDraft.ofLevels name optional.isSome [])) σ := by
  cases optional with
  | none => exact .nil
  | some word => exact .move (fun w => step_attributeRange_optional entity _ w word.2) .nil

lemma schema_addAttribute_eq (entity : EntityId) (a : Attribute) (w : Workspace) :
    (addAttribute entity a w).schema =
      w.schema.modifyEntity entity fun e => { e with attributes := e.attributes ++ [a] } := by
  unfold addAttribute
  cases a.builtin <;> rfl

lemma leads_nestedAttribute (a : NestedAttribute) (entity : EntityId) (σ : Schema) :
    Leads (entityBody entity) σ a.tokens (entityBody entity)
      ((σ.reportAll (a.problems entity)).modifyEntity entity fun e =>
        { e with attributes := e.attributes ++ [a.toAttribute entity] }) := by
  have hname : ∀ w, (entityBody entity).step a.name w =
      (attributeRange entity { name := a.nameText }, w) := fun w => by
    rw [step_entityBody_name entity w a.isAny_name,
      Text.dropEnd_of_not_endsWith (Text.endsWith_eq_false_of_notMem a.notMem_name)]
    rfl
  refine .move hname <| .move (step_attributeRange_colon entity _) ?_
  refine (leads_optional entity σ a.nameText a.optional).append ?_
  refine (leads_levels entity a.nameText a.optional.isSome [] a.levels).append ?_
  refine .write (fun w hw => ?_) .nil
  rw [List.nil_append, step_attributeRange_end entity _ w a.notMem_range a.is_range,
    a.finish_ofLevels]
  exact ⟨rfl, by rw [schema_addAttribute_eq, hw]; rfl⟩

/-- However deep its levels go, reading an attribute appends the attribute that is declared, with
the bounds of the first two levels, and goes on between the clauses of the entity.  What is reported
is each list after the second one, if the first level is a list, and the bounds of each level after
the second one. -/
theorem nestedAttribute_read (a : NestedAttribute) (entity : EntityId) (w : Workspace) :
    Agree ((entityBody entity).feedAll a.tokens w)
        (entityBody entity,
          (w.modifyEntity entity fun e =>
            { e with attributes := e.attributes ++ [a.toAttribute entity] }).reportAll
              (a.problems entity)) ∧
      (a.problems entity).Perm
        (List.replicate (AggregateLevel.excessLists a.levels) (.listTooDeep a.nameText entity) ++
          (a.levels.drop 2).flatMap (AggregateLevel.boundsTooDeep a.nameText)) := by
  obtain ⟨hstate, hschema⟩ := leads_nestedAttribute a entity w.schema w rfl
  refine ⟨⟨hstate, ?_⟩, AggregateLevel.perm_problemsFrom a.nameText entity [] a.levels⟩
  rw [hschema, Workspace.schema_reportAll, Workspace.schema_modifyEntity]
  rfl

/-- A list of lists of lists, the first and the last with bounds. -/
def gridPoints : NestedAttribute where
  name := "points".toList
  isAny_name := by decide
  notMem_name := by decide
  optional := some ⟨"optional".toList, by decide⟩
  levels :=
    [⟨.list, .capital _, some ⟨"[1:2]".toList, ⟨some 1, some 2⟩, by decide⟩, .capital _⟩,
      ⟨.list, ⟨"List".toList, by decide⟩, none, .capital _⟩,
      ⟨.list, .capital _, some ⟨"[4:?]".toList, ⟨some 4, none⟩, by decide⟩,
        ⟨"of".toList, by decide⟩⟩]
  range := "Point".toList
  notMem_range := by decide
  is_range := by decide

/-- The third list is reported, and so are its bounds. -/
theorem nestedAttribute_read_gridPoints :
    let read := (entityBody ⟨0⟩).feedAll
      (Token.ofLine "points : optional LIST [1:2] OF List OF LIST [4:?] of Point;")
      (({} : Workspace).declareEntity "Grid").2
    Agree read (entityBody ⟨0⟩,
        ((({} : Workspace).declareEntity "Grid").2.modifyEntity ⟨0⟩ fun e =>
          { e with attributes := e.attributes ++ [gridPoints.toAttribute ⟨0⟩] }).reportAll
            [.listTooDeep "points" ⟨0⟩, .boundsTooDeep "[4:?]" "points"]) ∧
      (gridPoints.toAttribute ⟨0⟩).aggregation = .listOfList ∧
      (gridPoints.toAttribute ⟨0⟩).cardinality = ⟨1, some 2⟩ ∧
      (gridPoints.toAttribute ⟨0⟩).innerCardinality = {} := by
  intro read
  have htokens : gridPoints.tokens =
      Token.ofLine "points : optional LIST [1:2] OF List OF LIST [4:?] of Point;" := by
    decide +kernel
  have hproblems : gridPoints.problems ⟨0⟩ =
      [.listTooDeep "points" ⟨0⟩, .boundsTooDeep "[4:?]" "points"] := by decide +kernel
  have hread := (nestedAttribute_read gridPoints ⟨0⟩ (({} : Workspace).declareEntity "Grid").2).1
  rw [htokens, hproblems] at hread
  exact ⟨hread, by decide +kernel⟩

end State
end ExpressSchema
