/-
# Reading printed clauses

A printed attribute, inverse or uniqueness rule is read into the entity that was declared last, and
so is any number of them.
-/
import ExpressSchema.Proofs.Printing.Leads

namespace ExpressSchema
namespace State

/-! ## Words that leave no clause -/

lemma leaveClause?_chars (entity : EntityId) (x : Word) : leaveClause? entity x.chars = none := by
  have hsubtype : Token.is x.chars "SUBTYPE" = false := x.is_eq_false _ (by decide)
  simp [leaveClause?, x.is_chars_entityEnd, hsubtype]

lemma leaveClause?_ended (entity : EntityId) (x : Word) : leaveClause? entity x.ended = none := by
  have hsubtype : Token.is x.ended "SUBTYPE" = false := x.is_ended_eq_false (by decide)
  simp [leaveClause?, x.is_ended_entityEnd, hsubtype]

lemma leaveUnique?_chars (entity : EntityId) (x : Word) : leaveUnique? entity x.chars = none := by
  have hwhere : Token.is x.chars "WHERE" = false := x.is_eq_false _ (by decide)
  simp [leaveUnique?, hwhere, leaveClause?_chars]

lemma leaveUnique?_ended (entity : EntityId) (x : Word) : leaveUnique? entity x.ended = none := by
  have hwhere : Token.is x.ended "WHERE" = false := x.is_ended_eq_false (by decide)
  simp [leaveUnique?, hwhere, leaveClause?_ended]

/-- Bounds are no keyword. -/
lemma is_text_eq_false (c : Cardinality) {k : String} (hk : '[' ∉ k.toList.map Char.toLower) :
    Token.is c.text.toList k = false := by
  refine Token.is_eq_false_of_mem (c := '[') ?_ hk
  rw [c.toList_text]
  simp

/-! ## Attributes -/

section Attribute

variable {σ : Schema} {entity : EntityId}

lemma step_entityBody_chars (x : Word) (w : Workspace) :
    (entityBody entity).step x.chars w = (attributeRange entity { name := x.text }, w) := by
  -- a word is no keyword, so that it is the name of an attribute
  have hk : ∀ k ∈ keywords, Token.is x.chars k = false := x.is_eq_false
  rw [step, readEntityBody, hk "SUBTYPE" (by decide), hk "SUPERTYPE" (by decide),
    hk "ABSTRACT" (by decide), hk "INVERSE" (by decide), hk "UNIQUE" (by decide),
    hk "WHERE" (by decide), hk "DERIVE" (by decide), x.is_chars_entityEnd,
    x.dropEnd_chars (by decide)]
  rfl

lemma step_attributeRange_keyword (kind : AggregateKind) {d : AttributeDraft}
    (h : d.isListOfList = false) (w : Workspace) :
    (attributeRange entity d).step kind.keyword.toList w =
      (attributeRange entity (d.aggregate kind.aggregation), w) := by
  cases kind with
  | list =>
    have hstep : (attributeRange entity d).step AggregateKind.list.keyword.toList w =
        (attributeRange entity (d.aggregate .list),
          if d.isListOfList then w.report (.listTooDeep d.name entity) else w) := rfl
    rw [hstep, h]
    rfl
  | _ => rfl

lemma step_attributeRange_text (c : Cardinality) {d d' : AttributeDraft}
    (h : d.restrict? ⟨some c.min, c.max⟩ = some d') (w : Workspace) :
    (attributeRange entity d).step c.text.toList w = (attributeRange entity d', w) := by
  have hbrackets : c.text.toList.head? = some '[' ∧ Text.endsWith c.text.toList ']' := by
    rw [c.toList_text]
    exact ⟨rfl, by rw [Text.endsWith_append]⟩
  have hend : Token.is c.text.toList entityEnd = false := is_text_eq_false c (by decide)
  have hoptional : Token.is c.text.toList "OPTIONAL" = false := is_text_eq_false c (by decide)
  have harray : Token.is c.text.toList "ARRAY" = false := is_text_eq_false c (by decide)
  have hset : Token.is c.text.toList "SET" = false := is_text_eq_false c (by decide)
  have hlist : Token.is c.text.toList "LIST" = false := is_text_eq_false c (by decide)
  rw [step, readAttribute, hend, hoptional, harray, hset, hlist, if_pos hbrackets, readBounds,
    Bounds.ofText?_text]
  simp [h]

lemma leads_aggregate_tokens (kind : AggregateKind) (bounds : Option Cardinality)
    {d d' : AttributeDraft} (h : d.isListOfList = false)
    (hnone : bounds = none → d.aggregate kind.aggregation = d')
    (hsome : ∀ c, bounds = some c →
      (d.aggregate kind.aggregation).restrict? ⟨some c.min, c.max⟩ = some d') :
    Leads (attributeRange entity d) σ (kind.tokens bounds) (attributeRange entity d') σ := by
  refine .move (step_attributeRange_keyword kind h) ?_
  cases bounds with
  | none =>
    rw [hnone rfl]
    exact .move (fun _ => rfl) .nil
  | some c => exact .move (step_attributeRange_text c (hsome c rfl)) (.move (fun _ => rfl) .nil)

end Attribute
end State

/-- What has been read of an attribute up to its range. -/
def Shape.draft (shape : Shape) (name : String) (isOptional : Bool) : AttributeDraft where
  name := name
  isOptional := isOptional
  aggregation := shape.aggregation
  depth := match shape with
    | scalar => 0
    | single _ _ => 1
    | listOfList _ _ => 2
  cardinality := shape.cardinality
  innerCardinality := shape.innerCardinality

namespace AttributeDraft

variable {d : AttributeDraft} (c : Cardinality)

lemma restrict?_of_depth_one (hdepth : d.depth = 1) (h : d.cardinality = {}) :
    d.restrict? ⟨some c.min, c.max⟩ = some { d with cardinality := c } := by
  rw [restrict?, hdepth, if_pos (by decide), h, Bounds.restrict_text]

lemma restrict?_of_depth_two (hdepth : d.depth = 2) (h : d.innerCardinality = {}) :
    d.restrict? ⟨some c.min, c.max⟩ = some { d with innerCardinality := c } := by
  rw [restrict?, hdepth, if_neg (by decide), if_pos rfl, h, Bounds.restrict_text]

end AttributeDraft

namespace State

section Attribute

variable {σ : Schema} {entity : EntityId}

lemma leads_shape (shape : Shape) (name : String) (isOptional : Bool) :
    Leads (attributeRange entity { name := name, isOptional := isOptional }) σ shape.tokens
      (attributeRange entity (shape.draft name isOptional)) σ := by
  cases shape with
  | scalar => exact .nil
  | single kind bounds =>
    refine leads_aggregate_tokens kind bounds rfl ?_ ?_
    · rintro rfl
      cases kind <;> rfl
    · rintro c rfl
      rw [AttributeDraft.restrict?_of_depth_one c rfl rfl]
      cases kind <;> rfl
  | listOfList outer inner =>
    -- the outer list is read as if it were the only one, and the inner one takes its own bounds
    have houter : Leads (attributeRange entity { name := name, isOptional := isOptional }) σ
        (AggregateKind.list.tokens outer)
        (attributeRange entity ((Shape.single .list outer).draft name isOptional)) σ := by
      refine leads_aggregate_tokens .list outer rfl ?_ ?_
      · rintro rfl
        rfl
      · rintro c rfl
        rw [AttributeDraft.restrict?_of_depth_one c rfl rfl]
        rfl
    refine houter.append (leads_aggregate_tokens .list inner rfl ?_ ?_)
    · rintro rfl
      rfl
    · rintro c rfl
      rw [AttributeDraft.restrict?_of_depth_two c rfl rfl]
      rfl

/-- The last token of an attribute. -/
lemma step_attributeRange_ended (r : RangeOutline) (d : AttributeDraft) (w : Workspace) :
    (attributeRange entity d).step r.ended w =
      (entityBody entity, addAttribute entity (d.finish entity r.text.toList) w) := by
  have hplain : ∀ {c : Char}, isPlainChar c = false → c ∉ r.text.toList := fun hc hmem => by
    simp [r.isPlainChar_of_mem_text _ hmem] at hc
  have hend : Token.is r.ended entityEnd = false := by
    have h : entityEnd.toList = "END_ENTITY".toList ++ [';'] := by decide
    rw [RangeOutline.ended, Token.is_append_semicolon _ h]
    cases r with
    | builtin b => cases b <;> decide
    | named x =>
      rw [RangeOutline.text, Word.toList_text]
      exact x.is_eq_false _ (by decide)
  have hkeyword : ∀ k ∈ ["OPTIONAL", "ARRAY", "SET", "LIST", "SUBTYPE"],
      Token.is r.ended k = false := fun k hk => by
    refine Token.is_append_eq_false _ ?_
    revert k
    decide
  -- the token is nothing that an attribute is asked for before its range
  have hbrackets : ¬(r.ended.head? = some '[' ∧ Text.endsWith r.ended ']') := by
    rintro ⟨hhead, -⟩
    rw [RangeOutline.ended, List.head?_append, Option.or_of_isSome (by simpa using r.text_ne_nil)]
      at hhead
    exact hplain (by decide) (List.mem_of_head? hhead)
  have hbefore : Token.beforeSemicolon r.ended = r.text.toList :=
    Token.beforeSemicolon_append (hplain (by decide))
  have hsemicolon : r.ended.contains ';' = true := by simp [RangeOutline.ended]
  simp only [step, readAttribute, hend, hkeyword "OPTIONAL" (by simp), hkeyword "ARRAY" (by simp),
    hkeyword "SET" (by simp), hkeyword "LIST" (by simp), hkeyword "SUBTYPE" (by simp),
    if_neg hbrackets, hsemicolon, hbefore]
  rfl

end Attribute

section Entity

variable {s : Schema} {E : Entity}

/-- Changes to the entity that was declared last. -/
lemma schema_modifyEntity {w : Workspace} (hw : w.schema = s.putEntity E)
    (h : E.key ∉ s.entities.keys) {f : Entity → Entity} (hkey : (f E).key = E.key) :
    (w.modifyEntity ⟨s.entities.size⟩ f).schema = s.putEntity (f E) := by
  rw [Workspace.schema_modifyEntity, hw, Schema.modifyEntity_putEntity h hkey]

lemma schema_addAttribute {w : Workspace} (hw : w.schema = s.putEntity E)
    (h : E.key ∉ s.entities.keys) (a : Attribute) :
    (addAttribute ⟨s.entities.size⟩ a w).schema =
      s.putEntity { E with attributes := E.attributes ++ [a] } := by
  unfold addAttribute
  cases a.builtin with
  | none => exact schema_modifyEntity hw h rfl
  | some b => exact schema_modifyEntity (w := w.register b) hw h rfl

lemma finish_draft (a : AttributeOutline) (owner : EntityId) :
    (a.shape.draft a.name.text a.isOptional).finish owner a.range.text.toList =
      a.toAttribute owner false := by
  obtain ⟨name, isOptional, shape, range⟩ := a
  cases range with
  | builtin b =>
    have hread : Builtin.ofText? b.keyword.toList = some b := by cases b <;> decide
    have hcanonical : Name.canonical b.keyword = b.keyword := by cases b <;> rfl
    simp only [AttributeDraft.finish, RangeOutline.text, hread, AttributeOutline.toAttribute,
      hcanonical]
    rfl
  | named x =>
    have hread : Builtin.ofText? x.text.toList = none := by
      rw [Word.toList_text]
      exact x.ofText?_eq_none
    simp only [AttributeDraft.finish, RangeOutline.text, hread, AttributeOutline.toAttribute,
      String.ofList_toList]
    rfl

lemma leads_attribute (h : E.key ∉ s.entities.keys) (a : AttributeOutline) :
    Leads (entityBody ⟨s.entities.size⟩) (s.putEntity E) a.tokens (entityBody ⟨s.entities.size⟩)
      (s.putEntity { E with
        attributes := E.attributes ++ [a.toAttribute ⟨s.entities.size⟩ false] }) := by
  have hend : Leads (attributeRange ⟨s.entities.size⟩ (a.shape.draft a.name.text a.isOptional))
      (s.putEntity E) [a.range.ended] (entityBody ⟨s.entities.size⟩) (s.putEntity { E with
        attributes := E.attributes ++ [a.toAttribute ⟨s.entities.size⟩ false] }) := by
    refine .write (fun w hw => ?_) .nil
    rw [step_attributeRange_ended, finish_draft]
    exact ⟨rfl, schema_addAttribute hw h _⟩
  have hshape := Leads.append (leads_shape a.shape a.name.text a.isOptional) hend
  rw [AttributeOutline.tokens]
  cases hoptional : a.isOptional with
  | false =>
    rw [hoptional] at hshape
    exact .move (step_entityBody_chars a.name) (.move (fun _ => rfl) hshape)
  | true =>
    rw [hoptional] at hshape
    exact .move (step_entityBody_chars a.name) (.move (fun _ => rfl) (.move (fun _ => rfl) hshape))

/-- Printed attributes are read one after the other. -/
lemma leads_attributes (h : E.key ∉ s.entities.keys) (as : List AttributeOutline) :
    Leads (entityBody ⟨s.entities.size⟩) (s.putEntity E) (as.flatMap AttributeOutline.tokens)
      (entityBody ⟨s.entities.size⟩) (s.putEntity { E with
        attributes := E.attributes ++ as.map (·.toAttribute ⟨s.entities.size⟩ false) }) := by
  induction as generalizing E with
  | nil =>
    rw [List.map_nil, List.append_nil]
    exact .nil
  | cons a as ih =>
    rw [List.map_cons, List.append_cons]
    exact (leads_attribute h a).append (ih h)

/-! ## Inverses -/

lemma step_inverseName_chars (x : Word) (entity : EntityId) (w : Workspace) :
    (inverseName entity none).step x.chars w = (inverseName entity (some x.text), w) := by
  have hwhere : Token.is x.chars "WHERE" = false := x.is_eq_false _ (by decide)
  have hunique : Token.is x.chars "UNIQUE" = false := x.is_eq_false _ (by decide)
  have hcolon : x.chars ≠ [':'] := fun h => x.notMem_chars (c := ':') (by decide) (by simp [h])
  have hdrop : Text.dropEnd? x.chars ':' = none := x.dropEnd?_chars (by decide)
  simp only [step, readInverseName, leaveClause?_chars, hwhere, hunique, hcolon, hdrop]
  rfl

lemma step_inverseRange_text (c : Cardinality) {d : InverseDraft} (h : d.cardinality = {})
    (entity : EntityId) (w : Workspace) :
    (inverseRange entity d).step c.text.toList w =
      (inverseRange entity { d with cardinality := c }, w) := by
  have hend : Token.is c.text.toList entityEnd = false := is_text_eq_false c (by decide)
  have hsubtype : Token.is c.text.toList "SUBTYPE" = false := is_text_eq_false c (by decide)
  have hset : Token.is c.text.toList "SET" = false := is_text_eq_false c (by decide)
  have hfor : Token.is c.text.toList "FOR" = false := is_text_eq_false c (by decide)
  have hhead : c.text.toList.head? = some '[' := by
    rw [c.toList_text]
    rfl
  simp only [step, readInverseRange, leaveClause?, hend, hsubtype, hset, hfor, hhead,
    readInverseBounds, Bounds.ofText?_text, h, Bounds.restrict_text]
  rfl

lemma step_inverseRange_chars (x : Word) (d : InverseDraft) (entity : EntityId) (w : Workspace) :
    (inverseRange entity d).step x.chars w =
      (inverseRange entity { d with range := x.text }, w) := by
  have hset : Token.is x.chars "SET" = false := x.is_eq_false _ (by decide)
  have hfor : Token.is x.chars "FOR" = false := x.is_eq_false _ (by decide)
  have hof : Token.is x.chars "OF" = false := x.is_eq_false _ (by decide)
  have hhead : x.chars.head? ≠ some '[' := x.head?_chars_ne (by decide)
  simp only [step, readInverseRange, leaveClause?_chars, hset, hfor, hof, hhead]
  rfl

lemma step_inverseFor_ended (x : Word) (d : InverseDraft) (entity : EntityId) (w : Workspace) :
    (inverseFor entity d).step x.ended w =
      (inverseName entity none, w.modifyEntity entity fun e =>
        { e with inverses := e.inverses ++ [d.finish entity x.chars] }) := by
  simp only [step, readInverseFor, leaveClause?_ended, x.contains_ended, x.beforeSemicolon_ended]
  rfl

/-- The bounds of a printed inverse are read into its draft. -/
lemma leads_inverse_set (σ : Schema) (entity : EntityId) (name : String)
    (set : Option (Option Cardinality)) :
    Leads (inverseRange entity { name := name }) σ (set.elim [] AggregateKind.set.tokens)
      (inverseRange entity
        { name := name, isSet := set.isSome, cardinality := (set.getD none).getD {} }) σ := by
  cases set with
  | none => exact .nil
  | some bounds =>
    cases bounds with
    | none => exact .move (fun _ => rfl) (.move (fun _ => rfl) .nil)
    | some c =>
      exact .move (fun _ => rfl) (.move (step_inverseRange_text c rfl entity)
        (.move (fun _ => rfl) .nil))

lemma leads_inverse (h : E.key ∉ s.entities.keys) (i : InverseOutline) :
    Leads (inverseName ⟨s.entities.size⟩ none) (s.putEntity E) i.tokens
      (inverseName ⟨s.entities.size⟩ none)
      (s.putEntity { E with inverses := E.inverses ++ [i.toInverse ⟨s.entities.size⟩] }) := by
  refine .move (step_inverseName_chars i.name _) (.move (fun _ => rfl) ?_)
  refine (leads_inverse_set _ _ _ i.set).append ?_
  refine .move (step_inverseRange_chars i.range _ _) (.move (fun _ => rfl) ?_)
  refine .write (fun w hw => ?_) .nil
  rw [step_inverseFor_ended]
  exact ⟨rfl, schema_modifyEntity hw h rfl⟩

/-- Printed inverses are read one after the other. -/
lemma leads_inverses (h : E.key ∉ s.entities.keys) (is : List InverseOutline) :
    Leads (inverseName ⟨s.entities.size⟩ none) (s.putEntity E)
      (is.flatMap InverseOutline.tokens) (inverseName ⟨s.entities.size⟩ none)
      (s.putEntity { E with
        inverses := E.inverses ++ is.map (·.toInverse ⟨s.entities.size⟩) }) := by
  induction is generalizing E with
  | nil =>
    rw [List.map_nil, List.append_nil]
    exact .nil
  | cons i is ih =>
    rw [List.map_cons, List.append_cons]
    exact (leads_inverse h i).append (ih h)

/-! ## Uniqueness rules -/

lemma step_uniqueLabel_chars (x : Word) (entity : EntityId) (w : Workspace) :
    (uniqueLabel entity).step x.chars w = (uniqueLabel entity, w) := by
  have hends : Text.endsWith x.chars ':' = false := x.endsWith_chars (by decide)
  simp only [step, readUniqueLabel, leaveUnique?_chars, hends]
  rfl

lemma step_uniqueName_ended (x : Word) (entity : EntityId) (w : Workspace) :
    (uniqueName entity).step x.ended w =
      (uniqueLabel entity, w.modifyEntity entity fun e =>
        { e with attributes := e.attributes.map fun a =>
            if a.name = x.text then { a with isUnique := true } else a }) := by
  have hcomma : x.ended.contains ',' = false := x.contains_ended_eq_false (by decide) (by decide)
  simp only [step, readUniqueName, leaveUnique?_ended, markUnique, hcomma, x.beforeSemicolon_ended]
  rfl

/-- A uniqueness rule marks the attributes that it covers. -/
lemma mark_toAttribute (r : RuleOutline) (owner : EntityId) (a : AttributeOutline)
    (isUnique : Bool) :
    (if (a.toAttribute owner isUnique).name = r.target.text then
        { a.toAttribute owner isUnique with isUnique := true }
      else a.toAttribute owner isUnique) =
      a.toAttribute owner (isUnique || r.covers a) := by
  by_cases hcovers : a.name.text = r.target.text
  · simp [RuleOutline.covers, hcovers, AttributeOutline.toAttribute]
  · have hfalse : r.covers a = false := beq_eq_false_iff_ne.2 hcovers
    rw [hfalse, Bool.or_false]
    exact if_neg hcovers

lemma leads_rule (h : E.key ∉ s.entities.keys) (as : List AttributeOutline)
    (isUnique : AttributeOutline → Bool) (r : RuleOutline) :
    Leads (uniqueLabel ⟨s.entities.size⟩)
      (s.putEntity { E with
        attributes := as.map fun a => a.toAttribute ⟨s.entities.size⟩ (isUnique a) })
      r.tokens (uniqueLabel ⟨s.entities.size⟩)
      (s.putEntity { E with
        attributes := as.map fun a =>
          a.toAttribute ⟨s.entities.size⟩ (isUnique a || r.covers a) }) := by
  refine .move (step_uniqueLabel_chars r.label _) (.move (fun _ => rfl) ?_)
  refine .write (fun w hw => ?_) .nil
  rw [step_uniqueName_ended]
  refine ⟨rfl, (schema_modifyEntity hw h rfl).trans ?_⟩
  simp only [List.map_map, Function.comp_def, mark_toAttribute]

/-- Printed uniqueness rules are read one after the other. -/
lemma leads_rules (h : E.key ∉ s.entities.keys) (as : List AttributeOutline)
    (isUnique : AttributeOutline → Bool) (rs : List RuleOutline) :
    Leads (uniqueLabel ⟨s.entities.size⟩)
      (s.putEntity { E with
        attributes := as.map fun a => a.toAttribute ⟨s.entities.size⟩ (isUnique a) })
      (rs.flatMap RuleOutline.tokens) (uniqueLabel ⟨s.entities.size⟩)
      (s.putEntity { E with
        attributes := as.map fun a =>
          a.toAttribute ⟨s.entities.size⟩ (isUnique a || rs.any (·.covers a)) }) := by
  induction rs generalizing isUnique with
  | nil =>
    simp only [List.any_nil, Bool.or_false]
    exact .nil
  | cons r rs ih =>
    simp only [List.any_cons, ← Bool.or_assoc]
    exact (leads_rule h as isUnique r).append (ih _)

end Entity
end State
end ExpressSchema
