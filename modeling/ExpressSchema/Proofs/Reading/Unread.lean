/-
# What is not read

The bodies of functions and rules, domain rules, derived attributes and whatever stands between
declarations without opening one are passed over.  Here it is said which regions these are
(`Unread`), and that a stream of tokens from which any number of them is taken out leads to the same
state and the same schema (`cuts_invisible`).

What opens a body or a clause and what ends it are keywords, in either case of their letters; all
that stands between may be anything else, keywords that end something else included.
-/
import ExpressSchema.Proofs.Reading.Steps
import Mathlib.Data.List.Nodup

namespace ExpressSchema

/-! ## Keywords -/

namespace Token

/-- Whether the token is one of these keywords, in either case of its letters. -/
def isAny (t : Token) (keywords : List String) : Bool := keywords.any fun k => t.is k

lemma isAny_eq_false_iff {t : Token} {ks : List String} :
    t.isAny ks = false ↔ ∀ k ∈ ks, t.is k = false := by
  simp [isAny]

/-- Of keywords that differ in more than case, a token is at most one. -/
lemma is_eq_decide {ks : List String} (hks : (ks.map fun k => k.toList.map Char.toLower).Nodup)
    {t : Token} {k k' : String} (h : t.is k = true) (hk : k ∈ ks) (hk' : k' ∈ ks) :
    t.is k' = decide (k' = k) := by
  rw [Token.is, Text.sameLetters_iff] at h
  rw [Bool.eq_iff_iff, decide_eq_true_iff, Token.is, Text.sameLetters_iff, h]
  exact ⟨fun heq => (List.inj_on_of_nodup_map hks hk hk' heq).symm, fun heq => by rw [heq]⟩

end Token

/-- A keyword as it is written, in either case of its letters. -/
abbrev Spelling (keyword : String) := { token : Token // token.is keyword = true }

/-- The keyword in capitals, as it stands in the language. -/
def Spelling.capital (keyword : String) : Spelling keyword :=
  ⟨keyword.toList, Text.sameLetters_self _⟩

/-- The word that opens a body. -/
def SkippedBody.opener : SkippedBody → String
  | function => "FUNCTION"
  | rule => "RULE"

namespace State

/-- The words that mean something between declarations. -/
def declarationWords : List String := ["TYPE", "ENTITY", "FUNCTION", "RULE", "SCHEMA"]

/-- The words that mean something between the clauses of an entity. -/
def clauseWords : List String :=
  ["SUBTYPE", "SUPERTYPE", "ABSTRACT", "INVERSE", "UNIQUE", "WHERE", "DERIVE", entityEnd]

/-- The words that end domain rules. -/
def domainRulesEnds : List String := [entityEnd, "SUBTYPE"]

/-- The words that end derived attributes. -/
def derivedAttributesEnds : List String := [entityEnd, "SUBTYPE", "INVERSE", "UNIQUE", "WHERE"]

lemma is_declarationWord {token : Token} {k k' : String} (h : token.is k = true)
    (hk : k ∈ declarationWords) (hk' : k' ∈ declarationWords) : token.is k' = decide (k' = k) :=
  Token.is_eq_decide (by decide +kernel) h hk hk'

lemma is_clauseWord {token : Token} {k k' : String} (h : token.is k = true)
    (hk : k ∈ clauseWords) (hk' : k' ∈ clauseWords) : token.is k' = decide (k' = k) :=
  Token.is_eq_decide (by decide +kernel) h hk hk'

lemma domainRulesEnds_subset : domainRulesEnds ⊆ clauseWords := by decide

lemma derivedAttributesEnds_subset : derivedAttributesEnds ⊆ clauseWords := by decide

/-! ## Regions -/

/-- A region of tokens that means nothing where it is met in this state and these tokens follow. -/
inductive Unread : State → List Token → List Token → Prop
  /-- A body between the word that opens it and its own terminator. -/
  | body (body : SkippedBody) {opening closing : Token} (content : List Token)
      (hopening : opening.is body.opener = true)
      (hcontent : ∀ t ∈ content, t.is body.terminator = false)
      (hclosing : closing.is body.terminator = true) (rest : List Token) :
      Unread topLevel (opening :: (content ++ [closing])) rest
  /-- A token between declarations that opens none. -/
  | stray {token : Token} (h : token.isAny declarationWords = false) (rest : List Token) :
      Unread topLevel [token] rest
  /-- Domain rules, up to a word that ends them. -/
  | domainRules (entity : EntityId) {opening next : Token} {content : List Token}
      (hopening : opening.is "WHERE" = true)
      (hcontent : ∀ t ∈ content, t.isAny domainRulesEnds = false)
      (hnext : next.isAny domainRulesEnds = true) (rest : List Token) :
      Unread (entityBody entity) (opening :: content) (next :: rest)
  /-- Derived attributes, up to a word that ends them. -/
  | derivedAttributes (entity : EntityId) {opening next : Token} {content : List Token}
      (hopening : opening.is "DERIVE" = true)
      (hcontent : ∀ t ∈ content, t.isAny derivedAttributesEnds = false)
      (hnext : next.isAny derivedAttributesEnds = true) (rest : List Token) :
      Unread (entityBody entity) (opening :: content) (next :: rest)

/-- The tokens `ys` are the tokens `xs` without a region that means nothing where it is met on the
way from the state `s`. -/
def Cut (s : State) (w : Workspace) (xs ys : List Token) : Prop :=
  ∃ before region rest, Unread (s.stepAll before w).1 region rest ∧
    xs = before ++ (region ++ rest) ∧ ys = before ++ rest

/-- Any number of regions that mean nothing are taken out, one after the other. -/
def Cuts (s : State) (w : Workspace) : List Token → List Token → Prop :=
  Relation.ReflTransGen (Cut s w)

/-! ## Passing over a region -/

variable (w : Workspace)

/-- Tokens that keep a state leave the workspace alone in all of their steps. -/
lemma stepAll_of_stays {s : State} {content : List Token}
    (h : ∀ t ∈ content, s.step t w = (s, w)) : s.stepAll content w = (s, w) := by
  induction content with
  | nil => rfl
  | cons t content ih =>
    rw [stepAll_cons, h t List.mem_cons_self]
    exact ih fun u hu => h u (List.mem_cons_of_mem t hu)

/-! ### Between declarations -/

lemma ofTopLevel_opener {body : SkippedBody} {token : Token} (h : token.is body.opener = true) :
    ofTopLevel token = skipping body := by
  have hword : ∀ k ∈ declarationWords, token.is k = decide (k = body.opener) :=
    fun k hk => is_declarationWord h (by cases body <;> decide) hk
  simp only [declarationWords, List.forall_mem_cons] at hword
  cases body <;> simp [ofTopLevel, hword, SkippedBody.opener]

lemma ofTopLevel_stray {token : Token} (h : token.isAny declarationWords = false) :
    ofTopLevel token = topLevel := by
  have hword := Token.isAny_eq_false_iff.1 h
  simp only [declarationWords, List.forall_mem_cons] at hword
  simp [ofTopLevel, hword]

lemma step_skipping_stays {body : SkippedBody} {token : Token}
    (h : token.is body.terminator = false) :
    (skipping body).step token w = (skipping body, w) := by
  simp [step, readSkipped, h]

lemma step_skipping_of_terminator {body : SkippedBody} {token : Token}
    (h : token.is body.terminator = true) : (skipping body).step token w = (topLevel, w) := by
  simp [step, readSkipped, h]

/-! ### Between the clauses of an entity -/

variable (entity : EntityId) {token : Token}

lemma step_domainRules_stays (h : token.isAny domainRulesEnds = false) :
    (domainRules entity).step token w = (domainRules entity, w) := by
  have hword := Token.isAny_eq_false_iff.1 h
  simp only [domainRulesEnds, List.forall_mem_cons] at hword
  simp [step, readDomainRules, leaveClause?, hword]

lemma step_derivedAttributes_stays (h : token.isAny derivedAttributesEnds = false) :
    (derivedAttributes entity).step token w = (derivedAttributes entity, w) := by
  have hword := Token.isAny_eq_false_iff.1 h
  simp only [derivedAttributesEnds, List.forall_mem_cons] at hword
  simp [step, readDerivedAttributes, leaveClause?, hword]

/-- The word that opens domain rules leads into them. -/
lemma step_entityBody_where (h : token.is "WHERE" = true) :
    (entityBody entity).step token w = (domainRules entity, w) := by
  have hword : ∀ k ∈ clauseWords, token.is k = decide (k = "WHERE") :=
    fun k hk => is_clauseWord h (by decide) hk
  simp only [clauseWords, entityEnd, List.forall_mem_cons] at hword
  simp [step, readEntityBody, hword]

/-- The word that opens derived attributes leads among them. -/
lemma step_entityBody_derive (h : token.is "DERIVE" = true) :
    (entityBody entity).step token w = (derivedAttributes entity, w) := by
  have hword : ∀ k ∈ clauseWords, token.is k = decide (k = "DERIVE") :=
    fun k hk => is_clauseWord h (by decide) hk
  simp only [clauseWords, entityEnd, List.forall_mem_cons] at hword
  simp [step, readEntityBody, hword]

/-- A word that ends domain rules leads on as it does where no rules stand before it. -/
lemma step_domainRules_of_end (h : token.isAny domainRulesEnds = true) :
    (domainRules entity).step token w = (entityBody entity).step token w := by
  obtain ⟨k, hk, hend⟩ := List.any_eq_true.1 h
  have hword : ∀ k' ∈ clauseWords, token.is k' = decide (k' = k) :=
    fun k' hk' => is_clauseWord hend (domainRulesEnds_subset hk) hk'
  simp only [clauseWords, entityEnd, List.forall_mem_cons] at hword
  simp only [domainRulesEnds, List.mem_cons, List.not_mem_nil, or_false] at hk
  rcases hk with rfl | rfl <;>
    simp [step, readDomainRules, readEntityBody, leaveClause?, hword, entityEnd]

/-- A word that ends derived attributes leads on as it does where none stand before it. -/
lemma step_derivedAttributes_of_end (h : token.isAny derivedAttributesEnds = true) :
    (derivedAttributes entity).step token w = (entityBody entity).step token w := by
  obtain ⟨k, hk, hend⟩ := List.any_eq_true.1 h
  have hword : ∀ k' ∈ clauseWords, token.is k' = decide (k' = k) :=
    fun k' hk' => is_clauseWord hend (derivedAttributesEnds_subset hk) hk'
  simp only [clauseWords, entityEnd, List.forall_mem_cons] at hword
  simp only [derivedAttributesEnds, List.mem_cons, List.not_mem_nil, or_false] at hk
  rcases hk with rfl | rfl | rfl | rfl | rfl <;>
    simp [step, readDerivedAttributes, readEntityBody, leaveClause?, hword, entityEnd]

/-! ### Anywhere -/

/-- With an unread region before them, tokens lead where they lead without it, and do the same to
the workspace. -/
theorem Unread.stepAll_eq {s : State} {region rest : List Token} (h : Unread s region rest) :
    s.stepAll (region ++ rest) w = s.stepAll rest w := by
  cases h with
  | body body content hopening hcontent hclosing =>
    have hstays := stepAll_of_stays w fun t ht => step_skipping_stays w (hcontent t ht)
    rw [stepAll_append, stepAll_cons, step, ofTopLevel_opener hopening, stepAll_append, hstays,
      stepAll_cons, step_skipping_of_terminator w hclosing, stepAll_nil]
  | stray h =>
    rw [List.singleton_append, stepAll_cons, step, ofTopLevel_stray h]
  | domainRules entity hopening hcontent hnext =>
    have hstays := stepAll_of_stays w fun t ht => step_domainRules_stays w entity (hcontent t ht)
    rw [List.cons_append, stepAll_cons, step_entityBody_where w entity hopening, stepAll_append,
      hstays, stepAll_cons, step_domainRules_of_end w entity hnext, stepAll_cons]
  | derivedAttributes entity hopening hcontent hnext =>
    have hstays := stepAll_of_stays w fun t ht =>
      step_derivedAttributes_stays w entity (hcontent t ht)
    rw [List.cons_append, stepAll_cons, step_entityBody_derive w entity hopening, stepAll_append,
      hstays, stepAll_cons, step_derivedAttributes_of_end w entity hnext, stepAll_cons]

/-! ## Runs -/

variable {w} {s : State} {xs ys : List Token}

lemma Cut.stepAll_eq (h : Cut s w xs ys) : s.stepAll xs w = s.stepAll ys w := by
  obtain ⟨before, region, rest, hregion, rfl, rfl⟩ := h
  rw [stepAll_append, hregion.stepAll_eq, ← stepAll_append]

lemma Cuts.stepAll_eq (h : Cuts s w xs ys) : s.stepAll xs w = s.stepAll ys w := by
  induction h with
  | refl => rfl
  | tail _ hcut ih => exact ih.trans hcut.stepAll_eq

/-- Tokens without any number of unread regions lead to the same state and the same workspace, step
by step, and are read to the same state and the same schema. -/
theorem cuts_invisible (h : Cuts s w xs ys) :
    s.stepAll xs w = s.stepAll ys w ∧ Agree (s.feedAll xs w) (s.feedAll ys w) := by
  have hsteps := h.stepAll_eq
  have hxs := agree_feedAll_stepAll s xs (w := w) rfl
  have hys := agree_feedAll_stepAll s ys (w := w) rfl
  refine ⟨hsteps, ?_, ?_⟩
  · rw [hxs.state, hsteps, hys.state]
  · rw [hxs.schema, hsteps, hys.schema]

/-- The domain rules of an entity and its end. -/
def rulesTokens : List Token :=
  Token.ofLine "WHERE UNIQUE wr : x > 0; INVERSE" ++ Token.ofLine "end_entity;"

/-- An entity of which nothing but the name is read. -/
def wallTokens : List Token :=
  Token.ofLine "ENTITY Wall;" ++ (Token.ofLine "DERIVE END_TYPE; x := 1;" ++ rulesTokens)

/-- The entity after a stray token and a function whose body looks like other declarations. -/
def unreadTokens : List Token :=
  Token.ofLine "(stray)" ++ (Token.ofLine "function f ENTITY END_RULE; End_Function;" ++ wallTokens)

/-- All that is not read is taken out, from the front to the back. -/
theorem cuts_invisible_unreadTokens :
    Cuts topLevel {} unreadTokens (Token.ofLine "ENTITY Wall; end_entity;") ∧
      topLevel.stepAll unreadTokens {} =
        topLevel.stepAll (Token.ofLine "ENTITY Wall; end_entity;") {} ∧
      Agree (topLevel.feedAll unreadTokens {})
        (topLevel.feedAll (Token.ofLine "ENTITY Wall; end_entity;") {}) := by
  have hwall : (topLevel.stepAll (Token.ofLine "ENTITY Wall;") {}).1 = entityBody ⟨0⟩ := by
    decide +kernel
  have hbody : Unread topLevel (Token.ofLine "function f ENTITY END_RULE; End_Function;")
      wallTokens :=
    .body .function (Token.ofLine "f ENTITY END_RULE;") (by decide +kernel) (by decide +kernel)
      (by decide +kernel) _
  have hderived : Unread (entityBody ⟨0⟩) (Token.ofLine "DERIVE END_TYPE; x := 1;")
      rulesTokens :=
    .derivedAttributes _ (by decide +kernel) (by decide +kernel) (by decide +kernel) _
  have hrules : Unread (entityBody ⟨0⟩) (Token.ofLine "WHERE UNIQUE wr : x > 0; INVERSE")
      (Token.ofLine "end_entity;") :=
    .domainRules _ (by decide +kernel) (by decide +kernel) (by decide +kernel) _
  have h : Cuts topLevel {} unreadTokens (Token.ofLine "ENTITY Wall; end_entity;") :=
    .head ⟨[], _, _, .stray (by decide +kernel) _, rfl, rfl⟩ <|
    .head ⟨[], _, _, hbody, rfl, rfl⟩ <|
    .head ⟨Token.ofLine "ENTITY Wall;", _, _, hwall ▸ hderived, rfl, rfl⟩ <|
    .single ⟨Token.ofLine "ENTITY Wall;", _, _, hwall ▸ hrules, rfl, by decide +kernel⟩
  exact ⟨h, cuts_invisible h⟩

end State
end ExpressSchema
