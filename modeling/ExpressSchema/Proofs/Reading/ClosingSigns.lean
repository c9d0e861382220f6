/-
# Blank characters before closing signs

Of the signs that close a part of an entity declaration, some are read the same whether they stand
at the end of a word or on their own: the parenthesis after a supertype, the colon after the label
of a uniqueness rule, the semicolon after a name that is the only one of its rule, and all commas
and semicolons after further names.  A declaration is given here together with the places at which
it has blank characters before such a sign (`EntityText`), and it is read as if there were none at
all (`closingSigns_apart`).  The other signs have to stand at the end of their word.
-/
import ExpressSchema.Proofs.Reading.NestedAggregates
import ExpressSchema.Proofs.Reading.Supertypes

namespace ExpressSchema

lemma Token.beforeSemicolon_of_notMem {t : Token} (h : ';' ∉ t) : t.beforeSemicolon = t :=
  List.takeWhile_eq_self_iff.2 fun c hc => by
    have hne : c ≠ ';' := fun heq => h (heq ▸ hc)
    simp [hne]

/-- Lexemes make up a text without blank characters between them. -/
lemma Text.Spaced.flatten (lexemes : List (List Char)) : Text.Spaced lexemes lexemes.flatten := by
  induction lexemes with
  | nil => exact .blank [] (List.forall_mem_nil _)
  | cons l lexemes ih => exact .lexeme [] (List.forall_mem_nil _) l ih

/-! ## Declarations as they are written -/

/-- A name with a sign to follow it, which stands at the end of the name or apart from it. -/
structure SignedName where
  /-- The name. -/
  name : Token
  /-- The signs that end a part of a uniqueness rule do not stand in the name. -/
  notMem : ',' ∉ name ∧ ':' ∉ name ∧ ';' ∉ name
  /-- The name is no word that ends uniqueness rules. -/
  isAny : name.isAny ["WHERE", "SUBTYPE", "END_ENTITY"] = false
  /-- Whether blank characters stand between the name and the sign. -/
  isApart : Bool

namespace SignedName

variable (n : SignedName)

/-- The tokens of a name and its sign. -/
def tokens (sign : Char) : List Token :=
  if n.isApart then [n.name, [sign]] else [n.name ++ [sign]]

/-- The name with its sign at its end. -/
def attached : SignedName := { n with isApart := false }

/-- The tokens of a list of names with commas between them and a semicolon at the end. -/
def listTokens : SignedName → List SignedName → List Token
  | n, [] => n.tokens ';'
  | n, next :: further => n.tokens ',' ++ listTokens next further

end SignedName

/-- A uniqueness rule as it is written. -/
structure UniqueRule where
  /-- The label, which may be left out. -/
  label : Option SignedName
  /-- The first name. -/
  first : SignedName
  /-- The other names. -/
  further : List SignedName
  /-- A comma after the first name stands at the end of it. -/
  isApart_first : further ≠ [] → first.isApart = false

namespace UniqueRule

/-- The tokens of a rule. -/
def tokens (r : UniqueRule) : List Token :=
  r.label.elim [] (·.tokens ':') ++ SignedName.listTokens r.first r.further

/-- The rule with all signs at the end of words. -/
def attached (r : UniqueRule) : UniqueRule where
  label := r.label.map SignedName.attached
  first := r.first.attached
  further := r.further.map SignedName.attached
  isApart_first _ := rfl

/-- What a rule does to a schema.  Without a label it does nothing; a single name is marked; of
several names it is reported how the first one is written. -/
def effect (r : UniqueRule) (entity : EntityId) (σ : Schema) : Schema :=
  match r.label, r.further with
  | none, _ => σ
  | some _, [] => σ.modifyEntity entity fun e =>
    { e with attributes := e.attributes.map fun a =>
        if a.name = String.ofList r.first.name then { a with isUnique := true } else a }
  | some _, _ :: _ => σ.reportAll [.uniqueOverSeveral entity (Token.text (r.first.name ++ [',']))]

lemma effect_attached (r : UniqueRule) : r.attached.effect = r.effect := by
  obtain ⟨label, first, further, hfirst⟩ := r
  cases label <;> cases further <;> rfl

end UniqueRule

/-- An attribute as it is written: all that counts here is where it starts and where it ends. -/
structure AttributeText where
  /-- The first token, which has the name. -/
  name : Token
  /-- It is no word that means something between the clauses of an entity. -/
  isAny_name : name.isAny State.clauseWords = false
  /-- The tokens between the name and the range. -/
  middle : List Token
  /-- None of them ends the attribute. -/
  middle_stays : ∀ t ∈ middle, ';' ∉ t ∧ t.is "SUBTYPE" = false
  /-- The range. -/
  range : Token
  /-- No semicolon stands in the range. -/
  notMem_range : ';' ∉ range
  /-- The range does not end the entity. -/
  is_range : range.is "END_ENTITY" = false

/-- The tokens of an attribute, with the semicolon at the end of the range. -/
def AttributeText.tokens (a : AttributeText) : List Token :=
  a.name :: (a.middle ++ [a.range ++ [';']])

open Text (Spaced listLexemes)

/-- The supertype of an entity as it is written, with any blank characters around the name. -/
structure SupertypeText where
  /-- The word before `OF`. -/
  subtype : Spelling "SUBTYPE"
  /-- The word before the parenthesis. -/
  link : Spelling "OF"
  /-- The name of the supertype. -/
  name : String
  /-- The name can stand in a list. -/
  listable : Name.Listable name
  /-- The rest of the clause. -/
  list : List Char
  /-- It is the name in parentheses and a semicolon, with the semicolon at the parenthesis. -/
  spaced : Spaced (listLexemes [name] ++ [[')', ';']]) list

namespace SupertypeText

/-- The tokens of the clause. -/
def tokens (s : SupertypeText) : List Token :=
  s.subtype.1 :: s.link.1 :: Text.words s.list

/-- The clause without blank characters around the name. -/
def attached (s : SupertypeText) : SupertypeText where
  subtype := s.subtype
  link := s.link
  name := s.name
  listable := s.listable
  list := (listLexemes [s.name] ++ [[')', ';']]).flatten
  spaced := .flatten _

end SupertypeText

/-- An entity declaration as it is written, up to whatever follows its attributes and uniqueness
rules. -/
structure EntityText where
  /-- The word that opens the declaration. -/
  opening : Spelling "ENTITY"
  /-- The name. -/
  name : Token
  /-- The clause on the supertype, if there is one; then the semicolon is that of the clause. -/
  supertype : Option SupertypeText
  /-- The attributes. -/
  attributes : List AttributeText
  /-- The word before the uniqueness rules and the rules, if there are any. -/
  unique : Option (Spelling "UNIQUE" × List UniqueRule)

namespace EntityText

/-- The token with the name. -/
def header (d : EntityText) : Token := if d.supertype.isNone then d.name ++ [';'] else d.name

/-- The tokens after the one with the name. -/
def clauses (d : EntityText) : List Token :=
  d.supertype.elim [] SupertypeText.tokens ++ (d.attributes.flatMap AttributeText.tokens ++
    d.unique.elim [] fun u => u.1.1 :: u.2.flatMap UniqueRule.tokens)

/-- The tokens of a declaration. -/
def tokens (d : EntityText) : List Token := d.opening.1 :: d.header :: d.clauses

/-- The declaration with all signs at the end of words. -/
def attached (d : EntityText) : EntityText :=
  { d with
    supertype := d.supertype.map SupertypeText.attached
    unique := d.unique.map fun u => (u.1, u.2.map UniqueRule.attached) }

/-- Where a declaration leads. -/
def ends (d : EntityText) (entity : EntityId) : State :=
  if d.unique.isNone then .entityBody entity else .uniqueLabel entity

end EntityText

namespace State

/-! ## Tokens that may stand for each other -/

/-- From any schema the two lists of tokens lead to this state, and to the same schema. -/
def Interchangeable (s : State) (xs ys : List Token) (t : State) : Prop :=
  ∀ σ : Schema, ∃ τ, Leads s σ xs t τ ∧ Leads s σ ys t τ

variable {s t u : State} {xs ys xs' ys' : List Token} {token : Token} {σ : Schema}

lemma Leads.of_stays (h : ∀ x ∈ xs, ∀ w, s.step x w = (s, w)) : Leads s σ xs s σ := by
  induction xs with
  | nil => exact .nil
  | cons x xs ih =>
    obtain ⟨hx, hothers⟩ := List.forall_mem_cons.1 h
    exact .move hx (ih hothers)

namespace Interchangeable

lemma nil : Interchangeable s [] [] s := fun σ => ⟨σ, .nil, .nil⟩

lemma append (h : Interchangeable s xs ys t) (h' : Interchangeable t xs' ys' u) :
    Interchangeable s (xs ++ xs') (ys ++ ys') u := fun σ => by
  obtain ⟨τ, hxs, hys⟩ := h σ
  obtain ⟨υ, hxs', hys'⟩ := h' τ
  exact ⟨υ, hxs.append hxs', hys.append hys'⟩

lemma move (h : ∀ w, s.step token w = (t, w)) (h' : Interchangeable t xs ys u) :
    Interchangeable s (token :: xs) (token :: ys) u := fun σ => by
  obtain ⟨τ, hxs, hys⟩ := h' σ
  exact ⟨τ, .move h hxs, .move h hys⟩

/-- Tokens that lead to the same state from wherever they are read may stand for themselves. -/
lemma refl (h : ∀ w, (s.feedAll xs w).1 = t) : Interchangeable s xs xs t := fun σ => by
  have hleads : Leads s σ xs t (s.feedAll xs { ({} : Workspace) with schema := σ }).2.schema :=
    fun w hw => by
      have hschema : w.schema = { ({} : Workspace) with schema := σ }.schema := hw
      exact ⟨h w, (agree_feedAll s xs hschema).schema⟩
  exact ⟨_, hleads, hleads⟩

/-- Piece by piece, as long as each piece leads back to where it was met. -/
lemma flatMap {α : Type} {f g : α → List Token} {l : List α}
    (h : ∀ a ∈ l, Interchangeable s (f a) (g a) s) :
    Interchangeable s (l.flatMap f) (l.flatMap g) s := by
  induction l with
  | nil => exact nil
  | cons a l ih =>
    obtain ⟨ha, hothers⟩ := List.forall_mem_cons.1 h
    exact ha.append (ih hothers)

/-- What follows is read alike. -/
lemma agree (h : Interchangeable s xs ys t) (rest : List Token) (w : Workspace) :
    Agree (s.feedAll (xs ++ rest) w) (s.feedAll (ys ++ rest) w) := by
  obtain ⟨τ, hxs, hys⟩ := h w.schema
  obtain ⟨hstate, hschema⟩ := hxs w rfl
  obtain ⟨hstate', hschema'⟩ := hys w rfl
  rw [feedAll_append, feedAll_append, hstate, hstate']
  exact agree_feedAll t rest (hschema.trans hschema'.symm)

end Interchangeable

/-! ## Supertypes and attributes -/

variable (entity : EntityId)

lemma step_entityBody_subtype (h : token.is "SUBTYPE" = true) (w : Workspace) :
    (entityBody entity).step token w = (subtypeOf entity, w) := by
  simp [step, readEntityBody, h]

lemma step_subtypeOf_of (h : token.is "OF" = true) (w : Workspace) :
    (subtypeOf entity).step token w = (firstSupertype entity, w) := by
  simp [step, readSubtypeOf, h]

lemma leads_supertypeClause (c : SupertypeText) :
    Leads (entityBody entity) σ c.tokens (entityBody entity)
      (σ.modifyEntity entity fun e => { e with supertype := some c.name }) := by
  have hnames : ∀ name ∈ [c.name], Name.Listable name := List.forall_mem_singleton.2 c.listable
  have hread := leads_supertypes entity (σ := σ) hnames c.spaced
  rw [reportedSupertypes_of_single (flatMap_names_supertypes hnames c.spaced), List.map_nil,
    Schema.reportAll_nil] at hread
  exact .move (step_entityBody_subtype entity c.subtype.2)
    (.move (step_subtypeOf_of entity c.link.2) hread)

lemma step_attributeRange_middle (draft : AttributeDraft) (hsemicolon : ';' ∉ token)
    (hsubtype : token.is "SUBTYPE" = false) (w : Workspace) :
    ∃ draft', ((attributeRange entity draft).step token w).1 = attributeRange entity draft' := by
  simp only [step, readAttribute, is_entityEnd_eq_false hsemicolon, hsubtype]
  split_ifs <;> simp_all

lemma feedAll_middle {middle : List Token}
    (hmiddle : ∀ t ∈ middle, ';' ∉ t ∧ t.is "SUBTYPE" = false) (draft : AttributeDraft)
    (w : Workspace) :
    ∃ draft',
      ((attributeRange entity draft).feedAll middle w).1 = attributeRange entity draft' := by
  induction middle generalizing draft w with
  | nil => exact ⟨draft, rfl⟩
  | cons t middle ih =>
    obtain ⟨⟨hsemicolon, hsubtype⟩, hothers⟩ := List.forall_mem_cons.1 hmiddle
    obtain ⟨draft', hstep⟩ := step_attributeRange_middle entity draft hsemicolon hsubtype w
    have hfeed : ((attributeRange entity draft).feed t w).1 = attributeRange entity draft' := hstep
    rw [feedAll_cons, hfeed]
    exact ih hothers draft' _

/-- An attribute is over with its range. -/
lemma feedAll_attribute (a : AttributeText) (w : Workspace) :
    ((entityBody entity).feedAll a.tokens w).1 = entityBody entity := by
  have hname : ((entityBody entity).feed a.name w).1 = attributeRange entity _ :=
    congrArg Prod.fst (step_entityBody_name entity w a.isAny_name)
  rw [AttributeText.tokens, feedAll_cons, hname, feedAll_append]
  obtain ⟨draft, hdraft⟩ :=
    feedAll_middle entity a.middle_stays _ ((entityBody entity).feed a.name w).2
  rw [hdraft]
  exact congrArg Prod.fst (step_attributeRange_end entity draft _ a.notMem_range a.is_range)

/-! ## Uniqueness rules -/

variable {n : SignedName} {sign : Char}

/-- A name and the sign after it leave no uniqueness rules, with blank characters between them or
not. -/
lemma leaveUnique?_of_mem_tokens (hsign : sign ∈ [',', ':', ';']) (h : token ∈ n.tokens sign) :
    leaveUnique? entity token = none := by
  have hword := Token.isAny_eq_false_iff.1 n.isAny
  simp only [List.forall_mem_cons] at hword
  have hnone : ∀ {t : Token}, t.is "WHERE" = false → t.is entityEnd = false →
      t.is "SUBTYPE" = false → leaveUnique? entity t = none := fun hwhere hend hsubtype => by
    rw [leaveUnique?, hwhere, if_neg Bool.false_ne_true, leaveClause?_eq_none entity hend hsubtype]
  unfold SignedName.tokens at h
  split_ifs at h
  · simp only [List.mem_cons, List.not_mem_nil, or_false] at h
    rcases h with rfl | rfl
    · exact hnone hword.1 (is_entityEnd_eq_false n.notMem.2.2) hword.2.1
    · simp only [List.mem_cons, List.not_mem_nil, or_false] at hsign
      rcases hsign with rfl | rfl | rfl <;> exact hnone (by decide) (by decide) (by decide)
  · rw [List.mem_singleton.1 h]
    have hmem : sign ∈ n.name ++ [sign] := List.mem_append_right _ (List.mem_singleton.2 rfl)
    have hother : ∀ {k : String}, sign.toLower ∉ k.toList.map Char.toLower →
        Token.is (n.name ++ [sign]) k = false := Token.is_eq_false_of_mem hmem
    simp only [List.mem_cons, List.not_mem_nil, or_false] at hsign
    rcases hsign with rfl | rfl | rfl
    · exact hnone (hother (by decide)) (hother (by decide)) (hother (by decide))
    · exact hnone (hother (by decide)) (hother (by decide)) (hother (by decide))
    · refine hnone (hother (by decide)) ?_ (hother (by decide))
      rw [Token.is_append_semicolon n.name (k := "END_ENTITY") (by decide)]
      exact hword.2.2.1

lemma notMem_colon_of_mem_tokens (hsign : sign ≠ ':') (h : token ∈ n.tokens sign) :
    ':' ∉ token := by
  have hsign' : ':' ∉ [sign] := by simpa using hsign.symm
  unfold SignedName.tokens at h
  split_ifs at h
  · simp only [List.mem_cons, List.not_mem_nil, or_false] at h
    rcases h with rfl | rfl
    · exact n.notMem.2.1
    · exact hsign'
  · rw [List.mem_singleton.1 h, List.mem_append, not_or]
    exact ⟨n.notMem.2.1, hsign'⟩

lemma step_uniqueLabel_stays (hleave : leaveUnique? entity token = none) (hcolon : ':' ∉ token)
    (w : Workspace) : (uniqueLabel entity).step token w = (uniqueLabel entity, w) := by
  simp [step, readUniqueLabel, hleave, Text.endsWith_eq_false_of_notMem hcolon]

lemma step_uniqueLabel_colon (hleave : leaveUnique? entity token = none)
    (hcolon : Text.endsWith token ':' = true) (w : Workspace) :
    (uniqueLabel entity).step token w = (uniqueName entity, w) := by
  simp [step, readUniqueLabel, hleave, hcolon]

lemma leads_label (n : SignedName) :
    Leads (uniqueLabel entity) σ (n.tokens ':') (uniqueName entity) σ := by
  have hleave : ∀ t ∈ n.tokens ':', leaveUnique? entity t = none := fun _ =>
    leaveUnique?_of_mem_tokens entity (by decide)
  unfold SignedName.tokens at hleave ⊢
  split_ifs at hleave ⊢
  · simp only [List.forall_mem_cons] at hleave
    exact .move (step_uniqueLabel_stays entity hleave.1 n.notMem.2.1)
      (.move (step_uniqueLabel_colon entity hleave.2.1 rfl) .nil)
  · exact .move (step_uniqueLabel_colon entity (hleave _ List.mem_cons_self) (by simp)) .nil

/-- Names of a rule are passed over where a label is looked for. -/
lemma leads_listTokens_skipped (n : SignedName) (further : List SignedName) :
    Leads (uniqueLabel entity) σ (SignedName.listTokens n further) (uniqueLabel entity) σ := by
  have hstays : ∀ (n : SignedName) (sign : Char), sign ∈ [',', ';'] →
      Leads (uniqueLabel entity) σ (n.tokens sign) (uniqueLabel entity) σ := fun n sign hsign => by
    have hsigns : [',', ';'] ⊆ [',', ':', ';'] := by decide
    have hcolon : sign ≠ ':' := fun h => absurd (h ▸ hsign) (by decide)
    exact .of_stays fun t ht w => step_uniqueLabel_stays entity
      (leaveUnique?_of_mem_tokens entity (hsigns hsign) ht)
      (notMem_colon_of_mem_tokens hcolon ht) w
  induction further generalizing n with
  | nil => exact hstays n ';' (by decide)
  | cons next further ih => exact (hstays n ',' (by decide)).append (ih next)

lemma step_uniqueName (hleave : leaveUnique? entity token = none) (w : Workspace) :
    (uniqueName entity).step token w = (uniqueLabel entity, markUnique entity token w) := by
  simp [step, readUniqueName, hleave]

/-- With its semicolon or without, a single name marks the attributes of this name. -/
lemma markUnique_of_name {name : Token} (hcomma : ',' ∉ token)
    (hname : token.beforeSemicolon = name) (w : Workspace) :
    markUnique entity token w = w.modifyEntity entity fun e =>
      { e with attributes := e.attributes.map fun a =>
          if a.name = String.ofList name then { a with isUnique := true } else a } := by
  simp [markUnique, hcomma, hname]

/-- A name that is the only one of its rule is marked, whether its semicolon stands apart or not. -/
lemma leads_soleName (n : SignedName) :
    Leads (uniqueName entity) σ (n.tokens ';') (uniqueLabel entity)
      (σ.modifyEntity entity fun e =>
        { e with attributes := e.attributes.map fun a =>
            if a.name = String.ofList n.name then { a with isUnique := true } else a }) := by
  have hleave : ∀ t ∈ n.tokens ';', leaveUnique? entity t = none := fun _ =>
    leaveUnique?_of_mem_tokens entity (by decide)
  obtain ⟨hcomma, -, hsemicolon⟩ := n.notMem
  unfold SignedName.tokens at hleave ⊢
  split_ifs at hleave ⊢
  · simp only [List.forall_mem_cons] at hleave
    have hmark := markUnique_of_name entity hcomma (Token.beforeSemicolon_of_notMem hsemicolon)
    refine .write (fun w hw => ?_)
      (.move (step_uniqueLabel_stays entity hleave.2.1 (by decide)) .nil)
    rw [step_uniqueName entity hleave.1, hmark]
    exact ⟨rfl, by rw [← hw]; rfl⟩
  · have hcomma' : ',' ∉ n.name ++ [';'] := by simpa using hcomma
    have hmark := markUnique_of_name entity hcomma' (Token.beforeSemicolon_append hsemicolon)
    refine .write (fun w hw => ?_) .nil
    rw [step_uniqueName entity (hleave _ List.mem_cons_self), hmark]
    exact ⟨rfl, by rw [← hw]; rfl⟩

/-- Of several names, how the first one is written is reported. -/
lemma leads_firstName (n : SignedName) (h : n.isApart = false) :
    Leads (uniqueName entity) σ (n.tokens ',') (uniqueLabel entity)
      (σ.reportAll [.uniqueOverSeveral entity (Token.text (n.name ++ [',']))]) := by
  have hleave : ∀ t ∈ n.tokens ',', leaveUnique? entity t = none := fun _ =>
    leaveUnique?_of_mem_tokens entity (by decide)
  rw [SignedName.tokens, if_neg (by simp [h])] at hleave ⊢
  refine .write (fun w hw => ?_) .nil
  rw [step_uniqueName entity (hleave _ List.mem_cons_self)]
  have hreport : markUnique entity (n.name ++ [',']) w =
      w.report (.uniqueOverSeveral entity (Token.text (n.name ++ [',']))) := by
    simp [markUnique]
  exact ⟨rfl, by rw [hreport, Workspace.schema_report, hw]⟩

lemma leads_uniqueRule (r : UniqueRule) :
    Leads (uniqueLabel entity) σ r.tokens (uniqueLabel entity) (r.effect entity σ) := by
  obtain ⟨label, first, further, hfirst⟩ := r
  cases label with
  | none => exact leads_listTokens_skipped entity first further
  | some label =>
    refine (leads_label entity label).append ?_
    cases further with
    | nil => exact leads_soleName entity first
    | cons next further =>
      refine .append (t := uniqueLabel entity) ?_ (leads_listTokens_skipped entity next further)
      exact leads_firstName entity first (hfirst (List.cons_ne_nil _ _))

lemma step_entityBody_unique (h : token.is "UNIQUE" = true) (w : Workspace) :
    (entityBody entity).step token w = (uniqueLabel entity, w) := by
  have hword : ∀ k ∈ clauseWords, token.is k = decide (k = "UNIQUE") :=
    fun k hk => is_clauseWord h (by decide) hk
  simp only [clauseWords, entityEnd, List.forall_mem_cons] at hword
  simp [step, readEntityBody, hword]

/-! ## Declarations -/

lemma ofTopLevel_entity (h : token.is "ENTITY" = true) : ofTopLevel token = entityName := by
  have hword : ∀ k ∈ declarationWords, token.is k = decide (k = "ENTITY") :=
    fun k hk => is_declarationWord h (by decide) hk
  simp only [declarationWords, List.forall_mem_cons] at hword
  simp [ofTopLevel, hword]

lemma interchangeable_clauses (d : EntityText) :
    Interchangeable (entityBody entity) d.clauses d.attached.clauses (d.ends entity) := by
  obtain ⟨opening, name, supertype, attributes, unique⟩ := d
  refine .append (t := entityBody entity) ?_ (.append (t := entityBody entity) ?_ ?_)
  · cases supertype with
    | none => exact .nil
    | some c =>
      exact fun σ => ⟨_, leads_supertypeClause entity c, leads_supertypeClause entity c.attached⟩
  · exact .flatMap fun a _ => .refl (feedAll_attribute entity a)
  · cases unique with
    | none => exact .nil
    | some u =>
      refine .move (step_entityBody_unique entity u.1.2) ?_
      have hrules : Interchangeable (uniqueLabel entity) (u.2.flatMap UniqueRule.tokens)
          (u.2.flatMap fun r => r.attached.tokens) (uniqueLabel entity) :=
        .flatMap fun r _ σ => ⟨_, leads_uniqueRule entity r,
          r.effect_attached ▸ leads_uniqueRule entity r.attached⟩
      change Interchangeable _ _ ((u.2.map UniqueRule.attached).flatMap UniqueRule.tokens) _
      rw [List.flatMap_map]
      exact hrules

/-- Blank characters before the signs that may stand apart change nothing: a declaration leads to
the same state and the same schema as if there were none, and so does whatever follows it. -/
theorem closingSigns_apart (d : EntityText) (rest : List Token) (w : Workspace) :
    Agree (topLevel.feedAll (d.tokens ++ rest) w)
      (topLevel.feedAll (d.attached.tokens ++ rest) w) := by
  have hheader : d.attached.header = d.header := by
    obtain ⟨opening, name, supertype, attributes, unique⟩ := d
    cases supertype <;> rfl
  obtain ⟨entity, w', hstart⟩ : ∃ entity w', ∀ tokens,
      topLevel.feedAll (d.opening.1 :: d.header :: tokens) w =
        (entityBody entity).feedAll tokens w' := by
    have hopening : (topLevel.feed d.opening.1 w).1 = entityName := ofTopLevel_entity d.opening.2
    exact ⟨_, _, fun tokens => by rw [feedAll_cons, feedAll_cons, hopening]; rfl⟩
  have hrest := (interchangeable_clauses entity d).agree rest w'
  rw [← hstart, ← hstart] at hrest
  rw [EntityText.tokens, EntityText.tokens, hheader]
  exact hrest

/-- A declaration with blank characters before every sign that may stand apart. -/
def apartText : EntityText where
  opening := .capital _
  name := "Door".toList
  supertype := some
    { subtype := .capital _
      link := .capital _
      name := "Opening"
      listable := by decide
      list := "( Opening );".toList
      spaced :=
        have hnone : ∀ c ∈ [], Text.isBlank c = true := List.forall_mem_nil _
        have hspace : ∀ c ∈ [' '], Text.isBlank c = true := List.forall_mem_singleton.2 rfl
        .lexeme _ hnone _ (.lexeme _ hspace _ (.lexeme _ hspace _ (.blank _ hnone))) }
  attributes :=
    [⟨"x".toList, by decide, [":".toList], by decide, "REAL".toList, by decide, by decide⟩,
      ⟨"y".toList, by decide, [":".toList], by decide, "REAL".toList, by decide, by decide⟩]
  unique := some (.capital _,
    [⟨some ⟨"u".toList, by decide, by decide, true⟩, ⟨"x".toList, by decide, by decide, true⟩, [],
        absurd rfl⟩,
      ⟨some ⟨"v".toList, by decide, by decide, true⟩, ⟨"x".toList, by decide, by decide, false⟩,
        [⟨"y".toList, by decide, by decide, true⟩], fun _ => rfl⟩])

/-- It is read as if there were none of them. -/
theorem closingSigns_apart_apartText :
    Agree
      (topLevel.feedAll (Token.ofLine ("ENTITY Door SUBTYPE OF ( Opening ); x : REAL; y : REAL; " ++
        "UNIQUE u : x ; v : x, y ; END_ENTITY;")) {})
      (topLevel.feedAll (Token.ofLine ("ENTITY Door SUBTYPE OF (Opening); x : REAL; y : REAL; " ++
        "UNIQUE u: x; v: x, y; END_ENTITY;")) {}) := by
  have htokens : apartText.tokens ++ ["END_ENTITY;".toList] = Token.ofLine
      ("ENTITY Door SUBTYPE OF ( Opening ); x : REAL; y : REAL; " ++
        "UNIQUE u : x ; v : x, y ; END_ENTITY;") := by decide +kernel
  have hattached : apartText.attached.tokens ++ ["END_ENTITY;".toList] = Token.ofLine
      ("ENTITY Door SUBTYPE OF (Opening); x : REAL; y : REAL; " ++
        "UNIQUE u: x; v: x, y; END_ENTITY;") := by decide +kernel
  rw [← htokens, ← hattached]
  exact closingSigns_apart apartText ["END_ENTITY;".toList] {}

/-- The attributes that are read of a line, each with its range and whether it is unique. -/
def attributesRead (line : String) : List (String × String × Bool) :=
  (topLevel.feedAll (Token.ofLine line) {}).2.schema.entities.values.flatMap fun e =>
    e.attributes.map fun a => (a.name, a.range, a.isUnique)

/-- The signs that have to stand at the end of their word.  After the name of an entity or after the
parenthesis of its supertype a semicolon of its own is taken for the name of an attribute, after a
range it leaves the range empty, and a comma of its own after the first name of a rule makes the
name the only one. -/
theorem closingSigns_misread :
    attributesRead "ENTITY A; x : REAL; END_ENTITY;" = [("x", "REAL", false)] ∧
      attributesRead "ENTITY A ; x : REAL; END_ENTITY;" = [(";", "REAL", false)] ∧
      attributesRead "ENTITY A; x : REAL ; END_ENTITY;" = [("x", "", false)] ∧
      attributesRead "ENTITY A SUBTYPE OF (B); x : REAL; END_ENTITY;" = [("x", "REAL", false)] ∧
      attributesRead "ENTITY A SUBTYPE OF (B) ; x : REAL; END_ENTITY;" = [(";", "REAL", false)] ∧
      attributesRead "ENTITY A; x : REAL; y : REAL; UNIQUE u : x, y; END_ENTITY;" =
        [("x", "REAL", false), ("y", "REAL", false)] ∧
      attributesRead "ENTITY A; x : REAL; y : REAL; UNIQUE u : x , y; END_ENTITY;" =
        [("x", "REAL", true), ("y", "REAL", false)] := by
  decide +kernel

end State

end ExpressSchema
