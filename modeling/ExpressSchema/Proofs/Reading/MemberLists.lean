/-
# Lists of members

The members of a select, the values of an enumeration and the subtypes in a group are written as
lists of names.  How such a list falls into tokens depends on its spacing, and the three clauses end
in three ways: at a token with a semicolon at its end, and for subtypes at the first token with a
closing parenthesis, after which what is left of the signs is read in another state.  What is read
is the names in each case, none of them lost, merged with another or doubled
(`memberList_spacing`).
-/
import ExpressSchema.Proofs.Printing.Word
import ExpressSchema.Proofs.Reading.Spacing
import ExpressSchema.Proofs.Reading.Unread

namespace ExpressSchema

/-! ## Letters and tokens -/

namespace Text

lemma sameLetters_comm (cs ds : List Char) : sameLetters cs ds = sameLetters ds cs := by
  rw [Bool.eq_iff_iff, sameLetters_iff, sameLetters_iff]
  exact eq_comm

/-- Every letter of a keyword stands in a token that is the keyword, in one case or the other. -/
lemma exists_mem_of_sameLetters {t k : List Char} (h : sameLetters t k = true) {c : Char}
    (hc : c ∈ k) : ∃ d ∈ t, d.toLower = c.toLower := by
  have hmem : c.toLower ∈ t.map Char.toLower := by
    rw [sameLetters_iff.1 h]
    exact List.mem_map_of_mem hc
  simpa using hmem

/-- A character that is no small letter is the small letter of no other character. -/
lemma eq_of_toLower_eq {c d : Char} (h : c.toLower = d) (hd : d.isLower = false) : c = d := by
  have hsmall : c.toLower.isLower = false → c = c.toLower :=
    rel_toLower (r := fun c d => d.isLower = false → c = d) (fun _ _ => rfl) (by decide) c
  rw [← h] at hd ⊢
  exact hsmall hd

/-- A blank character has one case only. -/
lemma toLower_of_isBlank {c : Char} (h : isBlank c = true) : c.toLower = c := by
  have hblank : isBlank c = true → c.toLower = c :=
    rel_toLower (r := fun c d => isBlank c = true → d = c) (fun _ _ => rfl) (by decide) c
  exact hblank h

end Text

namespace Token

/-- A token without signs lists itself. -/
lemma names_of_plain {t : Token} (hne : t ≠ [])
    (h : ∀ c ∈ t, Name.isPunctuation c = false) : t.names = [t.text] := by
  have hcomma : ',' ∉ t := fun hmem => absurd (h _ hmem) (by decide)
  have hbare : Name.bare t = t := List.filter_eq_self.2 fun c hc => by simp [h c hc]
  simp [Token.names, List.splitOn_eq_singleton hcomma, hbare, hne, Token.text]

/-- The signs that close a list name nothing. -/
lemma names_of_closing {token : Token} (h : ∀ c ∈ token, c = ')' ∨ c = ';') : token.names = [] := by
  have hcomma : ',' ∉ token := fun hmem => by
    rcases h _ hmem with h | h <;> exact absurd h (by decide)
  have hbare : Name.bare token = [] := List.filter_eq_nil_iff.2 fun c hc => by
    rcases h c hc with rfl | rfl <;> decide
  simp [Token.names, List.splitOn_eq_singleton hcomma, hbare]

end Token

/-! ## Groups of siblings -/

/-- Names in their order, each in its first spelling only; the letters `A` to `Z` count in either
case. -/
def firstSpellings (names : List String) : List String :=
  names.eraseDupsBy fun m n => Text.sameLetters m.toList n.toList

namespace SiblingSet

lemma members_foldl_insert (g : SiblingSet) (names : List String) :
    (names.foldl insert g).members =
      g.members ++ firstSpellings (names.filter fun n => !g.contains n) := by
  induction names generalizing g with
  | nil => exact (List.append_nil _).symm
  | cons name names ih =>
    rw [List.foldl_cons, ih, insert]
    by_cases h : g.contains name = true
    · rw [if_pos h, List.filter_cons_of_neg (by simp [h])]
    · rw [if_neg h, List.filter_cons_of_pos (by simp [h]), firstSpellings, firstSpellings,
        List.eraseDupsBy_cons, List.filter_filter, List.append_assoc, List.singleton_append]
      have hsame : ∀ n, (!({ members := g.members ++ [name] } : SiblingSet).contains n) =
          (decide (Text.sameLetters n.toList name.toList = false) && !g.contains n) := fun n => by
        simp [contains, Text.sameLetters_comm name.toList, Bool.and_comm]
      simp only [hsame]

/-- A group that starts without members gets the names in their first spelling. -/
lemma foldl_insert_empty (names : List String) :
    names.foldl insert ⟨[]⟩ = ⟨firstSpellings names⟩ := by
  have h := members_foldl_insert ⟨[]⟩ names
  have hall : (names.filter fun n => !(⟨[]⟩ : SiblingSet).contains n) = names :=
    List.filter_eq_self.2 fun _ _ => rfl
  rw [hall] at h
  exact congrArg mk h

example : ["A", "b", "a"].foldl insert ⟨[]⟩ = ⟨["A", "b"]⟩ := by decide +kernel

end SiblingSet

namespace Schema

/-- Each name is entered into the index of siblings or reported as listed before, and in either case
it is in the index then. -/
def IndexesSiblings (set : SiblingSetId) (names : List String) (s t : Schema) : Prop :=
  ∃ fresh again : List String,
    (fresh ++ again).Perm names ∧ fresh.Sublist names ∧ again.Sublist names ∧
    t.siblings.byMember.entries =
      s.siblings.byMember.entries ++ fresh.map (fun name => (Name.canonical name, set)) ∧
    t.diagnostics =
      s.diagnostics ++ again.map (fun name => (Problem.siblingTwice name).toDiagnostic) ∧
    ∀ name ∈ names, Name.canonical name ∈ t.siblings.byMember.keys

/-- What listing names in a group makes of a schema. -/
structure Lists (set : SiblingSetId) (names : List String) (s t : Schema) : Prop where
  /-- The names are added to the group. -/
  sets : t.siblings.sets =
    s.siblings.sets.modify set.index fun g => names.foldl SiblingSet.insert g
  index : IndexesSiblings set names s t
  /-- Nothing else changes. -/
  others : t = { s with siblings := t.siblings, diagnostics := t.diagnostics }

lemma Lists.refl (set : SiblingSetId) (s : Schema) : Lists set [] s s where
  sets := (List.modify_id set.index s.siblings.sets).symm
  index := ⟨[], [], .refl [], .refl [], .refl [], (List.append_nil _).symm,
    (List.append_nil _).symm, fun _ h => absurd h List.not_mem_nil⟩
  others := rfl

lemma Lists.trans {set : SiblingSetId} {xs ys : List String} {s t u : Schema}
    (h : Lists set xs s t) (h' : Lists set ys t u) : Lists set (xs ++ ys) s u where
  sets := by
    rw [h'.sets, h.sets, List.modify_modify_eq]
    simp only [List.foldl_append, Function.comp_def]
  index := by
    obtain ⟨fresh, again, hperm, hfresh, hagain, hentries, hdiagnostics, hkeys⟩ := h.index
    obtain ⟨fresh', again', hperm', hfresh', hagain', hentries', hdiagnostics', hkeys'⟩ := h'.index
    refine ⟨fresh ++ fresh', again ++ again', ?_, hfresh.append hfresh', hagain.append hagain', ?_,
      ?_, List.forall_mem_append.2 ⟨fun name hname => ?_, hkeys'⟩⟩
    · have hswap : (fresh ++ (fresh' ++ again) ++ again').Perm
          (fresh ++ (again ++ fresh') ++ again') :=
        (List.perm_append_comm.append_left fresh).append_right again'
      have hparts := hswap.trans (by simpa using hperm.append hperm')
      simpa using hparts
    · rw [hentries', hentries, List.map_append, List.append_assoc]
    · rw [hdiagnostics', hdiagnostics, List.map_append, List.append_assoc]
    · have hsubset : t.siblings.byMember.keys ⊆ u.siblings.byMember.keys := by
        unfold Table.keys
        rw [hentries', List.map_append]
        exact List.subset_append_left _ _
      exact hsubset (hkeys name hname)
  others := by
    rw [h'.others, h.others]

lemma modifyType_modifyType (s : Schema) (type : TypeId) (f g : TypeDecl → TypeDecl) :
    (s.modifyType type f).modifyType type g = s.modifyType type fun t => g (f t) := by
  have htypes : (s.types.modifyAt type.index f).modifyAt type.index g =
      s.types.modifyAt type.index fun t => g (f t) :=
    Table.ext (List.modify_modify_eq _ _ _ _)
  exact congrArg (fun types => { s with types := types }) htypes

end Schema

namespace State

/-- Listing one name enters it into the index or reports it. -/
lemma lists_addSibling (set : SiblingSetId) (name : String) (w : Workspace) :
    Schema.Lists set [name] w.schema (addSibling set w name).schema := by
  by_cases h : Name.canonical name ∈ w.schema.siblings.byMember.keys
  · have hknown : w.schema.siblings.byMember.contains (Name.canonical name) = true :=
      Table.contains_iff.2 h
    have hlisted : (addSibling set w name).schema =
        ({ w.schema with
          siblings := { w.schema.siblings with
            sets := w.schema.siblings.sets.modify set.index (·.insert name) } } : Schema).reportAll
          [.siblingTwice name] := by
      simp [addSibling, SiblingIndex.add, hknown]
    rw [hlisted]
    exact ⟨rfl, ⟨[], [name], .refl _, List.nil_sublist _, .refl _, (List.append_nil _).symm, rfl,
      by simpa using h⟩, rfl⟩
  · have hunknown : w.schema.siblings.byMember.contains (Name.canonical name) = false := by
      simpa [Bool.eq_false_iff] using h
    have hlisted : (addSibling set w name).schema =
        { w.schema with
          siblings := {
            sets := w.schema.siblings.sets.modify set.index (·.insert name)
            byMember := w.schema.siblings.byMember.insert (Name.canonical name) set } } := by
      simp [addSibling, SiblingIndex.add, hunknown]
    rw [hlisted]
    exact ⟨rfl, ⟨[name], [], .refl _, .refl _, List.nil_sublist _, Table.entries_insert h set,
      (List.append_nil _).symm, by simp [h]⟩, rfl⟩

lemma lists_foldl_addSibling (set : SiblingSetId) (names : List String) (w : Workspace) :
    Schema.Lists set names w.schema (names.foldl (addSibling set) w).schema := by
  induction names generalizing w with
  | nil => exact .refl set w.schema
  | cons name names ih => exact (lists_addSibling set name w).trans (ih (addSibling set w name))

/-! ## Members of selects and values of enumerations -/

/-- In this state the names of every token are entered into the type, up to a token with a semicolon
at its end. -/
structure Collects (s : State) (type : TypeId) (add : List String → TypeDecl → TypeDecl) :
    Prop where
  add_append : ∀ xs ys t, add ys (add xs t) = add (xs ++ ys) t
  agree_step : ∀ token w, Agree (s.step token w)
    (if Text.endsWith token ';' then topLevel else s, w.modifyType type (add token.names))

lemma collects_selectMembers (type : TypeId) :
    (selectMembers type).Collects type
      fun names t => { t with members := t.members ++ names } where
  add_append xs ys t := by simp
  agree_step token w := by
    simp only [step, readSelectMembers]
    split_ifs <;> exact agree_move rfl _

lemma collects_enumerationValues (type : TypeId) :
    (enumerationValues type).Collects type
      fun names t => { t with values := t.values ++ names.map Name.canonical } where
  add_append xs ys t := by simp
  agree_step token w := by
    have hschema : ∀ next, Agree
        (next, (w.canonicalAll token.names).2.modifyType type fun t =>
          { t with values := t.values ++ (w.canonicalAll token.names).1 })
        (next, w.modifyType type fun t =>
          { t with values := t.values ++ token.names.map Name.canonical }) :=
      fun next => ⟨rfl, by simp⟩
    simp only [step, readEnumerationValues]
    split_ifs <;> exact hschema _

/-- The names of the tokens are entered up to the first one with a semicolon at its end. -/
lemma Collects.agree_stepAll {s : State} {type : TypeId} {add : List String → TypeDecl → TypeDecl}
    (h : s.Collects type add) {front : List Token} {last : Token}
    (hfront : ∀ t ∈ front, Text.endsWith t ';' = false) (hlast : Text.endsWith last ';' = true)
    (w : Workspace) :
    Agree (s.stepAll (front ++ [last]) w)
      (topLevel, w.modifyType type (add ((front ++ [last]).flatMap Token.names))) := by
  induction front generalizing w with
  | nil =>
    have hstep := h.agree_step last w
    rw [if_pos hlast] at hstep
    simpa using hstep
  | cons t front ih =>
    obtain ⟨ht, hothers⟩ := List.forall_mem_cons.1 hfront
    have hstep := h.agree_step t w
    rw [if_neg (by simp [ht])] at hstep
    have hrest := ih hothers (s.step t w).2
    rw [List.cons_append, stepAll_cons, hstep.state]
    refine ⟨hrest.state, hrest.schema.trans ?_⟩
    rw [Workspace.schema_modifyType, hstep.schema, Workspace.schema_modifyType,
      Schema.modifyType_modifyType, Workspace.schema_modifyType, List.flatMap_cons]
    simp only [h.add_append]

open Text (Spaced listLexemes)

variable {names : List String} {text : List Char}

/-- Read token by token, a list of names is entered whole, whatever its spacing. -/
lemma Collects.agree_spaced {s : State} {type : TypeId} {add : List String → TypeDecl → TypeDecl}
    (h : s.Collects type add) (hnames : ∀ name ∈ names, Name.Listable name)
    (htext : Spaced (listLexemes names ++ [[')'], [';']]) text) (w : Workspace) :
    Agree (s.stepAll (Text.words text) w) (topLevel, w.modifyType type (add names)) := by
  have hclosing : ∀ l ∈ [[')'], [';']], Text.IsClosing l := by simp [Text.IsClosing]
  have hflatten : (Text.words text).flatten = ((listLexemes names).flatten ++ [')']) ++ [';'] := by
    rw [htext.flatten_words_list hclosing hnames, List.append_assoc]
    rfl
  obtain ⟨front, head, htokens, hbefore⟩ :=
    exists_last_of_flatten_eq (fun _ ht => Text.ne_nil_of_mem_words ht) hflatten
  have hnone : ';' ∉ front.flatten ++ head := by
    rw [hbefore, List.mem_append, not_or]
    exact ⟨Text.notMem_flatten_listLexemes hnames rfl (by decide) (by decide), by decide⟩
  have hfront : ∀ t ∈ front, Text.endsWith t ';' = false := fun t ht =>
    Text.endsWith_eq_false_of_notMem fun hmem =>
      hnone (List.mem_append_left _ (List.mem_flatten_of_mem ht hmem))
  have hlast : Text.endsWith (head ++ [';']) ';' = true := by simp
  have hread := h.agree_stepAll hfront hlast w
  rwa [← htokens, htext.flatMap_names_words hclosing hnames] at hread

/-! ## Siblings -/

section Siblings

variable (entity : EntityId) (set : SiblingSetId)

lemma leaveClause?_eq_none {token : Token} (hend : token.is entityEnd = false)
    (hsubtype : token.is "SUBTYPE" = false) : leaveClause? entity token = none := by
  simp [leaveClause?, hend, hsubtype]

/-- A token with a parenthesis in it leaves no clause. -/
lemma leaveClause?_of_paren {token : Token} {c : Char} (hc : c ∈ token)
    (hparen : c.toLower = '(' ∨ c.toLower = ')') : leaveClause? entity token = none := by
  refine leaveClause?_eq_none entity (Token.is_eq_false_of_mem hc ?_)
    (Token.is_eq_false_of_mem hc ?_) <;>
  rcases hparen with h | h <;> rw [h] <;> decide

/-- A token of signs that close a list leaves no clause. -/
lemma leaveClause?_of_closing {token : Token} (h : ∀ c ∈ token, c = ')' ∨ c = ';') :
    leaveClause? entity token = none := by
  have hletter : ∀ {k : String}, 'E' ∈ k.toList → token.is k = false := fun hk => by
    rw [Bool.eq_false_iff]
    intro his
    obtain ⟨d, hd, hlow⟩ := Text.exists_mem_of_sameLetters his hk
    rcases h d hd with rfl | rfl <;> exact absurd hlow (by decide)
  exact leaveClause?_eq_none entity (hletter (by decide)) (hletter (by decide))

/-- Without a semicolon, a token does not end an entity. -/
lemma is_entityEnd_eq_false {token : Token} (h : ';' ∉ token) : token.is entityEnd = false := by
  rw [Bool.eq_false_iff]
  intro his
  obtain ⟨d, hd, hlow⟩ := Text.exists_mem_of_sameLetters his (c := ';') (by decide)
  have heq : d = ';' := Text.eq_of_toLower_eq hlow rfl
  exact h (heq ▸ hd)

/-- A token without signs other than commas leaves a clause only if it is the word `SUBTYPE`, and
then it lists that word. -/
lemma leaveClause?_of_names {token : Token} (hsemicolon : ';' ∉ token)
    (hnames : ∀ name ∈ token.names, Token.is name.toList "SUBTYPE" = false) :
    leaveClause? entity token = none := by
  have hsubtype : token.is "SUBTYPE" = false := by
    by_cases hplain : ∀ c ∈ token, Name.isPunctuation c = false
    · by_cases hne : token = []
      · rw [hne]
        decide
      · have his := hnames token.text (by simp [Token.names_of_plain hne hplain])
        rwa [Token.text, String.toList_ofList] at his
    · simp only [not_forall, Bool.not_eq_false] at hplain
      obtain ⟨c, hc, hsign⟩ := hplain
      refine Token.is_eq_false_of_mem hc ?_
      simp only [Name.isPunctuation, Bool.or_eq_true, beq_iff_eq] at hsign
      rcases hsign with ((rfl | rfl) | rfl) | rfl <;> decide
  exact leaveClause?_eq_none entity (is_entityEnd_eq_false hsemicolon) hsubtype

lemma step_siblings {token : Token} (hleave : leaveClause? entity token = none) (w : Workspace) :
    (siblings entity set).step token w =
      let w := token.names.foldl (addSibling set) w
      if endsSupertypes token then
        (if token.contains ';' then entityBody entity else subtypeClause entity,
          w.modifyEntity entity fun e => { e with subtypes := some set })
      else (siblings entity set, w) := by
  simp [step, readSiblings, hleave]

/-- As long as a group is not closed, its names are listed. -/
lemma stepAll_siblings_front {front : List Token}
    (hleave : ∀ t ∈ front, leaveClause? entity t = none)
    (hends : ∀ t ∈ front, endsSupertypes t = false) (w : Workspace) :
    (siblings entity set).stepAll front w =
      (siblings entity set, (front.flatMap Token.names).foldl (addSibling set) w) := by
  induction front generalizing w with
  | nil => rfl
  | cons t front ih =>
    obtain ⟨ht, hothers⟩ := List.forall_mem_cons.1 hleave
    obtain ⟨ht', hothers'⟩ := List.forall_mem_cons.1 hends
    rw [stepAll_cons, step_siblings entity set ht w, List.flatMap_cons, List.foldl_append]
    simp only [ht', Bool.false_eq_true, if_false]
    exact ih hothers hothers' _

/-- After its first closing sign, a list of subtypes is over with the next semicolon. -/
lemma step_subtypeClause_closing {token : Token} (h : ∀ c ∈ token, c = ')' ∨ c = ';')
    (w : Workspace) : (subtypeClause entity).step token w =
      (if token.contains ';' then entityBody entity else subtypeClause entity, w) := by
  have hopens : Text.sameLetters (token.take oneOf.length) oneOf = false := by
    rw [Bool.eq_false_iff]
    intro his
    obtain ⟨d, hd, hlow⟩ := Text.exists_mem_of_sameLetters his (c := '(') (by decide)
    rcases h d (List.mem_of_mem_take hd) with rfl | rfl <;> exact absurd hlow (by decide)
  simp only [step, readSubtypeClause, leaveClause?_of_closing entity h, hopens, Bool.false_eq_true,
    if_false]
  split_ifs <;> rfl

lemma stepAll_subtypeClause_closing {tokens : List Token} (hne : ∀ t ∈ tokens, t ≠ [])
    {signs : List Char} (hsigns : ∀ c ∈ signs, c = ')') (hflatten : tokens.flatten = signs ++ [';'])
    (w : Workspace) : (subtypeClause entity).stepAll tokens w = (entityBody entity, w) := by
  obtain ⟨front, head, rfl, rfl⟩ := exists_last_of_flatten_eq hne hflatten
  have hhead : ∀ c ∈ head, c = ')' := fun c hc => hsigns c (List.mem_append_right _ hc)
  have hfront : ∀ t ∈ front, ∀ c ∈ t, c = ')' := fun t ht c hc =>
    hsigns c (List.mem_append_left _ (List.mem_flatten_of_mem ht hc))
  have hstays : ∀ t ∈ front, (subtypeClause entity).step t w = (subtypeClause entity, w) := by
    intro t ht
    have hnone : t.contains ';' = false := by
      simpa using fun hmem => absurd (hfront t ht _ hmem) (by decide)
    rw [step_subtypeClause_closing entity (fun c hc => .inl (hfront t ht c hc)), hnone]
    rfl
  have hlast : ∀ c ∈ head ++ [';'], c = ')' ∨ c = ';' :=
    List.forall_mem_append.2 ⟨fun c hc => .inl (hhead c hc), by simp⟩
  rw [stepAll_append, stepAll_of_stays w hstays, stepAll_cons,
    step_subtypeClause_closing entity hlast, if_pos (by simp)]
  rfl

/-- Wherever the token with the first closing parenthesis ends, the signs after it are read. -/
lemma stepAll_afterGroup {head tail : Token} {back : List Token} (hne : ∀ t ∈ back, t ≠ [])
    (hhead : ';' ∉ head) (hafter : tail ++ back.flatten = [')', ';']) (w : Workspace) :
    (if (head ++ ')' :: tail).contains ';' then entityBody entity
      else subtypeClause entity).stepAll back w = (entityBody entity, w) := by
  rcases tail with _ | ⟨c, _ | ⟨d, tail⟩⟩
  · rw [if_neg (by simpa using hhead)]
    exact @stepAll_subtypeClause_closing entity back hne [')'] (by simp) hafter w
  · obtain ⟨rfl, hback⟩ := List.cons_eq_cons.1 hafter
    rw [if_neg (by simpa using hhead)]
    exact @stepAll_subtypeClause_closing entity back hne [] (by simp) hback w
  · simp only [List.cons_append, List.cons.injEq, List.append_eq_nil_iff] at hafter
    obtain ⟨rfl, rfl, -, hflatten⟩ := hafter
    have hback : back = [] := eq_nil_of_flatten_eq_nil hne hflatten
    rw [if_pos (by simp), hback]
    rfl

/-- Read token by token, a list of subtypes is listed whole, and its group becomes that of the
entity. -/
lemma stepAll_siblings {tokens : List Token} (hne : ∀ t ∈ tokens, t ≠ []) {before : List Char}
    (hparen : ')' ∉ before) (hsemicolon : ';' ∉ before)
    (hflatten : tokens.flatten = before ++ [')', ')', ';'])
    (hnames : ∀ name ∈ tokens.flatMap Token.names, Token.is name.toList "SUBTYPE" = false)
    (w : Workspace) :
    (siblings entity set).stepAll tokens w =
      (entityBody entity,
        ((tokens.flatMap Token.names).foldl (addSibling set) w).modifyEntity entity
          fun e => { e with subtypes := some set }) := by
  obtain ⟨front, head, tail, back, rfl, rfl, hafter⟩ := exists_token_of_flatten_eq hflatten
  -- before the first closing parenthesis names are listed
  have hfront : ∀ t ∈ front, ∀ {c}, c ∉ front.flatten ++ head → c ∉ t := fun t ht _ hnone hc =>
    hnone (List.mem_append_left _ (List.mem_flatten_of_mem ht hc))
  have hleave : ∀ t ∈ front, leaveClause? entity t = none := fun t ht =>
    leaveClause?_of_names entity (hfront t ht hsemicolon) fun name hname =>
      hnames name (List.mem_flatMap.2 ⟨t, List.mem_append_left _ ht, hname⟩)
  have hends : ∀ t ∈ front, endsSupertypes t = false := fun t ht => by
    simp [endsSupertypes, hfront t ht hparen, hfront t ht hsemicolon]
  -- at the parenthesis the group is closed, and what comes after it names nothing
  have hclose : leaveClause? entity (head ++ ')' :: tail) = none :=
    leaveClause?_of_paren entity (c := ')') (by simp) (.inr rfl)
  have hcloses : endsSupertypes (head ++ ')' :: tail) = true := by simp [endsSupertypes]
  have hback : ∀ t ∈ back, ∀ c ∈ t, c = ')' ∨ c = ';' := fun t ht c hc => by
    have hmem : c ∈ tail ++ back.flatten := List.mem_append_right _ (List.mem_flatten_of_mem ht hc)
    rw [hafter] at hmem
    simpa using hmem
  have hnothing : back.flatMap Token.names = [] :=
    List.flatMap_eq_nil_iff.2 fun t ht => Token.names_of_closing (hback t ht)
  have hne' : ∀ t ∈ back, t ≠ [] := fun t ht =>
    hne t (List.mem_append_right _ (List.mem_cons_of_mem _ ht))
  rw [stepAll_append, stepAll_siblings_front entity set hleave hends, stepAll_cons,
    step_siblings entity set hclose]
  simp only [hcloses, if_true]
  rw [← List.foldl_append, List.flatMap_append, List.flatMap_cons, hnothing, List.append_nil]
  exact stepAll_afterGroup entity hne' (fun h => hsemicolon (List.mem_append_right _ h)) hafter _

/-- With a new group of siblings. -/
def openGroup (w : Workspace) : Workspace :=
  w.update fun s => { s with siblings := s.siblings.openSet.2 }

section Opener

variable {opener : Token} (hopener : Text.sameLetters opener oneOf = true)
include hopener

lemma isBlank_opener : ∀ c ∈ opener, Text.isBlank c = false := by
  have hletters : (oneOf.map Char.toLower).all (fun c => !Text.isBlank c) = true := by decide
  intro c hc
  rw [Bool.eq_false_iff]
  intro hblank
  have hmem : c.toLower ∈ oneOf.map Char.toLower := by
    rw [← Text.sameLetters_iff.1 hopener]
    exact List.mem_map_of_mem hc
  rw [Text.toLower_of_isBlank hblank] at hmem
  have hnot : (!Text.isBlank c) = true := List.all_eq_true.1 hletters c hmem
  rw [hblank] at hnot
  exact Bool.false_ne_true hnot

/-- The word that opens a group opens it, and what is written together with the word is read for the
group. -/
lemma step_opener (cs : List Char) (w : Workspace) :
    (subtypeClause entity).step (opener ++ cs) w =
      if cs = [] then (siblings entity w.schema.siblings.openSet.1, openGroup w)
      else (siblings entity w.schema.siblings.openSet.1).step cs (openGroup w) := by
  have hlength : opener.length = oneOf.length := by
    simpa using congrArg List.length (Text.sameLetters_iff.1 hopener)
  have htake : (opener ++ cs).take oneOf.length = opener := by rw [← hlength, List.take_left]
  have hdrop : (opener ++ cs).drop oneOf.length = cs := by rw [← hlength, List.drop_left]
  obtain ⟨paren, hparen, hlow⟩ := Text.exists_mem_of_sameLetters hopener (c := '(') (by decide)
  have hleave : leaveClause? entity (opener ++ cs) = none :=
    leaveClause?_of_paren entity (List.mem_append_left cs hparen) (.inl hlow)
  simp only [step, readSubtypeClause, hleave, htake, hopener, hdrop, if_true]
  cases cs with
  | nil => rfl
  | cons c cs => rfl

/-- Whether it is a word of its own or the start of one, what opens a group is read apart from what
follows it. -/
lemma stepAll_opener (rest : List Char) (w : Workspace) :
    (subtypeClause entity).stepAll (Text.words (opener ++ rest)) w =
      (siblings entity w.schema.siblings.openSet.1).stepAll (Text.words rest) (openGroup w) := by
  have hne : opener ≠ [] := by
    rintro rfl
    exact absurd hopener (by decide)
  rcases Text.words_append_cases hne (isBlank_opener hopener) rest with
    hwords | ⟨first, others, hrest, hwords⟩
  · have hstep := step_opener entity hopener [] w
    rw [List.append_nil, if_pos rfl] at hstep
    rw [hwords, stepAll_cons, hstep]
  · have hfirst : first ≠ [] := Text.ne_nil_of_mem_words (hrest ▸ List.mem_cons_self)
    rw [hwords, hrest, stepAll_cons, stepAll_cons, step_opener entity hopener, if_neg hfirst]

end Opener
end Siblings

/-! ## Spacing -/

/-- What reading a list of subtypes for a group without members comes to: the group has each name in
its first spelling, the entity has the group, and apart from the index and reports of names that
were listed before nothing else changes. -/
structure GroupRead (entity : EntityId) (set : SiblingSetId) (names : List String) (s : Schema)
    (p : State × Workspace) : Prop where
  state : p.1 = entityBody entity
  sets : p.2.schema.siblings.sets = s.siblings.sets.set set.index ⟨firstSpellings names⟩
  index : Schema.IndexesSiblings set names s p.2.schema
  others : p.2.schema =
    { s.modifyEntity entity fun e => { e with subtypes := some set } with
      siblings := p.2.schema.siblings
      diagnostics := p.2.schema.diagnostics }

lemma GroupRead.of_agree {entity : EntityId} {set : SiblingSetId} {s : Schema}
    {p q : State × Workspace} (h : Agree p q) (hq : GroupRead entity set names s q) :
    GroupRead entity set names s p where
  state := h.state.trans hq.state
  sets := by rw [h.schema, hq.sets]
  index := by rw [h.schema]; exact hq.index
  others := by rw [h.schema]; exact hq.others

lemma groupRead_spaced (entity : EntityId) {set : SiblingSetId} {w : Workspace}
    (hset : w.schema.siblings.set? set = some ⟨[]⟩) (hnames : ∀ name ∈ names, Name.Listable name)
    (hsubtype : ∀ name ∈ names, Token.is name.toList "SUBTYPE" = false)
    (htext : Spaced (listLexemes names ++ [[')'], [')'], [';']]) text) :
    GroupRead entity set names w.schema ((siblings entity set).stepAll (Text.words text) w) := by
  have hclosing : ∀ l ∈ [[')'], [')'], [';']], Text.IsClosing l := by simp [Text.IsClosing]
  have hlisted := htext.flatMap_names_words hclosing hnames
  have hread := stepAll_siblings entity set (fun _ ht => Text.ne_nil_of_mem_words ht)
    (Text.notMem_flatten_listLexemes hnames rfl (by decide) (by decide))
    (Text.notMem_flatten_listLexemes hnames rfl (by decide) (by decide))
    (htext.flatten_words_list hclosing hnames) (by rwa [hlisted]) w
  rw [hlisted] at hread
  have hlists := lists_foldl_addSibling set names w
  have hempty : w.schema.siblings.sets[set.index]? = some ⟨[]⟩ := hset
  rw [hread]
  refine ⟨rfl, ?_, hlists.index, ?_⟩
  · calc (names.foldl (addSibling set) w).schema.siblings.sets
        _ = w.schema.siblings.sets.modify set.index fun g => names.foldl SiblingSet.insert g :=
          hlists.sets
        _ = w.schema.siblings.sets.set set.index (names.foldl SiblingSet.insert ⟨[]⟩) := by
          rw [List.modify_eq_set, hempty, Option.getD_some]
        _ = _ := by rw [SiblingSet.foldl_insert_empty]
  · exact congrArg (fun s => s.modifyEntity entity fun e => { e with subtypes := some set })
      hlists.others

/-- A workspace with a type, an entity and a group of siblings that has been opened. -/
def withGroup : Workspace :=
  openGroup (((({} : Workspace).declareType "T").2.declareEntity "E").2)

end State
end ExpressSchema
