/-
# Lists of supertypes

An entity has one supertype at most, so of a list of supertypes the first name is kept and the
further ones are reported.  Up to the first name a token is taken apart at its commas, after that it
is not: two names that stand in one token then are reported as if they were one.  What is reported
is therefore told from how the names are grouped into tokens (`reportedSupertypes`), and it is the
further names one by one just when no token after the one with the first name has two of them
(`supertypes_spacing`).
-/
import ExpressSchema.Proofs.Printing.Leads
import ExpressSchema.Proofs.Reading.MemberLists

namespace ExpressSchema

/-! ## Names in tokens -/

namespace Token

lemma names_eq (token : Token) :
    token.names = ((Text.bareParts token).filter fun n => !n.isEmpty).map String.ofList := rfl

lemma bare_eq_flatten (token : Token) : Name.bare token = (Text.bareParts token).flatten := by
  induction token with
  | nil => rfl
  | cons c token ih =>
    have hcons : Name.bare (c :: token) = Name.bare [c] ++ Name.bare token :=
      Name.bare_append [c] token
    obtain ⟨part, parts, hparts⟩ := List.exists_cons_of_ne_nil (Text.bareParts_ne_nil token)
    rw [hcons, ih, Text.bareParts_cons]
    split_ifs with hcomma
    · rw [hcomma]
      rfl
    · rw [hparts, List.modifyHead_cons, List.flatten_cons, List.flatten_cons, List.append_assoc]

/-- Bare of its signs, a token is what it lists, run together. -/
lemma ofList_bare (token : Token) : String.ofList (Name.bare token) = String.join token.names := by
  have hempty : ∀ parts : List (List Char), (parts.filter fun n => !n.isEmpty).flatten =
      parts.flatten := fun parts => by
    induction parts with
    | nil => rfl
    | cons part parts ih => cases part <;> simp_all
  rw [← String.toList_inj, String.toList_ofList, String.toList_join, names_eq, List.flatMap_map]
  simp only [String.toList_ofList, List.flatMap_id', hempty, bare_eq_flatten]

/-- A token lists nothing just when it is nothing without its signs. -/
lemma isEmpty_bare (token : Token) : (Name.bare token).isEmpty = token.names.isEmpty := by
  rw [Bool.eq_iff_iff, List.isEmpty_iff, List.isEmpty_iff, bare_eq_flatten, names_eq,
    List.flatten_eq_nil_iff, List.map_eq_nil_iff, List.filter_eq_nil_iff]
  simp

/-- The names of tokens, token by token, without the tokens that list nothing. -/
def nameGroups (tokens : List Token) : List (List String) :=
  (tokens.map names).filter fun group => !group.isEmpty

lemma nameGroups_cons (token : Token) (tokens : List Token) :
    nameGroups (token :: tokens) =
      if token.names = [] then nameGroups tokens else token.names :: nameGroups tokens := by
  simp only [nameGroups, List.map_cons, List.filter_cons, Bool.not_eq_true',
    List.isEmpty_eq_false_iff, ite_not]

lemma nameGroups_append (xs ys : List Token) :
    nameGroups (xs ++ ys) = nameGroups xs ++ nameGroups ys := by
  rw [nameGroups, List.map_append, List.filter_append]
  rfl

lemma flatten_nameGroups (tokens : List Token) :
    (nameGroups tokens).flatten = tokens.flatMap names := by
  induction tokens with
  | nil => rfl
  | cons token tokens ih =>
    rw [nameGroups_cons, List.flatMap_cons, ← ih]
    split_ifs with h
    · rw [h, List.nil_append]
    · rfl

lemma ne_nil_of_mem_nameGroups {tokens : List Token} {group : List String}
    (h : group ∈ nameGroups tokens) : group ≠ [] := by
  have hfilter := (List.mem_filter.1 h).2
  simpa using hfilter

end Token

/-- There are at least as many names as there are groups of them. -/
lemma length_le_length_flatten {groups : List (List String)} (hne : ∀ group ∈ groups, group ≠ []) :
    groups.length ≤ groups.flatten.length := by
  induction groups with
  | nil => exact le_rfl
  | cons group groups ih =>
    obtain ⟨hgroup, hothers⟩ := List.forall_mem_cons.1 hne
    have hpos := List.length_pos_iff.2 hgroup
    have hrest := ih hothers
    rw [List.flatten_cons, List.length_append, List.length_cons]
    omega

/-- Names run together group by group are the names themselves just when each group has one. -/
lemma map_join_eq_flatten_iff {groups : List (List String)} (hne : ∀ group ∈ groups, group ≠ []) :
    groups.map String.join = groups.flatten ↔ ∀ group ∈ groups, group.length = 1 := by
  induction groups with
  | nil => simp
  | cons group groups ih =>
    obtain ⟨hgroup, hothers⟩ := List.forall_mem_cons.1 hne
    rw [List.forall_mem_cons, List.map_cons, List.flatten_cons]
    constructor
    · intro h
      have hlengths := congrArg List.length h
      have hrest := length_le_length_flatten hothers
      have hpos := List.length_pos_iff.2 hgroup
      rw [List.length_cons, List.length_map, List.length_append] at hlengths
      have hone : group.length = 1 := by omega
      obtain ⟨name, rfl⟩ := List.length_eq_one_iff.1 hone
      exact ⟨hone, (ih hothers).1 (List.cons.inj h).2⟩
    · rintro ⟨hone, h⟩
      obtain ⟨name, rfl⟩ := List.length_eq_one_iff.1 hone
      simp [(ih hothers).2 h]

/-! ## The end of a list -/

namespace Text

lemma ne_nil_of_mem_listLexemes {names : List String} (hnames : ∀ name ∈ names, Name.Listable name)
    {l : List Char} (h : l ∈ listLexemes names) : l ≠ [] := by
  rcases mem_listLexemes h with rfl | rfl | ⟨name, hname, rfl⟩
  · exact List.cons_ne_nil _ _
  · exact List.cons_ne_nil _ _
  · exact (hnames name hname).ne_nil

/-- What is written last stands at the end of the last token. -/
lemma Spaced.exists_last {lexemes : List (List Char)} {l text : List Char}
    (hne : ∀ l' ∈ lexemes ++ [l], l' ≠ [])
    (hblank : ∀ l' ∈ lexemes ++ [l], ∀ c ∈ l', isBlank c = false)
    (h : Spaced (lexemes ++ [l]) text) : ∃ front head, words text = front ++ [head ++ l] := by
  induction lexemes generalizing text with
  | nil =>
    cases h with
    | lexeme gap hgap _ hrest =>
      cases hrest with
      | blank gap' hgap' =>
        have hend := words_append_of_blank hgap' []
        rw [List.append_nil, words_nil] at hend
        refine ⟨[], [], ?_⟩
        rw [words_append_of_blank hgap, words_word_append (hne l (by simp)) (hblank l (by simp))
          fun c hc => hgap' c (List.mem_of_mem_head? hc), hend]
        rfl
  | cons first lexemes ih =>
    rw [List.cons_append] at hne hblank h
    obtain ⟨hfirst, hothers⟩ := List.forall_mem_cons.1 hne
    obtain ⟨hfirst', hothers'⟩ := List.forall_mem_cons.1 hblank
    cases h with
    | @lexeme gap hgap _ _ rest hrest =>
      obtain ⟨front, head, hwords⟩ := ih hothers hothers' hrest
      rw [words_append_of_blank hgap]
      rcases words_append_cases hfirst hfirst' rest with happend | ⟨word, others, hword, happend⟩
      · exact ⟨first :: front, head, by rw [happend, hwords, List.cons_append]⟩
      · rw [hwords] at hword
        cases front with
        | nil =>
          obtain ⟨rfl, rfl⟩ := List.cons.inj hword
          exact ⟨[], first ++ head, by rw [happend, List.append_assoc]; rfl⟩
        | cons word' front =>
          obtain ⟨rfl, rfl⟩ := List.cons.inj hword
          exact ⟨(first ++ word') :: front, head, happend⟩

/-- Signs that are written together may be taken for signs of their own. -/
lemma Spaced.split {lexemes : List (List Char)} {l l' text : List Char}
    (h : Spaced (lexemes ++ [l ++ l']) text) : Spaced (lexemes ++ [l, l']) text := by
  induction lexemes generalizing text with
  | nil =>
    cases h with
    | @lexeme gap hgap _ _ rest hrest =>
      rw [List.append_assoc]
      exact .lexeme gap hgap l (.lexeme [] (List.forall_mem_nil _) l' hrest)
  | cons first lexemes ih =>
    cases h with
    | lexeme gap hgap _ hrest => exact .lexeme gap hgap first (ih hrest)

end Text

/-! ## Reading a list -/

/-- What is reported of the tokens of a list of supertypes: each name after the first one that
stands in one token with it, and then the names of each token, run together. -/
def reportedSupertypes (tokens : List Token) : List String :=
  match Token.nameGroups tokens with
  | [] => []
  | first :: further => first.tail ++ further.map String.join

/-- The names of tokens that list anything, grouped as they stand in the tokens. -/
lemma exists_nameGroups_eq {tokens : List Token} {first : String} {further : List String}
    (hnames : tokens.flatMap Token.names = first :: further) :
    ∃ names groups, Token.nameGroups tokens = (first :: names) :: groups ∧
      further = names ++ groups.flatten ∧ ∀ group ∈ groups, group ≠ [] := by
  rw [← Token.flatten_nameGroups] at hnames
  have hne : ∀ group ∈ Token.nameGroups tokens, group ≠ [] := fun _ =>
    Token.ne_nil_of_mem_nameGroups
  cases hgroups : Token.nameGroups tokens with
  | nil =>
    rw [hgroups] at hnames
    cases hnames
  | cons group groups =>
    rw [hgroups, List.forall_mem_cons] at hne
    obtain ⟨name, names, rfl⟩ := List.exists_cons_of_ne_nil hne.1
    rw [hgroups, List.flatten_cons, List.cons_append] at hnames
    obtain ⟨rfl, hfurther⟩ := List.cons.inj hnames
    exact ⟨names, groups, rfl, hfurther.symm, hne.2⟩

/-- What is reported is the further names just when each of them stands in a token of its own or in
that of the first one. -/
lemma reportedSupertypes_eq_iff {tokens : List Token} {first : String} {further : List String}
    (hnames : tokens.flatMap Token.names = first :: further) :
    reportedSupertypes tokens = further ↔
      ∀ group ∈ (Token.nameGroups tokens).tail, group.length = 1 := by
  obtain ⟨names, groups, hgroups, rfl, hne⟩ := exists_nameGroups_eq hnames
  rw [reportedSupertypes, hgroups]
  exact (List.append_right_inj names).trans (map_join_eq_flatten_iff hne)

/-- Nothing is reported of a list with one name. -/
lemma reportedSupertypes_of_single {tokens : List Token} {name : String}
    (hnames : tokens.flatMap Token.names = [name]) : reportedSupertypes tokens = [] := by
  obtain ⟨names, groups, hgroups, hfurther, hne⟩ := exists_nameGroups_eq hnames
  obtain ⟨-, hnone⟩ := List.append_eq_nil_iff.1 hfurther.symm
  have hothers : groups = [] := List.eq_nil_iff_forall_not_mem.2 fun group hgroup =>
    hne group hgroup (List.flatten_eq_nil_iff.1 hnone group hgroup)
  rw [reportedSupertypes_eq_iff hnames, hgroups, hothers]
  exact List.forall_mem_nil _

namespace State

variable (entity : EntityId) {token last : Token} {front : List Token} {σ : Schema}

/-- A token among further supertypes is reported as one name, if it lists anything. -/
lemma leads_furtherSupertypes_token (h : token.is entityEnd = false) :
    Leads (furtherSupertypes entity) σ [token]
      (if endsSupertypes token then entityBody entity else furtherSupertypes entity)
      (σ.reportAll
        (((Token.nameGroups [token]).map String.join).map (.extraSupertype · entity))) := by
  refine .write (fun w hw => ?_) .nil
  have hgroups : Token.nameGroups [token] = if token.names = [] then [] else [token.names] :=
    Token.nameGroups_cons token []
  simp only [step, readFurtherSupertypes, h, hgroups, Token.isEmpty_bare, Token.ofList_bare]
  refine ⟨rfl, ?_⟩
  by_cases hnone : token.names = []
  · simp [hnone, hw]
  · simp [hnone, hw]

lemma leads_furtherSupertypes (hend : ∀ t ∈ front ++ [last], t.is entityEnd = false)
    (hfront : ∀ t ∈ front, endsSupertypes t = false) (hlast : endsSupertypes last = true) :
    Leads (furtherSupertypes entity) σ (front ++ [last]) (entityBody entity)
      (σ.reportAll (((Token.nameGroups (front ++ [last])).map String.join).map
        (.extraSupertype · entity))) := by
  induction front generalizing σ with
  | nil =>
    have hread := leads_furtherSupertypes_token entity (σ := σ) (hend last (by simp))
    rwa [if_pos hlast] at hread
  | cons t front ih =>
    rw [List.cons_append] at hend ⊢
    obtain ⟨ht, hothers⟩ := List.forall_mem_cons.1 hend
    obtain ⟨hgo, hfront⟩ := List.forall_mem_cons.1 hfront
    have hread := leads_furtherSupertypes_token entity (σ := σ) ht
    rw [if_neg (by simp [hgo])] at hread
    have hrun := hread.append (ih hothers hfront)
    rwa [Schema.reportAll_reportAll, ← List.map_append, ← List.map_append,
      ← Token.nameGroups_append] at hrun

/-- The first name that a token lists is kept. -/
lemma leads_firstSupertype_token {first : String} {further : List String}
    (h : token.is entityEnd = false) (hnames : token.names = first :: further) :
    Leads (firstSupertype entity) σ [token]
      (if endsSupertypes token then entityBody entity else furtherSupertypes entity)
      ((σ.modifyEntity entity fun e => { e with supertype := some first }).reportAll
        (further.map (.extraSupertype · entity))) := by
  refine .write (fun w hw => ?_) .nil
  simp only [step, readFirstSupertype, h, hnames]
  exact ⟨rfl, by rw [← hw, if_neg Bool.false_ne_true, Workspace.schema_reportAll]; rfl⟩

lemma step_firstSupertype_nil (h : token.is entityEnd = false) (hnames : token.names = [])
    (w : Workspace) : (firstSupertype entity).step token w = (firstSupertype entity, w) := by
  simp [step, readFirstSupertype, h, hnames]

/-- Read token by token, a list of supertypes is read whole: tokens that list nothing are passed
over, the first name is kept, and the further ones are reported. -/
lemma leads_firstSupertype {first : String} {further : List String}
    (hend : ∀ t ∈ front ++ [last], t.is entityEnd = false)
    (hfront : ∀ t ∈ front, endsSupertypes t = false) (hlast : endsSupertypes last = true)
    (hnames : (front ++ [last]).flatMap Token.names = first :: further) :
    Leads (firstSupertype entity) σ (front ++ [last]) (entityBody entity)
      ((σ.modifyEntity entity fun e => { e with supertype := some first }).reportAll
        ((reportedSupertypes (front ++ [last])).map (.extraSupertype · entity))) := by
  induction front with
  | nil =>
    rw [List.nil_append, List.flatMap_singleton] at hnames
    have hread := leads_firstSupertype_token entity (σ := σ) (hend last (by simp)) hnames
    rw [if_pos hlast] at hread
    have hreported : reportedSupertypes [last] = further := by
      simp [reportedSupertypes, hnames, Token.nameGroups]
    rwa [List.nil_append, hreported]
  | cons t front ih =>
    rw [List.cons_append] at hend hnames ⊢
    obtain ⟨ht, hothers⟩ := List.forall_mem_cons.1 hend
    obtain ⟨hgo, hfront⟩ := List.forall_mem_cons.1 hfront
    cases hgroup : t.names with
    | nil =>
      rw [List.flatMap_cons, hgroup, List.nil_append] at hnames
      have hreported : reportedSupertypes (t :: (front ++ [last])) =
          reportedSupertypes (front ++ [last]) := by
        rw [reportedSupertypes, Token.nameGroups_cons, if_pos hgroup]
        rfl
      rw [hreported]
      exact .move (step_firstSupertype_nil entity ht hgroup) (ih hothers hfront hnames)
    | cons name names =>
      rw [List.flatMap_cons, hgroup, List.cons_append] at hnames
      obtain ⟨rfl, -⟩ := List.cons.inj hnames
      have hreported : reportedSupertypes (t :: (front ++ [last])) =
          names ++ (Token.nameGroups (front ++ [last])).map String.join := by
        simp [reportedSupertypes, Token.nameGroups_cons t, hgroup]
      have hread := leads_firstSupertype_token entity (σ := σ) ht hgroup
      rw [if_neg (by simp [hgo])] at hread
      have hrun := hread.append (leads_furtherSupertypes entity hothers hfront hlast)
      rw [hreported, List.map_append, ← Schema.reportAll_reportAll]
      exact hrun

open Text (Spaced listLexemes)

section
variable {first : String} {further : List String}
  (hnames : ∀ name ∈ first :: further, Name.Listable name) {text : List Char}
  (htext : Spaced (listLexemes (first :: further) ++ [[')', ';']]) text)
include hnames htext

lemma flatMap_names_supertypes : (Text.words text).flatMap Token.names = first :: further := by
  have hsplit : Spaced (listLexemes (first :: further) ++ [[')'], [';']]) text := htext.split
  exact hsplit.flatMap_names_words (by simp [Text.IsClosing]) hnames

lemma leads_supertypes :
    Leads (firstSupertype entity) σ (Text.words text) (entityBody entity)
      ((σ.modifyEntity entity fun e => { e with supertype := some first }).reportAll
        ((reportedSupertypes (Text.words text)).map (.extraSupertype · entity))) := by
  have hlisted := flatMap_names_supertypes hnames htext
  have hsplit : Spaced (listLexemes (first :: further) ++ [[')'], [';']]) text := htext.split
  have hflatten := hsplit.flatten_words_list (by simp [Text.IsClosing]) hnames
  obtain ⟨front, head, htokens⟩ := htext.exists_last
    (List.forall_mem_append.2 ⟨fun _ => Text.ne_nil_of_mem_listLexemes hnames, by simp⟩)
    (List.forall_mem_append.2 ⟨fun _ => Text.isBlank_of_mem_listLexemes hnames,
      List.forall_mem_singleton.2 (List.forall_mem_cons.2 ⟨rfl, List.forall_mem_singleton.2 rfl⟩)⟩)
  rw [htokens] at hlisted hflatten ⊢
  -- the signs that close the list stand in the last token only
  have hbefore : front.flatten ++ head = (listLexemes (first :: further)).flatten := by
    rw [List.flatten_append, List.flatten_singleton, ← List.append_assoc] at hflatten
    exact List.append_cancel_right hflatten
  have hnone : ∀ {c : Char}, Name.isPunctuation c = true → c ≠ '(' → c ≠ ',' → ∀ t ∈ front, c ∉ t :=
    fun hsign hparen hcomma t ht hc => by
      refine Text.notMem_flatten_listLexemes hnames hsign hparen hcomma ?_
      rw [← hbefore]
      exact List.mem_append_left _ (List.mem_flatten_of_mem ht hc)
  have hsemicolon := hnone (c := ';') rfl (by decide) (by decide)
  have hparen := hnone (c := ')') rfl (by decide) (by decide)
  have hend : ∀ t ∈ front ++ [head ++ [')', ';']], Token.is t entityEnd = false :=
    List.forall_mem_append.2 ⟨fun t ht => is_entityEnd_eq_false (hsemicolon t ht),
      List.forall_mem_singleton.2 (Token.is_eq_false_of_mem (c := ')') (by simp) (by decide))⟩
  have hfront : ∀ t ∈ front, endsSupertypes t = false := fun t ht => by
    simp [endsSupertypes, hsemicolon t ht, hparen t ht]
  have hlast : endsSupertypes (head ++ [')', ';']) = true := by simp [endsSupertypes]
  exact leads_firstSupertype entity hend hfront hlast hlisted

end

/-- Whatever blank characters are put between the lexemes of a list of supertypes or left out, the
first name becomes the supertype of the entity, the list ends between the clauses of the entity, and
nothing else changes but what is reported.  That is the further names, one by one and in their
order, just when no token after the first one that lists anything lists two names. -/
theorem supertypes_spacing (entity : EntityId) (first : String) (further : List String)
    (hnames : ∀ name ∈ first :: further, Name.Listable name) (text : List Char)
    (htext : Spaced (listLexemes (first :: further) ++ [[')', ';']]) text) (w : Workspace) :
    Agree ((firstSupertype entity).feedAll (Text.words text) w)
        (entityBody entity,
          (w.modifyEntity entity fun e => { e with supertype := some first }).reportAll
            ((reportedSupertypes (Text.words text)).map (.extraSupertype · entity))) ∧
      (reportedSupertypes (Text.words text) = further ↔
        ∀ group ∈ (Token.nameGroups (Text.words text)).tail, group.length = 1) := by
  obtain ⟨hstate, hschema⟩ := leads_supertypes entity hnames htext w rfl
  refine ⟨⟨hstate, ?_⟩, reportedSupertypes_eq_iff (flatMap_names_supertypes hnames htext)⟩
  rw [hschema, Workspace.schema_reportAll, Workspace.schema_modifyEntity]

/-- A workspace with one entity. -/
def withEntity (name : String) : Workspace := (({} : Workspace).declareEntity name).2

/-- A list of three names; the first two stand in one token. -/
theorem supertypes_spacing_threeNames :
    Agree ((firstSupertype ⟨0⟩).feedAll (Token.ofLine "(A,b , C);") (withEntity "E"))
      (entityBody ⟨0⟩,
        ((withEntity "E").modifyEntity ⟨0⟩ fun e => { e with supertype := some "A" }).reportAll
          [.extraSupertype "b" ⟨0⟩, .extraSupertype "C" ⟨0⟩]) := by
  have hnames : ∀ name ∈ ["A", "b", "C"], Name.Listable name := by decide +kernel
  have hnone : ∀ c ∈ [], Text.isBlank c = true := List.forall_mem_nil _
  have hspace : ∀ c ∈ [' '], Text.isBlank c = true := List.forall_mem_singleton.2 rfl
  refine (supertypes_spacing ⟨0⟩ "A" ["b", "C"] hnames "(A,b , C);".toList ?_ (withEntity "E")).1
  exact .lexeme _ hnone _ <| .lexeme _ hnone _ <| .lexeme _ hnone _ <| .lexeme _ hnone _ <|
    .lexeme _ hspace _ <| .lexeme _ hspace _ <| .lexeme _ hnone _ <| .blank _ hnone

/-- After the first name, two names that stand in one token are reported as one. -/
theorem supertypes_runTogether :
    (∀ name ∈ ["A", "B", "C"], Name.Listable name) ∧
      Spaced (listLexemes ["A", "B", "C"] ++ [[')', ';']]) "(A, B,C);".toList ∧
      let reported := ((firstSupertype ⟨0⟩).feedAll (Token.ofLine "(A, B,C);")
        (withEntity "E")).2.schema.diagnostics
      reported = [(Problem.extraSupertype "BC" ⟨0⟩).toDiagnostic] ∧
        reported ≠ ["B", "C"].map fun name => (Problem.extraSupertype name ⟨0⟩).toDiagnostic := by
  have hnone : ∀ c ∈ [], Text.isBlank c = true := List.forall_mem_nil _
  have hspace : ∀ c ∈ [' '], Text.isBlank c = true := List.forall_mem_singleton.2 rfl
  refine ⟨by decide +kernel, ?_, by decide +kernel⟩
  exact .lexeme _ hnone _ <| .lexeme _ hnone _ <| .lexeme _ hnone _ <| .lexeme _ hspace _ <|
    .lexeme _ hnone _ <| .lexeme _ hnone _ <| .lexeme _ hnone _ <| .blank _ hnone

end State
end ExpressSchema
