/-
# Reading printed entities

A printed entity declaration is read as the entity that its outline declares, and the subtypes that
it lists become a new group of siblings.
-/
import ExpressSchema.Proofs.Printing.Clauses

namespace ExpressSchema

/-! ## Groups of siblings -/

namespace SiblingIndex

/-- The groups with one more, of which these are the members. -/
def openWith (s : SiblingIndex) (xs : List Word) : SiblingIndex where
  sets := s.sets ++ [⟨xs.map Word.text⟩]
  byMember := xs.foldl (fun t x => t.insert x.key ⟨s.sets.length⟩) s.byMember

variable (s : SiblingIndex)

lemma entries_openWith {xs : List Word} (h : (s.byMember.keys ++ xs.map Word.key).Nodup) :
    (s.openWith xs).byMember.entries =
      s.byMember.entries ++ xs.map fun x => (x.key, ⟨s.sets.length⟩) := by
  have key : ∀ (xs : List Word) (set : SiblingSetId) (t : Table String SiblingSetId),
      (t.keys ++ xs.map Word.key).Nodup →
      (xs.foldl (fun t x => t.insert x.key set) t).entries =
        t.entries ++ xs.map fun x => (x.key, set) := by
    intro xs set
    -- for any table that knows none of the names, as it grows along the list
    induction xs with
    | nil => exact fun t _ => (List.append_nil _).symm
    | cons x xs ih =>
      intro t h
      have hnew : x.key ∉ t.keys :=
        notMem_of_nodup_append_cons h
      have hkeys : (t.insert x.key set).keys = t.keys ++ [x.key] := by
        rw [Table.keys_insert, if_neg hnew]
      rw [List.map_cons, List.append_cons, ← hkeys] at h
      rw [List.foldl_cons, ih _ h, Table.entries_insert hnew, List.map_cons, List.append_assoc]
      rfl
  exact key xs _ _ h

lemma keys_openWith {xs : List Word} (h : (s.byMember.keys ++ xs.map Word.key).Nodup) :
    (s.openWith xs).byMember.keys = s.byMember.keys ++ xs.map Word.key := by
  rw [Table.keys, entries_openWith s h, List.map_append, List.map_map]
  rfl

/-- A name that is new to all groups is listed in the group that was opened last. -/
lemma add_openWith {xs : List Word} {x : Word}
    (h : (s.byMember.keys ++ (xs ++ [x]).map Word.key).Nodup) :
    (s.openWith xs).add ⟨s.sets.length⟩ x.text = (true, s.openWith (xs ++ [x])) := by
  rw [List.map_append, ← List.append_assoc] at h
  have hnew : x.key ∉ s.byMember.keys ++ xs.map Word.key :=
    notMem_of_nodup_append_cons h
  -- neither the names of all members nor the words of this group have it yet
  have hunknown : (s.openWith xs).byMember.contains (Name.canonical x.text) = false := by
    rw [← Bool.not_eq_true, Table.contains_iff, keys_openWith _ (List.nodup_append.1 h).1]
    exact hnew
  have hcontains : SiblingSet.contains ⟨xs.map Word.text⟩ x.text = false := by
    rw [SiblingSet.contains, List.any_eq_false]
    intro m hm hsame
    obtain ⟨y, hy, rfl⟩ := List.mem_map.1 hm
    rw [Word.toList_text, Word.toList_text] at hsame
    refine hnew (List.mem_append_right _ ?_)
    rw [← Word.key_eq_of_sameLetters hsame]
    exact List.mem_map_of_mem hy
  have hsets : (s.openWith xs).sets.modify s.sets.length (·.insert x.text) =
      (s.openWith (xs ++ [x])).sets := by
    have hlt : s.sets.length < (s.sets ++ [(⟨xs.map Word.text⟩ : SiblingSet)]).length := by simp
    simp only [openWith]
    rw [List.modify_eq_take_cons_drop hlt]
    simp [SiblingSet.insert, hcontains]
  have hmembers : (s.openWith xs).byMember.insert (Name.canonical x.text) ⟨s.sets.length⟩ =
      (s.openWith (xs ++ [x])).byMember := by
    rw [openWith, openWith, List.foldl_append]
    rfl
  rw [add, hunknown, hsets, hmembers]
  rfl

end SiblingIndex

namespace Schema

/-- The schema with the group of siblings that an entity opens, if it opens one. -/
def openSubtypes (s : Schema) (o : EntityOutline) : Schema :=
  { s with siblings := o.subtypes.elim s.siblings fun l => s.siblings.openWith l.all }

/-- The schema with the entity that an outline declares. -/
def putOutline (s : Schema) (o : EntityOutline) : Schema :=
  (s.openSubtypes o).putEntity (o.toEntity ⟨s.entities.size⟩ ⟨s.siblings.sets.length⟩)

end Schema

/-! ## The clauses about supertypes and subtypes -/

namespace State

variable {s : Schema} {E : Entity}

/-- A word in a list of subtypes is entered into the group that was opened last. -/
lemma step_siblings_listed (entity : EntityId) {idx : SiblingIndex} {before : List Word} {x : Word}
    (hnodup : (idx.byMember.keys ++ (before ++ [x]).map Word.key).Nodup)
    {opening : Char} {closing : Token} (hopens : Word.Opens opening)
    (hcloses : Word.Closes closing) {w : Workspace} (hw : w.schema.siblings = idx.openWith before) :
    (siblings entity ⟨idx.sets.length⟩).step (x.listed opening closing) w =
      let w := w.update fun s => { s with siblings := idx.openWith (before ++ [x]) }
      if endsSupertypes closing then
        (if closing.contains ';' then entityBody entity else subtypeClause entity,
          w.modifyEntity entity fun e => { e with subtypes := some ⟨idx.sets.length⟩ })
      else (siblings entity ⟨idx.sets.length⟩, w) := by
  have hleave : leaveClause? entity (x.listed opening closing) = none := by
    have hend : Token.is (x.listed opening closing) entityEnd = false :=
      x.is_listed_eq_false hopens (by decide)
    have hsubtype : Token.is (x.listed opening closing) "SUBTYPE" = false :=
      x.is_listed_eq_false hopens (by decide)
    simp [leaveClause?, hend, hsubtype]
  have hends : endsSupertypes (x.listed opening closing) = endsSupertypes closing := by
    rw [endsSupertypes, x.contains_listed hopens (.inl rfl), x.contains_listed hopens (.inr rfl),
      endsSupertypes]
  have hsemicolon : (x.listed opening closing).contains ';' = closing.contains ';' :=
    x.contains_listed hopens (.inr rfl)
  have hadd : addSibling ⟨idx.sets.length⟩ w x.text =
      w.update fun s => { s with siblings := idx.openWith (before ++ [x]) } := by
    rw [addSibling, hw, idx.add_openWith hnodup]
    rfl
  simp only [step, readSiblings, hleave, x.names_listed hopens hcloses, List.foldl_cons,
    List.foldl_nil, hends, hsemicolon, hadd]

/-- The list of subtypes is read into a new group. -/
lemma leads_siblings (h : E.key ∉ s.entities.keys) {l : WordList} {idx : SiblingIndex}
    (hnodup : (idx.byMember.keys ++ l.all.map Word.key).Nodup) {closing : Token}
    (hcloses : Word.Closes closing) (hends : endsSupertypes closing = true) :
    Leads (siblings ⟨s.entities.size⟩ ⟨idx.sets.length⟩)
      (Schema.putEntity { s with siblings := idx.openWith [] } E) (l.tokens closing)
      (if closing.contains ';' then entityBody ⟨s.entities.size⟩
        else subtypeClause ⟨s.entities.size⟩)
      (Schema.putEntity { s with siblings := idx.openWith l.all }
        { E with subtypes := some ⟨idx.sets.length⟩ }) := by
  have hentered : ∀ {before : List Word} (after : List Word) {w : Workspace},
      w.schema = Schema.putEntity { s with siblings := idx.openWith before } E →
      (w.update fun s => { s with siblings := idx.openWith after }).schema =
        Schema.putEntity { s with siblings := idx.openWith after } E := by
    intro before after w hw
    rw [Workspace.schema_update, hw]
    rfl
  refine Leads.wordList
    (fun before => Schema.putEntity { s with siblings := idx.openWith before } E) ?_ ?_
  · intro before x after opening hall hopens
    have hprefix : (idx.byMember.keys ++ (before ++ [x]).map Word.key).Nodup := by
      rw [← hall, List.append_cons, List.map_append, ← List.append_assoc] at hnodup
      exact (List.nodup_append.1 hnodup).1
    refine .write (fun w hw => ?_) .nil
    rw [step_siblings_listed _ hprefix hopens (by simp [Word.Closes]) (by rw [hw]; rfl)]
    exact ⟨rfl, hentered _ hw⟩
  · intro before x opening hall hopens
    rw [← hall] at hnodup ⊢
    refine .write (fun w hw => ?_) .nil
    rw [step_siblings_listed _ hnodup hopens hcloses (by rw [hw]; rfl)]
    simp only [hends, if_true]
    exact ⟨trivial, schema_modifyEntity (hentered _ hw) h rfl⟩

/-- The state after the clause about subtypes. -/
def afterSubtypes (o : EntityOutline) (entity : EntityId) : State :=
  if (o.isAbstract || o.subtypes.isSome) && o.supertype.isSome then subtypeClause entity
  else entityBody entity

/-- A list of subtypes is read, whether or not the entity has been called abstract. -/
lemma leads_group (hroom : s.siblings.sets.length < UInt32.size) (h : E.key ∉ s.entities.keys)
    {t : State}
    (ht : ∀ w, t.step "SUPERTYPE".toList w = (subtypeClause ⟨s.entities.size⟩, w))
    (o : EntityOutline) {l : WordList}
    (hnodup : (s.siblings.byMember.keys ++ l.all.map Word.key).Nodup) :
    Leads t (s.putEntity E)
      ("SUPERTYPE".toList :: "OF".toList :: oneOf :: l.tokens ([')', ')'] ++ o.stop))
      (if o.supertype.isSome then subtypeClause ⟨s.entities.size⟩ else entityBody ⟨s.entities.size⟩)
      (Schema.putEntity { s with siblings := s.siblings.openWith l.all }
        { E with subtypes := some ⟨s.siblings.sets.length⟩ }) := by
  have hopen : ∀ w : Workspace, w.schema = s.putEntity E →
      ((subtypeClause ⟨s.entities.size⟩).step oneOf w).1 =
          siblings ⟨s.entities.size⟩ ⟨s.siblings.sets.length⟩ ∧
        ((subtypeClause ⟨s.entities.size⟩).step oneOf w).2.schema =
          Schema.putEntity { s with siblings := s.siblings.openWith [] } E := by
    intro w hw
    have hstep : (subtypeClause ⟨s.entities.size⟩).step oneOf w =
        (siblings ⟨s.entities.size⟩ w.schema.siblings.openSet.1,
          w.update fun s => { s with siblings := w.schema.siblings.openSet.2 }) := rfl
    rw [hstep, Workspace.schema_update, hw]
    exact ⟨congrArg (siblings _) (SiblingSetId.ofNat_of_lt hroom), rfl⟩
  have hcloses : Word.Closes ([')', ')'] ++ o.stop) := o.closes_stop (by simp [Word.Closes])
  have hends : endsSupertypes ([')', ')'] ++ o.stop) = true := by simp [endsSupertypes]
  have hlist := leads_siblings h hnodup hcloses hends
  rw [o.contains_stop (by decide)] at hlist
  refine .move ht (.move (fun _ => rfl) (.write hopen ?_))
  cases hsupertype : o.supertype.isSome with
  | false =>
    rw [hsupertype] at hlist
    exact hlist
  | true =>
    rw [hsupertype] at hlist
    exact hlist

/-- What is printed about subtypes is read into the entity that has just been declared. -/
lemma leads_subtypes (o : EntityOutline) {name : String}
    (hroom : s.siblings.sets.length < UInt32.size) (h : Name.canonical name ∉ s.entities.keys)
    (hnodup : (s.siblings.byMember.keys ++ o.subtypeKeys).Nodup) :
    Leads (entityBody ⟨s.entities.size⟩) (s.putEntity (Entity.ofName name)) o.subtypeTokens
      (afterSubtypes o ⟨s.entities.size⟩)
      ((s.openSubtypes o).putEntity { Entity.ofName name with
        isAbstract := o.isAbstract
        subtypes := o.subtypes.map fun _ => ⟨s.siblings.sets.length⟩ }) := by
  have habstract : ∀ w : Workspace, w.schema = s.putEntity (Entity.ofName name) →
      ((entityBody ⟨s.entities.size⟩).step "ABSTRACT".toList w).1 =
          subtypeClause ⟨s.entities.size⟩ ∧
        ((entityBody ⟨s.entities.size⟩).step "ABSTRACT".toList w).2.schema =
          s.putEntity { Entity.ofName name with isAbstract := true } :=
    fun w hw => ⟨rfl, schema_modifyEntity hw h rfl⟩
  unfold EntityOutline.subtypeTokens afterSubtypes Schema.openSubtypes
  cases hsubtypes : o.subtypes with
  | none =>
    cases o.isAbstract with
    | false => exact .nil
    | true =>
      refine .write habstract ?_
      unfold EntityOutline.stop
      cases o.supertype.isSome with
      | false => exact .move (fun _ => rfl) .nil
      | true => exact .move (fun _ => rfl) .nil
  | some l =>
    rw [EntityOutline.subtypeKeys, hsubtypes] at hnodup
    cases o.isAbstract with
    | false => exact leads_group (E := Entity.ofName name) hroom h (fun _ => rfl) o hnodup
    | true => exact .write habstract (leads_group hroom h (fun _ => rfl) o hnodup)

/-- What is printed about the supertype is read, wherever the clause about subtypes has ended. -/
lemma leads_supertype (o : EntityOutline) (h : E.key ∉ s.entities.keys)
    (hnone : E.supertype = none) :
    Leads (afterSubtypes o ⟨s.entities.size⟩) (s.putEntity E) o.supertypeTokens
      (entityBody ⟨s.entities.size⟩)
      (s.putEntity { E with supertype := o.supertype.map Word.text }) := by
  unfold afterSubtypes EntityOutline.supertypeTokens
  cases o.supertype with
  | none =>
    rw [Option.isSome_none, Bool.and_false, Option.map_none, ← hnone]
    exact .nil
  | some x =>
    have hname : Leads (firstSupertype ⟨s.entities.size⟩) (s.putEntity E)
        [x.listed '(' [')', ';']] (entityBody ⟨s.entities.size⟩)
        (s.putEntity { E with supertype := some x.text }) := by
      have hend : Token.is (x.listed '(' [')', ';']) entityEnd = false :=
        x.is_listed_eq_false (.inl rfl) (by decide)
      have hends : endsSupertypes (x.listed '(' [')', ';']) = true := by
        rw [endsSupertypes, x.contains_listed (.inl rfl) (.inl rfl)]
        rfl
      have hnames : Token.names (x.listed '(' [')', ';']) = [x.text] :=
        x.names_listed (.inl rfl) (by simp [Word.Closes])
      refine .write (fun w hw => ?_) .nil
      simp only [step, readFirstSupertype, hend, hends, hnames]
      exact ⟨rfl, schema_modifyEntity hw h rfl⟩
    cases o.isAbstract || o.subtypes.isSome with
    | false => exact .move (fun _ => rfl) (.move (fun _ => rfl) hname)
    | true => exact .move (fun _ => rfl) (.move (fun _ => rfl) hname)

/-! ## Declarations -/

/-- The inverses are read, and the reader stays between the clauses or among inverses. -/
lemma leads_inverseTokens (o : EntityOutline) (h : E.key ∉ s.entities.keys)
    (hnil : E.inverses = []) :
    ∃ t, (t = entityBody ⟨s.entities.size⟩ ∨ t = inverseName ⟨s.entities.size⟩ none) ∧
      Leads (entityBody ⟨s.entities.size⟩) (s.putEntity E) o.inverseTokens t
        (s.putEntity { E with inverses := o.inverses.map (·.toInverse ⟨s.entities.size⟩) }) := by
  unfold EntityOutline.inverseTokens
  cases o.inverses with
  | nil =>
    refine ⟨_, .inl rfl, ?_⟩
    rw [List.map_nil, ← hnil]
    exact .nil
  | cons i is =>
    have hinverses := leads_inverses h (i :: is)
    rw [hnil] at hinverses
    exact ⟨_, .inr rfl, .move (fun _ => rfl) hinverses⟩

/-- The uniqueness rules are read, and then the end of the entity. -/
lemma leads_ruleTokens (o : EntityOutline) (h : E.key ∉ s.entities.keys)
    (hattributes : E.attributes = o.attributes.map (·.toAttribute ⟨s.entities.size⟩ false))
    {t : State} (ht : t = entityBody ⟨s.entities.size⟩ ∨ t = inverseName ⟨s.entities.size⟩ none) :
    Leads t (s.putEntity E) (o.ruleTokens ++ [entityEnd.toList]) topLevel
      (s.putEntity { E with
        attributes := o.attributes.map fun a =>
          a.toAttribute ⟨s.entities.size⟩ (o.rules.any (·.covers a)) }) := by
  unfold EntityOutline.ruleTokens
  cases o.rules with
  | nil =>
    simp only [List.any_nil]
    rw [← hattributes]
    rcases ht with rfl | rfl
    · exact .move (fun _ => rfl) .nil
    · exact .move (fun _ => rfl) .nil
  | cons r rs =>
    have hrules := leads_rules h o.attributes (fun _ => false) (r :: rs)
    simp only [Bool.false_or, ← hattributes] at hrules
    have hend : ∀ σ, Leads (uniqueLabel ⟨s.entities.size⟩) σ [entityEnd.toList] topLevel σ :=
      fun _ => .move (fun _ => rfl) .nil
    rcases ht with rfl | rfl
    · exact .move (fun _ => rfl) (hrules.append (hend _))
    · exact .move (fun _ => rfl) (hrules.append (hend _))

/-- What follows the word `ENTITY` opens a new entity, with or without a semicolon at its end. -/
lemma leads_entityName (o : EntityOutline) (hroom : s.entities.size < UInt32.size)
    (h : o.name.key ∉ s.entities.keys) :
    Leads entityName s [o.nameToken] (entityBody ⟨s.entities.size⟩)
      (s.putEntity (Entity.ofName o.name.text)) := by
  have hdrop : Text.dropEnd o.nameToken ';' = o.name.chars := by
    unfold EntityOutline.nameToken EntityOutline.stop
    split_ifs
    · exact o.name.dropEnd_chars (by decide)
    · rw [List.append_nil]
      exact o.name.dropEnd_chars (by decide)
    · exact Text.dropEnd_append _ _
  refine .write (fun w hw => ?_) .nil
  subst hw
  have hstep : entityName.step o.nameToken w =
      (entityBody (w.declareEntity o.name.text).1,
        (w.declareEntity o.name.text).2.record
          (.entityOpened o.name.text (w.declareEntity o.name.text).1)) := by
    rw [step, readEntityName, hdrop]
    rfl
  rw [hstep, Workspace.schema_record, Workspace.declareEntity_fst,
    Workspace.schema_declareEntity, Schema.declareEntity_of_notMem hroom h]
  exact ⟨rfl, rfl⟩

/-- A printed entity declaration is read as the entity that it declares, while there are words left
for the entity and its group of subtypes. -/
lemma leads_entity (o : EntityOutline) (hroom : s.entities.size < UInt32.size)
    (hsets : s.siblings.sets.length ≤ s.entities.size) (h : o.name.key ∉ s.entities.keys)
    (hnodup : (s.siblings.byMember.keys ++ o.subtypeKeys).Nodup) :
    Leads topLevel s o.tokens topLevel (s.putOutline o) := by
  have hname := leads_entityName o hroom h
  -- each clause finds the entity as the clauses before it have left it
  have hsubtypes := leads_subtypes o (hsets.trans_lt hroom) h hnodup
  have hkey : o.name.key ∉ (s.openSubtypes o).entities.keys := h
  have hsupertype := leads_supertype (s := s.openSubtypes o) o
    (E := { Entity.ofName o.name.text with
        isAbstract := o.isAbstract
        subtypes := o.subtypes.map fun _ => ⟨s.siblings.sets.length⟩ }) hkey rfl
  have hattributes := leads_attributes (s := s.openSubtypes o)
    (E := { Entity.ofName o.name.text with
        isAbstract := o.isAbstract
        subtypes := o.subtypes.map fun _ => ⟨s.siblings.sets.length⟩
        supertype := o.supertype.map Word.text }) hkey o.attributes
  obtain ⟨t, ht, hinverses⟩ := leads_inverseTokens (s := s.openSubtypes o) o
    (E := { Entity.ofName o.name.text with
        isAbstract := o.isAbstract
        subtypes := o.subtypes.map fun _ => ⟨s.siblings.sets.length⟩
        supertype := o.supertype.map Word.text
        attributes := o.attributes.map (·.toAttribute ⟨s.entities.size⟩ false) }) hkey rfl
  have hrules := leads_ruleTokens (s := s.openSubtypes o) o
    (E := { Entity.ofName o.name.text with
        isAbstract := o.isAbstract
        subtypes := o.subtypes.map fun _ => ⟨s.siblings.sets.length⟩
        supertype := o.supertype.map Word.text
        attributes := o.attributes.map (·.toAttribute ⟨s.entities.size⟩ false)
        inverses := o.inverses.map (·.toInverse ⟨s.entities.size⟩) }) hkey rfl ht
  refine .move (fun _ => rfl) ?_
  simp only [List.append_assoc]
  exact hname.append
    (hsubtypes.append (hsupertype.append (hattributes.append (hinverses.append hrules))))

end State

/-! ## Several declarations -/

namespace Schema

variable {s : Schema} {o : EntityOutline}

lemma keys_entities_putOutline (h : o.name.key ∉ s.entities.keys) :
    (s.putOutline o).entities.keys = s.entities.keys ++ [o.name.key] :=
  keys_putEntity (s := s.openSubtypes o) h

lemma entries_entities_putOutline (h : o.name.key ∉ s.entities.keys) :
    (s.putOutline o).entities.entries = s.entities.entries ++
      [(o.name.key, o.toEntity ⟨s.entities.size⟩ ⟨s.siblings.sets.length⟩)] :=
  Table.entries_insert (t := s.entities) h _

/-- An entity that lists subtypes opens one group. -/
lemma sets_putOutline (s : Schema) (o : EntityOutline) :
    (s.putOutline o).siblings.sets =
      s.siblings.sets ++ o.subtypes.toList.map fun l => ⟨l.texts⟩ := by
  have hsiblings : (s.putOutline o).siblings = (s.openSubtypes o).siblings := rfl
  rw [hsiblings, openSubtypes]
  cases o.subtypes with
  | none => exact (List.append_nil _).symm
  | some l => rfl

lemma size_entities_putOutline (h : o.name.key ∉ s.entities.keys) :
    (s.putOutline o).entities.size = s.entities.size + 1 := by
  rw [Table.size, entries_entities_putOutline h, List.length_append]
  rfl

lemma length_sets_putOutline (s : Schema) (o : EntityOutline) :
    (s.putOutline o).siblings.sets.length =
      s.siblings.sets.length + o.subtypes.toList.length := by
  rw [sets_putOutline, List.length_append, List.length_map]

lemma entries_siblings_putOutline (h : (s.siblings.byMember.keys ++ o.subtypeKeys).Nodup) :
    (s.putOutline o).siblings.byMember.entries = s.siblings.byMember.entries ++
      memberEntries s.siblings.sets.length o.subtypes.toList := by
  have hsiblings : (s.putOutline o).siblings = (s.openSubtypes o).siblings := rfl
  rw [hsiblings, openSubtypes]
  unfold EntityOutline.subtypeKeys at h
  cases hsubtypes : o.subtypes with
  | none => exact (List.append_nil _).symm
  | some l =>
    rw [hsubtypes] at h
    rw [Option.toList_some, memberEntries, memberEntries, List.append_nil]
    exact s.siblings.entries_openWith h

lemma keys_siblings_putOutline (h : (s.siblings.byMember.keys ++ o.subtypeKeys).Nodup) :
    (s.putOutline o).siblings.byMember.keys = s.siblings.byMember.keys ++ o.subtypeKeys := by
  have hsiblings : (s.putOutline o).siblings = (s.openSubtypes o).siblings := rfl
  rw [hsiblings]
  unfold EntityOutline.subtypeKeys openSubtypes at *
  cases hsubtypes : o.subtypes with
  | none => exact (List.append_nil _).symm
  | some l =>
    rw [hsubtypes] at h
    exact s.siblings.keys_openWith h

end Schema

/-- Printed entities are read one after the other, as far as there are words for them.  No entity
opens more than one group, so there are words for the groups as well. -/
lemma State.leads_entities (os : List EntityOutline) (s : Schema)
    (hroom : s.entities.size + os.length ≤ UInt32.size)
    (hsets : s.siblings.sets.length ≤ s.entities.size)
    (h : (s.entities.keys ++ os.map fun o => o.name.key).Nodup)
    (hmembers : (s.siblings.byMember.keys ++ os.flatMap EntityOutline.subtypeKeys).Nodup) :
    Leads topLevel s (os.flatMap EntityOutline.tokens) topLevel (os.foldl Schema.putOutline s) := by
  induction os generalizing s with
  | nil => exact .nil
  | cons o os ih =>
    have hnew : o.name.key ∉ s.entities.keys :=
      notMem_of_nodup_append_cons h
    rw [List.flatMap_cons, ← List.append_assoc] at hmembers
    have hsubtypes := (List.nodup_append.1 hmembers).1
    have hsize := Schema.size_entities_putOutline hnew
    have hlength := Schema.length_sets_putOutline s o
    have hone : o.subtypes.toList.length ≤ 1 := Option.length_toList_le
    rw [List.length_cons] at hroom
    refine (leads_entity o (by omega) hsets hnew hsubtypes).append
      (ih _ (by omega) (by omega) ?_ ?_)
    · rw [Schema.keys_entities_putOutline hnew, List.append_assoc]
      exact h
    · rw [Schema.keys_siblings_putOutline hsubtypes]
      exact hmembers

end ExpressSchema
