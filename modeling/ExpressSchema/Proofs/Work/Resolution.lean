/-
# Resolution as changes to a workspace

Each pass of resolution is made of changes.  Only the last one enters built-in types into the
catalogue, and those are named by members of selects; so if every member is a piece of what was
heard while reading, resolution asks for nothing more to be heard.
-/
import ExpressSchema.Proofs.Resolution.MadeProperties
import ExpressSchema.Proofs.Work.Reading

namespace ExpressSchema

/-! ## Schemas -/

/-- What a change of one value leaves alone is the same before and after. -/
lemma Table.map_values_modify {κ α β : Type} [DecidableEq κ] {f : α → α} {g : α → β}
    (t : Table κ α) (key : κ) (h : ∀ a, g (f a) = g a) :
    (t.modify key f).values.map g = t.values.map g := by
  simp only [values, modify, List.map_map]
  refine List.map_congr_left fun e _ => ?_
  simp only [Function.comp_apply]
  split_ifs
  · exact h e.2
  · rfl

namespace Schema.Quiet

variable {heard : List (List Char)} {used : Catalogue} {s : Schema}

/-- A change of every entity that gives its attributes no other ranges. -/
lemma mapEntities {f : Nat → Entity → Entity}
    (h : ∀ i e, (f i e).attributes.map (·.builtin) = e.attributes.map (·.builtin)) :
    Quiet heard used s { s with entities := s.entities.mapIdx f } :=
  entities_of_map_eq (Table.map_values_mapIdx _ h)

/-- The names within the schema leave the ranges of attributes as they are. -/
lemma qualifyNames : Quiet heard used s s.qualifyNames := by
  refine of_eq rfl ?_ rfl rfl rfl
  rw [attributeBuiltins_eq, attributeBuiltins_eq]
  exact s.flatMap_values_qualifyNames _ _ fun e id first => by
    simp [Entity.qualify, Attribute.qualify]

lemma placeRanges : Quiet heard used s s.placeRanges :=
  mapEntities fun _ e => by rw [List.map_map]; rfl

lemma modifyAttribute (id : AttributeId) {f : Attribute → Attribute}
    (h : ∀ a, (f a).builtin = a.builtin) : Quiet heard used s (s.modifyAttribute id f) :=
  modifyEntity id.entity fun _ => map_modify_of_eq h _ _

lemma modifyInverse (id : InverseId) (f : Inverse → Inverse) :
    Quiet heard used s (s.modifyInverse id f) :=
  modifyEntity id.entity fun _ => rfl

/-- Properties mention nothing. -/
lemma properties (properties : PropertyTable) :
    Quiet heard used s { s with properties := properties } := of_eq rfl rfl rfl rfl rfl

/-- Individuals mention nothing. -/
lemma individuals (individuals : List NamedIndividual) :
    Quiet heard used s { s with individuals := individuals } := of_eq rfl rfl rfl rfl rfl

/-- A type learns of a select. -/
lemma noteType (key select : String) : Quiet heard used s
    { s with types := s.types.modify key fun t => { t with selects := t.selects ++ [select] } } :=
  .of_eq rfl rfl (Table.map_values_modify _ _ fun _ => rfl)
    (congrArg List.flatten (Table.map_values_modify _ _ fun _ => rfl)) rfl

/-- An entity learns of a select. -/
lemma noteEntity (key select : String) : Quiet heard used s
    { s with entities :=
        s.entities.modify key fun e => { e with selects := e.selects ++ [select] } } :=
  entities_of_map_eq (Table.map_values_modify _ _ fun _ => rfl)

/-- A built-in type in the catalogue learns of a select. -/
lemma addBuiltinSelect {b : Builtin} (hb : used.contains b = true) (select : String) :
    Quiet heard used s (s.addBuiltinSelect b select) where
  diagnostics := rfl
  mentions a ha := by
    rcases ha with hattribute | htype | hselects
    · exact .inl (.inl hattribute)
    · exact .inl (.inr (.inl htype))
    · by_cases hab : a = b
      · exact .inr (hab ▸ hb)
      · rw [selectsOf, Schema.addBuiltinSelect, Table.get?_insert, if_neg hab] at hselects
        exact .inl (.inr (.inr hselects))
  members _ hm := .inl hm

end Schema.Quiet

namespace Workspace

variable {heard : List (List Char)} (w : Workspace)

/-! ## Inheritance and forward attributes -/

lemma changes_followChain (entity : EntityId) (visited : List EntityId) :
    Changes heard w (w.followChain entity visited).2 := by
  fun_induction followChain w entity visited with
  | case1 => exact .refl _
  | case2 | case3 => exact .canonical _ _
  | case4 w entity visited supertype hsuper found next hfound hnew ih =>
    exact (Changes.canonical w supertype).trans ih

lemma changes_followChains (ids : List EntityId) : Changes heard w (w.followChains ids).2 := by
  induction ids generalizing w with
  | nil => exact .refl w
  | cons entity ids ih => exact (changes_followChain w entity [entity]).trans (ih _)

lemma changes_inheritAttributes : Changes heard w w.inheritAttributes.2 := by
  refine .trans ?_ (.record _ Level.noConfusion)
  refine .trans ?_ (.update (.mapEntities fun _ _ => rfl))
  exact (changes_followChains w w.schema.entityIds).trans (.reportAll _ _)

lemma changes_markForward (index : AttributeIndex) (id : InverseId) :
    Changes heard w (w.markForward index id) := by
  unfold markForward
  split
  · exact .refl w
  · rename_i inverse _
    refine (Changes.canonical w inverse.range).trans ?_
    dsimp only
    split
    · refine .trans ?_ (.update (.modifyInverse _ _))
      exact .update (.modifyAttribute _ fun _ => rfl)
    · refine .trans ?_ (.update (.modifyInverse _ _))
      exact .record _ Level.noConfusion

lemma changes_inheritInverses (index : AttributeIndex) :
    Changes heard w (w.inheritInverses index) :=
  .trans (.foldl (fun w id _ => changes_markForward w index id) w)
    (.update (.mapEntities fun _ _ => rfl))

/-! ## Individuals and properties -/

lemma changes_makeIndividuals : Changes heard w w.makeIndividuals :=
  .trans (.update (.individuals _)) (.record _ Level.noConfusion)

lemma changes_updateProperties (f : PropertyTable → PropertyTable) :
    Changes heard w (w.updateProperties f) := .update (.properties _)

lemma changes_addProperties (ps : List Property) : Changes heard w (w.addProperties ps) :=
  .trans (.update (.properties _)) (.reportAll _ _)

lemma changes_makeInverseProperties : Changes heard w w.makeInverseProperties :=
  .trans (.update .qualifyNames) (changes_addProperties _ _)

lemma changes_makeAttributeProperties : Changes heard w w.makeAttributeProperties :=
  .trans (.update .placeRanges) (.trans (changes_addProperties _ _) (.record _ Level.noConfusion))

/-! ## Pairing -/

lemma changes_dropProperty (id : PropertyId) : Changes heard w (w.dropProperty id) := by
  unfold dropProperty
  split
  · exact .refl w
  · dsimp only
    split_ifs
    · exact changes_updateProperties w _
    · exact .record w Level.noConfusion

lemma changes_pairFree (claimed : List PropertyId) (own target : PropertyId) :
    Changes heard w (w.pairFree claimed own target).2 := by
  have hlink : Changes heard w (w.updateProperties (·.link own target)) :=
    changes_updateProperties w _
  unfold pairFree
  dsimp only
  split_ifs
  · exact hlink.trans ((changes_dropProperty _ own).trans
      (changes_updateProperties _ fun t => (t.unlink own).unlink target))
  · exact hlink

lemma changes_dropBoth (own target : PropertyId) : Changes heard w (w.dropBoth own target) := by
  have hrest : ∀ w : Workspace, Changes heard w ((w.dropProperty own).updateProperties
      (·.unlink target)) := fun w =>
    (changes_dropProperty w own).trans (changes_updateProperties _ _)
  unfold dropBoth
  dsimp only
  split
  · exact (changes_updateProperties w _).trans ((hrest _).trans (.report _ _))
  · exact (hrest w).trans (.report _ _)

lemma changes_pairInverse (claimed : List PropertyId) (p : PendingInverse) :
    Changes heard w (pairInverse (claimed, w) p).2 := by
  unfold pairInverse
  dsimp only
  split
  · exact (changes_dropProperty w p.own).trans (.report _ _)
  · split_ifs
    · exact changes_dropBoth w _ _
    · exact changes_pairFree w claimed _ _

lemma changes_pairInverses : Changes heard w w.pairInverses := by
  have hfold : ∀ (ps : List PendingInverse) (claimed : List PropertyId) (w : Workspace),
      Changes heard w (ps.foldl pairInverse (claimed, w)).2 := by
    intro ps
    induction ps with
    | nil => exact fun _ w => .refl w
    | cons p ps ih => exact fun claimed w => (changes_pairInverse w claimed p).trans (ih _ _)
  exact (hfold _ _ w).trans (.record _ Level.noConfusion)

/-! ## Selects -/

lemma changes_noteSelect {p : String × String}
    (h : ∀ b, Builtin.ofText? p.2.toList = some b → b.NamedIn heard) :
    Changes heard w (w.noteSelect p) := by
  obtain ⟨select, member⟩ := p
  refine (Changes.canonical w member).trans ?_
  unfold noteSelect
  dsimp only
  cases hmember : (w.canonical member).2.schema.selectMemberUnder (w.canonical member).1 member with
  | type key => exact .update (.noteType key select)
  | entity key => exact .update (.noteEntity key select)
  | unknown => exact .report _ _
  | builtin b =>
    refine .trans ?_ (.update (.addBuiltinSelect ?_ select))
    · refine .trans (.single (.register _ b (h b ?_))) (.record _ Level.noConfusion)
      unfold Schema.selectMemberUnder at hmember
      split_ifs at hmember
      split at hmember
      · rename_i b' hb'
        rwa [SelectMember.builtin.inj hmember] at hb'
      · exact SelectMember.noConfusion hmember
    · exact contains_register_self _ b

/-- Every member of a select was heard. -/
def MembersHeard (heard : List (List Char)) (w : Workspace) : Prop :=
  ∀ m ∈ w.schema.memberNames, Name.HeardIn heard m

lemma MembersHeard.of_changes {w w' : Workspace} (hw : MembersHeard heard w)
    (h : Changes heard w w') : MembersHeard heard w' :=
  fun m hm => (h.accounted.members m hm).elim (hw m) id

variable {w}

/-- A built-in type that is a member of a select is named by what was heard. -/
lemma MembersHeard.namedIn (hw : MembersHeard heard w) {p : String × String}
    (hp : p ∈ w.schema.selectMembers) {b : Builtin} (hb : Builtin.ofText? p.2.toList = some b) :
    b.NamedIn heard := by
  obtain ⟨t, ht, hmem⟩ := List.mem_flatMap.1 hp
  obtain ⟨member, hmember, rfl⟩ := List.mem_map.1 hmem
  obtain ⟨piece, hpiece, rfl⟩ := hw member (Schema.mem_memberNames.2 ⟨t, ht, hmember⟩)
  rw [String.toList_ofList, Builtin.ofText?_bare] at hb
  exact ⟨piece, hpiece, hb⟩

lemma MembersHeard.changes_noteSelects (hw : MembersHeard heard w) :
    Changes heard w w.noteSelects :=
  .foldl (fun w' _ hp => changes_noteSelect w' fun _ => hw.namedIn hp) w

/-- What resolution makes of a workspace, it makes by changes. -/
theorem MembersHeard.changes_resolve (hw : MembersHeard heard w) : Changes heard w w.resolve := by
  have hattributes : Changes heard w w.inheritAttributes.2 := changes_inheritAttributes w
  have hinherit := hattributes.trans
    ((changes_inheritInverses _ w.inheritAttributes.1).trans (changes_makeIndividuals _))
  have hproperties := hinherit.trans
    ((changes_makeInverseProperties _).trans (changes_makeAttributeProperties _))
  have hpairing := hproperties.trans (changes_pairInverses _)
  exact hpairing.trans (hw.of_changes hpairing).changes_noteSelects

end Workspace
end ExpressSchema
