/-
# Schemas stay closed

However tokens are read, declarations are made from outside and references are resolved, in any
order and any number: the schema is closed at every point, the reader speaks of nothing that the
schema lacks, and whatever resolution looks up by an identifier is there.
-/
import ExpressSchema.Proofs.Closed.Properties
import ExpressSchema.Proofs.Closed.Reading
import ExpressSchema.Proofs.Resolution.Reported

namespace ExpressSchema
namespace Schema

variable {s : Schema}

/-! ## Selects -/

lemma Closed.noteSelect_type (hs : s.Closed) (key : String) {select : String}
    (hselect : select ∈ s.types.keys) :
    ({ s with types :=
        s.types.modify key fun t => { t with selects := t.selects ++ [select] } } :
      Schema).Closed := by
  have hkeys : (s.types.modify key fun t => { t with selects := t.selects ++ [select] }).keys =
      s.types.keys := Table.keys_modify _ _ _
  refine (hs.setTypes (by simp [Table.size, Table.modify]) (fun k hk => by rwa [hkeys])
    fun q hq => ?_).1
  obtain ⟨r, hr, rfl⟩ := List.mem_map.1 hq
  have hr' := hs.type r hr
  split_ifs
  · refine ⟨hr'.key_eq, fun k hk => ?_⟩
    dsimp only at hk ⊢
    rw [hkeys]
    rcases List.mem_append.1 hk with hk | hk
    · exact hr'.selects k hk
    · rwa [List.mem_singleton.1 hk]
  · refine ⟨hr'.key_eq, fun k hk => ?_⟩
    dsimp only
    rw [hkeys]
    exact hr'.selects k hk

lemma Closed.noteSelect_entity (hs : s.Closed) (key : String) {select : String}
    (hselect : select ∈ s.types.keys) :
    ({ s with entities :=
        s.entities.modify key fun e => { e with selects := e.selects ++ [select] } } :
      Schema).Closed := by
  have hg : s.Grows
      { s with entities :=
        s.entities.modify key fun e => { e with selects := e.selects ++ [select] } } := by
    refine grows_setEntities (by simp [Table.size, Table.modify]) fun i e he => ?_
    obtain ⟨q, hq, rfl⟩ := Option.map_eq_some_iff.1 he
    rw [Table.at?_modify, hq, Option.map_some]
    split_ifs
    · exact ⟨_, rfl, le_rfl, le_rfl⟩
    · exact ⟨_, rfl, le_rfl, le_rfl⟩
  refine hs.setEntities hg fun id e' he' => ?_
  rw [Table.at?_modify] at he'
  obtain ⟨q, hq, rfl⟩ := Option.map_eq_some_iff.1 he'
  have he := (hs.entity id q.2 (by simp [entityAt?, Table.at?, hq])).grow hg
  split_ifs
  · refine { he with selects := fun k hk => ?_ }
    rcases List.mem_append.1 hk with hk | hk
    · exact he.selects k hk
    · rwa [List.mem_singleton.1 hk]
  · exact he

lemma Closed.addBuiltinSelect (hs : s.Closed) (b : Builtin) {select : String}
    (hselect : select ∈ s.types.keys) : (s.addBuiltinSelect b select).Closed := by
  have hg : s.Grows (s.addBuiltinSelect b select) :=
    ⟨⟨le_rfl, le_rfl, le_rfl⟩, fun _ => id, fun _ => id, le_rfl, fun _ => id⟩
  refine ⟨fun id e he => (hs.entity id e he).grow hg,
    fun q hq => ⟨(hs.type q hq).key_eq, (hs.type q hq).selects⟩, hs.properties, hs.sibling,
    fun q hq => ?_⟩
  rcases Table.mem_entries_insert hq with hq | rfl
  · exact hs.builtinSelect q hq
  · intro key hkey
    rcases List.mem_append.1 hkey with hkey | hkey
    -- the names that were noted before, if there were any
    · cases hb : s.builtinSelects.get? b with
      | none => simp [hb] at hkey
      | some keys =>
        rw [hb] at hkey
        exact hs.builtinSelect (b, keys) (Table.get?_eq_some_iff.1 hb) key hkey
    · rwa [List.mem_singleton.1 hkey]

/-- Noting a registered select with a member of it. -/
lemma Closed.noteSelect (hs : s.Closed) {p : String × String} (hp : p.1 ∈ s.types.keys) :
    (s.noteSelect p).Closed := by
  unfold Schema.noteSelect
  cases s.selectMember p.2 with
  | type key => exact hs.noteSelect_type key hp
  | entity key => exact hs.noteSelect_entity key hp
  | builtin b => exact hs.addBuiltinSelect b hp
  | unknown => exact hs.reportAll _

lemma keys_types_noteSelect (s : Schema) (p : String × String) :
    (s.noteSelect p).types.keys = s.types.keys := by
  unfold Schema.noteSelect
  cases s.selectMember p.2 with
  | type key => exact Table.keys_modify _ _ _
  | entity key => rfl
  | builtin b => rfl
  | unknown => rfl

lemma Closed.foldl_noteSelect (hs : s.Closed) {ps : List (String × String)}
    (hps : ∀ p ∈ ps, p.1 ∈ s.types.keys) : (ps.foldl Schema.noteSelect s).Closed := by
  induction ps generalizing s with
  | nil => exact hs
  | cons p ps ih =>
    -- the selects stay registered, since noting one changes no name of a type
    refine ih (hs.noteSelect (hps p List.mem_cons_self)) fun q hq => ?_
    rw [keys_types_noteSelect]
    exact hps q (List.mem_cons_of_mem p hq)

/-- Every select is registered under the name that its members learn. -/
lemma Closed.noteSelects (hs : s.Closed) : s.noteSelects.Closed := by
  refine hs.foldl_noteSelect fun p hp => ?_
  obtain ⟨t, ht, hp⟩ := List.mem_flatMap.1 hp
  obtain ⟨member, -, rfl⟩ := List.mem_map.1 hp
  obtain ⟨q, hq, rfl⟩ := List.mem_map.1 ht
  rw [(hs.type q hq).key_eq]
  exact List.mem_map_of_mem hq

/-- Resolution as a whole keeps a schema closed. -/
theorem Closed.resolve (hs : s.Closed) : s.resolve.Closed :=
  hs.inherit.makeInverseProperties.makeAttributeProperties.pairInverses.noteSelects

/-! ## Nothing goes -/

lemma within_noteSelect (s : Schema) (p : String × String) : s.Within (s.noteSelect p) := by
  unfold Schema.noteSelect
  cases s.selectMember p.2 with
  | type key => exact ⟨le_rfl, by simp [Table.size, Table.modify], le_rfl⟩
  | entity key => exact ⟨by simp [Table.size, Table.modify], le_rfl, le_rfl⟩
  | builtin b => exact ⟨le_rfl, le_rfl, le_rfl⟩
  | unknown => exact ⟨le_rfl, le_rfl, le_rfl⟩

lemma within_noteSelects (s : Schema) : s.Within s.noteSelects :=
  rel_noteSelects .refl .trans within_noteSelect s

lemma within_inheritInverses (s : Schema) (index : AttributeIndex) :
    s.Within (s.inheritInverses index) :=
  ((grows_foldl_markForward index s.inverseIds s).trans (grows_collectInverses _)).toWithin

lemma within_makeIndividuals (s : Schema) : s.Within s.makeIndividuals :=
  ⟨le_rfl, le_rfl, le_rfl⟩

lemma within_makeInverseProperties (s : Schema) : s.Within s.makeInverseProperties :=
  ⟨(Table.size_scan _ _ _).ge, le_rfl, le_rfl⟩

lemma within_makeAttributeProperties (s : Schema) : s.Within s.makeAttributeProperties :=
  ⟨(Table.size_mapIdx _ _).ge, le_rfl, le_rfl⟩

lemma within_pairInverses (s : Schema) : s.Within s.pairInverses := ⟨le_rfl, le_rfl, le_rfl⟩

lemma within_resolve (s : Schema) : s.Within s.resolve := by
  unfold resolve makeProperties Schema.inherit
  refine .trans ?_ (within_noteSelects _)
  refine .trans ?_ (within_pairInverses _)
  refine .trans ?_ (within_makeAttributeProperties _)
  refine .trans ?_ (within_makeInverseProperties _)
  refine .trans ?_ (within_makeIndividuals _)
  exact (grows_inheritAttributes s).toWithin.trans (within_inheritInverses _ _)

/-! ## What resolution looks up -/

/-- Whatever resolution of the schema looks up by an identifier is there when its turn comes: the
entities of the chains, and, for each inverse, once those before it have marked their forward
attributes, the inverse itself and the attribute that is found for it. -/
structure FindsAll (s : Schema) : Prop where
  member : ∀ id, id.index < s.entities.size →
    ∀ member ∈ (s.chain id).members, (s.entityAt? member).isSome
  inverse : ∀ done id rest, s.inheritAttributes.inverseIds = done ++ id :: rest →
    ((done.foldl (Schema.markForward (.ofSchema s)) s.inheritAttributes).inverseAt? id).isSome
  target : ∀ done id rest, s.inheritAttributes.inverseIds = done ++ id :: rest →
    ∀ inverse,
      (done.foldl (Schema.markForward (.ofSchema s)) s.inheritAttributes).inverseAt? id =
        some inverse →
      ∀ target, (AttributeIndex.ofSchema s).get? inverse.forwardKey = some target →
        ((done.foldl (Schema.markForward (.ofSchema s)) s.inheritAttributes).attributeAt?
          target).isSome

/-- A chain of supertypes leads from entity to entity. -/
lemma lt_of_mem_followChain {entity : EntityId} {visited : List EntityId}
    (h : ∀ id ∈ visited, id.index < s.entities.size) :
    ∀ id ∈ (s.followChain entity visited).members, id.index < s.entities.size := by
  fun_induction followChain s entity visited with
  | case1 => exact h
  | case2 => exact h
  | case3 => exact h
  | case4 _ _ _ _ next hnext _ ih =>
    -- the next entity is found by its name, and what is found is there
    refine ih fun id hid => ?_
    rcases List.mem_cons.1 hid with rfl | hid
    · exact Table.lt_size_of_indexOf? hnext
    · exact h id hid

lemma Reached.isSome_attributeAt?_of_index (hs : s.Reached) {key : String} {target : AttributeId}
    (h : (AttributeIndex.ofSchema s).get? key = some target) :
    (s.attributeAt? target).isSome := by
  obtain ⟨_, _, _, -, hmem, -⟩ := exists_mem_of_index h
  exact hs.isSome_attributeAt?_of_mem_chain hmem

/-- Chains, inverses and the index of attributes know identifiers of what is there only, and marking
takes nothing away. -/
lemma Closed.findsAll (hs : s.Closed) : s.FindsAll where
  member id hid member hmember := by
    refine isSome_entityAt?_iff.2 (lt_of_mem_followChain (fun other hother => ?_) member hmember)
    rwa [List.mem_singleton.1 hother]
  inverse done id rest hids := by
    have hmem : id ∈ s.inheritAttributes.inverseIds := by simp [hids]
    obtain ⟨entity, -, hid⟩ := List.mem_flatMap.1 hmem
    exact (grows_foldl_markForward _ done _).inverseAt id
      (hs.inheritAttributes.reached.isSome_inverseAt?_of_mem_own hid)
  target done id rest hids inverse _ target htarget :=
    ((grows_inheritAttributes s).trans (grows_foldl_markForward _ done _)).attributeAt target
      (hs.reached.isSome_attributeAt?_of_index htarget)

end Schema

/-! ## Runs -/

/-- One thing that may be done with a reader and a workspace. -/
inductive Action where
  /-- Read a token. -/
  | feed (token : Token)
  /-- Go on with a new reader. -/
  | restart
  /-- Declare an entity, unless there is one of this name. -/
  | declareEntity (name : String)
  /-- Declare a type, unless there is one of this name. -/
  | declareType (name : String)
  /-- Resolve all references. -/
  | resolve
deriving DecidableEq, Repr

/-- What is done with a reader and a workspace. -/
def Action.run (p : State × Workspace) : Action → State × Workspace
  | feed token => p.1.feed token p.2
  | restart => (.topLevel, p.2)
  | declareEntity name => (p.1, (p.2.declareEntity name).2)
  | declareType name => (p.1, (p.2.declareType name).2)
  | resolve => (p.1, p.2.resolve)

/-- The schema is closed, and the reader speaks of nothing that it lacks. -/
structure Sound (p : State × Workspace) : Prop where
  closed : p.2.schema.Closed
  held : p.1.Held p.2.schema

lemma Sound.run {p : State × Workspace} (h : Sound p) (action : Action) :
    Sound (Action.run p action) := by
  cases action with
  | feed token =>
    have hread := State.reads_feed token p.2 h.held
    exact ⟨hread.edits.closed h.closed, hread.held⟩
  | restart => exact ⟨h.closed, trivial⟩
  | declareEntity name =>
    have hedits := State.edits_declareEntity p.2 name
    exact ⟨hedits.closed h.closed, h.held.mono hedits.within⟩
  | declareType name =>
    have hedits := State.edits_declareType p.2 name
    exact ⟨hedits.closed h.closed, h.held.mono hedits.within⟩
  | resolve =>
    have hrun : Action.run p .resolve = (p.1, p.2.resolve) := rfl
    rw [hrun]
    refine ⟨?_, ?_⟩
    · rw [Workspace.schema_resolve]
      exact h.closed.resolve
    · rw [Workspace.schema_resolve]
      exact h.held.mono (Schema.within_resolve p.2.schema)

lemma Sound.foldl_run {p : State × Workspace} (h : Sound p) (actions : List Action) :
    Sound (actions.foldl Action.run p) := by
  induction actions generalizing p with
  | nil => exact h
  | cons action actions ih => exact ih (h.run action)

/-- At every point of every run that starts with an empty schema and a new reader, whatever has
been done so far, nothing in the schema and nothing in the reader stands for what is not there, and
neither does anything that resolution would look up from here. -/
theorem sound_of_run (builtins : Catalogue) (actions : List Action) :
    let reached := actions.foldl Action.run (.topLevel, { builtins := builtins })
    reached.2.schema.Closed ∧ reached.1.Held reached.2.schema ∧ reached.2.schema.FindsAll := by
  have hstart : Sound (.topLevel, { builtins := builtins }) := ⟨Schema.closed_empty, trivial⟩
  have hreached := hstart.foldl_run actions
  exact ⟨hreached.closed, hreached.held, hreached.closed.findsAll⟩

end ExpressSchema
