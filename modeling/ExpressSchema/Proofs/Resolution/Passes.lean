/-
# The passes of resolution as functions of the schema

`Workspace.resolve` works on a workspace, but what it makes of the schema depends on the schema
alone.  Here each of its seven passes is written as a function from schemas to schemas, and
`schema_resolve` says that the schema after resolution is the one these functions make.

The pairing of inverses works on the properties only.  Its state is a `Pairing`, and `Pairing.step`
is what one inverse does to it.
-/
import ExpressSchema.Proofs.Workspace
import ExpressSchema.Resolution

namespace ExpressSchema

/-! ## Inheritance and forward attributes -/

/-- The index of a schema. -/
def AttributeIndex.ofSchema (s : Schema) : AttributeIndex where
  entries := s.entityIds.flatMap fun entity =>
    let key := ((s.entityAt? entity).map (·.key)).getD ""
    (s.chainAttributes entity).map fun p => (attributeKey key p.1.name, p.2)

namespace Schema

/-- Give each entity the list of all its attributes. -/
def collectAttributes (s : Schema) : Schema :=
  { s with entities := s.entities.mapIdx fun i e =>
      { e with allAttributes := (s.chainAttributes ⟨i⟩).map Prod.snd } }

/-- Report what is wrong with supertypes, and give each entity the list of all its attributes. -/
def inheritAttributes (s : Schema) : Schema :=
  (s.reportAll (s.entityIds.filterMap s.chainProblem?)).collectAttributes

/-- Mark the attribute against which an inverse runs. -/
def markForward (index : AttributeIndex) (s : Schema) (id : InverseId) : Schema :=
  match s.inverseAt? id with
  | none => s
  | some inverse =>
    match index.get? inverse.forwardKey with
    | some target =>
      (s.modifyAttribute target (·.markInverted id inverse)).modifyInverse id fun i =>
        { i with isUnique := (s.attributeAt? target).any (·.isUnique) }
    | none => s.modifyInverse id fun i => { i with isUnique := false }

/-- The identifiers of all inverses, in order. -/
def inverseIds (s : Schema) : List InverseId := s.entityIds.flatMap s.ownInverses

/-- Mark the attributes against which inverses run, and give each entity the list of all its
inverses. -/
def inheritInverses (s : Schema) (index : AttributeIndex) : Schema :=
  (s.inverseIds.foldl (markForward index) s).collectInverses

/-! ## Individuals and properties -/

/-- Make an individual for each value of an enumeration. -/
def makeIndividuals (s : Schema) : Schema :=
  { s with individuals := s.individuals ++ s.types.values.flatMap TypeDecl.individuals }

/-- Add properties, reporting those whose names are taken. -/
def enterProperties (s : Schema) (ps : List Property) : Schema :=
  (s.addProperties ps).reportAll ((s.properties.clashes ps).map .nameTwice)

/-- Give the attributes their names within the schema, and make the properties of inverses. -/
def makeInverseProperties (s : Schema) : Schema :=
  s.qualifyNames.enterProperties s.inverseProperties

/-- Make the properties of attributes. -/
def makeAttributeProperties (s : Schema) : Schema :=
  s.placeRanges.enterProperties s.attributeProperties

end Schema

/-! ## Pairing -/

namespace PropertyTable

/-- Let a property go by taking its name away. -/
def letGo (t : PropertyTable) (id : PropertyId) : PropertyTable :=
  match t.byId? id with
  | some p => t.remove p.name
  | none => t

/-- Let go the partner of a property, if it has one. -/
def dropPartner (t : PropertyTable) (target : PropertyId) : PropertyTable :=
  match (t.byId? target).bind (·.inverse) with
  | some previous => t.dropPaired previous
  | none => t

end PropertyTable

/-- How far the pairing of inverses has come. -/
structure Pairing where
  /-- The properties that an inverse has claimed. -/
  claimed : List PropertyId := []
  /-- The properties. -/
  properties : PropertyTable
  /-- What was wrong with the inverses so far. -/
  problems : List Problem := []

namespace Pairing

/-- Let go an inverse that runs against nothing known. -/
def dropUnknown (x : Pairing) (p : PendingInverse) : Pairing :=
  let t := x.properties.letGo p.own
  { x with
    properties := t
    problems := x.problems ++ [.unknownForward (t.nameOf p.own) p.forward] }

/-- Let go an inverse whose forward property is claimed, together with the one that claimed it. -/
def dropBoth (x : Pairing) (own target : PropertyId) : Pairing :=
  let t := ((x.properties.dropPartner target).letGo own).unlink target
  { x with properties := t, problems := x.problems ++ [.claimedTwice (t.nameOf target)] }

/-- Pair an inverse with a property that is still free, unless that is a collection. -/
def pairFree (x : Pairing) (own target : PropertyId) : Pairing :=
  let linked := x.properties.link own target
  if (linked.byId? target).any (·.isCollection) then
    { x with properties := ((linked.letGo own).unlink own).unlink target }
  else { x with claimed := target :: x.claimed, properties := linked }

/-- Pair one inverse. -/
def step (x : Pairing) (p : PendingInverse) : Pairing :=
  match x.properties.forwardOf? p with
  | none => x.dropUnknown p
  | some target =>
    if target ∈ x.claimed then x.dropBoth p.own target else x.pairFree p.own target

/-- A schema with the properties and problems of a pairing. -/
def schema (x : Pairing) (s : Schema) : Schema :=
  ({ s with properties := x.properties } : Schema).reportAll x.problems

end Pairing

namespace Schema

/-- The state of pairing once every inverse has had its turn. -/
def pairing (s : Schema) : Pairing :=
  s.pendingInverses.foldl Pairing.step { properties := s.properties }

/-- Pair all inverses, one after the other. -/
def pairInverses (s : Schema) : Schema := s.pairing.schema s

/-! ## Selects -/

/-- Note with a member of a select that the select lists it. -/
def noteSelect (s : Schema) (p : String × String) : Schema :=
  match s.selectMember p.2 with
  | .type key =>
    { s with types := s.types.modify key fun t => { t with selects := t.selects ++ [p.1] } }
  | .entity key =>
    { s with entities :=
        s.entities.modify key fun e => { e with selects := e.selects ++ [p.1] } }
  | .builtin b => s.addBuiltinSelect b p.1
  | .unknown => s.reportAll [.unknownMember p.2 p.1]

/-- Note with every member of a select that the select lists it. -/
def noteSelects (s : Schema) : Schema := s.selectMembers.foldl noteSelect s

/-- Everything that resolution does before properties are made. -/
def inherit (s : Schema) : Schema :=
  (s.inheritAttributes.inheritInverses (AttributeIndex.ofSchema s)).makeIndividuals

/-- Everything that resolution does before inverses are paired. -/
def makeProperties (s : Schema) : Schema :=
  s.inherit.makeInverseProperties.makeAttributeProperties

/-- Resolve all references. -/
def resolve (s : Schema) : Schema := s.makeProperties.pairInverses.noteSelects

end Schema

/-! ## Chains that are known -/

namespace Schema

/-- The chains of all entities, in order. -/
def chains (s : Schema) : List Chain := s.entityIds.map s.chain

lemma zip_chains (s : Schema) :
    s.entityIds.zip s.chains = s.entityIds.map fun entity => (entity, s.chain entity) :=
  List.map_prod_left_eq_zip.symm

lemma getElem?_chains {s : Schema} {i : Nat} (h : i < s.entities.size) :
    s.chains[i]? = some (s.chain ⟨i⟩) := by
  simp [chains, entityIds, h]

/-- A chain depends on the supertypes as written and on where the entities are registered. -/
lemma followChain_congr {s t : Schema} (hname : ∀ id, s.supertypeName? id = t.supertypeName? id)
    (hindex : ∀ key, s.entities.indexOf? key = t.entities.indexOf? key) (entity : EntityId)
    (visited : List EntityId) : s.followChain entity visited = t.followChain entity visited := by
  fun_induction s.followChain entity visited with
  | case1 entity visited hsuper =>
    rw [t.followChain_eq, ← hname, hsuper]
  | case2 entity visited supertype hsuper hnone =>
    rw [t.followChain_eq, ← hname, hsuper]
    simp only [← hindex, hnone]
  | case3 entity visited supertype hsuper next hfound hvisited =>
    rw [t.followChain_eq, ← hname, hsuper]
    simp only [← hindex, hfound, if_pos hvisited]
  | case4 entity visited supertype hsuper next hfound hnew ih =>
    rw [t.followChain_eq, ← hname, hsuper]
    simp only [← hindex, hfound, if_neg hnew]
    exact ih

/-- Attributes are collected along the chains that were followed before anything was reported. -/
lemma collectAlong_chains (s : Schema) (ps : List Problem) :
    (s.reportAll ps).collectAlong s.chains = (s.reportAll ps).collectAttributes := by
  have hchain : ∀ id, (s.reportAll ps).chain id = s.chain id := fun id =>
    followChain_congr (s := s.reportAll ps) (t := s) (fun _ => rfl) (fun _ => rfl) id [id]
  unfold collectAlong collectAttributes
  congr 1
  refine Table.mapIdx_congr fun i e he => ?_
  rw [getElem?_chains (s := s) (Table.lt_size_of_at? he), chainAttributes, hchain]
  rfl

end Schema

lemma AttributeIndex.along_chains (s : Schema) : along s s.chains = ofSchema s := by
  rw [along, Schema.zip_chains, List.flatMap_map]
  rfl

/-! ## The passes over a workspace -/

namespace Workspace

/-! ### Chains -/

/-- The memory for names makes a chain neither longer nor shorter, and leaves the schema alone. -/
lemma followChain_eq (w : Workspace) (entity : EntityId) (visited : List EntityId) :
    (w.followChain entity visited).1 = w.schema.followChain entity visited ∧
      (w.followChain entity visited).2.schema = w.schema := by
  fun_induction followChain w entity visited with
  | case1 w entity visited hsuper =>
    rw [Schema.followChain_eq, hsuper]
    exact ⟨rfl, rfl⟩
  | case2 w entity visited supertype hsuper found hnone =>
    rw [canonical_fst] at hnone
    rw [Schema.followChain_eq, hsuper]
    exact ⟨by simp only [hnone], rfl⟩
  | case3 w entity visited supertype hsuper found next hfound hvisited =>
    rw [canonical_fst] at hfound
    rw [Schema.followChain_eq, hsuper]
    exact ⟨by simp only [hfound, if_pos hvisited], rfl⟩
  | case4 w entity visited supertype hsuper found next hfound hnew ih =>
    rw [canonical_fst] at hfound
    rw [Schema.followChain_eq, hsuper]
    exact ⟨by simp only [hfound, if_neg hnew]; exact ih.1, ih.2⟩

/-- The chains of several entities are those they have in the schema. -/
lemma followChains_eq (w : Workspace) (ids : List EntityId) :
    (w.followChains ids).1 = ids.map w.schema.chain ∧
      (w.followChains ids).2.schema = w.schema := by
  induction ids generalizing w with
  | nil => exact ⟨rfl, rfl⟩
  | cons entity ids ih =>
    obtain ⟨hchain, hschema⟩ := w.followChain_eq entity [entity]
    obtain ⟨hchains, hrest⟩ := ih (w.followChain entity [entity]).2
    rw [hschema] at hchains hrest
    exact ⟨by rw [followChains, List.map_cons, ← hchains, Schema.chain, ← hchain], hrest⟩

lemma inheritAttributes_fst (w : Workspace) :
    w.inheritAttributes.1 = AttributeIndex.ofSchema w.schema := by
  obtain ⟨hchains, hschema⟩ := w.followChains_eq w.schema.entityIds
  simp only [inheritAttributes, hchains, hschema]
  exact AttributeIndex.along_chains w.schema

lemma schema_inheritAttributes (w : Workspace) :
    w.inheritAttributes.2.schema = w.schema.inheritAttributes := by
  obtain ⟨hchains, hschema⟩ := w.followChains_eq w.schema.entityIds
  rw [← Schema.chains] at hchains
  simp only [inheritAttributes, hchains, hschema, schema_record, schema_update, schema_reportAll,
    Schema.zip_chains, List.filterMap_map, Schema.collectAlong_chains]
  rfl

/-! ### Passes -/

lemma schema_markForward (index : AttributeIndex) (w : Workspace) (id : InverseId) :
    (w.markForward index id).schema = w.schema.markForward index id := by
  unfold markForward Schema.markForward
  cases w.schema.inverseAt? id with
  | none => rfl
  | some inverse =>
    simp only [canonical_fst, Inverse.forwardKey]
    cases index.get? (attributeKey (Name.canonical inverse.range) inverse.forward) <;> simp

lemma schema_inheritInverses (w : Workspace) (index : AttributeIndex) :
    (w.inheritInverses index).schema = w.schema.inheritInverses index := by
  have h : w.schema.inverseIds.foldl (Schema.markForward index) w.schema =
      (w.schema.inverseIds.foldl (markForward index) w).schema :=
    List.foldl_hom Workspace.schema fun w id => (schema_markForward index w id).symm
  simp only [inheritInverses, Schema.inheritInverses, schema_update, h]
  rfl

lemma schema_makeIndividuals (w : Workspace) :
    w.makeIndividuals.schema = w.schema.makeIndividuals := rfl

lemma schema_addProperties (w : Workspace) (ps : List Property) :
    (w.addProperties ps).schema = w.schema.enterProperties ps := by
  simp [addProperties, Schema.enterProperties]

lemma schema_makeInverseProperties (w : Workspace) :
    w.makeInverseProperties.schema = w.schema.makeInverseProperties := by
  simp [makeInverseProperties, Schema.makeInverseProperties, schema_addProperties]

lemma schema_makeAttributeProperties (w : Workspace) :
    w.makeAttributeProperties.schema = w.schema.makeAttributeProperties := by
  simp [makeAttributeProperties, Schema.makeAttributeProperties, schema_addProperties]

/-- Where there is no name to take away, a record is made of it, and the names stay as they are
either way. -/
lemma schema_dropProperty (w : Workspace) (id : PropertyId) :
    (w.dropProperty id).schema =
      { w.schema with properties := w.schema.properties.letGo id } := by
  unfold dropProperty PropertyTable.letGo
  cases w.schema.properties.byId? id with
  | none => rfl
  | some p =>
    by_cases h : w.schema.properties.contains p.name
    · simp [h, updateProperties]
    · have hk : p.name ∉ w.schema.properties.byName.keys := by
        simpa [PropertyTable.contains] using h
      have hremove : w.schema.properties.remove p.name = w.schema.properties :=
        congrArg (fun names => { w.schema.properties with byName := names })
          (Table.erase_eq_self hk)
      simp [h, hremove]

/-- A workspace in the midst of pairing pairs one more inverse as `Pairing.step` says. -/
lemma schema_pairInverse {w : Workspace} {x : Pairing} {s : Schema} (h : w.schema = x.schema s)
    (p : PendingInverse) :
    (pairInverse (x.claimed, w) p).1 = (x.step p).claimed ∧
      (pairInverse (x.claimed, w) p).2.schema = (x.step p).schema s := by
  have hp : w.schema.properties = x.properties := by rw [h]; rfl
  simp only [pairInverse, Pairing.step, hp]
  cases x.properties.forwardOf? p with
  | none =>
    refine ⟨rfl, ?_⟩
    simp only [schema_report, schema_dropProperty, h, Pairing.schema, Pairing.dropUnknown,
      Schema.properties_reportAll]
    simp [Schema.reportAll]
  | some target =>
    dsimp only
    by_cases hc : target ∈ x.claimed
    · rw [if_pos hc, if_pos hc]
      refine ⟨rfl, ?_⟩
      simp only [Workspace.dropBoth, hp, Pairing.dropBoth, PropertyTable.dropPartner]
      cases (x.properties.byId? target).bind (·.inverse) <;>
        simp [updateProperties, schema_dropProperty, h, Pairing.schema, Schema.reportAll]
    · rw [if_neg hc, if_neg hc]
      simp only [Workspace.pairFree, Pairing.pairFree, updateProperties, schema_update, hp]
      by_cases hcol : ((x.properties.link p.own target).byId? target).any (·.isCollection)
      · rw [if_pos hcol, if_pos hcol]
        refine ⟨rfl, ?_⟩
        simp [schema_dropProperty, h, Pairing.schema, Schema.reportAll]
      · rw [if_neg hcol, if_neg hcol]
        refine ⟨rfl, ?_⟩
        simp [h, Pairing.schema, Schema.reportAll]

lemma schema_foldl_pairInverse (ps : List PendingInverse) {w : Workspace} {x : Pairing}
    {s : Schema} (h : w.schema = x.schema s) :
    (ps.foldl pairInverse (x.claimed, w)).2.schema = (ps.foldl Pairing.step x).schema s := by
  -- the workspace and the pairing go on side by side, and agree on claims and schema
  induction ps generalizing w x with
  | nil => exact h
  | cons p ps ih =>
    obtain ⟨hclaimed, hschema⟩ := schema_pairInverse h p
    have hstep : pairInverse (x.claimed, w) p =
        ((x.step p).claimed, (pairInverse (x.claimed, w) p).2) := by rw [← hclaimed]
    rw [List.foldl_cons, List.foldl_cons, hstep]
    exact ih hschema

lemma schema_pairInverses (w : Workspace) : w.pairInverses.schema = w.schema.pairInverses := by
  have h : w.schema = Pairing.schema { properties := w.schema.properties } w.schema := by
    simp [Pairing.schema]
  exact schema_foldl_pairInverse w.schema.pendingInverses h

lemma schema_noteSelect (w : Workspace) (p : String × String) :
    (w.noteSelect p).schema = w.schema.noteSelect p := by
  obtain ⟨select, member⟩ := p
  unfold noteSelect Schema.noteSelect Schema.selectMember
  simp only [canonical_fst, schema_canonical]
  cases w.schema.selectMemberUnder (Name.canonical member) member <;> simp

lemma schema_noteSelects (w : Workspace) : w.noteSelects.schema = w.schema.noteSelects := by
  have h : w.schema.selectMembers.foldl Schema.noteSelect w.schema =
      (w.schema.selectMembers.foldl noteSelect w).schema :=
    List.foldl_hom Workspace.schema fun w p => (schema_noteSelect w p).symm
  exact h.symm

/-- What resolution makes of the schema of a workspace depends on nothing else in it. -/
theorem schema_resolve (w : Workspace) : w.resolve.schema = w.schema.resolve := by
  simp only [resolve, schema_noteSelects, schema_pairInverses, schema_makeAttributeProperties,
    schema_makeInverseProperties, schema_makeIndividuals, schema_inheritInverses,
    schema_inheritAttributes, inheritAttributes_fst]
  rfl

end Workspace
end ExpressSchema
