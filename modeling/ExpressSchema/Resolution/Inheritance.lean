/-
# Inheritance

An entity has its own attributes and inverses and those of its supertypes.  The supertypes of an
entity form a chain, followed from supertype to supertype until there is none, until one is not
declared, or until the chain comes back to a place where it has been.  The attributes of the whole
chain, the furthest supertype first, are all the attributes of the entity; they are also indexed
by name, for the inverses that run against them.

A chain lists places of entities; the identifiers of attributes and inverses are made from places
and slots.
-/
import ExpressSchema.Schema

namespace ExpressSchema

/-- How a chain of supertypes ends. -/
inductive ChainEnd where
  /-- With an entity that has no supertype. -/
  | root
  /-- With an entity whose supertype is not declared. -/
  | undeclared (supertype : String)
  /-- With an entity whose supertype already stands in the chain. -/
  | loop (entity : EntityId)
deriving DecidableEq, Repr

/-- An entity and its supertypes. -/
structure Chain where
  /-- The furthest supertype first, the entity itself last. -/
  members : List EntityId
  /-- Why the chain goes no further. -/
  ending : ChainEnd
deriving DecidableEq, Repr

/-- The number of entities that a chain has not yet come to. -/
def unvisited (size : Nat) (visited : List EntityId) : Nat :=
  ((List.range size).filter fun i => ⟨i⟩ ∉ visited).length

theorem unvisited_cons_lt {size : Nat} {visited : List EntityId} {i : Nat} (hi : i < size)
    (hv : (⟨i⟩ : EntityId) ∉ visited) :
    unvisited size (⟨i⟩ :: visited) < unvisited size visited := by
  have h : ((List.range size).filter fun j => (⟨j⟩ : EntityId) ∉ ⟨i⟩ :: visited) =
      ((List.range size).filter fun j => (⟨j⟩ : EntityId) ∉ visited).filter fun j => j ≠ i := by
    rw [List.filter_filter]
    apply List.filter_congr
    intro j _
    simp
  unfold unvisited
  rw [h, List.length_filter_lt_length_iff_exists]
  exact ⟨i, by simp [hi, hv], by simp⟩

namespace Schema

/-- The supertype of an entity, as written. -/
def supertypeName? (s : Schema) (entity : EntityId) : Option String :=
  (s.entityAt? entity).bind (·.supertype)

/-- Follow the supertypes of an entity, the places visited so far being known. -/
def followChain (s : Schema) (entity : EntityId) (visited : List EntityId) : Chain :=
  match s.supertypeName? entity with
  | none => ⟨visited, .root⟩
  | some supertype =>
    match _found : s.entities.indexOf? (Name.canonical supertype) with
    | none => ⟨visited, .undeclared supertype⟩
    | some next =>
      if _new : (⟨next⟩ : EntityId) ∈ visited then ⟨visited, .loop ⟨next⟩⟩
      else s.followChain ⟨next⟩ (⟨next⟩ :: visited)
termination_by unvisited s.entities.size visited
decreasing_by exact unvisited_cons_lt (Table.lt_size_of_indexOf? _found) _new

/-- How a chain goes on depends on the supertype, and on whether that is declared and new. -/
theorem followChain_eq (s : Schema) (entity : EntityId) (visited : List EntityId) :
    s.followChain entity visited =
      match s.supertypeName? entity with
      | none => ⟨visited, .root⟩
      | some supertype =>
        match s.entities.indexOf? (Name.canonical supertype) with
        | none => ⟨visited, .undeclared supertype⟩
        | some next =>
          if (⟨next⟩ : EntityId) ∈ visited then ⟨visited, .loop ⟨next⟩⟩
          else s.followChain ⟨next⟩ (⟨next⟩ :: visited) := by
  rw [followChain]
  split
  · rfl
  · split <;> simp [*]

/-- The chain of an entity. -/
def chain (s : Schema) (entity : EntityId) : Chain := s.followChain entity [entity]

/-- What is wrong with an entity that has this chain: only an entity that is its own supertype is
told so, and only the entity that names an undeclared supertype. -/
def problemAlong? (s : Schema) (entity : EntityId) (chain : Chain) : Option Problem :=
  let name := ((s.entityAt? entity).map (·.name)).getD ""
  match chain.ending with
  | .root => none
  | .undeclared supertype =>
    if chain.members = [entity] then some (.undeclaredSupertype supertype name) else none
  | .loop back => if back = entity then some (.supertypeLoop name) else none

/-- What is wrong with the chain of an entity. -/
def chainProblem? (s : Schema) (entity : EntityId) : Option Problem :=
  s.problemAlong? entity (s.chain entity)

/-- The places of all entities, in order. -/
def entityIds (s : Schema) : List EntityId := (List.range s.entities.size).map EntityId.mk

/-! ## Attributes and inverses of a chain -/

/-- The own attributes of an entity, each with its identifier. -/
def ownAttributes (s : Schema) (entity : EntityId) : List (Attribute × AttributeId) :=
  match s.entityAt? entity with
  | some e => e.attributes.zipIdx.map fun p => (p.1, .ofNat (.ofNat entity.index) p.2)
  | none => []

/-- The identifiers of the own inverses of an entity. -/
def ownInverses (s : Schema) (entity : EntityId) : List InverseId :=
  match s.entityAt? entity with
  | some e => (List.range e.inverses.length).map fun slot => .ofNat (.ofNat entity.index) slot
  | none => []

/-- The attributes of the entities in a chain, each with its identifier. -/
def attributesAlong (s : Schema) (chain : Chain) : List (Attribute × AttributeId) :=
  chain.members.flatMap s.ownAttributes

/-- The attributes of an entity and its supertypes, each with its identifier. -/
def chainAttributes (s : Schema) (entity : EntityId) : List (Attribute × AttributeId) :=
  s.attributesAlong (s.chain entity)

/-- The identifiers of the inverses of an entity and its supertypes. -/
def chainInverses (s : Schema) (entity : EntityId) : List InverseId :=
  (s.chain entity).members.flatMap s.ownInverses

/-- Give each entity the list of all its attributes, the chains of the entities being known. -/
def collectAlong (s : Schema) (chains : List Chain) : Schema :=
  { s with entities := s.entities.mapIdx fun i e =>
      { e with allAttributes := ((chains[i]?.map s.attributesAlong).getD []).map Prod.snd } }

/-- Give each entity the list of all its inverses. -/
def collectInverses (s : Schema) : Schema :=
  { s with entities := s.entities.mapIdx fun i e =>
      { e with allInverses := s.chainInverses ⟨i⟩ } }

end Schema

/-! ## The index of attributes -/

/-- The key under which an attribute of an entity is indexed. -/
def attributeKey (entity attr : String) : String := entity ++ "#" ++ attr

/-- The attributes of all entities, inherited ones included, under the canonical name of the
entity and the name of the attribute. -/
structure AttributeIndex where
  /-- The entries in order of entry; of several under one key the last one counts. -/
  entries : List (String × AttributeId)

namespace AttributeIndex

/-- The index of a schema, the chains of the entities being known. -/
def along (s : Schema) (chains : List Chain) : AttributeIndex where
  entries := (s.entityIds.zip chains).flatMap fun c =>
    let key := ((s.entityAt? c.1).map (·.key)).getD ""
    (s.attributesAlong c.2).map fun p => (attributeKey key p.1.name, p.2)

/-- The attribute under a key. -/
def get? (x : AttributeIndex) (key : String) : Option AttributeId :=
  (x.entries.reverse.find? fun e => e.1 = key).map Prod.snd

/-- The number of keys. -/
def size (x : AttributeIndex) : Nat := (x.entries.map Prod.fst).eraseDups.length

end AttributeIndex

/-! ## The pass over a workspace -/

namespace Workspace

/-- Follow the supertypes of an entity as `Schema.followChain` does, their canonical names being
remembered. -/
def followChain (w : Workspace) (entity : EntityId) (visited : List EntityId) :
    Chain × Workspace :=
  match w.schema.supertypeName? entity with
  | none => (⟨visited, .root⟩, w)
  | some supertype =>
    let found := w.canonical supertype
    match _found : w.schema.entities.indexOf? found.1 with
    | none => (⟨visited, .undeclared supertype⟩, found.2)
    | some next =>
      if _new : (⟨next⟩ : EntityId) ∈ visited then (⟨visited, .loop ⟨next⟩⟩, found.2)
      else found.2.followChain ⟨next⟩ (⟨next⟩ :: visited)
termination_by unvisited w.schema.entities.size visited
decreasing_by exact unvisited_cons_lt (Table.lt_size_of_indexOf? _found) _new

/-- The chains of several entities. -/
def followChains (w : Workspace) : List EntityId → List Chain × Workspace
  | [] => ([], w)
  | entity :: entities =>
    let found := w.followChain entity [entity]
    let rest := found.2.followChains entities
    (found.1 :: rest.1, rest.2)

/-- Report what is wrong with supertypes, give each entity the list of all its attributes, and
index them. -/
def inheritAttributes (w : Workspace) : AttributeIndex × Workspace :=
  let ids := w.schema.entityIds
  let followed := w.followChains ids
  let chains := followed.1
  let w := followed.2
  let index := AttributeIndex.along w.schema chains
  let w := w.reportAll ((ids.zip chains).filterMap fun c => w.schema.problemAlong? c.1 c.2)
  let w := w.update (·.collectAlong chains)
  (index, w.record (.attributesCollected w.schema.entities.size index.size))

end Workspace
end ExpressSchema
