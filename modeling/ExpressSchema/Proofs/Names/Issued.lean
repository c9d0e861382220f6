/-
# Names stand for declarations

In any run, whatever is read, declared and resolved, a name that is registered as that of an entity
is put at a place and issued the identifier that is made from it, and the name of a type is issued
its place.  `names_of_run` says what places and identifiers are worth: they tell exactly the
canonical names apart, they keep standing for the same declarations, and looking for a name finds
the declaration with its canonical form.  For the identifiers of entities this holds as long as
there are no more entities than words; after that one identifier stands for two names
(`identifiers_comeAround`).
-/
import ExpressSchema.Lookup
import ExpressSchema.Proofs.Closed.Run
import ExpressSchema.Proofs.Names.Register
import ExpressSchema.Proofs.Printing.Sized
import ExpressSchema.Proofs.Reading.Writes
import ExpressSchema.Proofs.Resolution.Kept

namespace ExpressSchema

/-! ## Tables of declarations -/

namespace Table

variable {α : Type} {key name : α → String}

/-- How the declarations in a table are named. -/
def register (key name : α → String) (t : Table String α) : List Registration :=
  t.entries.map fun e => ⟨e.1, key e.2, name e.2⟩

lemma map_under_register (key name : α → String) (t : Table String α) :
    (t.register key name).map (·.under) = t.keys := by
  rw [register, List.map_map]
  rfl

/-- Looking for a name and declaring it if it is missing. -/
lemma enters_findOrInsert (t : Table String α) (n : String) {a : α}
    (hkey : key a = Name.canonical n) (hname : name a = n) :
    Enters (t.register key name) (some (n, (t.findOrInsert (Name.canonical n) a).1))
      ((t.findOrInsert (Name.canonical n) a).2.register key name) := by
  rcases t.findOrInsert_cases (Name.canonical n) a with ⟨i, hi, hfound⟩ | ⟨hnew, hplace, hentries⟩
  · rw [hfound]
    have hat := indexOf?_eq_some_iff.1 hi
    rw [← map_under_register key name t, List.getElem?_map] at hat
    obtain ⟨r, hr, hru⟩ := Option.map_eq_some_iff.1 hat
    exact .found hr hru
  · have hfresh : Name.canonical n ∉ (t.register key name).map (·.under) := by
      rwa [map_under_register]
    have hsize : t.size = (t.register key name).length := (List.length_map _).symm
    have hregister : (t.findOrInsert (Name.canonical n) a).2.register key name =
        t.register key name ++ [.ofName n] := by
      rw [register, hentries, List.map_append, List.map_singleton, hkey, hname]
      rfl
    rw [hplace, hregister, hsize]
    exact .new hfresh

/-- Tables of the same declarations under the same keys have the same register. -/
lemma register_congr {t u : Table String α} (hkeys : u.keys = t.keys)
    (hnames : (u.values.map fun a => (key a, name a)) = t.values.map fun a => (key a, name a)) :
    u.register key name = t.register key name := by
  have hzip : ∀ t : Table String α, t.register key name =
      List.zipWith (fun k p => ⟨k, p.1, p.2⟩) t.keys (t.values.map fun a => (key a, name a)) := by
    intro t
    rw [register, keys, values, List.map_map, List.zipWith_map, List.zipWith_self]
    rfl
  rw [hzip, hzip, hkeys, hnames]

variable {t : Table String α} (h : ∀ r ∈ t.register key name, r.key = r.under)
include h

/-- What is found under a canonical name is the declaration that has it. -/
lemma get?_eq_some_iff_of_key {k : String} {a : α} :
    t.get? k = some a ↔ a ∈ t.values ∧ key a = k := by
  rw [get?_eq_some_iff]
  constructor
  · exact fun hmem => ⟨List.mem_map_of_mem (f := Prod.snd) hmem, h _ (List.mem_map_of_mem hmem)⟩
  · rintro ⟨ha, rfl⟩
    obtain ⟨e, he, rfl⟩ := List.mem_map.1 ha
    have hkey : key e.2 = e.1 := h _ (List.mem_map_of_mem he)
    rwa [hkey]

/-- Its place is where the declaration stands that has it. -/
lemma indexOf?_eq_some_iff_of_key {k : String} {i : Nat} :
    t.indexOf? k = some i ↔ ∃ a, t.at? i = some a ∧ key a = k := by
  rw [indexOf?_eq_some_iff, keys, List.getElem?_map, at?, entryAt?]
  constructor
  · intro hat
    obtain ⟨e, he, rfl⟩ := Option.map_eq_some_iff.1 hat
    refine ⟨e.2, by rw [he, Option.map_some], h _ (List.mem_map_of_mem (List.mem_of_getElem? he))⟩
  · rintro ⟨a, ha, rfl⟩
    obtain ⟨e, he, rfl⟩ := Option.map_eq_some_iff.1 ha
    have hkey : key e.2 = e.1 := h _ (List.mem_map_of_mem (List.mem_of_getElem? he))
    rw [he, Option.map_some, hkey]

end Table

/-! ## The registers of a schema -/

namespace Schema

variable {s : Schema}

/-- How the entities are named. -/
def entityRegister (s : Schema) : List Registration := s.entities.register Entity.key Entity.name

/-- How the types are named. -/
def typeRegister (s : Schema) : List Registration := s.types.register TypeDecl.key TypeDecl.name

/-- The place where an entity of this name stands or is put. -/
def entityPlace (s : Schema) (name : String) : Nat :=
  (s.entities.findOrInsert (Name.canonical name) (Entity.ofName name)).1

lemma enters_declareEntity (s : Schema) (name : String) :
    Enters s.entityRegister (some (name, s.entityPlace name))
      (s.declareEntity (Name.canonical name) name).2.entityRegister :=
  s.entities.enters_findOrInsert name rfl rfl

/-- The identifier that is issued is made from this place. -/
lemma index_declareEntity (s : Schema) (name : String) :
    (s.declareEntity (Name.canonical name) name).1.index = wordOf (s.entityPlace name) := rfl

lemma enters_declareType (s : Schema) (name : String) :
    Enters s.typeRegister (some (name, (s.declareType (Name.canonical name) name).1.index))
      (s.declareType (Name.canonical name) name).2.typeRegister :=
  s.types.enters_findOrInsert name rfl rfl

/-- Names of entities are written only where the name of an entity is read. -/
lemma entityRegister_eq_of_writes {state : State} {t : Schema} (h : state.Writes s t)
    (hstate : state ≠ .entityName) : t.entityRegister = s.entityRegister := by
  cases h with
  | ofEntityName => exact absurd rfl hstate
  | @intoEntity _ id f _ hf =>
    refine Table.register_congr (Table.keys_modifyAt _ _ _) ?_
    exact map_values_modifyEntity s id fun e => by rw [(hf e).1, (hf e).2]
  | _ => rfl

/-- Names of types are written only where the name of a type is read. -/
lemma typeRegister_eq_of_writes {state : State} {t : Schema} (h : state.Writes s t)
    (hstate : ∀ type, state ≠ .typeName type) : t.typeRegister = s.typeRegister := by
  cases h with
  | ofTypeName => exact absurd rfl (hstate _)
  | @intoType _ id f _ hf =>
    refine Table.register_congr (Table.keys_modifyAt _ _ _) ?_
    change ((s.types.modifyAt _ _).values.map _) = _
    rw [Table.values_modifyAt, map_modify_of_eq fun x => by rw [(hf x).1, (hf x).2]]
  | _ => rfl

/-- Resolution writes no names of declarations. -/
lemma entityRegister_resolve (s : Schema) : s.resolve.entityRegister = s.entityRegister := by
  refine Table.register_congr s.sameDescent_resolve.keys ?_
  have hdescent := congrArg (List.map fun d : Descent => (d.key, d.name))
    s.sameDescent_resolve.descent
  rwa [List.map_map, List.map_map] at hdescent

lemma typeRegister_resolve (s : Schema) : s.resolve.typeRegister = s.typeRegister := by
  refine Table.register_congr s.keys_types_resolve ?_
  have hdeclaration := congrArg (List.map fun t : TypeDecl => (t.key, t.name)) s.map_types_resolve
  rwa [List.map_map, List.map_map] at hdeclaration

/-- What is found under a name is what has its canonical form; of an entity this is the
identifier too, as long as there are no more entities than words. -/
structure FindsByName (s : Schema) : Prop where
  entity : ∀ name e, s.entity? name = some e ↔
    e ∈ s.entities.values ∧ e.key = Name.canonical name
  entityId : s.entities.size ≤ UInt32.size → ∀ name id, s.entityId? name = some id ↔
    ∃ e, s.entityAt? id = some e ∧ e.key = Name.canonical name
  type : ∀ name t, s.type? name = some t ↔ t ∈ s.types.values ∧ t.key = Name.canonical name

lemma findsByName (hentities : ∀ r ∈ s.entityRegister, r.key = r.under)
    (htypes : ∀ r ∈ s.typeRegister, r.key = r.under) : s.FindsByName where
  entity name e := Table.get?_eq_some_iff_of_key hentities
  entityId hroom name id := by
    rw [entityId?, Option.map_eq_some_iff, entityAt?,
      ← Table.indexOf?_eq_some_iff_of_key hentities]
    have hid : ∀ i, s.entities.indexOf? (Name.canonical name) = some i → EntityId.ofNat i = ⟨i⟩ :=
      fun i hi => EntityId.ofNat_of_lt (Nat.lt_of_lt_of_le (Table.lt_size_of_indexOf? hi) hroom)
    constructor
    · rintro ⟨i, hi, rfl⟩
      rwa [hid i hi]
    · exact fun hi => ⟨id.index, hi, hid _ hi⟩
  type name t := Table.get?_eq_some_iff_of_key htypes

end Schema

/-! ## Reading a name -/

namespace State

/-- The name that a token registers as that of an entity, and the place where this stands or is
put. -/
def entityPlaced? (token : Token) (w : Workspace) : State → Option (String × Nat)
  | entityName =>
    let name := String.ofList (Text.dropEnd token ';')
    some (name, w.schema.entityPlace name)
  | _ => none

/-- The name that a token registers as that of an entity, and the number of the identifier that it
is issued, which the reader keeps in the state to which the token leads. -/
def entityIssued? (token : Token) : State → State → Option (String × Nat)
  | entityName, entityBody entity => some (String.ofList (Text.dropEnd token ';'), entity.index)
  | _, _ => none

/-- The name that a token registers as that of a type, and the place that it is issued.  An equals
sign that stands alone is no name. -/
def typeIssued? (token : Token) : State → State → Option (String × Nat)
  | typeName _, next =>
    match Text.dropEnd? token '=', next with
    | none, typeName (some type) => some (token.text, type.index)
    | some (c :: cs), typeBody type => some (String.ofList (c :: cs), type.index)
    | _, _ => none
  | _, _ => none

variable (token : Token) (w : Workspace)

/-- What is issued is made from the place. -/
lemma entityIssued?_step (state : State) :
    entityIssued? token state (state.step token w).1 =
      (entityPlaced? token w state).map (Prod.map id wordOf) := by
  cases state with
  | entityName =>
    change some (_, (w.declareEntity _).1.index) = some (_, _)
    rw [Workspace.declareEntity_fst, Schema.index_declareEntity]
    rfl
  | _ => rfl

lemma enters_entityRegister_step (state : State) :
    Enters w.schema.entityRegister (entityPlaced? token w state)
      (state.step token w).2.schema.entityRegister := by
  by_cases hstate : state = entityName
  · subst hstate
    change Enters _ (some (_, w.schema.entityPlace _)) (w.declareEntity _).2.schema.entityRegister
    rw [Workspace.schema_declareEntity]
    exact w.schema.enters_declareEntity _
  · have hnone : entityPlaced? token w state = none := by
      unfold entityPlaced?
      split
      · exact absurd rfl hstate
      · rfl
    rw [hnone, Schema.entityRegister_eq_of_writes (writes_step token w state) hstate]
    exact .nothing

/-- Where the name of a type is read, a type is declared unless the token is an equals sign. -/
lemma enters_typeRegister_typeName (type : Option TypeId) :
    Enters w.schema.typeRegister
      (typeIssued? token (typeName type) (readTypeName type token w).1)
      (readTypeName type token w).2.schema.typeRegister := by
  have hdeclare : ∀ name, Enters w.schema.typeRegister
      (some (name, (w.declareType name).1.index)) (w.declareType name).2.schema.typeRegister := by
    intro name
    rw [Workspace.declareType_fst, Workspace.schema_declareType]
    exact w.schema.enters_declareType name
  unfold typeIssued? readTypeName
  cases hname : Text.dropEnd? token '=' with
  | none => exact hdeclare token.text
  | some name =>
    cases name with
    | nil => cases type <;> exact .nothing
    | cons c cs => exact hdeclare (String.ofList (c :: cs))

lemma enters_typeRegister_step (state : State) :
    Enters w.schema.typeRegister (typeIssued? token state (state.step token w).1)
      (state.step token w).2.schema.typeRegister := by
  by_cases hstate : ∃ type, state = typeName type
  · obtain ⟨type, rfl⟩ := hstate
    exact enters_typeRegister_typeName token w type
  · have hne : ∀ type, state ≠ typeName type := fun type heq => hstate ⟨type, heq⟩
    have hnone : typeIssued? token state (state.step token w).1 = none := by
      unfold typeIssued?
      split
      · exact absurd rfl (hne _)
      · rfl
    rw [hnone, Schema.typeRegister_eq_of_writes (writes_step token w state) hne]
    exact .nothing

end State

/-! ## Runs -/

namespace Action

/-- The name that an action registers as that of an entity, and the place where this stands or is
put. -/
def entityPlaced? (p : State × Workspace) : Action → Option (String × Nat)
  | declareEntity name => some (name, p.2.schema.entityPlace name)
  | feed token => State.entityPlaced? token p.2 p.1
  | restart | declareType _ | resolve => none

/-- The name that an action registers as that of an entity, and the number of the identifier that
it is issued. -/
def entityIssued? (p : State × Workspace) : Action → Option (String × Nat)
  | declareEntity name => some (name, (p.2.declareEntity name).1.index)
  | feed token => State.entityIssued? token p.1 (p.1.feed token p.2).1
  | restart | declareType _ | resolve => none

/-- The name that an action registers as that of a type, and the place that it is issued. -/
def typeIssued? (p : State × Workspace) : Action → Option (String × Nat)
  | declareType name => some (name, (p.2.declareType name).1.index)
  | feed token => State.typeIssued? token p.1 (p.1.feed token p.2).1
  | restart | declareEntity _ | resolve => none

variable (p : State × Workspace) (action : Action)

/-- What is issued is made from the place. -/
lemma entityIssued?_eq :
    action.entityIssued? p = (action.entityPlaced? p).map (Prod.map id wordOf) := by
  cases action with
  | feed token => exact State.entityIssued?_step token p.2 p.1
  | declareEntity name =>
    change some (name, (p.2.declareEntity name).1.index) = some (_, _)
    rw [Workspace.declareEntity_fst, Schema.index_declareEntity]
    rfl
  | declareType | resolve | restart => rfl

lemma enters_entityRegister :
    Enters p.2.schema.entityRegister (action.entityPlaced? p)
      (run p action).2.schema.entityRegister := by
  cases action with
  | feed token =>
    change Enters _ (State.entityPlaced? token p.2 p.1)
      (p.1.feed token p.2).2.schema.entityRegister
    rw [State.schema_feed]
    exact State.enters_entityRegister_step token p.2 p.1
  | declareEntity name =>
    change Enters _ (some (name, p.2.schema.entityPlace name))
      (p.2.declareEntity name).2.schema.entityRegister
    rw [Workspace.schema_declareEntity]
    exact p.2.schema.enters_declareEntity name
  | declareType name =>
    change Enters _ none (p.2.declareType name).2.schema.entityRegister
    rw [Workspace.schema_declareType]
    exact .nothing
  | resolve =>
    change Enters _ none p.2.resolve.schema.entityRegister
    rw [Workspace.schema_resolve, Schema.entityRegister_resolve]
    exact .nothing
  | restart => exact .nothing

lemma enters_typeRegister :
    Enters p.2.schema.typeRegister (action.typeIssued? p)
      (run p action).2.schema.typeRegister := by
  cases action with
  | feed token =>
    change Enters _ (State.typeIssued? token p.1 (p.1.step token p.2).1)
      (p.1.feed token p.2).2.schema.typeRegister
    rw [State.schema_feed]
    exact State.enters_typeRegister_step token p.2 p.1
  | declareType name =>
    change Enters _ (some (name, (p.2.declareType name).1.index))
      (p.2.declareType name).2.schema.typeRegister
    rw [Workspace.declareType_fst, Workspace.schema_declareType]
    exact p.2.schema.enters_declareType name
  | declareEntity name =>
    change Enters _ none (p.2.declareEntity name).2.schema.typeRegister
    rw [Workspace.schema_declareEntity]
    exact .nothing
  | resolve =>
    change Enters _ none p.2.resolve.schema.typeRegister
    rw [Workspace.schema_resolve, Schema.typeRegister_resolve]
    exact .nothing
  | restart => exact .nothing

end Action

/-- The names that are issued places in the course of a run, in order. -/
def issuedOver (issue? : State × Workspace → Action → Option (String × Nat)) :
    State × Workspace → List Action → List (String × Nat)
  | _, [] => []
  | p, action :: actions =>
    (issue? p action).toList ++ issuedOver issue? (action.run p) actions

section Run

variable {issue? : State × Workspace → Action → Option (String × Nat)}
  {register : Schema → List Registration}
  (hstep : ∀ p action,
    Enters (register p.2.schema) (issue? p action) (register (Action.run p action).2.schema))
include hstep

/-- Whatever has been issued before, the register knows it together with what is issued next. -/
lemma Identifies.foldl_run {p : State × Workspace} {issued : List (String × Nat)}
    (h : Identifies issued (register p.2.schema)) (actions : List Action) :
    Identifies (issued ++ issuedOver issue? p actions)
      (register (actions.foldl Action.run p).2.schema) := by
  induction actions generalizing p issued with
  | nil => rwa [issuedOver, List.append_nil]
  | cons action actions ih =>
    rw [issuedOver, ← List.append_assoc]
    exact ih (h.enters (hstep p action))

/-- What is registered stays at its place. -/
lemma isPrefix_foldl_run (p : State × Workspace) (actions : List Action) :
    register p.2.schema <+: register (actions.foldl Action.run p).2.schema := by
  induction actions generalizing p with
  | nil => exact List.prefix_rfl
  | cons action actions ih => exact (hstep p action).isPrefix.trans (ih _)

end Run

/-- What the names are worth that have been issued places in a run, the register having grown from
what it was earlier. -/
structure KeepsNames (issued : List (String × Nat)) (earlier now : List Registration) : Prop
    extends Identifies issued now where
  /-- Two names have been issued one place exactly if they have one canonical form. -/
  apart : ∀ p ∈ issued, ∀ q ∈ issued, p.2 = q.2 ↔ Name.canonical p.1 = Name.canonical q.1
  /-- Whatever has been registered earlier stands where it stood, named as it was. -/
  stays : earlier <+: now

/-- A run that starts with nothing registered keeps the names. -/
lemma keepsNames_foldl_run {issue? : State × Workspace → Action → Option (String × Nat)}
    {register : Schema → List Registration}
    (hstep : ∀ p action,
      Enters (register p.2.schema) (issue? p action) (register (Action.run p action).2.schema))
    (start : State × Workspace) (hstart : register start.2.schema = [])
    (before after : List Action) :
    KeepsNames (issuedOver issue? start (before ++ after))
      (register (before.foldl Action.run start).2.schema)
      (register ((before ++ after).foldl Action.run start).2.schema) := by
  have hnone : Identifies [] (register start.2.schema) := hstart ▸ identifies_nil
  have hnow := hnone.foldl_run hstep (before ++ after)
  refine { hnow with apart := fun p hp q hq => hnow.place_eq_iff hp hq, stays := ?_ }
  rw [List.foldl_append]
  exact isPrefix_foldl_run hstep _ after

/-- What is issued in the course of a run is made from the places. -/
lemma issuedOver_entityIssued? (p : State × Workspace) (actions : List Action) :
    issuedOver Action.entityIssued? p actions =
      (issuedOver Action.entityPlaced? p actions).map (Prod.map id wordOf) := by
  induction actions generalizing p with
  | nil => rfl
  | cons action actions ih =>
    rw [issuedOver, issuedOver, ih, Action.entityIssued?_eq, List.map_append]
    cases action.entityPlaced? p <;> rfl

/-- As long as no place is too large for a word, what is issued are the places. -/
lemma Identifies.map_wordOf {register : List Registration} {placed : List (String × Nat)}
    (h : Identifies placed register) (hroom : register.length ≤ UInt32.size) :
    placed.map (Prod.map id wordOf) = placed := by
  have hword : ∀ p ∈ placed, Prod.map id wordOf p = id p := fun p hp =>
    Prod.ext rfl (wordOf_of_lt (Nat.lt_of_lt_of_le (h.place_lt hp) hroom))
  rw [List.map_congr_left hword, List.map_id]

/-- Names that are new are put at the next places. -/
lemma issuedOver_declareEntity (names : List String) {p : State × Workspace}
    (hnew : (p.2.schema.entities.keys ++ names.map Name.canonical).Nodup) :
    issuedOver Action.entityPlaced? p (names.map Action.declareEntity) =
      names.zipIdx p.2.schema.entities.size := by
  induction names generalizing p with
  | nil => rfl
  | cons name names ih =>
    have hfresh : Name.canonical name ∉ p.2.schema.entities.keys := by
      rw [List.map_cons] at hnew
      exact fun hmem => (List.nodup_append.1 hnew).2.2 _ hmem _ List.mem_cons_self rfl
    rcases p.2.schema.entities.findOrInsert_cases (Name.canonical name) (Entity.ofName name) with
      ⟨i, hi, -⟩ | ⟨-, hplace, hentries⟩
    · exact absurd (List.mem_of_getElem? (Table.indexOf?_eq_some_iff.1 hi)) hfresh
    · have hnext : (Action.run p (.declareEntity name)).2.schema.entities.entries =
          p.2.schema.entities.entries ++ [(Name.canonical name, Entity.ofName name)] := by
        change (p.2.declareEntity name).2.schema.entities.entries = _
        rw [Workspace.schema_declareEntity]
        exact hentries
      have hkeys : (Action.run p (.declareEntity name)).2.schema.entities.keys =
          p.2.schema.entities.keys ++ [Name.canonical name] := by
        rw [Table.keys, hnext, List.map_append]
        rfl
      have hsize : (Action.run p (.declareEntity name)).2.schema.entities.size =
          p.2.schema.entities.size + 1 := by
        rw [Table.size, hnext, List.length_append]
        rfl
      rw [List.map_cons, issuedOver, ih (by rwa [hkeys, List.append_assoc]), hsize]
      change [(name, p.2.schema.entityPlace name)] ++ _ = _
      rw [Schema.entityPlace, hplace]
      rfl

/-- Each of many words is issued the identifier that is made from its number. -/
lemma mem_issuedOver_ofLength {count n : Nat} (hn : n < count) :
    ((Word.ofLength n).text, wordOf n) ∈ issuedOver Action.entityIssued? (.topLevel, {})
      (((List.range count).map fun k => (Word.ofLength k).text).map Action.declareEntity) := by
  have hplaced : issuedOver Action.entityPlaced? (.topLevel, {})
      (((List.range count).map fun k => (Word.ofLength k).text).map Action.declareEntity) =
        ((List.range count).map fun k => (Word.ofLength k).text).zipIdx := by
    refine issuedOver_declareEntity _ ?_
    rw [List.map_map]
    exact List.nodup_range.map Word.key_ofLength_injective
  rw [issuedOver_entityIssued?, hplaced]
  refine List.mem_map.2 ⟨((Word.ofLength n).text, n), ?_, rfl⟩
  rw [List.mem_zipIdx_iff_getElem?, List.getElem?_map, List.getElem?_range hn]
  rfl

end ExpressSchema
