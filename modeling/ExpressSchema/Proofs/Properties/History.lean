/-
# The history of a table of properties

A table of properties is made by four operations: properties are added and names are let go,
properties are linked and unlinked.  What the table holds at the end can be told from the operations
alone (`FollowsHistory`): a name stands for the identifier of the last property that was added under
it unless it was let go since, and the names are listed in the order in which they came in to stay.
Every identifier that was given out leads to its property (`Denotes`), as long as there are no more
properties than identifiers; the next one gets an identifier that leads to the first property.
-/
import ExpressSchema.Proofs.Pairing.Partner
import Mathlib.Data.List.Basic
import Mathlib.Data.List.Induction

namespace ExpressSchema
namespace PropertyTable

/-! ## Operations -/

/-- An operation on a table of properties. -/
inductive Operation where
  /-- Add a property under its name. -/
  | insert (p : Property)
  /-- Let a name go. -/
  | remove (name : String)
  /-- Make two properties each other's inverse. -/
  | link (a b : PropertyId)
  /-- Leave a property without an inverse. -/
  | unlink (id : PropertyId)
deriving DecidableEq, Repr

namespace Operation

/-- The table after an operation. -/
def apply (t : PropertyTable) : Operation → PropertyTable
  | insert p => t.insert p
  | remove name => t.remove name
  | link a b => t.link a b
  | unlink id => t.unlink id

/-- The operation adds a property of this name. -/
def Enters (name : String) : Operation → Prop
  | insert p => p.name = name
  | _ => False

/-- The operation lets this name go. -/
def Removes (name : String) : Operation → Prop
  | remove other => other = name
  | _ => False

end Operation

/-- The table after several operations, of which the first finds it empty. -/
def after (operations : List Operation) : PropertyTable := operations.foldl Operation.apply {}

/-- The properties that are added, in order. -/
def inserted (operations : List Operation) : List Property :=
  operations.filterMap fun
    | .insert p => some p
    | _ => none

section History

variable {xs ys : List Operation} {o : Operation} {name : String} {id : PropertyId} {i : Nat}

/-- A property was added at a time when `holds` could be said of it and of the operations before,
and each operation since then `keeps`. -/
def Since (holds : List Operation → Property → Prop) (keeps : Operation → Prop)
    (operations : List Operation) : Prop :=
  ∃ past p later, operations = past ++ .insert p :: later ∧ holds past p ∧ ∀ o ∈ later, keeps o

/-- A name is there: it came in and was not let go since. -/
def Present (name : String) : List Operation → Prop :=
  Since (fun _ p => p.name = name) fun o => ¬o.Removes name

/-- A name stands for an identifier: the last property added under it has this identifier, which is
made from the number of properties added before, and the name was not let go since. -/
def Stands (name : String) (id : PropertyId) : List Operation → Prop :=
  Since (fun past p => p.name = name ∧ id = .ofNat (inserted past).length) fun o =>
    ¬o.Enters name ∧ ¬o.Removes name

/-- A name came in to stay with the operation at this place: it was not there before, and it was not
let go since. -/
def EnteredAt (name : String) (i : Nat) : List Operation → Prop :=
  Since (fun past p => p.name = name ∧ i = past.length ∧ ¬Present name past) fun o =>
    ¬o.Removes name

/-! ## One more operation -/

lemma after_append_singleton (xs : List Operation) (o : Operation) :
    after (xs ++ [o]) = o.apply (after xs) := List.foldl_append

lemma inserted_append (xs ys : List Operation) :
    inserted (xs ++ ys) = inserted xs ++ inserted ys := List.filterMap_append

lemma Operation.not_removes_of_enters (h : o.Enters name) : ¬o.Removes name := by
  cases o with
  | insert p => exact id
  | _ => exact h.elim

section Since

variable {holds : List Operation → Property → Prop} {keeps : Operation → Prop}

lemma not_since_nil : ¬Since holds keeps [] := by
  rintro ⟨past, p, later, heq, -⟩
  simp at heq

/-- With one more operation at the end, either this is the addition that is spoken of, or it keeps
what was there. -/
lemma since_append_singleton : Since holds keeps (xs ++ [o]) ↔
    (∃ p, o = .insert p ∧ holds xs p) ∨ (Since holds keeps xs ∧ keeps o) := by
  constructor
  · rintro ⟨past, p, later, heq, hholds, hkeeps⟩
    rcases List.eq_nil_or_concat later with rfl | ⟨later, last, rfl⟩
    · obtain ⟨rfl, hlast⟩ := List.append_inj' heq rfl
      exact .inl ⟨p, (List.cons.inj hlast).1, hholds⟩
    · rw [List.concat_eq_append] at heq hkeeps
      rw [← List.cons_append, ← List.append_assoc] at heq
      obtain ⟨rfl, hlast⟩ := List.append_inj' heq rfl
      obtain ⟨hlater, hend⟩ := List.forall_mem_append.1 hkeeps
      rw [(List.cons.inj hlast).1]
      exact .inr ⟨⟨past, p, later, rfl, hholds, hlater⟩, hend last List.mem_cons_self⟩
  · rintro (⟨p, rfl, hholds⟩ | ⟨⟨past, p, later, rfl, hholds, hlater⟩, hkeeps⟩)
    · exact ⟨xs, p, [], rfl, hholds, by simp⟩
    · exact ⟨past, p, later ++ [o], by simp, hholds,
        List.forall_mem_append.2 ⟨hlater, by simpa using hkeeps⟩⟩

end Since

lemma present_append_singleton :
    Present name (xs ++ [o]) ↔ o.Enters name ∨ (Present name xs ∧ ¬o.Removes name) := by
  refine since_append_singleton.trans (or_congr_left ?_)
  cases o <;> simp [Operation.Enters]

lemma stands_append_singleton : Stands name id (xs ++ [o]) ↔
    (o.Enters name ∧ id = .ofNat (inserted xs).length) ∨
      (Stands name id xs ∧ ¬o.Enters name ∧ ¬o.Removes name) := by
  refine since_append_singleton.trans (or_congr_left ?_)
  cases o <;> simp [Operation.Enters]

/-- A name came in with the last operation if it was not there before, and else when it did. -/
lemma enteredAt_append_singleton : EnteredAt name i (xs ++ [o]) ↔
    (o.Enters name ∧ i = xs.length ∧ ¬Present name xs) ∨
      (EnteredAt name i xs ∧ ¬o.Removes name) := by
  refine since_append_singleton.trans (or_congr_left ?_)
  cases o <;> simp [Operation.Enters]

lemma EnteredAt.lt_length (h : EnteredAt name i xs) : i < xs.length := by
  obtain ⟨past, p, later, rfl, ⟨-, rfl, -⟩, -⟩ := h
  simp

lemma EnteredAt.present (h : EnteredAt name i xs) : Present name xs := by
  obtain ⟨past, p, later, rfl, ⟨hp, -, -⟩, hkeeps⟩ := h
  exact ⟨past, p, later, rfl, hp, hkeeps⟩

/-- A name that was there before came in before. -/
lemma EnteredAt.of_present (h : EnteredAt name i (xs ++ [o])) (hpresent : Present name xs) :
    EnteredAt name i xs := by
  rcases enteredAt_append_singleton.1 h with ⟨-, -, hnew⟩ | ⟨hi, -⟩
  · exact absurd hpresent hnew
  · exact hi

/-- A name that is there came in at some time. -/
lemma Present.exists_enteredAt (h : Present name xs) : ∃ i, EnteredAt name i xs := by
  induction xs using List.reverseRecOn with
  | nil => exact absurd h not_since_nil
  | append_singleton xs o ih =>
    have hlast := present_append_singleton.1 h
    by_cases hbefore : Present name xs
    · obtain ⟨i, hi⟩ := ih hbefore
      have hstays : ¬o.Removes name := hlast.elim Operation.not_removes_of_enters And.right
      exact ⟨i, enteredAt_append_singleton.2 (.inr ⟨hi, hstays⟩)⟩
    · have henters : o.Enters name := hlast.resolve_right fun h => hbefore h.1
      exact ⟨xs.length, enteredAt_append_singleton.2 (.inl ⟨henters, rfl, hbefore⟩)⟩

end History

/-! ## What each operation does to the table -/

section Operations

variable {t : PropertyTable} {o : Operation} {name : String} {id : PropertyId}

lemma mem_names_iff : name ∈ t.names ↔ ∃ id, t.idOf? name = some id := by
  rw [← Option.ne_none_iff_exists', Ne, idOf?, Table.get?_eq_none_iff, not_not]
  rfl

/-- No operation changes a property but for its inverse, and only an addition makes one. -/
lemma unlinkedArena_apply (t : PropertyTable) (o : Operation) :
    (o.apply t).unlinkedArena = t.unlinkedArena ++ (inserted [o]).map Property.unlinked := by
  cases o with
  | insert p => exact List.map_append
  | remove name => exact (List.append_nil _).symm
  | link a b => exact (unlinkedArena_link t a b).trans (List.append_nil _).symm
  | unlink id => exact (unlinkedArena_unlink t id).trans (List.append_nil _).symm

/-- A name is found as before, unless the operation enters it or removes it. -/
lemma idOf?_apply_eq_some_iff : (o.apply t).idOf? name = some id ↔
    (o.Enters name ∧ id = t.nextId) ∨
      (t.idOf? name = some id ∧ ¬o.Enters name ∧ ¬o.Removes name) := by
  cases o with
  | insert p =>
    rw [Operation.apply, idOf?_insert]
    by_cases h : p.name = name
    · simp [Operation.Enters, h, eq_comm]
    · simp [Operation.Enters, Operation.Removes, h, Ne.symm h]
  | remove other =>
    rw [Operation.apply, idOf?_remove]
    by_cases h : other = name
    · simp [Operation.Enters, Operation.Removes, h]
    · simp [Operation.Enters, Operation.Removes, h, Ne.symm h]
  | link a b => simp [Operation.apply, Operation.Enters, Operation.Removes]
  | unlink other => simp [Operation.apply, Operation.Enters, Operation.Removes]

end Operations

/-! ## What a table keeps of its history -/

/-- What is carried along the operations. -/
structure Recalls (operations : List Operation) (t : PropertyTable) : Prop where
  /-- The properties are those that were added, but for their inverses. -/
  arena : t.unlinkedArena = (inserted operations).map Property.unlinked
  /-- A name leads to what it stands for. -/
  stands : ∀ name id, t.idOf? name = some id ↔ Stands name id operations
  /-- The names are those that are there. -/
  present : ∀ name, name ∈ t.names ↔ Present name operations
  /-- The names are listed in the order in which they came in. -/
  order : t.names.Pairwise fun a b =>
    ∀ i j, EnteredAt a i operations → EnteredAt b j operations → i < j

namespace Recalls

variable {operations : List Operation} {t : PropertyTable}

lemma empty : Recalls [] {} where
  arena := rfl
  stands _ _ := iff_of_false (fun h => by cases h) not_since_nil
  present _ := iff_of_false List.not_mem_nil not_since_nil
  order := List.Pairwise.nil

lemma length_arena (h : Recalls operations t) :
    t.arena.length = (inserted operations).length := by
  have hlength := congrArg List.length h.arena
  rwa [List.length_map, unlinkedArena, List.length_map] at hlength

lemma nextId (h : Recalls operations t) : t.nextId = .ofNat (inserted operations).length := by
  rw [PropertyTable.nextId, h.length_arena]

lemma present_apply (h : Recalls operations t) (o : Operation) (name : String) :
    name ∈ (o.apply t).names ↔ Present name (operations ++ [o]) := by
  rw [present_append_singleton, ← h.present, mem_names_iff, mem_names_iff]
  simp only [idOf?_apply_eq_some_iff]
  constructor
  · rintro ⟨id, ⟨henters, -⟩ | ⟨hid, -, hstays⟩⟩
    · exact .inl henters
    · exact .inr ⟨⟨id, hid⟩, hstays⟩
  · rintro (henters | ⟨⟨id, hid⟩, hstays⟩)
    · exact ⟨_, .inl ⟨henters, rfl⟩⟩
    · by_cases henters : o.Enters name
      · exact ⟨_, .inl ⟨henters, rfl⟩⟩
      · exact ⟨id, .inr ⟨hid, henters, hstays⟩⟩

lemma order_apply (h : Recalls operations t) (o : Operation) :
    (o.apply t).names.Pairwise fun a b => ∀ i j, EnteredAt a i (operations ++ [o]) →
      EnteredAt b j (operations ++ [o]) → i < j := by
  -- the names that were there are in order still, as they came in when they did
  have hold : t.names.Pairwise fun a b => ∀ i j, EnteredAt a i (operations ++ [o]) →
      EnteredAt b j (operations ++ [o]) → i < j :=
    h.order.imp_of_mem fun ha hb hab i j hi hj =>
      hab i j (hi.of_present ((h.present _).1 ha)) (hj.of_present ((h.present _).1 hb))
  cases o with
  | insert p =>
    rw [Operation.apply, names_insert]
    split_ifs with hmem
    · exact hold
    · refine List.pairwise_append.2 ⟨hold, List.pairwise_singleton _ _, ?_⟩
      intro a ha b hb i j hi hj
      obtain rfl := List.mem_singleton.1 hb
      have hlast : j = operations.length := by
        rcases enteredAt_append_singleton.1 hj with ⟨-, hj, -⟩ | ⟨hj, -⟩
        · exact hj
        · exact absurd ((h.present _).2 hj.present) hmem
      rw [hlast]
      exact (hi.of_present ((h.present a).1 ha)).lt_length
  | remove name =>
    rw [Operation.apply, names_remove]
    exact hold.filter _
  | link a b => exact hold
  | unlink id => exact hold

lemma apply (h : Recalls operations t) (o : Operation) :
    Recalls (operations ++ [o]) (o.apply t) where
  arena := by
    rw [unlinkedArena_apply, h.arena, inserted_append, List.map_append]
  stands name id := by
    rw [idOf?_apply_eq_some_iff, stands_append_singleton, h.stands, h.nextId]
  present := h.present_apply o
  order := h.order_apply o

end Recalls

lemma recalls_after (operations : List Operation) : Recalls operations (after operations) := by
  induction operations using List.reverseRecOn with
  | nil => exact .empty
  | append_singleton operations o ih =>
    rw [after_append_singleton]
    exact ih.apply o

/-! ## The properties and their names -/

section Named

variable {operations xs ys : List Operation} {t : PropertyTable} {p : Property}
  {name : String} {id : PropertyId}

lemma length_inserted_lt (hops : operations = xs ++ .insert p :: ys) :
    (inserted xs).length < (inserted operations).length := by
  have hinserted : inserted operations = inserted xs ++ p :: inserted ys := by
    rw [hops, inserted_append]
    rfl
  rw [hinserted, List.length_append, List.length_cons]
  omega

/-- A property stands in the table where it was put. -/
lemma Recalls.exists_getElem? (h : Recalls operations t)
    (hops : operations = xs ++ .insert p :: ys) :
    ∃ q, t.arena[(inserted xs).length]? = some q ∧ q.unlinked = p.unlinked := by
  have hinserted : inserted operations = inserted xs ++ p :: inserted ys := by
    rw [hops, inserted_append]
    rfl
  have hplace : t.unlinkedArena[(inserted xs).length]? = some p.unlinked := by
    rw [h.arena, hinserted]
    simp
  rw [unlinkedArena, List.getElem?_map] at hplace
  exact Option.map_eq_some_iff.1 hplace

/-- Whatever a name stands for, there is a property with this identifier. -/
lemma Recalls.isSome_byId? (h : Recalls operations t) (hid : t.idOf? name = some id) :
    (t.byId? id).isSome := by
  obtain ⟨past, p, later, hops, ⟨-, rfl⟩, -⟩ := (h.stands name id).1 hid
  have hlt := length_inserted_lt hops
  rw [← h.length_arena] at hlt
  exact Option.isSome_iff_exists.2
    ⟨_, List.getElem?_eq_getElem (Nat.lt_of_le_of_lt (wordOf_le _) hlt)⟩

/-- So going through the names, a property is found under each. -/
lemma Recalls.length_toList (h : Recalls operations t) : t.toList.length = t.size := by
  have hsome : ∀ id ∈ t.byName.values, (t.byId? id).isSome := fun id hid => by
    obtain ⟨e, he, rfl⟩ := List.mem_map.1 hid
    exact h.isSome_byId? (Table.get?_eq_some_iff.2 he)
  rw [toList, List.length_filterMap_eq_countP, List.countP_eq_length.2 hsome]
  exact List.length_map _

section Room

variable (hroom : (inserted operations).length ≤ UInt32.size)
include hroom

/-- While there are words left, the identifier that a property gets leads to it ever after. -/
lemma Recalls.exists_byId? (h : Recalls operations t) (hops : operations = xs ++ .insert p :: ys) :
    ∃ q, t.byId? (.ofNat (inserted xs).length) = some q ∧ q.unlinked = p.unlinked := by
  rw [PropertyId.ofNat_of_lt (Nat.lt_of_lt_of_le (length_inserted_lt hops) hroom)]
  exact h.exists_getElem? hops

/-- What stands under a name is a property of this name. -/
lemma Recalls.exists_of_idOf? (h : Recalls operations t) (hid : t.idOf? name = some id) :
    ∃ p, t.byId? id = some p ∧ p.name = name := by
  obtain ⟨past, p, later, hops, ⟨rfl, rfl⟩, -⟩ := (h.stands name id).1 hid
  obtain ⟨q, hq, hsame⟩ := h.exists_byId? hroom hops
  have hname : q.unlinked.name = p.unlinked.name := congrArg Property.name hsame
  exact ⟨q, hq, hname⟩

/-- A property is found under its own name just when some name leads to it. -/
lemma Recalls.isIndexed_iff (h : Recalls operations t) :
    t.isIndexed id = true ↔ ∃ name, t.idOf? name = some id := by
  unfold isIndexed
  constructor
  · cases t.byId? id with
    | none => exact fun hfalse => absurd hfalse Bool.false_ne_true
    | some p => exact fun hid => ⟨p.name, eq_of_beq hid⟩
  · rintro ⟨name, hid⟩
    obtain ⟨p, hp, rfl⟩ := h.exists_of_idOf? hroom hid
    rw [hp]
    exact beq_iff_eq.2 hid

/-- Going through the names in order, each of them leads to a property that has it. -/
lemma Recalls.map_name_toList (h : Recalls operations t) : t.toList.map (·.name) = t.names := by
  have hname : ∀ e ∈ t.byName.entries, (t.byId? e.2).map (·.name) = some e.1 := fun e he => by
    obtain ⟨p, hp, hname⟩ := h.exists_of_idOf? hroom (Table.get?_eq_some_iff.2 he)
    rw [hp, Option.map_some, hname]
  have hentries : t.toList.map (·.name) =
      t.byName.entries.filterMap fun e => (t.byId? e.2).map (·.name) := by
    rw [toList, Table.values, List.filterMap_map, List.map_filterMap]
    rfl
  rw [hentries, List.filterMap_congr hname, List.filterMap_eq_map']
  rfl

end Room
end Named

/-- What a table of properties owes to its history, however long that is. -/
structure FollowsHistory (operations : List Operation) (t : PropertyTable) : Prop where
  /-- The properties are those that were added, in order, of which nothing but the inverse has been
  changed. -/
  arena : t.unlinkedArena = (inserted operations).map Property.unlinked
  /-- Every entry of the index leads to a property. -/
  inRange : ∀ e ∈ t.byName.entries, (t.byId? e.2).isSome
  /-- There are as many properties listed as there are names, each name being listed once. -/
  listed : t.toList.length = t.size ∧ t.names.Nodup
  /-- A name leads to what it stands for. -/
  current : ∀ name id, t.idOf? name = some id ↔ Stands name id operations
  /-- When a property is added, the identifier that its name stood for is reported. -/
  previous : ∀ xs p ys, operations = xs ++ .insert p :: ys →
    ∀ id, ((after xs).insertAnswer p).2 = some id ↔ Stands p.name id xs
  /-- When a name is let go, the identifier that it stood for is reported. -/
  removed : ∀ xs name ys, operations = xs ++ .remove name :: ys →
    ∀ id, ((after xs).take name).1 = some id ↔ Stands name id xs
  /-- The names are those that came in and stayed. -/
  present : ∀ name, name ∈ t.names ↔ ∃ i, EnteredAt name i operations
  /-- The names are listed in the order in which they came in. -/
  order : t.names.Pairwise fun a b =>
    ∀ i j, EnteredAt a i operations → EnteredAt b j operations → i < j

/-- Identifiers and names of a table of properties lead to what they were given to. -/
structure Denotes (operations : List Operation) (t : PropertyTable) : Prop where
  /-- The identifier that was given out for a property leads to this property, of which nothing but
  the inverse has been changed. -/
  denotes : ∀ xs p ys, operations = xs ++ .insert p :: ys →
    ∃ q, t.byId? ((after xs).insertAnswer p).1 = some q ∧ q.unlinked = p.unlinked
  /-- Every entry of the index leads to a property of that name. -/
  entries : ∀ e ∈ t.byName.entries, ∃ p, t.byId? e.2 = some p ∧ p.name = e.1
  /-- What is found under a name has this name. -/
  named : ∀ name, (t.get? name).map (·.name) = (t.idOf? name).map fun _ => name
  /-- A property counts as indexed just when some name leads to it. -/
  indexed : ∀ id, t.isIndexed id = true ↔ ∃ name, t.idOf? name = some id
  /-- The properties are listed by their names. -/
  names : t.toList.map (·.name) = t.names

lemma Recalls.denotes {operations : List Operation} {t : PropertyTable} (h : Recalls operations t)
    (hroom : (inserted operations).length ≤ UInt32.size) : Denotes operations t := by
  refine
    { denotes := fun xs p ys hops => ?_
      entries := fun e he => h.exists_of_idOf? hroom (Table.get?_eq_some_iff.2 he)
      named := fun name => ?_
      indexed := fun id => h.isIndexed_iff hroom
      names := h.map_name_toList hroom }
  · have hid : ((after xs).insertAnswer p).1 = .ofNat (inserted xs).length :=
      (recalls_after xs).nextId
    rw [hid]
    exact h.exists_byId? hroom hops
  · cases hid : t.idOf? name with
    | none => rw [get?, hid]; rfl
    | some id =>
      obtain ⟨p, hp, rfl⟩ := h.exists_of_idOf? hroom hid
      rw [get?, hid, Option.bind_some, hp]
      rfl

/-- Whatever properties are added to an empty table and linked and unlinked, and whatever names are
let go, in whatever order: the table follows this history, and as long as no more properties have
been added than there are words, every identifier leads to what it was given to. -/
theorem followsHistory_after (operations : List Operation) :
    FollowsHistory operations (after operations) ∧
      ((inserted operations).length ≤ UInt32.size → Denotes operations (after operations)) := by
  have h := recalls_after operations
  refine ⟨?_, h.denotes⟩
  exact
    { arena := h.arena
      inRange := fun e he => h.isSome_byId? (Table.get?_eq_some_iff.2 he)
      listed := ⟨h.length_toList, (after operations).byName.nodup_keys⟩
      current := h.stands
      previous := fun xs p ys _ => (recalls_after xs).stands p.name
      removed := fun xs name ys _ => (recalls_after xs).stands name
      present := fun name =>
        (h.present name).trans ⟨Present.exists_enteredAt, fun ⟨i, hi⟩ => hi.present⟩
      order := h.order }

/-- Of two properties that were added under one name, the first one is kept under its identifier
when the name has been let go. -/
theorem followsHistory_sameName :
    let door := Property.ofRange "door" ⟨0⟩ "Door"
    let operations : List Operation :=
      [.insert door, .insert { door with isOptional := true }, .link ⟨0⟩ ⟨1⟩, .remove "door"]
    (inserted operations).length ≤ UInt32.size ∧ FollowsHistory operations (after operations) ∧
      Denotes operations (after operations) := by
  intro door operations
  have hroom : (inserted operations).length ≤ UInt32.size := by decide
  exact ⟨hroom, (followsHistory_after operations).1, (followsHistory_after operations).2 hroom⟩

/-- When all words have been used, the identifier of the next property leads to the first one. -/
theorem id_comesAround :
    let door := Property.ofRange "door" ⟨0⟩ "Door"
    let wall := Property.ofRange "wall" ⟨0⟩ "Wall"
    let past : List Operation := .replicate UInt32.size (.insert door)
    ((after past).insertAnswer wall).1 = ⟨0⟩ ∧
      ∃ q, (after (past ++ [.insert wall])).byId? ⟨0⟩ = some q ∧ q.unlinked = door ∧
        door.name ≠ wall.name := by
  intro door wall past
  have hpast : inserted past = List.replicate UInt32.size door := by
    rw [inserted, List.filterMap_replicate]
  have hfirst : past ++ [.insert wall] =
      [] ++ .insert door :: (.replicate (UInt32.size - 1) (.insert door) ++ [.insert wall]) := by
    rw [List.nil_append, ← List.cons_append, ← List.replicate_succ]
    rfl
  obtain ⟨q, hq, hsame⟩ := (recalls_after (past ++ [.insert wall])).exists_getElem? hfirst
  refine ⟨?_, q, hq, hsame, by decide⟩
  change (after past).nextId = _
  rw [(recalls_after past).nextId, hpast, List.length_replicate, PropertyId.ofNat, wordOf_size]

end PropertyTable
end ExpressSchema
