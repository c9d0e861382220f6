/-
# Tables in order of first entry

A schema is read in the order in which it is written, and everything it declares is listed in
that order.  A `Table` maps keys to values and keeps the order in which the keys were first
entered: entering a value under a known key replaces the value where it stands, and erasing a key
leaves the order of the others alone.  A key stands in a table at most once, so a position in the
table names an entry as well as its key does.
-/
namespace ExpressSchema

/-- A finite map from keys to values that lists its entries in order of first entry. -/
@[ext]
structure Table (κ α : Type) where
  /-- The entries, oldest first. -/
  entries : List (κ × α) := []
  /-- A key stands in the table at most once. -/
  nodup_keys : (entries.map Prod.fst).Nodup := by exact List.nodup_nil
deriving DecidableEq, Repr

namespace Table

variable {κ α σ : Type}

/-- The table without entries. -/
def empty : Table κ α := {}

instance : EmptyCollection (Table κ α) := ⟨empty⟩

instance : Inhabited (Table κ α) := ⟨empty⟩

/-- The keys, oldest first. -/
def keys (t : Table κ α) : List κ := t.entries.map Prod.fst

/-- The values, in the order of their keys. -/
def values (t : Table κ α) : List α := t.entries.map Prod.snd

/-- The number of entries. -/
def size (t : Table κ α) : Nat := t.entries.length

/-- Whether the table has no entries. -/
def isEmpty (t : Table κ α) : Bool := t.entries.isEmpty

/-- The entry at a position. -/
def entryAt? (t : Table κ α) (i : Nat) : Option (κ × α) := t.entries[i]?

/-- The value at a position. -/
def at? (t : Table κ α) (i : Nat) : Option α := (t.entryAt? i).map Prod.snd

/-- The values can be counted instead of the entries. -/
theorem at?_eq_getElem? (t : Table κ α) (i : Nat) : t.at? i = t.values[i]? := by
  simp [at?, entryAt?, values]

/-- Change the value at a position; a position outside the table changes nothing. -/
def modifyAt (t : Table κ α) (i : Nat) (f : α → α) : Table κ α where
  entries := t.entries.modify i fun e => (e.1, f e.2)
  nodup_keys := by
    have h : (t.entries.modify i fun e => (e.1, f e.2)).map Prod.fst = t.entries.map Prod.fst := by
      apply List.ext_getElem?
      intro j
      simp only [List.getElem?_map, List.getElem?_modify]
      cases t.entries[j]? with
      | none => rfl
      | some e => by_cases hij : i = j <;> simp [hij]
    rw [h]
    exact t.nodup_keys

/-- Change every value, given its position. -/
def mapIdx (f : Nat → α → α) (t : Table κ α) : Table κ α where
  entries := t.entries.mapIdx fun i e => (e.1, f i e.2)
  nodup_keys := by
    have h : (t.entries.mapIdx fun i e => (e.1, f i e.2)).map Prod.fst =
        t.entries.map Prod.fst := by
      apply List.ext_getElem?
      intro j
      simp only [List.getElem?_map, List.getElem?_mapIdx, Option.map_map]
      rfl
    rw [h]
    exact t.nodup_keys

/-- Run through entries with a state at hand, changing the values on the way; each step is told
the position of its entry, the first one having position `i`. -/
def scanEntries (f : Nat → σ → α → σ × α) : Nat → σ → List (κ × α) → σ × List (κ × α)
  | _, s, [] => (s, [])
  | i, s, (k, a) :: es =>
    let step := f i s a
    let rest := scanEntries f (i + 1) step.1 es
    (rest.1, (k, step.2) :: rest.2)

theorem map_fst_scanEntries (f : Nat → σ → α → σ × α) (i : Nat) (s : σ) (es : List (κ × α)) :
    (scanEntries f i s es).2.map Prod.fst = es.map Prod.fst := by
  induction es generalizing i s with
  | nil => rfl
  | cons e es ih => simp [scanEntries, ih]

/-- Run through the table in order with a state at hand, changing the values on the way; the state
that is reached at the end comes with the table. -/
def scan (f : Nat → σ → α → σ × α) (s : σ) (t : Table κ α) : σ × Table κ α :=
  ((scanEntries f 0 s t.entries).1,
    ⟨(scanEntries f 0 s t.entries).2, by
      rw [map_fst_scanEntries]
      exact t.nodup_keys⟩)

/-- The table of these entries, provided that no key stands twice. -/
def ofList? [DecidableEq κ] (es : List (κ × α)) : Option (Table κ α) :=
  if h : (es.map Prod.fst).Nodup then some ⟨es, h⟩ else none

@[simp] theorem ofList?_entries [DecidableEq κ] (t : Table κ α) :
    ofList? t.entries = some t := by
  simp [ofList?, t.nodup_keys]

/-! ## Operations that look for a key -/

variable [DecidableEq κ]

/-- The value under a key. -/
def get? (t : Table κ α) (k : κ) : Option α :=
  (t.entries.find? fun e => e.1 = k).map Prod.snd

/-- Whether a key stands in the table. -/
def contains (t : Table κ α) (k : κ) : Bool :=
  t.keys.contains k

/-- The position of a key. -/
def indexOf? (t : Table κ α) (k : κ) : Option Nat :=
  t.keys.findIdx? (· = k)

/-- Change the value under a key; an unknown key changes nothing. -/
def modify (t : Table κ α) (k : κ) (f : α → α) : Table κ α where
  entries := t.entries.map fun e => if e.1 = k then (e.1, f e.2) else e
  nodup_keys := by
    have h : (t.entries.map fun e => if e.1 = k then (e.1, f e.2) else e).map Prod.fst =
        t.entries.map Prod.fst := by
      rw [List.map_map]
      apply List.map_congr_left
      intro e _
      simp only [Function.comp_apply]
      split <;> rfl
    rw [h]
    exact t.nodup_keys

/-- Enter a value: under a known key it takes the place of the old one, a new key comes last. -/
def insert (t : Table κ α) (k : κ) (a : α) : Table κ α :=
  if h : k ∈ t.keys then t.modify k fun _ => a
  else
    { entries := t.entries ++ [(k, a)]
      nodup_keys := by
        rw [List.map_append, List.nodup_append]
        refine ⟨t.nodup_keys, by simp, ?_⟩
        rintro x hx y hy rfl
        simp only [List.map_cons, List.map_nil, List.mem_singleton] at hy
        exact h (hy ▸ hx) }

/-- Drop a key, keeping the order of the others. -/
def erase (t : Table κ α) (k : κ) : Table κ α where
  entries := t.entries.filter fun e => e.1 ≠ k
  nodup_keys := t.nodup_keys.sublist (List.filter_sublist.map _)

/-- The position of a key, entered with the given value at the end if it is not yet known. -/
def findOrInsert (t : Table κ α) (k : κ) (a : α) : Nat × Table κ α :=
  match t.indexOf? k with
  | some i => (i, t)
  | none => (t.size, t.insert k a)

/-! ## What the operations do to the keys -/

omit [DecidableEq κ] in
@[simp] theorem keys_empty : (∅ : Table κ α).keys = [] := rfl

omit [DecidableEq κ] in
@[simp] theorem length_keys (t : Table κ α) : t.keys.length = t.size := by
  simp [keys, size]

omit [DecidableEq κ] in
@[simp] theorem keys_modifyAt (t : Table κ α) (i : Nat) (f : α → α) :
    (t.modifyAt i f).keys = t.keys := by
  apply List.ext_getElem?
  intro j
  simp only [keys, modifyAt, List.getElem?_map, List.getElem?_modify]
  cases t.entries[j]? with
  | none => rfl
  | some e => by_cases hij : i = j <;> simp [hij]

omit [DecidableEq κ] in
@[simp] theorem keys_mapIdx (t : Table κ α) (f : Nat → α → α) :
    (t.mapIdx f).keys = t.keys := by
  apply List.ext_getElem?
  intro j
  simp only [keys, mapIdx, List.getElem?_map, List.getElem?_mapIdx, Option.map_map]
  rfl

omit [DecidableEq κ] in
@[simp] theorem keys_scan (f : Nat → σ → α → σ × α) (s : σ) (t : Table κ α) :
    (t.scan f s).2.keys = t.keys :=
  map_fst_scanEntries f 0 s t.entries

/-- A key that is found stands at a position of the table. -/
theorem lt_size_of_indexOf? {t : Table κ α} {k : κ} {i : Nat} (h : t.indexOf? k = some i) :
    i < t.size := by
  rw [indexOf?, List.findIdx?_eq_some_iff_getElem] at h
  obtain ⟨hi, _⟩ := h
  simpa using hi

@[simp] theorem keys_modify (t : Table κ α) (k : κ) (f : α → α) :
    (t.modify k f).keys = t.keys := by
  simp only [keys, modify, List.map_map]
  apply List.map_congr_left
  intro e _
  simp only [Function.comp_apply]
  split <;> rfl

@[simp] theorem keys_insert (t : Table κ α) (k : κ) (a : α) :
    (t.insert k a).keys = if k ∈ t.keys then t.keys else t.keys ++ [k] := by
  unfold insert
  split
  · simp
  · simp [keys]

@[simp] theorem keys_erase (t : Table κ α) (k : κ) :
    (t.erase k).keys = t.keys.filter (· ≠ k) := by
  simp [keys, erase, List.filter_map, Function.comp_def]

end Table
end ExpressSchema
