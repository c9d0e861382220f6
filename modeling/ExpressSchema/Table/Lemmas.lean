/-
# Looking up in a table

What is found under a key, and at a position, after each operation on a table.
-/
import ExpressSchema.Table

namespace ExpressSchema
namespace Table

variable {κ α σ : Type}

/-! ## Positions -/

@[simp] theorem at?_empty (i : Nat) : (∅ : Table κ α).at? i = none := rfl

@[simp] theorem at?_modifyAt (t : Table κ α) (i j : Nat) (f : α → α) :
    (t.modifyAt i f).at? j = if i = j then (t.at? j).map f else t.at? j := by
  simp only [at?, entryAt?, modifyAt, List.getElem?_modify]
  cases t.entries[j]? with
  | none => split <;> rfl
  | some e => by_cases hij : i = j <;> simp [hij]

@[simp] theorem at?_mapIdx (t : Table κ α) (i : Nat) (f : Nat → α → α) :
    (t.mapIdx f).at? i = (t.at? i).map (f i) := by
  simp only [at?, entryAt?, mapIdx, List.getElem?_mapIdx, Option.map_map]
  rfl

theorem lt_size_of_at? {t : Table κ α} {i : Nat} {a : α} (h : t.at? i = some a) : i < t.size := by
  obtain ⟨e, he, -⟩ := Option.map_eq_some_iff.1 h
  exact (List.getElem?_eq_some_iff.1 he).1

/-- What a value is changed to matters only at its own position. -/
theorem mapIdx_congr {t : Table κ α} {f g : Nat → α → α}
    (h : ∀ i a, t.at? i = some a → f i a = g i a) : t.mapIdx f = t.mapIdx g := by
  have hentries : (t.entries.mapIdx fun i e => (e.1, f i e.2)) =
      t.entries.mapIdx fun i e => (e.1, g i e.2) := by
    apply List.ext_getElem?
    intro i
    rw [List.getElem?_mapIdx, List.getElem?_mapIdx]
    cases he : t.entries[i]? with
    | none => rfl
    | some e =>
      have hat : t.at? i = some e.2 := by rw [at?, entryAt?, he, Option.map_some]
      rw [Option.map_some, Option.map_some, h i e.2 hat]
  simp only [mapIdx, hentries]

@[simp] theorem values_modifyAt (t : Table κ α) (i : Nat) (f : α → α) :
    (t.modifyAt i f).values = t.values.modify i f := by
  apply List.ext_getElem?
  intro j
  rw [← at?_eq_getElem?, at?_modifyAt, List.getElem?_modify, ← at?_eq_getElem?]
  split <;> simp [*]

/-- A value is there as it was, or it is the one that has been changed. -/
theorem mem_values_modifyAt {t : Table κ α} {i : Nat} {f : α → α} {b : α}
    (h : b ∈ (t.modifyAt i f).values) : b ∈ t.values ∨ ∃ a ∈ t.values, f a = b := by
  obtain ⟨j, hj⟩ := List.getElem?_of_mem h
  rw [← at?_eq_getElem?, at?_modifyAt, at?_eq_getElem?] at hj
  split at hj
  · obtain ⟨a, ha, rfl⟩ := Option.map_eq_some_iff.1 hj
    exact .inr ⟨a, List.mem_of_getElem? ha, rfl⟩
  · exact .inl (List.mem_of_getElem? hj)

@[simp] theorem size_modifyAt (t : Table κ α) (i : Nat) (f : α → α) :
    (t.modifyAt i f).size = t.size := by
  simp [size, modifyAt]

@[simp] theorem size_mapIdx (t : Table κ α) (f : Nat → α → α) : (t.mapIdx f).size = t.size := by
  simp [size, mapIdx]

@[simp] theorem size_scan (f : Nat → σ → α → σ × α) (s : σ) (t : Table κ α) :
    (t.scan f s).2.size = t.size := by
  rw [← length_keys, ← length_keys, keys_scan]

/-! ## Keys -/

variable [DecidableEq κ]

@[simp] theorem contains_iff {t : Table κ α} {k : κ} : t.contains k = true ↔ k ∈ t.keys := by
  simp [contains]

@[simp] theorem get?_empty (k : κ) : (∅ : Table κ α).get? k = none := rfl

/-- An entry is found under its key. -/
theorem get?_eq_some_iff {t : Table κ α} {k : κ} {a : α} :
    t.get? k = some a ↔ (k, a) ∈ t.entries := by
  have key : ∀ es : List (κ × α), (es.map Prod.fst).Nodup →
      ((es.find? fun e => e.1 = k).map Prod.snd = some a ↔ (k, a) ∈ es) := by
    intro es
    induction es with
    | nil => simp
    | cons e es ih =>
      intro hn
      obtain ⟨hne, hn⟩ := List.nodup_cons.1 hn
      rw [List.find?_cons]
      by_cases he : e.1 = k
      · have hk : (k, a) ∉ es := by
          intro hm
          exact hne (he ▸ List.mem_map_of_mem hm)
        subst he
        simp [hk, Prod.ext_iff, eq_comm]
      · have hk : (k, a) ≠ e := by
          rintro rfl
          exact he rfl
        simp [he, hk, ih hn]
  exact key t.entries t.nodup_keys

/-- Nothing is found under a key that does not stand in the table. -/
theorem get?_eq_none_iff {t : Table κ α} {k : κ} : t.get? k = none ↔ k ∉ t.keys := by
  simp only [get?, keys, Option.map_eq_none_iff, List.find?_eq_none, List.mem_map, not_exists]
  constructor
  · rintro h e ⟨he, rfl⟩
    exact h e he (by simp)
  · intro h e he heq
    exact h e ⟨he, of_decide_eq_true heq⟩

/-- The value under a key stands where the key stands. -/
theorem get?_eq_at?_of_indexOf? {t : Table κ α} {k : κ} {i : Nat} (h : t.indexOf? k = some i) :
    t.get? k = t.at? i := by
  rw [indexOf?, List.findIdx?_eq_some_iff_getElem] at h
  obtain ⟨hi, hk, _⟩ := h
  simp only [keys, List.length_map] at hi
  simp only [keys, List.getElem_map, decide_eq_true_eq] at hk
  have ha : t.at? i = some t.entries[i].2 := by simp [at?, entryAt?, hi]
  rw [ha, get?_eq_some_iff, ← hk]
  exact List.getElem_mem hi

theorem indexOf?_isSome_iff {t : Table κ α} {k : κ} :
    (t.indexOf? k).isSome = true ↔ k ∈ t.keys := by
  simp [indexOf?, List.findIdx?_isSome]

/-- As no key stands twice, a key has the position at which it stands. -/
theorem indexOf?_eq_some_iff {t : Table κ α} {k : κ} {i : Nat} :
    t.indexOf? k = some i ↔ t.keys[i]? = some k := by
  rw [indexOf?, List.findIdx?_eq_some_iff_getElem, List.getElem?_eq_some_iff]
  constructor
  · rintro ⟨hi, hk, -⟩
    exact ⟨hi, of_decide_eq_true hk⟩
  · rintro ⟨hi, rfl⟩
    refine ⟨hi, by simp, fun j hji hj => ?_⟩
    have hne := List.pairwise_iff_getElem.1 t.nodup_keys j i (Nat.lt_trans hji hi) hi hji
    exact hne (of_decide_eq_true hj)

theorem get?_modify (t : Table κ α) (k l : κ) (f : α → α) :
    (t.modify k f).get? l = if l = k then (t.get? l).map f else t.get? l := by
  have key : ∀ es : List (κ × α),
      ((es.map fun e => if e.1 = k then (e.1, f e.2) else e).find? fun e => e.1 = l).map Prod.snd =
        if l = k then ((es.find? fun e => e.1 = l).map Prod.snd).map f
        else (es.find? fun e => e.1 = l).map Prod.snd := by
    intro es
    induction es with
    | nil => simp
    | cons e es ih =>
      rw [List.map_cons, List.find?_cons, List.find?_cons]
      have hfst : (if e.1 = k then (e.1, f e.2) else e).1 = e.1 := by split <;> rfl
      rw [hfst]
      by_cases hl : e.1 = l
      · subst hl
        by_cases hk : e.1 = k <;> simp [hk]
      · simpa only [hl, decide_false] using ih
  exact key t.entries

theorem get?_insert (t : Table κ α) (k l : κ) (a : α) :
    (t.insert k a).get? l = if l = k then some a else t.get? l := by
  unfold insert
  split
  · rename_i h
    rw [get?_modify]
    split
    · rename_i hl
      subst hl
      cases hg : t.get? l with
      | none => exact absurd h (get?_eq_none_iff.1 hg)
      | some b => rfl
    · rfl
  · rename_i h
    simp only [get?, List.find?_append]
    by_cases hl : l = k
    · subst hl
      have hn := get?_eq_none_iff.2 h
      simp only [get?, Option.map_eq_none_iff] at hn
      simp [hn]
    · have hkl : ¬ k = l := fun h => hl h.symm
      simp [hl, hkl]

/-- The value at a position after a change under a key. -/
theorem at?_modify (t : Table κ α) (k : κ) (f : α → α) (i : Nat) :
    (t.modify k f).at? i = (t.entryAt? i).map fun e => if e.1 = k then f e.2 else e.2 := by
  simp only [at?, entryAt?, modify, List.getElem?_map, Option.map_map]
  congr 1
  funext e
  simp only [Function.comp_apply]
  split <;> rfl

theorem mem_entries_insert {t : Table κ α} {k : κ} {a : α} {p : κ × α}
    (h : p ∈ (t.insert k a).entries) : p ∈ t.entries ∨ p = (k, a) := by
  unfold insert at h
  split at h
  · obtain ⟨e, he, rfl⟩ := List.mem_map.1 h
    split
    · rename_i hk
      exact .inr (by rw [hk])
    · exact .inl he
  · simpa using h

/-- Dropping a key that does not stand in the table changes nothing. -/
theorem erase_eq_self {t : Table κ α} {k : κ} (h : k ∉ t.keys) : t.erase k = t := by
  apply Table.ext
  simp only [erase, List.filter_eq_self, decide_eq_true_eq]
  intro e he hk
  exact h (hk ▸ List.mem_map_of_mem he)

/-! ## Entering a new key -/

theorem entries_insert {t : Table κ α} {k : κ} (h : k ∉ t.keys) (a : α) :
    (t.insert k a).entries = t.entries ++ [(k, a)] := by
  simp [insert, h]

/-- The value entered last can be changed before it is entered. -/
theorem modifyAt_insert {t : Table κ α} {k : κ} (h : k ∉ t.keys) (a : α) (f : α → α) :
    (t.insert k a).modifyAt t.size f = t.insert k (f a) := by
  have hlt : t.entries.length < (t.entries ++ [(k, a)]).length := by simp
  apply Table.ext
  rw [entries_insert h]
  simp only [modifyAt, entries_insert h, size]
  rw [List.modify_eq_take_cons_drop hlt]
  simp

/-- A new key is entered at the end. -/
theorem findOrInsert_of_notMem {t : Table κ α} {k : κ} (h : k ∉ t.keys) (a : α) :
    t.findOrInsert k a = (t.size, t.insert k a) := by
  have hnone : t.indexOf? k = none := by
    rw [← Option.not_isSome_iff_eq_none, indexOf?_isSome_iff]
    exact h
  rw [findOrInsert, hnone]

/-! ## Looking for a key and entering it if it is missing -/

/-- A key is found where it stands, or stands at the end afterwards. -/
theorem findOrInsert_cases (t : Table κ α) (k : κ) (a : α) :
    (∃ i, t.indexOf? k = some i ∧ t.findOrInsert k a = (i, t)) ∨
      (k ∉ t.keys ∧ (t.findOrInsert k a).1 = t.size ∧
        (t.findOrInsert k a).2.entries = t.entries ++ [(k, a)]) := by
  unfold findOrInsert
  cases h : t.indexOf? k with
  | some i => exact .inl ⟨i, rfl, rfl⟩
  | none =>
    have hk : k ∉ t.keys := by
      rw [← indexOf?_isSome_iff, h]
      simp
    refine .inr ⟨hk, rfl, ?_⟩
    simp [insert, hk]

theorem fst_findOrInsert_lt (t : Table κ α) (k : κ) (a : α) :
    (t.findOrInsert k a).1 < (t.findOrInsert k a).2.size := by
  rcases t.findOrInsert_cases k a with ⟨i, hi, heq⟩ | ⟨-, hfst, hentries⟩
  · rw [heq]
    exact lt_size_of_indexOf? hi
  · simp [hfst, size, hentries]

theorem size_le_findOrInsert (t : Table κ α) (k : κ) (a : α) :
    t.size ≤ (t.findOrInsert k a).2.size := by
  rcases t.findOrInsert_cases k a with ⟨i, -, heq⟩ | ⟨-, -, hentries⟩
  · exact Nat.le_of_eq (by rw [heq])
  · simp [size, hentries]

theorem mem_entries_findOrInsert {t : Table κ α} {k : κ} {a : α} {p : κ × α}
    (h : p ∈ (t.findOrInsert k a).2.entries) : p ∈ t.entries ∨ p = (k, a) := by
  rcases t.findOrInsert_cases k a with ⟨i, -, heq⟩ | ⟨-, -, hentries⟩
  · rw [heq] at h
    exact .inl h
  · simpa [hentries] using h

theorem mem_keys_findOrInsert {t : Table κ α} {k l : κ} (a : α) (h : l ∈ t.keys) :
    l ∈ (t.findOrInsert k a).2.keys := by
  rcases t.findOrInsert_cases k a with ⟨i, -, heq⟩ | ⟨-, -, hentries⟩
  · rw [heq]
    exact h
  · rw [keys, hentries, List.map_append]
    exact List.mem_append_left _ h

/-- What is there stays at its position. -/
theorem at?_findOrInsert_of_some {t : Table κ α} {k : κ} {a b : α} {i : Nat}
    (h : t.at? i = some b) : (t.findOrInsert k a).2.at? i = some b := by
  rcases t.findOrInsert_cases k a with ⟨j, -, heq⟩ | ⟨-, -, hentries⟩
  · rw [heq]
    exact h
  · obtain ⟨e, he, rfl⟩ := Option.map_eq_some_iff.1 h
    obtain ⟨hi, -⟩ := List.getElem?_eq_some_iff.1 he
    rw [at?, entryAt?, hentries, List.getElem?_append_left hi]
    exact congrArg (Option.map Prod.snd) he

/-- What stands at a position was there or is new. -/
theorem eq_or_eq_of_at?_findOrInsert {t : Table κ α} {k : κ} {a b : α} {i : Nat}
    (h : (t.findOrInsert k a).2.at? i = some b) : t.at? i = some b ∨ b = a := by
  rcases t.findOrInsert_cases k a with ⟨j, -, heq⟩ | ⟨-, -, hentries⟩
  · rw [heq] at h
    exact .inl h
  · rw [at?, entryAt?, hentries, List.getElem?_append] at h
    split at h
    · exact .inl h
    · obtain ⟨e, he, rfl⟩ := Option.map_eq_some_iff.1 h
      have hmem := List.mem_of_getElem? he
      simp only [List.mem_singleton] at hmem
      exact .inr (by rw [hmem])

theorem mem_values_findOrInsert {t : Table κ α} {k : κ} {a b : α}
    (h : b ∈ (t.findOrInsert k a).2.values) : b ∈ t.values ∨ b = a := by
  obtain ⟨p, hp, rfl⟩ := List.mem_map.1 h
  rcases mem_entries_findOrInsert hp with hp | rfl
  · exact .inl (List.mem_map_of_mem hp)
  · exact .inr rfl

theorem get?_erase (t : Table κ α) (k l : κ) :
    (t.erase k).get? l = if l = k then none else t.get? l := by
  split
  · rename_i hl
    rw [get?_eq_none_iff, keys_erase]
    simp [hl]
  · rename_i hl
    apply Option.ext
    intro a
    rw [get?_eq_some_iff, get?_eq_some_iff]
    simp [erase, hl]

end Table
end ExpressSchema
