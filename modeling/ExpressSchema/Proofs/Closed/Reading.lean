/-
# Reading keeps a schema closed

Each edit that reading makes to a schema leaves a closed schema closed, and so does any number of
them.
-/
import ExpressSchema.Proofs.Closed.Basic
import ExpressSchema.Proofs.Reading.Loaded

namespace ExpressSchema
namespace Schema

variable {s : Schema}

lemma Closed.declareEntity (hs : s.Closed) (key name : String) :
    (s.declareEntity key name).2.Closed := by
  have hg : s.Grows (s.declareEntity key name).2 :=
    grows_setEntities (Table.size_le_findOrInsert _ _ _) fun i e he =>
      ⟨e, Table.at?_findOrInsert_of_some he, le_rfl, le_rfl⟩
  refine hs.setEntities hg fun id e he => ?_
  rcases Table.eq_or_eq_of_at?_findOrInsert he with he | rfl
  · exact (hs.entity id e he).grow hg
  · exact Entity.closed_ofName _ id name

/-- A new type knows the canonical name under which it is registered. -/
lemma Closed.declareType (hs : s.Closed) (name : String) :
    (s.declareType (Name.canonical name) name).2.Closed := by
  refine (hs.setTypes (Table.size_le_findOrInsert _ _ _)
    (fun key hkey => Table.mem_keys_findOrInsert _ hkey) fun p hp => ?_).1
  rcases Table.mem_entries_findOrInsert hp with hp | rfl
  · exact ⟨(hs.type p hp).key_eq, fun key hkey =>
      Table.mem_keys_findOrInsert _ ((hs.type p hp).selects key hkey)⟩
  · exact ⟨rfl, by simp [TypeDecl.ofName]⟩

lemma Closed.modifyType (hs : s.Closed) (id : TypeId) {f : TypeDecl → TypeDecl}
    (hkey : ∀ t, (f t).key = t.key) (hselects : ∀ t, (f t).selects = t.selects) :
    (s.modifyType id f).Closed := by
  have hkeys : (s.types.modifyAt id.index f).keys = s.types.keys := Table.keys_modifyAt _ _ _
  refine (hs.setTypes (Table.size_modifyAt _ _ _).ge (fun key h => by rwa [hkeys])
    fun p hp => ?_).1
  have hclosed : ∀ q ∈ s.types.entries, TypeDecl.Closed
      { s with types := s.types.modifyAt id.index f } q.1 q.2 := fun q hq =>
    ⟨(hs.type q hq).key_eq, fun key h => by
      rw [show ({ s with types := s.types.modifyAt id.index f } : Schema).types.keys =
        s.types.keys from hkeys]
      exact (hs.type q hq).selects key h⟩
  obtain ⟨i, hi⟩ := List.getElem?_of_mem hp
  rw [Table.modifyAt, List.getElem?_modify] at hi
  obtain ⟨q, hq, hqp⟩ := Option.map_eq_some_iff.1 hi
  have hq' := hclosed q (List.mem_of_getElem? hq)
  split_ifs at hqp
  · subst hqp
    exact ⟨(hkey _).trans hq'.key_eq, fun key h => hq'.selects key (hselects q.2 ▸ h)⟩
  · subst hqp
    exact hq'

lemma Closed.openSet (hs : s.Closed) :
    ({ s with siblings := s.siblings.openSet.2 } : Schema).Closed := by
  have hsets : s.siblings.sets.length ≤ s.siblings.openSet.2.sets.length := by
    simp [SiblingIndex.openSet]
  have hg : s.Grows { s with siblings := s.siblings.openSet.2 } :=
    ⟨⟨le_rfl, le_rfl, hsets⟩, fun _ => id, fun _ => id, le_rfl, fun _ => id⟩
  exact ⟨fun id e he => (hs.entity id e he).grow hg,
    fun p hp => ⟨(hs.type p hp).key_eq, (hs.type p hp).selects⟩, hs.properties,
    fun p hp => (hs.sibling p hp).trans_le hsets, hs.builtinSelect⟩

lemma Closed.addSibling (hs : s.Closed) {set : SiblingSetId} (member : String)
    (hset : set.index < s.siblings.sets.length) :
    ({ s with siblings := (s.siblings.add set member).2 } : Schema).Closed := by
  have hsets : (s.siblings.add set member).2.sets.length = s.siblings.sets.length := by
    simp [SiblingIndex.add]
  have hg : s.Grows { s with siblings := (s.siblings.add set member).2 } :=
    ⟨⟨le_rfl, le_rfl, hsets.ge⟩, fun _ => id, fun _ => id, le_rfl, fun _ => id⟩
  refine ⟨fun id e he => (hs.entity id e he).grow hg,
    fun p hp => ⟨(hs.type p hp).key_eq, (hs.type p hp).selects⟩, hs.properties,
    fun p hp => ?_, hs.builtinSelect⟩
  dsimp only at hp ⊢
  rw [hsets]
  simp only [SiblingIndex.add] at hp
  split_ifs at hp with hknown
  · exact hs.sibling p hp
  · have hnew : Name.canonical member ∉ s.siblings.byMember.keys := by simpa using hknown
    simp only [Table.insert, hnew, dite_false, List.mem_append, List.mem_singleton] at hp
    rcases hp with hp | rfl
    · exact hs.sibling p hp
    · exact hset

/-! ## Edits -/

theorem Edit.closed {s t : Schema} (h : Edit s t) (hs : s.Closed) : t.Closed := by
  cases h with
  | setName name => exact hs.congr rfl rfl rfl rfl rfl
  | report p _ => exact hs.congr rfl rfl rfl rfl rfl
  | declareEntity name => exact hs.declareEntity _ name
  | declareType name => exact hs.declareType name
  | settleType type underlying _ => exact hs.modifyType type (fun _ => rfl) fun _ => rfl
  | addMembers type names => exact hs.modifyType type (fun _ => rfl) fun _ => rfl
  | addValues type names => exact hs.modifyType type (fun _ => rfl) fun _ => rfl
  | setAbstract entity =>
    exact hs.modifyEntity (fun _ => ⟨le_rfl, le_rfl⟩) fun e he => { he with }
  | setSupertype entity name =>
    exact hs.modifyEntity (fun _ => ⟨le_rfl, le_rfl⟩) fun e he => { he with }
  | setSubtypes entity set hset =>
    refine hs.modifyEntity (fun _ => ⟨le_rfl, le_rfl⟩) fun e he => { he with subtypes := ?_ }
    intro other hother
    obtain rfl := Option.some.inj hother
    exact hset
  | addAttribute entity draft range hword =>
    -- a new attribute belongs to the entity that is read, and no inverse runs against it yet
    have hfresh : (draft.finish entity range).owner = entity ∧
        (draft.finish entity range).invertedBy = none := by
      unfold AttributeDraft.finish
      cases Builtin.ofText? range <;> exact ⟨rfl, rfl⟩
    refine hs.modifyEntity (fun e => ⟨by simp, le_rfl⟩) fun e he =>
      { he with
        reached := fun hlarge => absurd hword hlarge.not_gt
        attribute_owner := ?_
        invertedBy := ?_ }
    · intro a ha
      rcases List.mem_append.1 ha with ha | ha
      · exact he.attribute_owner a ha
      · rw [List.mem_singleton.1 ha]
        exact hfresh.1
    · intro a ha i hi
      rcases List.mem_append.1 ha with ha | ha
      · exact he.invertedBy a ha i hi
      · rw [List.mem_singleton.1 ha, hfresh.2] at hi
        cases hi
  | addInverse entity draft forward hword =>
    refine hs.modifyEntity (fun e => ⟨le_rfl, by simp⟩) fun e he =>
      { he with
        reached := fun hlarge => absurd hword hlarge.not_gt
        inverse_owner := ?_
        property := ?_ }
    · intro i hi
      rcases List.mem_append.1 hi with hi | hi
      · exact he.inverse_owner i hi
      · rw [List.mem_singleton.1 hi]
        rfl
    · intro i hi p hp
      rcases List.mem_append.1 hi with hi | hi
      · exact he.property i hi p hp
      · rw [List.mem_singleton.1 hi] at hp
        cases hp
  | markUnique entity name =>
    refine hs.modifyEntity (fun e => ⟨by simp, le_rfl⟩) fun e he =>
      { he with
        reached := fun hlarge => ⟨by simp [(he.reached hlarge).1], (he.reached hlarge).2⟩
        attribute_owner := ?_
        invertedBy := ?_ }
    · intro a ha
      obtain ⟨b, hb, rfl⟩ := List.mem_map.1 ha
      split_ifs <;> exact he.attribute_owner b hb
    · intro a ha i hi
      obtain ⟨b, hb, rfl⟩ := List.mem_map.1 ha
      refine he.invertedBy b hb i ?_
      split_ifs at hi <;> exact hi
  | openSet => exact hs.openSet
  | addSibling set member hset => exact hs.addSibling member hset

theorem Edits.closed {s t : Schema} (h : Edits s t) (hs : s.Closed) : t.Closed := by
  induction h with
  | refl => exact hs
  | tail _ hedit ih => exact hedit.closed ih

end Schema

/-- What has been read is closed. -/
theorem Load.closed (builtins : Catalogue) (strips : Bool) (lines : List (List Char)) :
    (Load.lines ⟨false, strips⟩ builtins lines).schema.Closed :=
  (edits_lines builtins strips lines).closed Schema.closed_empty

end ExpressSchema
