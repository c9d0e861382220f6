/-
# The attribute against which an inverse runs

An inverse leads to an entity and names an attribute.  The attribute may be inherited, and a
supertype may have declared one of the same name before: of all these the last one counts, which is
the one nearest to the entity (`forwardAttribute?`).  The index of attributes knows nothing of
entities, only keys put together of two names.  If no name has the sign in it that stands between
the two, it gives this very attribute (`get?_ofSchema`).
-/
import ExpressSchema.Proofs.Forward.Marked
import ExpressSchema.Proofs.Inheritance.Collected

namespace ExpressSchema

/-! ## Keys of attributes -/

/-- What stands before and after a separator that occurs in neither of two first parts. -/
lemma append_cons_inj {α : Type} {sep : α} {xs xs' ys ys' : List α} (h : sep ∉ xs)
    (h' : sep ∉ xs') (heq : xs ++ sep :: ys = xs' ++ sep :: ys') : xs = xs' ∧ ys = ys' := by
  induction xs generalizing xs' with
  | nil =>
    cases xs' with
    | nil => exact ⟨rfl, (List.cons.inj heq).2⟩
    | cons x' xs' => exact absurd (List.mem_cons.2 (.inl (List.cons.inj heq).1)) h'
  | cons x xs ih =>
    cases xs' with
    | nil => exact absurd (List.mem_cons.2 (.inl (List.cons.inj heq).1.symm)) h
    | cons x' xs' =>
      obtain ⟨rfl, htail⟩ := List.cons.inj heq
      obtain ⟨rfl, hrest⟩ := ih (fun hx => h (List.mem_cons_of_mem _ hx))
        (fun hx => h' (List.mem_cons_of_mem _ hx)) htail
      exact ⟨rfl, hrest⟩

lemma toList_attributeKey (entity attr : String) :
    (attributeKey entity attr).toList = entity.toList ++ '#' :: attr.toList := by
  simp [attributeKey]

/-- The key of an attribute tells both names if there is no number sign in that of the entity. -/
lemma attributeKey_inj {entity entity' attr attr' : String} (h : '#' ∉ entity.toList)
    (h' : '#' ∉ entity'.toList) (heq : attributeKey entity attr = attributeKey entity' attr') :
    entity = entity' ∧ attr = attr' := by
  have hlist := congrArg String.toList heq
  rw [toList_attributeKey, toList_attributeKey] at hlist
  obtain ⟨hentity, hattr⟩ := append_cons_inj h h' hlist
  exact ⟨String.toList_inj.1 hentity, String.toList_inj.1 hattr⟩

/-- It also does if there is none in the name of the attribute. -/
lemma attributeKey_inj_of_attr {entity entity' attr attr' : String} (h : '#' ∉ attr.toList)
    (h' : '#' ∉ attr'.toList) (heq : attributeKey entity attr = attributeKey entity' attr') :
    entity = entity' ∧ attr = attr' := by
  have hlist := congrArg (fun key => key.toList.reverse) heq
  simp only [toList_attributeKey, List.reverse_append, List.reverse_cons, List.append_assoc,
    List.singleton_append] at hlist
  obtain ⟨hattr, hentity⟩ :=
    append_cons_inj (by rwa [List.mem_reverse]) (by rwa [List.mem_reverse]) hlist
  exact ⟨String.toList_inj.1 (List.reverse_inj.1 hentity),
    String.toList_inj.1 (List.reverse_inj.1 hattr)⟩

namespace Schema

variable {s : Schema}

/-! ## Attributes by name -/

/-- The attributes that an entity has of this name, inherited or its own, the furthest first. -/
def namedAttributes (s : Schema) (e : Entity) (name : String) : List AttributeId :=
  ((s.lineage e).flatMap s.ownAttributeIds).filter fun id =>
    (s.attributeAt? id).any (·.declaredName = name)

/-- The attribute against which an inverse runs: of those that the entity to which it leads has of
the name, the last one. -/
def forwardAttribute? (s : Schema) (i : Inverse) : Option AttributeId :=
  (s.entity? i.range).bind fun e => (s.namedAttributes e i.forward).getLast?

/-! ## The index -/

/-- Of the entries under one key the index gives the last. -/
lemma get?_eq_getLast? (x : AttributeIndex) (key : String) :
    x.get? key = ((x.entries.filter fun e => e.1 = key).map Prod.snd).getLast? := by
  rw [AttributeIndex.get?, List.getLast?_map, List.getLast?_filter]

/-- If one member of a list is the only one that contributes anything, it contributes everything. -/
lemma flatMap_eq_of_forall_ne {α β : Type} {l : List α} (hl : l.Nodup) {f : α → List β} {a : α}
    (ha : a ∈ l) (h : ∀ b ∈ l, b ≠ a → f b = []) : l.flatMap f = f a := by
  obtain ⟨before, after, rfl⟩ := List.append_of_mem ha
  have hnodup := List.nodup_middle.1 hl
  have hnil : ∀ b ∈ before ++ after, f b = [] := by
    intro b hb
    refine h b ?_ ?_
    · rcases List.mem_append.1 hb with hb | hb
      · exact List.mem_append_left _ hb
      · exact List.mem_append_right _ (List.mem_cons_of_mem _ hb)
    · rintro rfl
      exact (List.nodup_cons.1 hnodup).1 hb
  have hbefore : before.flatMap f = [] :=
    List.flatMap_eq_nil_iff.2 fun b hb => hnil b (List.mem_append_left _ hb)
  have hafter : after.flatMap f = [] :=
    List.flatMap_eq_nil_iff.2 fun b hb => hnil b (List.mem_append_right _ hb)
  rw [List.flatMap_append, List.flatMap_cons, hbefore, hafter, List.nil_append, List.append_nil]

/-- No attribute has a number sign in its name, and no inverse in the name of the attribute against
which it runs. -/
structure PlainNames (s : Schema) : Prop where
  attributes : ∀ a ∈ s.declaredAttributes, '#' ∉ a.name.toList
  inverses : ∀ i ∈ s.declaredInverses, '#' ∉ i.forward.toList

namespace Registered

variable (h : s.Registered) (hr : s.Reached) (hfits : s.SlotsFit) (hunmarked : s.Unmarked)
  (hplain : s.PlainNames)
include h hr hfits hunmarked hplain

/-- What an entity enters into the index under the key of an inverse: if the inverse leads to it, its
attributes of the name that the inverse gives. -/
lemma filter_chainAttributes {id : EntityId} {e : Entity} (he : s.entityAt? id = some e)
    {i : Inverse} (hi : i ∈ s.declaredInverses) :
    (((s.chainAttributes id).map fun p => (attributeKey e.key p.1.name, p.2)).filter
        fun entry => entry.1 = i.forwardKey).map Prod.snd =
      if e.key = Name.canonical i.range then s.namedAttributes e i.forward else [] := by
  have hkey : ∀ p ∈ s.chainAttributes id, (attributeKey e.key p.1.name = i.forwardKey ↔
      e.key = Name.canonical i.range ∧
        (s.attributeAt? p.2).any (·.declaredName = i.forward) = true) := by
    intro p hp
    have hat := hr.attributeAt?_of_mem_chain hfits hp
    have hmem := mem_declaredAttributes hat
    rw [hat, Option.any_some, decide_eq_true_iff, (hunmarked _ hmem).declaredName]
    refine ⟨attributeKey_inj_of_attr (hplain.attributes _ hmem) (hplain.inverses _ hi), ?_⟩
    rintro ⟨hentity, hattr⟩
    rw [hentity, hattr, Inverse.forwardKey]
  have hids : (s.chainAttributes id).map Prod.snd = (s.lineage e).flatMap s.ownAttributeIds := by
    rw [chainAttributes, attributesAlong, List.map_flatMap]
    exact h.flatMap_chain (fun _ _ => h.ownAttributeIds_eq hr) he
  rw [List.filter_map, List.map_map]
  split_ifs with hentity
  · rw [namedAttributes, ← hids, List.filter_map]
    refine congrArg _ (List.filter_congr fun p hp => ?_)
    rw [Function.comp_apply, Function.comp_apply, Bool.eq_iff_iff, decide_eq_true_iff,
      hkey p hp, and_iff_right hentity]
  · refine List.map_eq_nil_iff.2 (List.filter_eq_nil_iff.2 fun p hp hin => hentity ?_)
    exact ((hkey p hp).1 (of_decide_eq_true hin)).1

/-- All that has been entered into the index under the key of an inverse. -/
lemma filter_entries {i : Inverse} (hi : i ∈ s.declaredInverses) :
    ((AttributeIndex.ofSchema s).entries.filter fun entry => entry.1 = i.forwardKey).map Prod.snd =
      s.entityIds.flatMap fun id => ((s.entityAt? id).map fun e =>
        if e.key = Name.canonical i.range then s.namedAttributes e i.forward else []).getD [] := by
  rw [AttributeIndex.ofSchema, List.filter_flatMap, List.map_flatMap]
  refine List.flatMap_congr fun id hid => ?_
  obtain ⟨e, he⟩ := exists_of_mem_entityIds hid
  rw [he, Option.map_some, Option.map_some, Option.getD_some, Option.getD_some]
  exact h.filter_chainAttributes hr hfits hunmarked hplain he hi

/-- The index gives the attribute against which an inverse runs. -/
theorem get?_ofSchema {i : Inverse} (hi : i ∈ s.declaredInverses) :
    (AttributeIndex.ofSchema s).get? i.forwardKey = s.forwardAttribute? i := by
  rw [get?_eq_getLast?, h.filter_entries hr hfits hunmarked hplain hi, forwardAttribute?]
  cases hindex : s.entities.indexOf? (Name.canonical i.range) with
  | none =>
    -- no entity has the canonical name for which the inverse looks
    rw [entity?_of_indexOf?_eq_none hindex, Option.bind_none]
    refine List.getLast?_eq_none_iff.2 (List.flatMap_eq_nil_iff.2 fun id _ => ?_)
    cases he : s.entityAt? id with
    | none => rfl
    | some e =>
      have hne : e.key ≠ Name.canonical i.range := by
        intro heq
        have hmem := Table.indexOf?_isSome_iff.2 (heq ▸ h.key_mem he)
        rw [hindex] at hmem
        exact Bool.false_ne_true hmem
      rw [Option.map_some, Option.getD_some, if_neg hne]
  | some n =>
    have hmem : (⟨n⟩ : EntityId) ∈ s.entityIds :=
      List.mem_map.2 ⟨n, List.mem_range.2 (Table.lt_size_of_indexOf? hindex), rfl⟩
    obtain ⟨e, he⟩ := exists_of_mem_entityIds hmem
    have hkey : e.key = Name.canonical i.range :=
      Option.some.inj ((h.key_eq he).symm.trans (Table.indexOf?_eq_some_iff.1 hindex))
    have hnodup : s.entityIds.Nodup :=
      List.nodup_range.map fun _ _ heq => congrArg EntityId.index heq
    rw [entity?_of_indexOf? hindex, he, Option.bind_some, flatMap_eq_of_forall_ne hnodup hmem, he,
      Option.map_some, Option.getD_some, if_pos hkey]
    intro id _ hne
    cases he' : s.entityAt? id with
    | none => rfl
    | some e' =>
      have hother : e'.key ≠ Name.canonical i.range :=
        fun heq => hne (h.eq_of_key_eq he' he (heq.trans hkey.symm))
      rw [Option.map_some, Option.getD_some, if_neg hother]

end Registered

/-! ## Looking for the attribute of an inverse -/

/-- The attribute against which the inverse with this identifier runs. -/
def forwardAt? (s : Schema) (id : InverseId) : Option AttributeId :=
  (s.inverseAt? id).bind s.forwardAttribute?

lemma Registered.indexed?_ofSchema (h : s.Registered) (hr : s.Reached) (hfits : s.SlotsFit)
    (hunmarked : s.Unmarked) (hplain : s.PlainNames) (id : InverseId) :
    s.indexed? (AttributeIndex.ofSchema s) id = s.forwardAt? id := by
  rw [indexed?, forwardKey?, forwardAt?]
  cases hi : s.inverseAt? id with
  | none => rfl
  | some i => exact h.get?_ofSchema hr hfits hunmarked hplain (mem_declaredInverses hi)

/-- What resolution notes of the attributes against which inverses run. -/
structure ForwardTold (read resolved : Schema) : Prop where
  /-- Every attribute is marked by the inverses that run against it, in the order in which these are
  declared. -/
  attributes : ∀ target a, resolved.attributeAt? target = some a →
    a.MarkedBy read (read.inverseIds.filter fun id => read.forwardAt? id = some target)
  /-- Every inverse knows whether the attribute against which it runs is unique; one that runs
  against nothing takes it not to be. -/
  inverses : ∀ id i, resolved.inverseAt? id = some i →
    i.isUnique = ((read.forwardAt? id).bind resolved.attributeAt?).any (·.isUnique)

/-- The marks that the index gives are those of the inverses that run against an attribute. -/
theorem Registered.forwardTold_resolve (h : s.Registered) (hr : s.Reached) (hfits : s.SlotsFit)
    (hunmarked : s.Unmarked) (hplain : s.PlainNames) : s.ForwardTold s.resolve := by
  have hindexed := h.indexed?_ofSchema hr hfits hunmarked hplain
  constructor
  · intro target a ha
    have hmarked := hunmarked.markedBy_resolve hr ha
    simp only [hindexed] at hmarked
    exact hmarked
  · intro id i hi
    rw [hunmarked.isUnique_resolve hr hfits hi, hindexed]

end Schema

/-- `Rel` declares the attribute again that it inherits from `Base`. -/
def redeclaredText : String :=
  "ENTITY Base; a : X; END_ENTITY; ENTITY Rel SUBTYPE OF (Base); a : X; UNIQUE u : a; END_ENTITY; " ++
    "ENTITY X; INVERSE i : SET OF Rel FOR a; j : SET [0:1] OF Rel FOR a; END_ENTITY;"

/-- The last entry counts. -/
lemma AttributeIndex.get?_concat (entries : List (String × AttributeId)) (key : String)
    (id : AttributeId) : get? ⟨entries ++ [(key, id)]⟩ key = some id := by
  simp [get?]

namespace Outline

/-- The key of the last attribute gives the identifier that is made from its place. -/
lemma get?_ofSchema_manyAttributes (n : Nat) (inverses : List InverseOutline) :
    (AttributeIndex.ofSchema (ofEntity (manyAttributes (n + 1)) inverses).toSchema).get?
      (attributeKey (Word.ofLength 0).key (Word.ofLength n).text) = some (.ofNat ⟨0⟩ n) := by
  have hindex : AttributeIndex.ofSchema (ofEntity (manyAttributes (n + 1)) inverses).toSchema =
      ⟨((ofEntity (manyAttributes (n + 1)) inverses).toSchema.chainAttributes ⟨0⟩).map
        fun p => (attributeKey (Word.ofLength 0).key p.1.name, p.2)⟩ :=
    congrArg AttributeIndex.mk (List.append_nil _)
  rw [hindex, chainAttributes_ofEntity, manyAttributes, List.range_succ, List.map_append,
    List.map_append, List.zipIdx_append, List.map_append, List.map_append]
  simp only [List.map_cons, List.map_nil, List.zipIdx_singleton, List.length_map,
    List.length_range, Nat.zero_add]
  exact AttributeIndex.get?_concat _ _ _

/-- An inverse against the last attribute marks the one to which this identifier leads. -/
lemma exists_marked_manyAttributes (n : Nat) :
    let s := (ofEntity (manyAttributes (n + 1))
      [⟨.ofLength 0, none, .ofLength 0, .ofLength n⟩]).toSchema
    ∃ a b, s.attributeAt? (.ofNat ⟨0⟩ n) = some a ∧
      a.declaredName = (Word.ofLength (wordOf n)).text ∧
      s.resolve.attributeAt? (.ofNat ⟨0⟩ n) = some b ∧ b.isInverted = true := by
  intro s
  have hread : (Load.text ⟨false, false⟩ {} (ofEntity (manyAttributes (n + 1))
      [⟨.ofLength 0, none, .ofLength 0, .ofLength n⟩]).text).schema = s :=
    Load.schema_text_ofEntity _ _
  have hunmarked : s.Unmarked := hread ▸ Load.unmarked {} false _
  have hreached : s.Reached := hread ▸ (Load.closed {} false _).reached
  have hslot := getElem?_manyAttributes (Nat.lt_succ_of_le (wordOf_le n))
  have ha : s.attributeAt? (.ofNat ⟨0⟩ n) =
      some ((AttributeOutline.real (.ofLength (wordOf n))).toAttribute ⟨0⟩ false) := by
    change ((manyAttributes (n + 1)).map (AttributeOutline.toAttribute ⟨0⟩ false))[wordOf n]? = _
    rw [List.getElem?_map, hslot, Option.map_some]
  have hkept := s.map_attributeAt?_resolve_of_asRead (g := (·.isUnique)) (fun _ _ _ => rfl)
    (fun _ _ => rfl) (fun _ => rfl) (.ofNat ⟨0⟩ n)
  rw [ha, Option.map_some] at hkept
  obtain ⟨b, hb, -⟩ := Option.map_eq_some_iff.1 hkept
  refine ⟨_, b, ha, rfl, hb, (hunmarked.markedBy_resolve hreached hb).isInverted.2 ?_⟩
  refine List.ne_nil_of_mem (a := ⟨⟨0⟩, 0⟩) (List.mem_filter.2 ⟨List.mem_singleton_self _, ?_⟩)
  exact decide_eq_true (get?_ofSchema_manyAttributes n _)

end Outline

end ExpressSchema
