/-
# The outcome of pairing

What resolution makes of the inverses of a schema, told from the schema as it was read: an inverse
that runs alone is paired with the attribute against which it runs, every other inverse is let go,
no attribute loses its property, and the diagnostics count what was in the way.
-/
import ExpressSchema.Proofs.Pairing.Places
import ExpressSchema.Proofs.Printing.RoundTrip
import ExpressSchema.Proofs.Selects.Noted

namespace ExpressSchema

/-- How the inverses of the schema `read` come out of resolution, which makes the schema `resolved`
of it.  The properties of inverses come first, each at the place of its inverse; that of the
attribute at place `k` is `read.attributeProperty k`. -/
structure PairingOutcome (read resolved : Schema) : Prop where
  /-- Each inverse and then each attribute has a property under its name within the schema. -/
  names : resolved.properties.arena.map (·.name) = read.inverseNames ++ read.attributeNames
  /-- Each inverse knows its own property. -/
  own : resolved.declaredInverses.map (·.property) =
    (List.range read.declaredInverses.length).map fun j => some ⟨j⟩
  /-- Each attribute has the name of its property. -/
  attributes : resolved.declaredAttributes.map (·.name) = read.attributeNames
  /-- No attribute loses its property. -/
  attribute_isIndexed : ∀ k < read.declaredAttributes.length,
    resolved.properties.isIndexed (read.attributeProperty k) = true
  /-- An inverse keeps its property exactly if it runs alone. -/
  inverse_isIndexed_iff : ∀ j < read.declaredInverses.length,
    resolved.properties.isIndexed ⟨j⟩ = true ↔ ∃ k, read.RunsAlone j k
  /-- An inverse that runs alone and the attribute against which it runs are each other's
  inverse. -/
  paired : ∀ j k, read.RunsAlone j k →
    resolved.properties.partner? ⟨j⟩ = some (read.attributeProperty k) ∧
      resolved.properties.partner? (read.attributeProperty k) = some ⟨j⟩
  /-- No other property has an inverse. -/
  unpaired : ∀ id, (∀ j k, read.RunsAlone j k → id ≠ ⟨j⟩ ∧ id ≠ read.attributeProperty k) →
    resolved.properties.partner? id = none
  /-- Each inverse but one against the same single-valued attribute is reported. -/
  conflicts : resolved.countDiagnostics .inverseConflict =
    ∑ k ∈ Finset.range read.declaredAttributes.length,
      if read.isCollectionPlace k then 0 else read.rivals k - 1
  /-- Each inverse against nothing known is reported. -/
  unresolved : resolved.countDiagnostics .unresolvedInverse =
    read.declaredInverses.countP fun i => (read.forwardPlace? i).isNone

namespace PropertyTable

lemma isIndexed_iff {t : PropertyTable} {id : PropertyId} :
    t.isIndexed id = true ↔ ∃ name, t.nameAt? id = some name ∧ t.idOf? name = some id := by
  unfold isIndexed nameAt?
  cases t.byId? id <;> simp

end PropertyTable

namespace Schema

variable {s : Schema}

/-- Pairing starts with the properties that are made, and ends with what the invariant says of all
inverses. -/
lemma NamesApart.after_pairing (h : s.NamesApart) (hp : s.properties = {}) :
    Pairing.After s.madeTable s.madePending s.makeProperties.pairing := by
  rw [pairing_makeProperties hp h.fits]
  exact h.pairable.after_foldl

lemma filterMap_claimOf?_madePending (h : s.NamesApart) :
    s.madePending.filterMap s.madeTable.claimOf? = s.claimedPlaces.map s.attributeProperty := by
  have hclaim : ∀ p ∈ s.declaredInverses.zipIdx, s.madeTable.claimOf? (pendingAt p.2 p.1) =
      ((s.forwardPlace? p.1).filter fun l => !s.isCollectionPlace l).map s.attributeProperty :=
    fun p hp => h.claimOf?_eq (List.fst_mem_of_mem_zipIdx hp) p.2
  rw [madePending, List.mapIdx_eq_zipIdx_map, List.filterMap_map, claimedPlaces,
    List.map_filterMap, Function.comp_def, List.filterMap_congr hclaim]
  conv_rhs => rw [← List.zipIdx_map_fst 0 s.declaredInverses, List.filterMap_map]
  rfl

lemma countP_forwardOf?_madePending (h : s.NamesApart) :
    (s.madePending.countP fun p => (s.madeTable.forwardOf? p).isNone) =
      s.declaredInverses.countP fun i => (s.forwardPlace? i).isNone := by
  have hforward : ∀ p ∈ s.declaredInverses.zipIdx,
      ((s.madeTable.forwardOf? (pendingAt p.2 p.1)).isNone = true) =
        ((s.forwardPlace? p.1).isNone = true) := fun p hp => by
    rw [h.forwardOf?_eq (List.fst_mem_of_mem_zipIdx hp), Option.isNone_map]
  rw [madePending, List.mapIdx_eq_zipIdx_map, List.countP_map, Function.comp_def]
  conv_rhs => rw [← List.zipIdx_map_fst 0 s.declaredInverses, List.countP_map]
  exact List.countP_congr fun p hp => by simp [hforward p hp]

lemma entities_pairInverses (s : Schema) : s.pairInverses.entities = s.entities := rfl

lemma properties_pairInverses (s : Schema) :
    s.pairInverses.properties = s.pairing.properties := rfl

lemma declaredInverses_resolve (s : Schema) :
    s.resolve.declaredInverses = s.makeProperties.declaredInverses := by
  rw [resolve, declaredInverses, flatMap_values_noteSelects, entities_pairInverses,
    declaredInverses]
  exact fun _ _ => rfl

lemma declaredAttributes_resolve (s : Schema) :
    s.resolve.declaredAttributes = s.makeProperties.declaredAttributes := by
  rw [resolve, declaredAttributes, flatMap_values_noteSelects, entities_pairInverses,
    declaredAttributes]
  exact fun _ _ => rfl

lemma map_name_declaredAttributes_resolve (s : Schema) :
    s.resolve.declaredAttributes.map (·.name) = s.attributeNames := by
  rw [declaredAttributes_resolve, map_name_declaredAttributes_makeProperties]

lemma properties_resolve (s : Schema) :
    s.resolve.properties = s.makeProperties.pairing.properties := by
  rw [resolve, properties_noteSelects, properties_pairInverses]

/-- Of kinds that no other pass reports, the diagnostics that are new are those of pairing. -/
lemma countDiagnostics_resolve (s : Schema) {kind : DiagnosticKind}
    (hsuper : kind ≠ .unresolvedSuperclass) (hcycle : kind ≠ .inheritanceCycle)
    (hduplicate : kind ≠ .duplicateProperty) (hselect : kind ≠ .unresolvedSelectMember) :
    s.resolve.countDiagnostics kind = s.countDiagnostics kind +
      countProblems kind s.makeProperties.pairing.problems := by
  rw [resolve, countDiagnostics_noteSelects _ hselect, countDiagnostics_pairInverses,
    countDiagnostics_makeProperties s hsuper hcycle hduplicate]

/-- Every property keeps the name under which it was made. -/
lemma NamesApart.nameAt?_resolve (h : s.NamesApart) (hp : s.properties = {}) (id : PropertyId) :
    s.resolve.properties.nameAt? id = (s.inverseNames ++ s.attributeNames)[id.index]? := by
  rw [properties_resolve, PropertyTable.nameAt?_congr (h.after_pairing hp).unlinkedArena,
    nameAt?_madeTable]

lemma NamesApart.partner?_resolve_iff (h : s.NamesApart) (hp : s.properties = {})
    (a b : PropertyId) : s.resolve.properties.partner? a = some b ↔
      ∃ j k, s.RunsAlone j k ∧
        (a = ⟨j⟩ ∧ b = s.attributeProperty k ∨ a = s.attributeProperty k ∧ b = ⟨j⟩) := by
  rw [properties_resolve, (h.after_pairing hp).partner?_iff, h.joined_iff]

/-- The property of an attribute is never let go: an inverse lets go of its own, and the properties
of inverses stand before those of attributes. -/
lemma NamesApart.isIndexed_attributeProperty (h : s.NamesApart) (hp : s.properties = {}) {k : ℕ}
    (hk : k < s.declaredAttributes.length) :
    s.resolve.properties.isIndexed (s.attributeProperty k) = true := by
  rw [← length_attributeNames] at hk
  have hname : s.resolve.properties.nameAt? (s.attributeProperty k) =
      some s.attributeNames[k] := by
    rw [h.nameAt?_resolve hp, attributeProperty, ← length_inverseNames,
      List.getElem?_append_right (Nat.le_add_right _ _), Nat.add_sub_cancel_left,
      List.getElem?_eq_getElem hk]
  refine PropertyTable.isIndexed_iff.2 ⟨_, hname, ?_⟩
  rw [h.nameAt?_resolve hp, ← nameAt?_madeTable] at hname
  rw [properties_resolve, (h.after_pairing hp).idOf?_iff]
  refine ⟨hname, fun p hmem hown => ?_⟩
  obtain ⟨j, hj, rfl⟩ := List.mem_mapIdx.1 hmem
  simp only [pendingAt, attributeProperty, PropertyId.mk.injEq] at hown
  omega

/-- The property of an inverse is found under its name exactly if no other claim stands in its
way. -/
lemma NamesApart.isIndexed_inverse_iff (h : s.NamesApart) (hp : s.properties = {}) {j : ℕ}
    (hj : j < s.declaredInverses.length) :
    s.resolve.properties.isIndexed ⟨j⟩ = true ↔ ∃ k, s.RunsAlone j k := by
  have hafter := h.after_pairing hp
  obtain ⟨i, hi⟩ : ∃ i, s.declaredInverses[j]? = some i := ⟨_, List.getElem?_eq_getElem hj⟩
  have hmem := pendingAt_mem_madePending hi
  rw [PropertyTable.isIndexed_iff]
  constructor
  · rintro ⟨name, -, hid⟩
    rw [properties_resolve, hafter.idOf?_iff] at hid
    obtain ⟨target, htarget⟩ := hid.2 _ hmem rfl
    obtain ⟨k, -, hjk⟩ := (h.claimsAlone_iff hi target).1 htarget
    exact ⟨k, hjk⟩
  · rintro ⟨k, hjk⟩
    obtain ⟨name, hmade⟩ := h.pairable.own_named _ hmem
    have hname : s.resolve.properties.nameAt? ⟨j⟩ = some name := by
      rw [h.nameAt?_resolve hp, ← nameAt?_madeTable]
      exact hmade
    refine ⟨name, hname, ?_⟩
    rw [properties_resolve, hafter.idOf?_iff]
    refine ⟨hmade, fun p hpending heq => ?_⟩
    -- an inverse that has this property is the one at this place
    rw [h.pairable.eq_of_own_eq hpending hmem heq]
    exact ⟨_, (h.claimsAlone_iff hi _).2 ⟨k, rfl, hjk⟩⟩

/-- Of the inverses against one attribute, all but the first are reported, so that the reports are
counted attribute by attribute. -/
lemma NamesApart.countProblems_inverseConflict (h : s.NamesApart) (hp : s.properties = {}) :
    countProblems .inverseConflict s.makeProperties.pairing.problems =
      ∑ k ∈ Finset.range s.declaredAttributes.length,
        if s.isCollectionPlace k then 0 else s.rivals k - 1 := by
  have hsum := s.sum_rivals
  have hconflicts := (h.after_pairing hp).conflicts
  -- different places have different properties, so that either may be counted
  rw [filterMap_claimOf?_madePending h, List.length_map, List.card_toFinset,
    List.dedup_map_of_injective s.attributeProperty_injective, List.length_map,
    ← List.card_toFinset] at hconflicts
  omega

/-- The outcome for a schema that has no properties yet. -/
theorem NamesApart.outcome_resolve (h : s.NamesApart) (hp : s.properties = {})
    (hconflict : s.countDiagnostics .inverseConflict = 0)
    (hunresolved : s.countDiagnostics .unresolvedInverse = 0) : PairingOutcome s s.resolve := by
  have hpartner := h.partner?_resolve_iff hp
  refine ⟨?_, ?_, ?_, fun k hk => h.isIndexed_attributeProperty hp hk,
    fun j hj => h.isIndexed_inverse_iff hp hj, fun j k hjk => ?_, fun id hid => ?_, ?_, ?_⟩
  · apply List.ext_getElem?
    intro l
    exact (List.getElem?_map ..).trans (h.nameAt?_resolve hp ⟨l⟩)
  · rw [declaredInverses_resolve, declaredInverses_makeProperties hp]
    apply List.ext_getElem
    · simp [← length_inverseNames, inverseNames_congr (readEntities_inherit s)]
    · intro j _ hj
      rw [List.length_map, List.length_range] at hj
      simp [h.fits.ofNat_eq hj]
  · exact s.map_name_declaredAttributes_resolve
  · exact ⟨(hpartner _ _).2 ⟨j, k, hjk, .inl ⟨rfl, rfl⟩⟩,
      (hpartner _ _).2 ⟨j, k, hjk, .inr ⟨rfl, rfl⟩⟩⟩
  · rw [Option.eq_none_iff_forall_ne_some]
    intro b hb
    obtain ⟨j, k, hjk, ⟨rfl, -⟩ | ⟨rfl, -⟩⟩ := (hpartner id b).1 hb
    · exact (hid j k hjk).1 rfl
    · exact (hid j k hjk).2 rfl
  · rw [countDiagnostics_resolve s (by decide) (by decide) (by decide) (by decide), hconflict,
      h.countProblems_inverseConflict hp, Nat.zero_add]
  · rw [countDiagnostics_resolve s (by decide) (by decide) (by decide) (by decide), hunresolved,
      (h.after_pairing hp).unresolved, countP_forwardOf?_madePending h, Nat.zero_add]

/-- A schema that has only been read has no diagnostics of resolution. -/
lemma Unresolved.countDiagnostics_eq_zero (h : s.Unresolved) {kind : DiagnosticKind}
    (hkind : kind.isOfReading = false) : s.countDiagnostics kind = 0 := by
  refine List.count_eq_zero_of_not_mem fun hmem => ?_
  obtain ⟨d, hd, rfl⟩ := List.mem_map.1 hmem
  rw [h.isOfReading d hd] at hkind
  exact absurd hkind (by decide)

end Schema

/-- Of three inverses, one runs alone, and two run against the same attribute. -/
def rivalsText : String :=
  "ENTITY A; p : B; r : B; END_ENTITY; " ++
    "ENTITY B; INVERSE q : A FOR p; t : A FOR r; u : A FOR r; END_ENTITY;"

/-- The property that is added last is found under its name by the identifier that is made from its
place. -/
lemma PropertyTable.idOf?_insertAll_concat (ps : List Property) (p : Property) :
    (insertAll {} (ps ++ [p])).idOf? p.name = some (.ofNat ps.length) := by
  rw [insertAll_append]
  change ((insertAll {} ps).insert p).idOf? p.name = _
  rw [idOf?_insert, if_pos rfl, nextId, length_arena_insertAll]

/-- Where there are no inverses, the properties stay as they are made. -/
lemma Schema.properties_resolve_of_declaredInverses {s : Schema} (hp : s.properties = {})
    (h : s.declaredInverses = []) :
    s.resolve.properties = PropertyTable.insertAll {} s.madeProperties := by
  rw [properties_resolve, pairing, pendingInverses_makeProperties hp, h, List.mapIdx_nil,
    List.foldl_nil, properties_makeProperties hp]

/-- Under the name of the last attribute stands the property to which this identifier leads. -/
lemma Outline.get?_resolve_manyAttributes (n : Nat) :
    let entity := (Word.ofLength 0).text
    ∃ p, (ofEntity (manyAttributes (n + 1)) []).toSchema.resolve.properties.get?
        (Name.qualified (Word.ofLength n).text entity) = some p ∧
      p.name = Name.qualified (Word.ofLength (wordOf n)).text entity := by
  intro entity
  rw [Schema.properties_resolve_of_declaredInverses rfl declaredInverses_ofEntity]
  set made := (ofEntity (manyAttributes (n + 1)) []).toSchema.madeProperties with hmade
  have hnames : made.map (·.name) =
      (List.range (n + 1)).map fun k => Name.qualified (Word.ofLength k).text entity := by
    rw [hmade, Schema.map_name_madeProperties, attributeNames_manyAttributes]
    exact List.nil_append _
  have hat : (made[wordOf n]?).map (·.name) =
      some (Name.qualified (Word.ofLength (wordOf n)).text entity) := by
    rw [← List.getElem?_map, hnames, List.getElem?_map,
      List.getElem?_range (Nat.lt_succ_of_le (wordOf_le n)), Option.map_some]
  obtain ⟨p, hp, hname⟩ := Option.map_eq_some_iff.1 hat
  have hsplit := hnames
  rw [List.range_succ, List.map_append] at hsplit
  obtain ⟨ps, qs, hpsqs, hps, hqs⟩ := List.map_eq_append_iff.1 hsplit
  obtain ⟨q, rfl, hq⟩ := List.map_eq_singleton_iff.1 hqs
  have hlength : ps.length = n := by
    simpa using congrArg List.length hps
  have hid := PropertyTable.idOf?_insertAll_concat ps q
  rw [← hpsqs, hq, hlength] at hid
  refine ⟨p, ?_, hname⟩
  rw [PropertyTable.get?, hid, Option.bind_some, PropertyTable.byId?,
    PropertyTable.arena_insertAll]
  exact hp

end ExpressSchema
