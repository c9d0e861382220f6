/-
# When names within the schema are distinct

Within the schema an attribute or inverse has its own name, an underscore and the name of its
entity.  The underscore may occur in names, so the whole does not tell where the name of the entity
begins: `a` of `B_C` and `a_B` of `C` are both `a_B_C`.  This is the only way for two of them to
get the same name, provided that each entity gives different names to its own attributes and
inverses; and it is then, and only then, that some property cannot be found or is said to be
declared twice.
-/
import ExpressSchema.Proofs.Inheritance.Registered
import ExpressSchema.Proofs.Pairing.Found

namespace ExpressSchema

/-! ## Names put together -/

namespace Name

lemma qualified_assoc (name part entity : String) :
    qualified (qualified name part) entity = qualified name (qualified part entity) := by
  simp only [qualified, String.append_assoc]

lemma qualified_left_injective (entity : String) :
    Function.Injective fun name => qualified name entity := by
  intro a b h
  have hlist := congrArg String.toList h
  simp only [qualified, String.toList_append, List.append_assoc] at hlist
  exact String.toList_inj.1 (List.append_cancel_right hlist)

/-- Two names that were put together of different names of entities are the same only if the part
of one name that the other lacks has gone from the one end to the other. -/
lemma exists_part_of_qualified_eq {a b e f : String} (h : qualified a e = qualified b f)
    (hne : e ≠ f) :
    (∃ part, e = qualified part f ∧ b = qualified a part) ∨
      ∃ part, f = qualified part e ∧ a = qualified b part := by
  -- one of the two first parts goes on where the other one ends
  have key : ∀ {a b e f : String} {w : List Char}, e ≠ f → b.toList = a.toList ++ w →
      '_' :: e.toList = w ++ '_' :: f.toList →
      ∃ part, e = qualified part f ∧ b = qualified a part := by
    intro a b e f w hne hb he
    cases w with
    | nil => exact absurd (String.toList_inj.1 (List.cons.inj he).2) hne
    | cons c part =>
      obtain ⟨rfl, he⟩ := List.cons.inj he
      refine ⟨String.ofList part, String.toList_inj.1 ?_, String.toList_inj.1 ?_⟩
      · simpa [qualified] using he
      · simpa [qualified] using hb
  have hlist := congrArg String.toList h
  simp only [qualified, String.toList_append, List.append_assoc] at hlist
  rcases List.append_eq_append_iff.1 hlist with ⟨w, hb, he⟩ | ⟨w, ha, hf⟩
  · exact .inl (key hne hb he)
  · exact .inr (key hne.symm ha hf)

end Name

/-! ## Names that overlap -/

/-- The names with which the inverses and attributes of an entity are declared. -/
def Entity.ownNames (e : Entity) : List String :=
  e.inverses.map (·.name) ++ e.attributes.map (·.name)

/-- The names that these inverses and attributes get within the schema. -/
def Entity.qualifiedNames (e : Entity) : List String :=
  e.ownNames.map fun name => Name.qualified name e.name

namespace Schema

/-- Each entity gives different names to its attributes and inverses. -/
def OwnNamesDiffer (s : Schema) : Prop := ∀ e ∈ s.entities.values, e.ownNames.Nodup

instance (s : Schema) : Decidable s.OwnNamesDiffer :=
  inferInstanceAs (Decidable (∀ e ∈ s.entities.values, e.ownNames.Nodup))

/-- The first part of the name of one entity, before an underscore and the name of another entity,
is also the last part of a name that this other entity declares, after an underscore and a name that
the one entity declares. -/
def NamesOverlap (s : Schema) : Prop :=
  ∃ e ∈ s.entities.values, ∃ f ∈ s.entities.values, ∃ part, e.name = Name.qualified part f.name ∧
    ∃ name ∈ e.ownNames, Name.qualified name part ∈ f.ownNames

variable {s : Schema}

/-- The names within the schema, entity by entity. -/
lemma perm_qualifiedNames (s : Schema) :
    (s.inverseNames ++ s.attributeNames).Perm (s.entities.values.flatMap Entity.qualifiedNames) :=
  (List.flatMap_append_perm _ _ _).trans (.of_eq (by
    congr 1
    funext e
    simp [Entity.qualifiedNames, Entity.ownNames, Function.comp_def]))

/-- No two entities have the same name, since not even their canonical names are the same. -/
lemma Registered.nodup_name (h : s.Registered) : (s.entities.values.map (·.name)).Nodup := by
  refine List.Nodup.of_map Name.canonical ?_
  rw [List.map_map]
  exact h.name ▸ s.entities.nodup_keys

lemma mem_qualifiedNames {e : Entity} {name : String} (h : name ∈ e.qualifiedNames) :
    ∃ own ∈ e.ownNames, Name.qualified own e.name = name := List.mem_map.1 h

/-- Two entities of different names share a name within the schema only where names overlap. -/
lemma disjoint_qualifiedNames (h : ¬ s.NamesOverlap) {e f : Entity}
    (he : e ∈ s.entities.values) (hf : f ∈ s.entities.values) (hne : e.name ≠ f.name) :
    e.qualifiedNames.Disjoint f.qualifiedNames := by
  rintro name hen hfn
  obtain ⟨a, ha, rfl⟩ := mem_qualifiedNames hen
  obtain ⟨b, hb, heq⟩ := mem_qualifiedNames hfn
  rcases Name.exists_part_of_qualified_eq heq hne.symm with
    ⟨part, hname, rfl⟩ | ⟨part, hname, rfl⟩
  · exact h ⟨f, hf, e, he, part, hname, b, hb, ha⟩
  · exact h ⟨e, he, f, hf, part, hname, a, ha, hb⟩

/-- Overlapping names give two entities the same name within the schema. -/
lemma NamesOverlap.exists_shared (h : s.NamesOverlap) :
    ∃ e ∈ s.entities.values, ∃ f ∈ s.entities.values, e.name ≠ f.name ∧
      ¬ e.qualifiedNames.Disjoint f.qualifiedNames := by
  obtain ⟨e, he, f, hf, part, hname, own, hown, hpart⟩ := h
  refine ⟨e, he, f, hf, fun heq => ?_, fun hdisjoint => ?_⟩
  · -- the name of the one entity is longer than that of the other
    have hlength := congrArg String.length (heq.symm.trans hname)
    simp [Name.qualified] at hlength
  · refine hdisjoint (List.mem_map_of_mem hown) (List.mem_map.2 ⟨_, hpart, ?_⟩)
    rw [Name.qualified_assoc, ← hname]

/-- The names within the schema tell everything apart exactly where none of them overlap. -/
theorem nodup_names_iff (hr : s.Registered) (hown : s.OwnNamesDiffer) :
    (s.inverseNames ++ s.attributeNames).Nodup ↔ ¬ s.NamesOverlap := by
  rw [s.perm_qualifiedNames.nodup_iff, List.nodup_flatMap]
  have hnames := List.pairwise_map.1 hr.nodup_name
  constructor
  · rintro ⟨-, hdisjoint⟩ hoverlap
    obtain ⟨e, he, f, hf, hne, hshared⟩ := hoverlap.exists_shared
    have : Std.Symm (Function.onFun List.Disjoint Entity.qualifiedNames) := ⟨fun _ _ h => h.symm⟩
    exact hshared (hdisjoint.forall he hf fun heq => hne (congrArg _ heq))
  · refine fun h => ⟨fun e he => (hown e he).map (Name.qualified_left_injective e.name), ?_⟩
    exact hnames.imp_of_mem fun he hf hne => disjoint_qualifiedNames h he hf hne

end Schema

/-- How the names that resolution gives within the schema come out: `resolved` is made of `read`,
each of whose entities gives different names to its attributes and inverses. -/
structure NamesOutcome (read resolved : Schema) : Prop where
  /-- Each attribute has its name within the schema. -/
  attributes : resolved.declaredAttributes.map (·.name) = read.attributeNames
  /-- Each inverse and then each attribute has a property under its name within the schema. -/
  properties : resolved.properties.arena.map (·.name) = read.inverseNames ++ read.attributeNames
  /-- These names differ exactly if no names overlap. -/
  nodup_iff : (read.inverseNames ++ read.attributeNames).Nodup ↔ ¬ read.NamesOverlap
  /-- Exactly then each property is found under its name before inverses are let go, provided that
  there are identifiers for all properties. -/
  isIndexed_iff : read.PropertiesFit → ((∀ i < resolved.properties.arena.length,
    read.makeProperties.properties.isIndexed ⟨i⟩ = true) ↔ ¬ read.NamesOverlap)
  /-- Exactly then nothing is said to be declared twice. -/
  duplicates_iff : resolved.countDiagnostics .duplicateProperty = 0 ↔ ¬ read.NamesOverlap

/-! ## Properties declared twice -/

namespace PropertyTable

/-- No name is taken exactly if the names differ and none of them was there before. -/
lemma clashes_eq_nil_iff (t : PropertyTable) (ps : List Property) :
    t.clashes ps = [] ↔ (ps.map (·.name)).Nodup ∧ ∀ p ∈ ps, p.name ∉ t.names := by
  induction ps generalizing t with
  | nil => simp [clashes]
  | cons p ps ih =>
    have hrest : (∀ q ∈ ps, q.name ∉ (t.insert p).names) ↔
        p.name ∉ ps.map (·.name) ∧ ∀ q ∈ ps, q.name ∉ t.names := by
      rw [names_insert]
      by_cases hp : p.name ∈ t.names
      · rw [if_pos hp]
        refine ⟨fun h => ⟨fun hmem => ?_, h⟩, And.right⟩
        obtain ⟨q, hq, hname⟩ := List.mem_map.1 hmem
        exact h q hq (hname ▸ hp)
      · rw [if_neg hp]
        simp only [List.mem_append, List.mem_singleton, List.mem_map, not_or, not_exists, not_and]
        exact ⟨fun h => ⟨fun q hq => (h q hq).2, fun q hq => (h q hq).1⟩,
          fun h q hq => ⟨h.2 q hq, h.1 q hq⟩⟩
    have hcontains : t.contains p.name = true ↔ p.name ∈ t.names := Table.contains_iff
    simp only [clashes, List.map_cons, List.nodup_cons, List.forall_mem_cons]
    split
    · rename_i h
      exact iff_of_false (by simp) fun hnone => hnone.2.1 (hcontains.1 h)
    · rename_i h
      rw [ih, hrest]
      have hp : p.name ∉ t.names := fun hmem => h (hcontains.2 hmem)
      tauto

/-- If there are identifiers for all properties, every property is found under its name exactly if
the names differ. -/
lemma isIndexed_insertAll_iff {ps : List Property} (hfits : ps.length ≤ UInt32.size) :
    (∀ i < ps.length, (insertAll {} ps).isIndexed ⟨i⟩ = true) ↔ (ps.map (·.name)).Nodup := by
  have hname : ∀ i, (insertAll {} ps).nameAt? ⟨i⟩ = (ps.map (·.name))[i]? := by
    intro i
    simp [nameAt?, byId?, arena_insertAll]
  constructor
  · intro h
    rw [List.nodup_iff_getElem?_ne_getElem?]
    intro i j hij hj heq
    rw [List.length_map] at hj
    obtain ⟨name, hi, hid⟩ := isIndexed_iff.1 (h i (hij.trans hj))
    obtain ⟨name', hj, hid'⟩ := isIndexed_iff.1 (h j hj)
    rw [hname] at hi hj
    -- the name that both have leads to one of them only
    obtain rfl : name = name' := Option.some.inj (hi.symm.trans (heq.trans hj))
    have : i = j := congrArg PropertyId.index (Option.some.inj (hid.symm.trans hid'))
    omega
  · intro h i hi
    have hi' : (insertAll {} ps).nameAt? ⟨i⟩ = some ps[i].name := by
      rw [hname, List.getElem?_map, List.getElem?_eq_getElem hi, Option.map_some]
    exact isIndexed_iff.2 ⟨_, hi', (idOf?_insertAll_iff hfits h _ _).2 hi'⟩

end PropertyTable

namespace Schema

variable {s : Schema}

/-- Reports of properties declared twice come from their being made. -/
lemma countDiagnostics_duplicateProperty (hs : s.Unresolved) :
    s.resolve.countDiagnostics .duplicateProperty =
      s.takenNames.length := by
  have hpairing : countProblems .duplicateProperty s.makeProperties.pairing.problems = 0 := by
    refine countProblems_eq_zero fun p hp hkind => ?_
    rcases Pairing.kind_of_mem_problems hp with h | h | h
    · exact List.not_mem_nil h
    · exact absurd (hkind.symm.trans h) (by decide)
    · exact absurd (hkind.symm.trans h) (by decide)
  have hclash : ∀ names : List String,
      countProblems .duplicateProperty (names.map .nameTwice) = names.length := by
    intro names
    simp [countProblems, Function.comp_def, Problem.kind]
  rw [resolve, countDiagnostics_noteSelects _ (by decide), countDiagnostics_pairInverses, hpairing,
    countDiagnostics_of_diagnostics_eq s.diagnostics_makeProperties, countProblems_append, hclash,
    countProblems_chainProblem? s (by decide) (by decide), hs.countDiagnostics_eq_zero rfl]
  omega

lemma takenNames_eq_nil_iff (hs : s.Unresolved) :
    s.takenNames = [] ↔ (s.inverseNames ++ s.attributeNames).Nodup := by
  rw [takenNames, hs.properties, ← map_name_madeProperties]
  exact (PropertyTable.clashes_eq_nil_iff _ _).trans
    (and_iff_left fun _ _ => List.not_mem_nil)

/-- Before inverses are paired, every property is found under its name exactly if the names tell all
of them apart. -/
lemma isIndexed_makeProperties_iff (hp : s.properties = {}) (hfits : s.PropertiesFit) :
    (∀ i < s.madeProperties.length, s.makeProperties.properties.isIndexed ⟨i⟩ = true) ↔
      (s.inverseNames ++ s.attributeNames).Nodup := by
  rw [properties_makeProperties hp, ← map_name_madeProperties]
  exact PropertyTable.isIndexed_insertAll_iff hfits.length_madeProperties_le

lemma map_name_arena_resolve (hp : s.properties = {}) :
    s.resolve.properties.arena.map (·.name) = s.inverseNames ++ s.attributeNames := by
  apply List.ext_getElem?
  intro i
  rw [← nameAt?_madeTable s ⟨i⟩, ← nameAt?_resolve hp, List.getElem?_map]
  rfl

/-- The outcome for a schema that has only been read. -/
theorem OwnNamesDiffer.outcome_resolve (h : s.OwnNamesDiffer) (hr : s.Registered)
    (hs : s.Unresolved) : NamesOutcome s s.resolve := by
  have harena := map_name_arena_resolve hs.properties
  have hlength : s.resolve.properties.arena.length = s.madeProperties.length := by
    simpa [← map_name_madeProperties] using congrArg List.length harena
  have hnodup := nodup_names_iff hr h
  refine ⟨s.map_name_declaredAttributes_resolve, harena, hnodup, fun hfits => ?_, ?_⟩
  · rw [hlength, isIndexed_makeProperties_iff hs.properties hfits, hnodup]
  · rw [countDiagnostics_duplicateProperty hs, List.length_eq_zero_iff, takenNames_eq_nil_iff hs,
      hnodup]

end Schema

/-- In any text whose entities give different names to their attributes and inverses, the names
within the schema are distinct unless names overlap. -/
theorem Load.namesOutcome (strips : Bool) (builtins : Catalogue) (text : String)
    (h : (Load.text ⟨false, strips⟩ builtins text).schema.OwnNamesDiffer) :
    NamesOutcome (Load.text ⟨false, strips⟩ builtins text).schema
      (Load.text ⟨true, strips⟩ builtins text).schema := by
  have hregistered := Load.registered builtins strips (Text.lines text.toList)
  have hread := Load.unresolved builtins strips (Text.lines text.toList)
  rw [Load.schema_text_resolves]
  exact h.outcome_resolve hregistered hread

/-- Two entities declare an attribute of the same name. -/
def sharedAttributeText : String :=
  "ENTITY IfcWall; Name : STRING; END_ENTITY; ENTITY IfcDoor; Name : STRING; END_ENTITY;"

/-- The outcome for a name that two entities declare. -/
theorem namesOutcome_sharedAttributeText :
    (Load.text ⟨false, false⟩ {} sharedAttributeText).schema.OwnNamesDiffer ∧
      NamesOutcome (Load.text ⟨false, false⟩ {} sharedAttributeText).schema
        (Load.text ⟨true, false⟩ {} sharedAttributeText).schema := by
  have h : (Load.text ⟨false, false⟩ {} sharedAttributeText).schema.OwnNamesDiffer := by
    decide +kernel
  exact ⟨h, Load.namesOutcome false {} sharedAttributeText h⟩

/-- The first part of the name of `B_C` is the last part of the name `a_B`. -/
def overlapText : String :=
  "ENTITY B_C; a : REAL; END_ENTITY; ENTITY C; a_B : REAL; END_ENTITY;"

/-- Both attributes get the same name, the property of one of them is found under no name, and the
name is said to be declared twice. -/
theorem names_shared_overlapText :
    (Load.text ⟨false, false⟩ {} overlapText).schema.OwnNamesDiffer ∧
      (Load.text ⟨true, false⟩ {} overlapText).schema.declaredAttributes.map (·.name) =
        ["a_B_C", "a_B_C"] ∧
      (Load.text ⟨true, false⟩ {} overlapText).schema.properties.isIndexed ⟨0⟩ = false ∧
      (Load.text ⟨true, false⟩ {} overlapText).schema.countDiagnostics .duplicateProperty = 1 := by
  decide +kernel

end ExpressSchema
