/-
# Reading undoes printing

The tokens of an outline are read as the schema that the outline declares, and so is its text.
Nothing is reported, and the reader ends between declarations.  The reader knows the entity that it
is reading by an identifier, so there must not be more entities than there are words.
-/
import ExpressSchema.Proofs.Closed.Reading
import ExpressSchema.Proofs.Printing.Entities
import ExpressSchema.Proofs.Printing.Sized
import ExpressSchema.Proofs.Printing.Text
import ExpressSchema.Proofs.Printing.Types

namespace ExpressSchema
namespace Schema

/-- Types that are declared one after the other stand in the schema in this order. -/
lemma exists_foldl_putType (ts : List TypeOutline) (s : Schema)
    (h : (s.types.keys ++ ts.map fun t => t.name.key).Nodup) :
    ∃ types, ts.foldl (fun s t => s.putType t.toTypeDecl) s = { s with types := types } ∧
      types.entries = s.types.entries ++ ts.map fun t => (t.name.key, t.toTypeDecl) := by
  induction ts generalizing s with
  | nil => exact ⟨s.types, rfl, (List.append_nil _).symm⟩
  | cons t ts ih =>
    have hnew : t.toTypeDecl.key ∉ s.types.keys :=
      notMem_of_nodup_append_cons h
    have hrest : ((s.putType t.toTypeDecl).types.keys ++ ts.map fun t => t.name.key).Nodup := by
      rw [keys_putType hnew, List.append_assoc]
      exact h
    obtain ⟨types, hschema, hentries⟩ := ih _ hrest
    refine ⟨types, hschema, ?_⟩
    have hput : (s.putType t.toTypeDecl).types.entries =
        s.types.entries ++ [(t.name.key, t.toTypeDecl)] := Table.entries_insert hnew _
    rw [hentries, hput, List.append_assoc]
    rfl

/-- Entities that are declared one after the other stand in the schema in this order, and so do the
groups of siblings that they open. -/
lemma exists_foldl_putOutline (os : List EntityOutline) (s : Schema)
    (h : (s.entities.keys ++ os.map fun o => o.name.key).Nodup)
    (hmembers : (s.siblings.byMember.keys ++ os.flatMap EntityOutline.subtypeKeys).Nodup) :
    ∃ entities siblings,
      os.foldl putOutline s = { s with entities := entities, siblings := siblings } ∧
      entities.entries =
        s.entities.entries ++ entityEntries s.entities.size s.siblings.sets.length os ∧
      siblings.sets = s.siblings.sets ++
        (os.filterMap EntityOutline.subtypes).map (fun l => ⟨l.texts⟩) ∧
      siblings.byMember.entries = s.siblings.byMember.entries ++
        memberEntries s.siblings.sets.length (os.filterMap EntityOutline.subtypes) := by
  induction os generalizing s with
  | nil =>
    exact ⟨s.entities, s.siblings, rfl, (List.append_nil _).symm, (List.append_nil _).symm,
      (List.append_nil _).symm⟩
  | cons o os ih =>
    have hnew : o.name.key ∉ s.entities.keys :=
      notMem_of_nodup_append_cons h
    rw [List.flatMap_cons, ← List.append_assoc] at hmembers
    have hsubtypes := (List.nodup_append.1 hmembers).1
    have hrest : ((s.putOutline o).entities.keys ++ os.map fun o => o.name.key).Nodup := by
      rw [keys_entities_putOutline hnew, List.append_assoc]
      exact h
    rw [← keys_siblings_putOutline hsubtypes] at hmembers
    obtain ⟨entities, siblings, hschema, hentities, hsets, hkeys⟩ := ih _ hrest hmembers
    -- an entity adds to the groups what it lists itself, so the others are numbered after it
    have hgroups : (o :: os).filterMap EntityOutline.subtypes =
        o.subtypes.toList ++ os.filterMap EntityOutline.subtypes := by
      cases hsubtypes : o.subtypes with
      | none => exact List.filterMap_cons_none hsubtypes
      | some l => exact List.filterMap_cons_some hsubtypes
    rw [size_entities_putOutline hnew, length_sets_putOutline] at hentities
    rw [length_sets_putOutline] at hkeys
    refine ⟨entities, siblings, hschema, ?_, ?_, ?_⟩
    · rw [hentities, entries_entities_putOutline hnew, List.append_assoc]
      rfl
    · rw [hsets, sets_putOutline, hgroups, List.map_append, List.append_assoc]
    · rw [hkeys, entries_siblings_putOutline hsubtypes, hgroups, memberEntries_append,
        List.append_assoc]

end Schema

namespace Outline

variable (d : Outline)

/-- What is printed of the name of a schema is read. -/
lemma leads_name (x : Word) :
    State.Leads .topLevel {} ["SCHEMA".toList, x.ended] .topLevel { name := some x.text } := by
  have hname : ∀ w : Workspace, w.schema = {} →
      (State.schemaName.step x.ended w).1 = .topLevel ∧
        (State.schemaName.step x.ended w).2.schema = { name := some x.text } := by
    intro w hw
    have hstep : State.schemaName.step x.ended w =
        (.topLevel, w.update fun s => { s with name := some x.text }) := by
      have hne : x.chars.isEmpty = false := by simpa using x.ne_nil
      simp only [State.step, State.readSchemaName, x.beforeSemicolon_ended, hne]
      rfl
    rw [hstep, Workspace.schema_update, hw]
    exact ⟨rfl, rfl⟩
  exact .move (fun _ => rfl) (.write hname .nil)

/-- The tokens of an outline are read as the schema that it declares, if there are words for its
entities. -/
theorem leads_tokens (hroom : d.entities.length ≤ UInt32.size) :
    State.Leads .topLevel {} d.tokens .topLevel d.toSchema := by
  have hname : State.Leads .topLevel {} (d.name.elim [] fun x => ["SCHEMA".toList, x.ended])
      .topLevel { name := d.name.map Word.text } := by
    cases d.name with
    | none => exact .nil
    | some x => exact leads_name x
  have htypes := State.leads_types d.types { name := d.name.map Word.text } d.nodup_types
  obtain ⟨types, hdeclared, htypeEntries⟩ :=
    Schema.exists_foldl_putType d.types { name := d.name.map Word.text } d.nodup_types
  rw [hdeclared] at htypes
  have hentities := State.leads_entities d.entities
    { name := d.name.map Word.text, types := types } ((Nat.zero_add _).trans_le hroom) le_rfl
    d.nodup_entities d.nodup_members
  obtain ⟨entities, ⟨sets, byMember⟩, hdeclared, hentityEntries, hsets, hmembers⟩ :=
    Schema.exists_foldl_putOutline d.entities
      { name := d.name.map Word.text, types := types } d.nodup_entities d.nodup_members
  rw [hdeclared] at hentities
  have hend : ∀ σ, State.Leads .topLevel σ
      (d.name.elim [] fun _ => ["END_SCHEMA;".toList]) .topLevel σ := by
    intro σ
    cases d.name with
    | none => exact .nil
    | some x => exact .move (fun _ => rfl) .nil
  -- tables with the same entries are the same, as their keys differ in both
  obtain rfl : types = d.toSchema.types := Table.ext htypeEntries
  obtain rfl : entities = d.toSchema.entities := Table.ext hentityEntries
  obtain rfl : sets = d.toSchema.siblings.sets := hsets
  obtain rfl : byMember = d.toSchema.siblings.byMember := Table.ext hmembers
  exact ((hname.append htypes).append hentities).append (hend _)

end Outline

/-- Text whose tokens are those of an outline is read as the schema that the outline declares,
however it is laid out in lines. -/
theorem Load.lines_outline (d : Outline) (hroom : d.entities.length ≤ UInt32.size) (strips : Bool)
    (builtins : Catalogue) {lines : List (List Char)}
    (h : LoadSettings.tokens ⟨false, strips⟩ lines = d.tokens) :
    (LoadSettings.read ⟨false, strips⟩ builtins lines).1 = .topLevel ∧
      (Load.lines ⟨false, strips⟩ builtins lines).schema = d.toSchema := by
  rw [Load.schema_lines, LoadSettings.read_eq_feedAll, h]
  exact d.leads_tokens hroom { builtins := builtins } rfl

/-- So is the text of one entity, whatever attributes and inverses it has. -/
lemma Load.schema_text_ofEntity (attributes : List AttributeOutline)
    (inverses : List InverseOutline) :
    (Load.text ⟨false, false⟩ {} (Outline.ofEntity attributes inverses).text).schema =
      (Outline.ofEntity attributes inverses).toSchema := by
  have hroom : (Outline.ofEntity attributes inverses).entities.length ≤ UInt32.size :=
    Nat.le_of_ble_eq_true rfl
  exact (Load.lines_outline _ hroom false {} (Outline.tokens_lines_text _ _)).2

/-- What resolution makes of such a text is what it makes of the schema that is declared. -/
lemma Load.schema_text_resolve_ofEntity (attributes : List AttributeOutline)
    (inverses : List InverseOutline) :
    (Load.text ⟨true, false⟩ {} (Outline.ofEntity attributes inverses).text).schema =
      (Outline.ofEntity attributes inverses).toSchema.resolve :=
  (Load.schema_text_resolves {} false _).trans
    (congrArg Schema.resolve (Load.schema_text_ofEntity attributes inverses))

/-- The name of an entity. -/
def doorName : Word :=
  ⟨"Door".toList, by decide, List.all_eq_true.1 (by decide), by decide⟩

/-- The name of a type. -/
def measureName : Identifier :=
  ⟨⟨"Measure".toList, by decide, List.all_eq_true.1 (by decide), by decide⟩, by decide, by decide⟩

/-- Doors of two kinds, of which one kind is said more. -/
def doorOutline : Outline where
  name := some doorName
  types := [⟨measureName.toWord, .aggregate .list (some ⟨2, none⟩) (.builtin .real)⟩]
  entities :=
    [⟨doorName, true, some ⟨.ofLength 0, [.ofLength 1]⟩, none,
        [⟨.ofLength 2, true, .listOfList (some ⟨1, some 4⟩) none, .named measureName⟩], [], []⟩,
      ⟨.ofLength 0, false, none, some doorName, [.real (.ofLength 3)],
        [⟨.ofLength 4, some (some ⟨0, some 1⟩), doorName, .ofLength 2⟩],
        [⟨.ofLength 5, .ofLength 3⟩]⟩]
  nodup_types := by decide +kernel
  nodup_entities := by decide +kernel
  nodup_members := by decide +kernel

end ExpressSchema
