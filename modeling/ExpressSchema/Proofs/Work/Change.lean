/-
# Changes to a workspace

Whoever works on a workspace reports problems, notes other events in the log, enters built-in types
into the catalogue, remembers names and changes the schema.  `Workspace.Change` lists these changes
with what each of them asks for: only a report leaves a warning in the log, a built-in type is
entered when a piece of the text names it, and the schema comes to mention a built-in type only once
that is in the catalogue.  `Workspace.Changes` is what any number of them come to.

Two things follow for every piece of work that is made of such changes.  The diagnostics and the
warnings in the log grow by the same (`Workspace.Changes.told`), and the catalogue keeps up with the
schema while nothing is entered for which there is no cause (`Workspace.Changes.accounted`).
-/
import Mathlib.Logic.Relation
import ExpressSchema.Lookup
import ExpressSchema.Proofs.Resolution.Declared

namespace ExpressSchema

/-! ## What is heard -/

/-- A name is a piece of what was heard, without its punctuation. -/
def Name.HeardIn (heard : List (List Char)) (name : String) : Prop :=
  ∃ piece ∈ heard, name = String.ofList (Name.bare piece)

/-- A built-in type is named by a piece of what was heard. -/
def Builtin.NamedIn (heard : List (List Char)) (b : Builtin) : Prop :=
  ∃ piece ∈ heard, Builtin.ofText? piece = some b

section
variable {heard heard' : List (List Char)} (hsub : heard ⊆ heard')
include hsub

lemma Name.HeardIn.mono {name : String} (h : HeardIn heard name) : HeardIn heard' name := by
  obtain ⟨piece, hpiece, heq⟩ := h
  exact ⟨piece, hsub hpiece, heq⟩

lemma Builtin.NamedIn.mono {b : Builtin} (h : b.NamedIn heard) : b.NamedIn heard' := by
  obtain ⟨piece, hpiece, heq⟩ := h
  exact ⟨piece, hsub hpiece, heq⟩

end

/-! ## What a schema mentions -/

namespace Schema

/-- The built-in types over which the attributes range, where they do, in order. -/
def attributeBuiltins (s : Schema) : List (Option Builtin) := s.declaredAttributes.map (·.builtin)

/-- What the types stand for, in order. -/
def underlyingTypes (s : Schema) : List UnderlyingType := s.types.values.map (·.underlying)

/-- The members of all selects, in order. -/
def memberNames (s : Schema) : List String := s.types.values.flatMap (·.members)

/-- A built-in type occurs in the schema: an attribute ranges over it, a type stands for it, or a
select lists it. -/
def Mentions (s : Schema) (b : Builtin) : Prop :=
  some b ∈ s.attributeBuiltins ∨ .builtin b ∈ s.underlyingTypes ∨ s.selectsOf b ≠ []

instance (s : Schema) (b : Builtin) : Decidable (s.Mentions b) :=
  inferInstanceAs (Decidable (_ ∨ _ ∨ _))

variable {s t : Schema}

lemma attributeBuiltins_eq (s : Schema) :
    s.attributeBuiltins = s.entities.values.flatMap fun e => e.attributes.map (·.builtin) :=
  List.map_flatMap

lemma mem_attributeBuiltins {b : Builtin} : some b ∈ s.attributeBuiltins ↔
    ∃ e ∈ s.entities.values, ∃ a ∈ e.attributes, a.builtin = some b := by
  simp [attributeBuiltins_eq]

lemma mem_underlyingTypes {b : Builtin} : .builtin b ∈ s.underlyingTypes ↔
    ∃ t ∈ s.types.values, t.underlying = .builtin b := by
  simp [underlyingTypes]

lemma mem_memberNames {member : String} :
    member ∈ s.memberNames ↔ ∃ t ∈ s.types.values, member ∈ t.members := by
  simp [memberNames]

/-- The schema is changed without a report.  Of the built-in types only such as are in the catalogue
come to be mentioned, and every new member of a select was heard. -/
structure Quiet (heard : List (List Char)) (used : Catalogue) (s t : Schema) : Prop where
  diagnostics : t.diagnostics = s.diagnostics
  mentions : ∀ b, t.Mentions b → s.Mentions b ∨ used.contains b = true
  members : ∀ m ∈ t.memberNames, m ∈ s.memberNames ∨ Name.HeardIn heard m

namespace Quiet

variable {heard : List (List Char)} {used : Catalogue}

/-- A change after which everything is mentioned as before. -/
lemma of_eq (hdiagnostics : t.diagnostics = s.diagnostics)
    (hattributes : t.attributeBuiltins = s.attributeBuiltins)
    (htypes : t.underlyingTypes = s.underlyingTypes) (hmembers : t.memberNames = s.memberNames)
    (hselects : t.builtinSelects = s.builtinSelects) : Quiet heard used s t where
  diagnostics := hdiagnostics
  mentions b hb := by
    have hselectsOf : t.selectsOf b = s.selectsOf b := by rw [selectsOf, selectsOf, hselects]
    left
    rwa [Mentions, hattributes, htypes, hselectsOf] at hb
  members m hm := .inl (hmembers ▸ hm)

/-- A change of the entities. -/
lemma entities (entities : Table String Entity)
    (h : ∀ e ∈ entities.values, ∀ a ∈ e.attributes, ∀ b, a.builtin = some b →
      some b ∈ s.attributeBuiltins ∨ used.contains b = true) :
    Quiet heard used s { s with entities := entities } where
  diagnostics := rfl
  mentions b hb := by
    rcases hb with hattribute | hothers
    · obtain ⟨e, he, a, ha, hbuiltin⟩ := mem_attributeBuiltins.1 hattribute
      exact (h e he a ha b hbuiltin).imp_left .inl
    · exact .inl (.inr hothers)
  members _ hm := .inl hm

/-- A change of the types. -/
lemma types (types : Table String TypeDecl)
    (hunderlying : ∀ x ∈ types.values, ∀ b, x.underlying = .builtin b →
      .builtin b ∈ s.underlyingTypes ∨ used.contains b = true)
    (hmembers : ∀ x ∈ types.values, ∀ m ∈ x.members, m ∈ s.memberNames ∨ Name.HeardIn heard m) :
    Quiet heard used s { s with types := types } where
  diagnostics := rfl
  mentions b hb := by
    rcases hb with hattribute | htype | hselects
    · exact .inl (.inl hattribute)
    · obtain ⟨x, hx, heq⟩ := mem_underlyingTypes.1 htype
      exact (hunderlying x hx b heq).imp_left fun h => .inr (.inl h)
    · exact .inl (.inr (.inr hselects))
  members m hm := by
    obtain ⟨x, hx, hmem⟩ := mem_memberNames.1 hm
    exact hmembers x hx m hmem

/-- A change of the entities that gives their attributes no other ranges. -/
lemma entities_of_map_eq {entities : Table String Entity}
    (h : entities.values.map (fun e => e.attributes.map (·.builtin)) =
      s.entities.values.map fun e => e.attributes.map (·.builtin)) :
    Quiet heard used s { s with entities := entities } := by
  refine of_eq rfl ?_ rfl rfl rfl
  rw [attributeBuiltins_eq, attributeBuiltins_eq, List.flatMap_def, List.flatMap_def, h]

/-- A change of one entity that gives its attributes no other ranges. -/
lemma modifyEntity (id : EntityId) {f : Entity → Entity}
    (h : ∀ e, (f e).attributes.map (·.builtin) = e.attributes.map (·.builtin)) :
    Quiet heard used s (s.modifyEntity id f) :=
  entities_of_map_eq (map_values_modifyEntity s id h)

/-- A change of one type. -/
lemma modifyType (id : TypeId) {f : TypeDecl → TypeDecl}
    (hunderlying : ∀ x b, (f x).underlying = .builtin b →
      x.underlying = .builtin b ∨ used.contains b = true)
    (hmembers : ∀ x, ∀ m ∈ (f x).members, m ∈ x.members ∨ Name.HeardIn heard m) :
    Quiet heard used s (s.modifyType id f) := by
  refine types _ (fun x hx b hb => ?_) fun x hx m hm => ?_
  · rcases Table.mem_values_modifyAt hx with hold | ⟨y, hold, rfl⟩
    · exact .inl (mem_underlyingTypes.2 ⟨x, hold, hb⟩)
    · exact (hunderlying y b hb).imp_left fun h => mem_underlyingTypes.2 ⟨y, hold, h⟩
  · rcases Table.mem_values_modifyAt hx with hold | ⟨y, hold, rfl⟩
    · exact .inl (mem_memberNames.2 ⟨x, hold, hm⟩)
    · exact (hmembers y m hm).imp_left fun h => mem_memberNames.2 ⟨y, hold, h⟩

end Quiet
end Schema

/-! ## Changes -/

namespace Workspace

/-- One change to a workspace while some pieces of the text are heard. -/
inductive Change (heard : List (List Char)) : Workspace → Workspace → Prop
  | remember (w : Workspace) (name : String) : Change heard w (w.canonical name).2
  | record (w : Workspace) (e : Event) (h : e.level ≠ .warn) : Change heard w (w.record e)
  | report (w : Workspace) (p : Problem) : Change heard w (w.report p)
  | register (w : Workspace) (b : Builtin) (h : b.NamedIn heard) : Change heard w (w.register b)
  | update (w : Workspace) (f : Schema → Schema)
      (h : Schema.Quiet heard w.builtins w.schema (f w.schema)) : Change heard w (w.update f)

/-- A built-in type that is entered is in the catalogue. -/
lemma contains_register_self (w : Workspace) (b : Builtin) :
    (w.register b).builtins.contains b = true :=
  (Catalogue.contains_register w.builtins b b).trans (by simp)

/-- Any number of changes to a workspace. -/
def Changes (heard : List (List Char)) : Workspace → Workspace → Prop :=
  Relation.ReflTransGen (Change heard)

variable {heard heard' : List (List Char)} {w w' : Workspace}

lemma Change.mono (hsub : heard ⊆ heard') (h : Change heard w w') : Change heard' w w' := by
  cases h with
  | remember name => exact .remember w name
  | record e he => exact .record w e he
  | report p => exact .report w p
  | register b hb => exact .register w b (hb.mono hsub)
  | update f hf =>
    exact .update w f ⟨hf.diagnostics, hf.mentions, fun m hm =>
      (hf.members m hm).imp_right (.mono hsub)⟩

namespace Changes

lemma refl (w : Workspace) : Changes heard w w := Relation.ReflTransGen.refl

lemma trans {u v w : Workspace} (h₁ : Changes heard u v) (h₂ : Changes heard v w) :
    Changes heard u w := Relation.ReflTransGen.trans h₁ h₂

lemma single (h : Change heard w w') : Changes heard w w' := Relation.ReflTransGen.single h

lemma mono (hsub : heard ⊆ heard') (h : Changes heard w w') : Changes heard' w w' :=
  Relation.ReflTransGen.mono (fun _ _ => Change.mono hsub) _ _ h

/-- Work that is done one element of a list after the other. -/
lemma foldl {α : Type} {f : Workspace → α → Workspace} {xs : List α}
    (h : ∀ w, ∀ x ∈ xs, Changes heard w (f w x)) (w : Workspace) :
    Changes heard w (xs.foldl f w) := by
  induction xs generalizing w with
  | nil => exact refl w
  | cons x xs ih =>
    have hrest := ih fun w y hy => h w y (List.mem_cons_of_mem x hy)
    exact (h w x List.mem_cons_self).trans (hrest _)

/-! ### The operations on a workspace -/

lemma update {f : Schema → Schema} (h : Schema.Quiet heard w.builtins w.schema (f w.schema)) :
    Changes heard w (w.update f) := single (.update w f h)

variable (w)

lemma canonical (name : String) : Changes heard w (w.canonical name).2 :=
  single (.remember w name)

lemma record {e : Event} (h : e.level ≠ .warn) : Changes heard w (w.record e) :=
  single (.record w e h)

lemma report (p : Problem) : Changes heard w (w.report p) := single (.report w p)

lemma reportAll (ps : List Problem) : Changes heard w (w.reportAll ps) :=
  foldl (fun w p _ => report w p) w

lemma modifyEntity (id : EntityId) {f : Entity → Entity}
    (h : ∀ e, (f e).attributes.map (·.builtin) = e.attributes.map (·.builtin)) :
    Changes heard w (w.modifyEntity id f) := update (.modifyEntity id h)

lemma modifyType (id : TypeId) {f : TypeDecl → TypeDecl}
    (hunderlying : ∀ x b, (f x).underlying = .builtin b →
      x.underlying = .builtin b ∨ w.builtins.contains b = true)
    (hmembers : ∀ x, ∀ m ∈ (f x).members, m ∈ x.members ∨ Name.HeardIn heard m) :
    Changes heard w (w.modifyType id f) := update (.modifyType id hunderlying hmembers)

lemma canonicalAll (names : List String) : Changes heard w (w.canonicalAll names).2 := by
  induction names generalizing w with
  | nil => exact refl w
  | cons name names ih => exact (canonical w name).trans (ih _)

/-- An entity that is declared has no attributes. -/
lemma declareEntity (name : String) : Changes heard w (w.declareEntity name).2 := by
  refine (canonical w name).trans (update (f := fun s =>
    (s.declareEntity (w.canonical name).1 name).2) (.entities _ fun e he a ha b hb => ?_))
  rcases Table.mem_values_findOrInsert he with hold | rfl
  · exact .inl (Schema.mem_attributeBuiltins.2 ⟨e, hold, a, ha, hb⟩)
  · exact absurd ha List.not_mem_nil

/-- A type that is declared stands for no built-in type and has no members. -/
lemma declareType (name : String) : Changes heard w (w.declareType name).2 := by
  refine (canonical w name).trans (update (f := fun s =>
    (s.declareType (w.canonical name).1 name).2)
      (.types _ (fun x hx b hb => ?_) fun x hx m hm => ?_))
  · rcases Table.mem_values_findOrInsert hx with hold | rfl
    · exact .inl (Schema.mem_underlyingTypes.2 ⟨x, hold, hb⟩)
    · exact UnderlyingType.noConfusion hb
  · rcases Table.mem_values_findOrInsert hx with hold | rfl
    · exact .inl (Schema.mem_memberNames.2 ⟨x, hold, hm⟩)
    · exact absurd hm List.not_mem_nil

end Changes

/-! ## What changes come to -/

/-- The warnings in the log. -/
def warnings (w : Workspace) : List Event := w.log.toList.filter (·.level = .warn)

lemma warnings_record (w : Workspace) (e : Event) :
    (w.record e).warnings = w.warnings ++ if e.level = .warn then [e] else [] := by
  unfold warnings Workspace.record
  rw [Array.toList_push, List.filter_append]
  split_ifs with h <;> simp [h]

/-- There are further diagnostics, and as many further warnings, which tell of them in order. -/
def Told (w w' : Workspace) : Prop :=
  ∃ ds : List Diagnostic, w'.schema.diagnostics = w.schema.diagnostics ++ ds ∧
    w'.warnings = w.warnings ++ ds.map .diagnosed

/-- Nothing is reported, and no warning is noted. -/
lemma Told.of_eq (hdiagnostics : w'.schema.diagnostics = w.schema.diagnostics)
    (hwarnings : w'.warnings = w.warnings) : Told w w' :=
  ⟨[], by simpa using hdiagnostics, by simpa using hwarnings⟩

lemma Told.trans {u v w : Workspace} (h₁ : Told u v) (h₂ : Told v w) : Told u w := by
  obtain ⟨ds, hdiagnostics, hwarnings⟩ := h₁
  obtain ⟨es, hdiagnostics', hwarnings'⟩ := h₂
  refine ⟨ds ++ es, ?_, ?_⟩
  · rw [hdiagnostics', hdiagnostics, List.append_assoc]
  · rw [hwarnings', hwarnings, List.map_append, List.append_assoc]

lemma Change.told (h : Change heard w w') : Told w w' := by
  cases h with
  | remember | register => exact .of_eq rfl rfl
  | record e he => exact .of_eq rfl (by rw [warnings_record, if_neg he, List.append_nil])
  | report p =>
    have hrecord : (w.report p).warnings = w.warnings ++ [.diagnosed p.toDiagnostic] :=
      warnings_record _ _
    exact ⟨[p.toDiagnostic], rfl, hrecord⟩
  | update f hf => exact .of_eq hf.diagnostics rfl

lemma Changes.told (h : Changes heard w w') : Told w w' := by
  induction h with
  | refl => exact .of_eq rfl rfl
  | tail _ hchange ih => exact ih.trans hchange.told

/-- What is in the catalogue stays there, and what comes to it is named by a piece of what was
heard.  A schema mentions what it mentioned before and what is in the catalogue, and it has the
members of selects that it had and such as were heard. -/
structure Accounted (heard : List (List Char)) (w w' : Workspace) : Prop where
  kept : ∀ b, w.builtins.contains b = true → w'.builtins.contains b = true
  named : ∀ b, w'.builtins.contains b = true → w.builtins.contains b = true ∨ b.NamedIn heard
  mentions : ∀ b, w'.schema.Mentions b → w.schema.Mentions b ∨ w'.builtins.contains b = true
  members : ∀ m ∈ w'.schema.memberNames, m ∈ w.schema.memberNames ∨ Name.HeardIn heard m

namespace Accounted

lemma refl (w : Workspace) : Accounted heard w w :=
  ⟨fun _ => id, fun _ => .inl, fun _ => .inl, fun _ => .inl⟩

lemma trans {u v w : Workspace} (h₁ : Accounted heard u v) (h₂ : Accounted heard v w) :
    Accounted heard u w where
  kept b hb := h₂.kept b (h₁.kept b hb)
  named b hb := (h₂.named b hb).elim (h₁.named b) .inr
  mentions b hb := (h₂.mentions b hb).elim
    (fun h => (h₁.mentions b h).imp_right (h₂.kept b)) .inr
  members m hm := (h₂.members m hm).elim (h₁.members m) .inr

end Accounted

lemma Change.accounted (h : Change heard w w') : Accounted heard w w' := by
  cases h with
  | remember | record | report => exact ⟨fun _ => id, fun _ => .inl, fun _ => .inl, fun _ => .inl⟩
  | update f hf => exact ⟨fun _ => id, fun _ => .inl, hf.mentions, hf.members⟩
  | register b hb =>
    have hcontains : ∀ a, (w.register b).builtins.contains a = (w.builtins.contains a || a == b) :=
      fun a => Catalogue.contains_register w.builtins a b
    refine ⟨fun a ha => ?_, fun a ha => ?_, fun a ha => .inl ha, fun m hm => .inl hm⟩
    · rw [hcontains, ha, Bool.true_or]
    · rw [hcontains, Bool.or_eq_true, beq_iff_eq] at ha
      rcases ha with hold | rfl
      · exact .inl hold
      · exact .inr hb

lemma Changes.accounted (h : Changes heard w w') : Accounted heard w w' := by
  induction h with
  | refl => exact .refl w
  | tail _ hchange ih => exact ih.trans hchange.accounted

end Workspace
end ExpressSchema
