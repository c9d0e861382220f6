/-
# What a load reports and uses

A load is reading, a note on how it ended, and resolution.  Reading and resolution are made of
changes, and between them there is at most one warning that tells of no diagnostic: that the text
ended inside a declaration.  So the warnings in the log are the diagnostics in their order with that
one in between.

The catalogue is handed from load to load.  Whatever is loaded in whatever order, it has all
built-in types that the schemas mention, it never loses one, and it gets only such as some token
names.
-/
import ExpressSchema.Proofs.Work.Resolution

namespace ExpressSchema

/-! ## A load as work on a workspace -/

namespace LoadSettings

variable (settings : LoadSettings) (builtins : Catalogue) (lines : List (List Char))

/-- The workspace once reading has been brought to its end. -/
def ended : Workspace :=
  (settings.read builtins lines).2.endReading (settings.read builtins lines).1 lines.length

/-- The workspace once everything is done. -/
def finished : Workspace :=
  (if settings.resolves then (settings.ended builtins lines).resolve
    else settings.ended builtins lines).endLoading

/-- Before anything is read, no select has members. -/
lemma membersHeard_read :
    Workspace.MembersHeard (settings.heard lines) (settings.read builtins lines).2 :=
  Workspace.MembersHeard.of_changes (fun _ hm => absurd hm List.not_mem_nil)
    (settings.changes_read builtins lines)

end LoadSettings

namespace Workspace

variable (w : Workspace) (state : State) (lines : Nat)

lemma builtins_endReading : (w.endReading state lines).builtins = w.builtins := by
  unfold endReading
  split_ifs <;> rfl

/-- At the end of reading there is a warning if a declaration is open. -/
lemma warnings_endReading : (w.endReading state lines).warnings =
    w.warnings ++ if state = .topLevel then [] else [.endedInside state.label] := by
  unfold endReading
  dsimp only
  have hread : ∀ w : Workspace, ∀ n m,
      (w.record (.declarationsRead lines n m)).warnings = w.warnings := fun w n m => by
    rw [warnings_record, if_neg Level.noConfusion, List.append_nil]
  rw [hread]
  split_ifs
  · exact (List.append_nil _).symm
  · exact warnings_record w (.endedInside state.label)

lemma accounted_endReading {heard : List (List Char)} :
    Accounted heard w (w.endReading state lines) := by
  refine ⟨fun b hb => ?_, fun b hb => .inl ?_, fun b hb => .inl ?_, fun m hm => .inl ?_⟩
  · rwa [builtins_endReading]
  · rwa [builtins_endReading] at hb
  · rwa [schema_endReading] at hb
  · rwa [schema_endReading] at hm

lemma changes_endLoading {heard : List (List Char)} : Changes heard w w.endLoading := by
  unfold endLoading
  split_ifs
  · exact .refl w
  · exact .record w Level.noConfusion

end Workspace

namespace LoadSettings

variable (settings : LoadSettings) (builtins : Catalogue) (lines : List (List Char))

/-- What comes after reading is made of changes. -/
lemma changes_finished : Workspace.Changes (settings.heard lines) (settings.ended builtins lines)
    (settings.finished builtins lines) := by
  have hmembers :
      Workspace.MembersHeard (settings.heard lines) (settings.ended builtins lines) := by
    intro m hm
    rw [ended, Workspace.schema_endReading] at hm
    exact settings.membersHeard_read builtins lines m hm
  unfold finished
  split_ifs
  · exact hmembers.changes_resolve.trans (Workspace.changes_endLoading _)
  · exact Workspace.changes_endLoading _

/-- A load begins with an empty schema. -/
lemma accounted_finished : Workspace.Accounted (settings.heard lines) { builtins := builtins }
    (settings.finished builtins lines) :=
  (settings.changes_read builtins lines).accounted.trans
    ((Workspace.accounted_endReading _ _ _).trans
      (settings.changes_finished builtins lines).accounted)

end LoadSettings

/-! ## Warnings -/

/-- The texts of the records of a level, in order. -/
def Loaded.messages (loaded : Loaded) (level : Level) : List String :=
  (loaded.log.toList.filter (·.level = level)).map Event.message

namespace Load

variable (settings : LoadSettings) (builtins : Catalogue)

/-- The warnings of a load are those of reading, the one on an open declaration and those of what
comes after reading. -/
lemma warnings_lines (lines : List (List Char)) : ∃ later : List Diagnostic,
    (Load.lines settings builtins lines).schema.diagnostics =
        (settings.read builtins lines).2.schema.diagnostics ++ later ∧
      (settings.finished builtins lines).warnings =
        (settings.read builtins lines).2.schema.diagnostics.map .diagnosed ++
          (if (settings.read builtins lines).1 = .topLevel then []
            else [.endedInside (settings.read builtins lines).1.label]) ++
          later.map .diagnosed := by
  obtain ⟨first, hfirst, hwarnings⟩ := (settings.changes_read builtins lines).told
  obtain ⟨later, hlater, hwarningsLater⟩ := (settings.changes_finished builtins lines).told
  have hdiagnostics : (settings.read builtins lines).2.schema.diagnostics = first := hfirst
  have hread : (settings.read builtins lines).2.warnings = first.map .diagnosed := hwarnings
  refine ⟨later, ?_, ?_⟩
  · rw [LoadSettings.ended, Workspace.schema_endReading] at hlater
    exact hlater
  · rw [hwarningsLater, LoadSettings.ended, Workspace.warnings_endReading, hread, hdiagnostics]

/-- The warnings of a load are the texts of its diagnostics, in order.  If the text ends inside a
declaration there is one more, after the diagnostics of reading and before those of resolution. -/
theorem warnings_text (text : String) :
    let read := settings.read builtins (Text.lines text.toList)
    let loaded := Load.text settings builtins text
    ∃ later : List Diagnostic,
      loaded.schema.diagnostics = read.2.schema.diagnostics ++ later ∧
      loaded.messages .warn = read.2.schema.diagnostics.map Diagnostic.text ++
        (if read.1 = .topLevel then []
          else ["schema text ended inside a declaration (" ++ read.1.label ++ ")"]) ++
        later.map Diagnostic.text := by
  obtain ⟨later, hdiagnostics, hwarnings⟩ :=
    warnings_lines settings builtins (Text.lines text.toList)
  refine ⟨later, hdiagnostics, ?_⟩
  have hmessages : (Load.text settings builtins text).messages .warn =
      (settings.finished builtins (Text.lines text.toList)).warnings.map Event.message := rfl
  rw [hmessages, hwarnings, List.map_append, List.map_append, List.map_map, List.map_map]
  congr 2
  split_ifs <;> rfl

end Load

example : (Load.text ⟨true, true⟩ {}
      "TYPE S = SELECT (T); END_TYPE; ENTITY A SUPERTYPE OF (ONEOF (B, B));").messages .warn =
    ["DuplicateSibling: B already belongs to a ONEOF group",
      "schema text ended inside a declaration (EntityBody)",
      "UnresolvedSelectMember: T in select S is not a type, entity or built-in"] := by
  decide +kernel

/-! ## The catalogue -/

namespace Catalogue

lemma mem_registered {c : Catalogue} {b : Builtin} : b ∈ c.registered ↔ c.contains b = true := by
  simp [registered, Builtin.mem_all]

/-- The catalogue after texts have been loaded one after the other. -/
def after (c : Catalogue) (loads : List (LoadSettings × String)) : Catalogue :=
  loads.foldl (fun c load => (Load.text load.1 c load.2).builtins) c

/-- What loading a text of these tokens does to the catalogue. -/
structure KeepsUp (before : Catalogue) (tokens : List Token) (loaded : Loaded) : Prop where
  /-- The built-in types that the schema mentions are in it. -/
  mentioned : ∀ b, loaded.schema.Mentions b → b ∈ loaded.builtins.registered
  /-- What was in it is still there. -/
  kept : ∀ b ∈ before.registered, b ∈ loaded.builtins.registered
  /-- What has come to it has its keyword in some piece of a token, whatever punctuation and digits
  cling to that. -/
  named : ∀ b ∈ loaded.builtins.registered, b ∈ before.registered ∨
    ∃ token ∈ tokens, ∃ piece ∈ token.pieces,
      Text.sameLetters b.keyword.toList (Name.bareKeyword piece) = true

end Catalogue

namespace Load

/-- What is named by a piece of what was heard has its keyword in some piece of a token. -/
lemma exists_piece_of_namedIn {settings : LoadSettings} {lines : List (List Char)} {b : Builtin}
    (h : b.NamedIn (settings.heard lines)) : ∃ token ∈ settings.tokens lines,
      ∃ piece ∈ token.pieces,
        Text.sameLetters b.keyword.toList (Name.bareKeyword piece) = true := by
  obtain ⟨piece, hpiece, hb⟩ := h
  obtain ⟨token, htoken, hmem⟩ := List.mem_flatMap.1 hpiece
  have hkeyword : Text.sameLetters b.keyword.toList (Name.bareKeyword piece) = true :=
    List.find?_some (p := fun b : Builtin => Text.sameLetters b.keyword.toList _) hb
  exact ⟨token, htoken, piece, hmem, hkeyword⟩

/-- The catalogue keeps up with every schema that is loaded. -/
lemma keepsUp_lines (settings : LoadSettings) (before : Catalogue) (lines : List (List Char)) :
    before.KeepsUp (settings.tokens lines) (Load.lines settings before lines) := by
  have haccounted := settings.accounted_finished before lines
  refine ⟨fun b hb => ?_, fun b hb => ?_, fun b hb => ?_⟩
  · have hempty : ¬ ({} : Schema).Mentions b := by
      cases b <;> decide
    exact Catalogue.mem_registered.2 ((haccounted.mentions b hb).resolve_left hempty)
  · exact Catalogue.mem_registered.2 (haccounted.kept b (Catalogue.mem_registered.1 hb))
  · exact (haccounted.named b (Catalogue.mem_registered.1 hb)).imp Catalogue.mem_registered.2
      exists_piece_of_namedIn

/-- Further loads take nothing out of the catalogue. -/
lemma mem_registered_after {c : Catalogue} {b : Builtin} (h : b ∈ c.registered)
    (loads : List (LoadSettings × String)) : b ∈ (c.after loads).registered := by
  induction loads generalizing c with
  | nil => exact h
  | cons load loads ih => exact ih ((keepsUp_lines load.1 c _).kept b h)

/-- Wherever in a row of loads a text is loaded, the catalogue has what the schema mentions, it
keeps what it had and what it has now through all further loads, and it gets nothing that no token
names. -/
theorem catalogue_text (earlier later : List (LoadSettings × String)) (settings : LoadSettings)
    (text : String) :
    let before := Catalogue.after {} earlier
    let loaded := Load.text settings before text
    before.KeepsUp (settings.tokens (Text.lines text.toList)) loaded ∧
      ∀ b ∈ loaded.builtins.registered,
        b ∈ (Catalogue.after {} (earlier ++ (settings, text) :: later)).registered := by
  refine ⟨keepsUp_lines settings _ _, fun b hb => ?_⟩
  rw [Catalogue.after, List.foldl_append]
  exact mem_registered_after hb later

end Load

example : (Load.text ⟨true, true⟩ {}
      "TYPE A = STRING(255); END_TYPE; TYPE S = SELECT (Boolean, A); END_TYPE;
       ENTITY E; size : REAL; END_ENTITY;").builtins.registered =
    [.real, .boolean, .string] := by
  decide +kernel

end ExpressSchema
