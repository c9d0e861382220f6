/-
# Reading printed types

A printed type declaration is read as the type that its outline declares, whatever has been read
before, provided that no type of its name has.
-/
import ExpressSchema.Proofs.Printing.Leads

namespace ExpressSchema

/-! ## Ranges -/

namespace Identifier

/-- An identifier is not taken for a keyword of unknown meaning. -/
lemma isAllCapitals_eq_false (x : Identifier) : Name.isAllCapitals x.chars = false := by
  obtain ⟨c, hc, hlower⟩ := List.any_eq_true.1 x.hasSmall
  have hsmall : Text.isSmall c = true := by
    rw [Text.isSmall, if_pos (toNat_lt_of_isPlainChar (x.isPlainChar_of_mem c hc))]
    exact hlower
  rw [Name.isAllCapitals, Bool.not_eq_false']
  exact List.any_eq_true.2 ⟨c, hc, hsmall⟩

end Identifier

/-- The semicolon after a range is not kept in the text of an aggregate. -/
lemma RangeOutline.aggregateOfText_ended (r : RangeOutline) (text : String) :
    State.aggregateOfText (text ++ Token.text r.ended) = .aggregate (text ++ r.text) := by
  have htext := List.dropLast_concat_getLast r.text_ne_nil
  have hne : (r.text.toList.getLast r.text_ne_nil == ';') = false := by
    rw [beq_eq_false_iff_ne]
    intro heq
    have hplain := r.isPlainChar_of_mem_text _ (List.getLast_mem r.text_ne_nil)
    rw [heq] at hplain
    exact absurd hplain (by decide)
  have hrange : r.text = String.ofList
      (r.text.toList.dropLast ++ [r.text.toList.getLast r.text_ne_nil]) := by
    rw [htext, String.ofList_toList]
  rw [State.aggregateOfText, ended, Token.text]
  congr 1
  rw [← String.toList_inj]
  generalize r.text.toList.getLast r.text_ne_nil = c at *
  generalize r.text.toList.dropLast = front at *
  rw [hrange]
  simp [hne]

/-! ## Right-hand sides -/

namespace State

variable {s : Schema} {T : TypeDecl}

/-- What is read of a type goes into the type that was declared last. -/
lemma schema_settleType {w : Workspace} (hw : w.schema = s.putType T) (h : T.key ∉ s.types.keys)
    (u : UnderlyingType) :
    (settleType ⟨s.types.size⟩ u w).schema = s.putType { T with underlying := u } := by
  rw [settleType, Workspace.schema_modifyType, hw, Schema.modifyType_putType h rfl]

lemma step_plain_named (x : Identifier) (id : TypeId) (w : Workspace) :
    (typeBody id).step (RangeOutline.named x).ended w =
      (topLevel, settleType id (.named x.text) w) := by
  have hselect : Token.is x.ended "SELECT" = false := x.is_ended_eq_false (by decide)
  have henumeration : Token.is x.ended "ENUMERATION" = false := x.is_ended_eq_false (by decide)
  simp [RangeOutline.ended_named, step, readTypeBody, hselect, henumeration, Word.dropEnd_ended,
    x.isAllCapitals_eq_false, Word.text]

lemma leads_plain (h : T.key ∉ s.types.keys) (r : RangeOutline) :
    Leads (typeBody ⟨s.types.size⟩) (s.putType T) [r.ended] topLevel
      (s.putType { T with underlying := (TypeForm.plain r).underlying }) := by
  cases r with
  | builtin b =>
    refine .write (fun w hw => ?_) .nil
    have hstep : (typeBody ⟨s.types.size⟩).step (RangeOutline.builtin b).ended w =
        (topLevel, settleType ⟨s.types.size⟩ (.builtin b) (w.register b)) := by
      cases b <;> rfl
    rw [hstep]
    exact ⟨rfl, schema_settleType (w := w.register b) hw h _⟩
  | named x =>
    refine .write (fun w hw => ?_) .nil
    rw [step_plain_named]
    exact ⟨rfl, schema_settleType hw h _⟩

/-- Among words in parentheses each word changes the type that was declared last. -/
lemma leads_listed (state : State) (f : Word → TypeDecl → TypeDecl) (read : List Word → TypeDecl)
    (hstep : ∀ (x : Word) (opening : Char) (closing : Token) (w : Workspace),
      Word.Opens opening → Word.Closes closing →
      (state.step (x.listed opening closing) w).1 =
          (if Text.endsWith closing ';' then topLevel else state) ∧
        (state.step (x.listed opening closing) w).2.schema =
          w.schema.modifyType ⟨s.types.size⟩ (f x))
    (hread : ∀ before x, f x (read before) = read (before ++ [x]))
    (hkey : ∀ before, (read before).key = T.key) (h : T.key ∉ s.types.keys) (l : WordList) :
    Leads state (s.putType (read [])) (l.tokens [')', ';']) topLevel (s.putType (read l.all)) := by
  have hword : ∀ (before : List Word) (x : Word) (opening : Char) (closing : Token),
      Word.Opens opening → Word.Closes closing →
      Leads state (s.putType (read before)) [x.listed opening closing]
        (if Text.endsWith closing ';' then topLevel else state)
        (s.putType (read (before ++ [x]))) := by
    intro before x opening closing hopens hcloses
    refine .write (fun w hw => ?_) .nil
    obtain ⟨hstate, hschema⟩ := hstep x opening closing w hopens hcloses
    refine ⟨hstate, ?_⟩
    rw [hschema, hw, Schema.modifyType_putType (by rwa [hkey]) (by rw [hread, hkey, hkey]), hread]
  refine Leads.wordList (fun before => s.putType (read before)) ?_ ?_
  · intro before x _ opening _ hopens
    exact hword before x opening [] hopens (by simp [Word.Closes])
  · intro before x opening hall hopens
    rw [← hall]
    exact hword before x opening [')', ';'] hopens (by simp [Word.Closes])

lemma leads_enumeration (h : T.key ∉ s.types.keys) (hvalues : T.values = []) (l : WordList) :
    Leads (typeBody ⟨s.types.size⟩) (s.putType T) (TypeForm.enumeration l).tokens topLevel
      (s.putType { T with underlying := .enumeration, values := l.all.map Word.key }) := by
  have hlist := leads_listed (enumerationValues ⟨s.types.size⟩)
    (fun x t => { t with values := t.values ++ [x.key] })
    (fun before => { T with underlying := .enumeration, values := before.map Word.key })
    (fun x opening closing w hopens hcloses => ?_) (fun before x => by simp) (fun _ => rfl) h l
  · refine .write (fun w hw => ⟨rfl, ?_⟩) (.move (fun _ => rfl) hlist)
    rw [List.map_nil, ← hvalues]
    exact schema_settleType hw h _
  · have hkeys : (w.canonicalAll [x.text]).1 = [x.key] := by
      rw [Workspace.canonicalAll_fst]
      rfl
    simp only [step, readEnumerationValues, x.names_listed hopens hcloses,
      x.endsWith_listed hopens, hkeys]
    split_ifs
    · exact ⟨rfl, rfl⟩
    · exact ⟨rfl, rfl⟩

lemma leads_select (h : T.key ∉ s.types.keys) (hmembers : T.members = []) (l : WordList) :
    Leads (typeBody ⟨s.types.size⟩) (s.putType T) (TypeForm.select l).tokens topLevel
      (s.putType { T with underlying := .select, members := l.texts }) := by
  have hlist := leads_listed (selectMembers ⟨s.types.size⟩)
    (fun x t => { t with members := t.members ++ [x.text] })
    (fun before => { T with underlying := .select, members := before.map Word.text })
    (fun x opening closing w hopens hcloses => ?_) (fun before x => by simp) (fun _ => rfl) h l
  · refine .write (fun w hw => ⟨rfl, ?_⟩) hlist
    rw [List.map_nil, ← hmembers]
    exact schema_settleType hw h _
  · simp only [step, readSelectMembers, x.names_listed hopens hcloses, x.endsWith_listed hopens]
    split_ifs
    · exact ⟨rfl, rfl⟩
    · exact ⟨rfl, rfl⟩

/-! ## Aggregates -/

/-- The element of an aggregate ends the text of which its range is made. -/
lemma leads_aggregateElement (h : T.key ∉ s.types.keys) (text : String) (r : RangeOutline) :
    Leads (aggregateText ⟨s.types.size⟩ text) (s.putType T) ["OF".toList, r.ended] topLevel
      (s.putType { T with underlying := .aggregate (text ++ " OF " ++ r.text) }) := by
  refine .move (fun _ => rfl) (.write (fun w hw => ?_) .nil)
  have hends : Text.endsWith r.ended ';' = true := by simp [RangeOutline.ended]
  have hof : text ++ " " ++ "OF" ++ " " = text ++ " OF " := by
    rw [String.append_assoc, String.append_assoc]
    rfl
  have hsettled := schema_settleType hw h
    (aggregateOfText (text ++ " " ++ "OF" ++ " " ++ Token.text r.ended))
  rw [r.aggregateOfText_ended, hof] at hsettled
  simp only [step, readAggregate, hends, if_true]
  exact ⟨trivial, by rw [← hsettled, ← hof, r.aggregateOfText_ended]; rfl⟩

/-- The keyword and the bounds are gathered until the element ends the declaration. -/
lemma leads_aggregate (h : T.key ∉ s.types.keys) (kind : AggregateKind)
    (bounds : Option Cardinality) (r : RangeOutline) :
    Leads (typeBody ⟨s.types.size⟩) (s.putType T) (TypeForm.aggregate kind bounds r).tokens topLevel
      (s.putType { T with underlying := (TypeForm.aggregate kind bounds r).underlying }) := by
  have hkeyword : ∀ w : Workspace, (typeBody ⟨s.types.size⟩).step kind.keyword.toList w =
      (aggregateText ⟨s.types.size⟩ (w.canonical kind.keyword).1,
        (w.canonical kind.keyword).2) := by
    intro w
    cases kind <;> rfl
  have hcanonical : Name.canonical kind.keyword = kind.keyword := by cases kind <;> rfl
  have hbounds : ∀ (text : String) (c : Cardinality) (w : Workspace),
      (aggregateText ⟨s.types.size⟩ text).step c.text.toList w =
        (aggregateText ⟨s.types.size⟩ (text ++ " " ++ c.text), w) := by
    intro text c w
    have hends : Text.endsWith c.text.toList ';' = false := by
      rw [c.toList_text, Text.endsWith, List.getLast?_append]
      rfl
    simp [step, readAggregate, hends, Token.text]
  have hfirst : ∀ w : Workspace, w.schema = s.putType T →
      ((typeBody ⟨s.types.size⟩).step kind.keyword.toList w).1 =
          aggregateText ⟨s.types.size⟩ kind.keyword ∧
        ((typeBody ⟨s.types.size⟩).step kind.keyword.toList w).2.schema = s.putType T := by
    intro w hw
    rw [hkeyword, Workspace.canonical_fst, hcanonical]
    exact ⟨rfl, hw⟩
  cases bounds with
  | none => exact .write hfirst (leads_aggregateElement h _ r)
  | some c => exact .write hfirst (.move (hbounds _ c) (leads_aggregateElement h _ r))

/-! ## Declarations -/

lemma leads_typeForm {name : String} (h : Name.canonical name ∉ s.types.keys) (form : TypeForm) :
    Leads (typeBody ⟨s.types.size⟩) (s.putType (TypeDecl.ofName name)) form.tokens topLevel
      (s.putType { TypeDecl.ofName name with
        underlying := form.underlying, values := form.values, members := form.members }) := by
  cases form with
  | plain range => exact leads_plain h range
  | enumeration values => exact leads_enumeration h rfl values
  | select members => exact leads_select h rfl members
  | aggregate kind bounds element => exact leads_aggregate h kind bounds element

lemma leads_typeOutline (t : TypeOutline) (h : t.name.key ∉ s.types.keys) :
    Leads topLevel s t.tokens topLevel (s.putType t.toTypeDecl) := by
  have hname : ∀ w : Workspace, w.schema = s →
      ((typeName none).step t.name.chars w).1 = typeName (some ⟨s.types.size⟩) ∧
        ((typeName none).step t.name.chars w).2.schema =
          s.putType (TypeDecl.ofName t.name.text) := by
    rintro w rfl
    have hdrop : Text.dropEnd? t.name.chars '=' = none := t.name.dropEnd?_chars (by decide)
    have htext : Token.text t.name.chars = t.name.text := rfl
    rw [step, readTypeName, hdrop]
    dsimp only
    rw [Workspace.declareType_fst, Workspace.schema_declareType, htext,
      Schema.declareType_of_notMem h]
    exact ⟨rfl, rfl⟩
  have hform := leads_typeForm h t.form
  exact .move (fun _ => rfl) (.write hname (.move (fun _ => rfl)
    (hform.append (.move (fun _ => rfl) .nil))))

/-- Printed types are read one after the other. -/
lemma leads_types (ts : List TypeOutline) (s : Schema)
    (h : (s.types.keys ++ ts.map fun t => t.name.key).Nodup) :
    Leads topLevel s (ts.flatMap TypeOutline.tokens) topLevel
      (ts.foldl (fun s t => s.putType t.toTypeDecl) s) := by
  induction ts generalizing s with
  | nil => exact .nil
  | cons t ts ih =>
    have hnew : t.name.key ∉ s.types.keys :=
      notMem_of_nodup_append_cons h
    refine (leads_typeOutline t hnew).append (ih _ ?_)
    rw [Schema.keys_putType (t := t.toTypeDecl) hnew, List.append_assoc]
    exact h

end State
end ExpressSchema
