/-
# Supertypes that are reported

Each entity has its supertypes followed on its own, until the way comes to an end or back to a
place where it has been.  An entity is told that its supertypes loop if the way comes back to the
entity itself.  That happens exactly if the entity is its own supertype: the way of an entity that
only leads into a loop comes back to another place (`Trail.exists_tail`), and the way of one that
lies on a loop can come back nowhere else.  A supertype that is not declared is reported with the
entity that names it, and not with those below.
-/
import ExpressSchema.Proofs.Inheritance.Climb
import ExpressSchema.Proofs.Resolution.Problems
import Mathlib.Data.List.ReduceOption

namespace ExpressSchema
namespace Schema

variable {s : Schema}

/-! ## From place to place -/

/-- Where the direct supertype of an entity stands. -/
def superId? (s : Schema) (id : EntityId) : Option EntityId :=
  (s.supertypeName? id).bind s.placeOf?

/-- The direct supertype of the one place stands at the other. -/
def StepsUp (s : Schema) (id next : EntityId) : Prop := s.superId? id = some next

lemma StepsUp.unique {id a b : EntityId} (ha : s.StepsUp id a) (hb : s.StepsUp id b) : a = b :=
  Option.some.inj (ha.symm.trans hb)

lemma stepsUp_of_indexOf? {id : EntityId} {name : String} {next : Nat}
    (hname : s.supertypeName? id = some name)
    (hnext : s.entities.indexOf? (Name.canonical name) = some next) : s.StepsUp id ⟨next⟩ := by
  rw [StepsUp, superId?, hname, Option.bind_some, placeOf?, hnext, Option.map_some]

/-- Whatever is reached from a place on a loop leads back to it. -/
lemma transGen_of_loop {a b : EntityId} (hloop : Relation.TransGen s.StepsUp a a)
    (h : Relation.ReflTransGen s.StepsUp a b) : Relation.TransGen s.StepsUp b a := by
  induction h with
  | refl => exact hloop
  | tail _ hstep ih =>
    obtain ⟨c, hc, hback⟩ := Relation.TransGen.head'_iff.1 ih
    obtain rfl := hstep.unique hc
    rcases Relation.reflTransGen_iff_eq_or_transGen.1 hback with rfl | hback
    · exact hloop
    · exact hback

/-! ## Where the way comes back -/

/-- The places visited on the way up from `start`, the last one first; no place is visited twice. -/
inductive Trail (s : Schema) (start : EntityId) : EntityId → List EntityId → Prop
  | here : Trail s start start [start]
  | up {id next : EntityId} {visited : List EntityId} (h : Trail s start id visited)
      (hstep : s.StepsUp id next) (hnew : next ∉ visited) : Trail s start next (next :: visited)

namespace Trail

variable {start id : EntityId} {visited : List EntityId}

lemma start_mem (h : s.Trail start id visited) : start ∈ visited := by
  induction h with
  | here => exact List.mem_singleton_self _
  | up _ _ _ ih => exact List.mem_cons_of_mem _ ih

lemma reaches (h : s.Trail start id visited) : Relation.ReflTransGen s.StepsUp start id := by
  induction h with
  | here => exact .refl
  | up _ hstep _ ih => exact ih.tail hstep

/-- What has been visited since some place: every step from there stays there, except for the next
one, and `start` is there only if the place is `start` itself. -/
lemma exists_tail (h : s.Trail start id visited) {back : EntityId} (hback : back ∈ visited) :
    ∃ tail : EntityId → Prop, tail back ∧ (tail start → back = start) ∧
      ∀ a, tail a → a = id ∨ ∃ b, s.StepsUp a b ∧ tail b := by
  induction h with
  | here => exact ⟨(· = start), List.mem_singleton.1 hback, fun _ => List.mem_singleton.1 hback,
      fun _ => .inl⟩
  | @up id next visited htrail hstep hnew ih =>
    have hne : start ≠ next := fun heq => hnew (heq ▸ htrail.start_mem)
    rcases List.mem_cons.1 hback with rfl | hback
    · exact ⟨(· = back), rfl, fun heq => absurd heq hne, fun _ => .inl⟩
    · obtain ⟨tail, hin, hstart, hstays⟩ := ih hback
      refine ⟨fun a => tail a ∨ a = next, .inl hin, ?_, ?_⟩
      · exact fun hor => hstart (hor.resolve_right hne)
      · rintro a (ha | ha)
        · rcases hstays a ha with rfl | ⟨b, hab, hb⟩
          · exact .inr ⟨next, hstep, .inr rfl⟩
          · exact .inr ⟨b, hab, .inl hb⟩
        · exact .inl ha

/-- From a loop the way comes back to where it began and nowhere else. -/
lemma eq_start (h : s.Trail start id visited) {back : EntityId} (hback : back ∈ visited)
    (hstep : s.StepsUp id back) (hloop : Relation.TransGen s.StepsUp start start) :
    back = start := by
  obtain ⟨tail, hin, hstart, hstays⟩ := h.exists_tail hback
  have hreached : ∀ a, Relation.ReflTransGen s.StepsUp back a → tail a := by
    intro a ha
    induction ha with
    | refl => exact hin
    | tail _ hab ih =>
      rcases hstays _ ih with rfl | ⟨b, hab', hb⟩
      · rwa [← hstep.unique hab]
      · rwa [← hab'.unique hab]
  exact hstart (hreached _ (transGen_of_loop hloop (h.reaches.tail hstep)).to_reflTransGen)

/-- From a loop the way does not end, as whatever it has reached leads back. -/
lemma not_loop_of_superId? (h : s.Trail start id visited) (hnone : s.superId? id = none) :
    ¬ Relation.TransGen s.StepsUp start start := by
  intro hloop
  obtain ⟨b, hb, -⟩ := Relation.TransGen.head'_iff.1 (transGen_of_loop hloop h.reaches)
  rw [StepsUp, hnone] at hb
  cases hb

/-- The way up comes back to where it began exactly if that lies on a loop. -/
lemma ending_eq_loop_iff (h : s.Trail start id visited) :
    (s.followChain id visited).ending = .loop start ↔ Relation.TransGen s.StepsUp start start := by
  fun_induction s.followChain id visited with
  | case1 id visited hname =>
    refine iff_of_false ChainEnd.noConfusion (h.not_loop_of_superId? ?_)
    rw [superId?, hname, Option.bind_none]
  | case2 id visited supertype hname hnone =>
    refine iff_of_false ChainEnd.noConfusion (h.not_loop_of_superId? ?_)
    rw [superId?, hname, Option.bind_some, placeOf?, hnone, Option.map_none]
  | case3 id visited supertype hname next hnext hmem =>
    have hstep := stepsUp_of_indexOf? hname hnext
    constructor
    · intro heq
      obtain rfl := ChainEnd.loop.inj heq
      exact .tail' h.reaches hstep
    · exact fun hloop => congrArg ChainEnd.loop (h.eq_start hmem hstep hloop)
  | case4 id visited supertype hname next hnext hnew ih =>
    exact ih (h.up (stepsUp_of_indexOf? hname hnext) hnew)

end Trail

/-- The chain of a place comes back to it exactly if it lies on a loop. -/
lemma ending_chain_eq_loop_iff (id : EntityId) :
    (s.chain id).ending = .loop id ↔ Relation.TransGen s.StepsUp id id :=
  Trail.here.ending_eq_loop_iff

/-! ## Where the way ends at once -/

/-- What has been visited stays visited. -/
lemma suffix_followChain (id : EntityId) (visited : List EntityId) :
    visited <:+ (s.followChain id visited).members := by
  fun_induction s.followChain id visited with
  | case4 id visited supertype hname next hnext hnew ih => exact (List.suffix_cons _ _).trans ih
  | _ => exact List.suffix_rfl

/-- A chain that has gone up at least once tells nothing but of a loop. -/
lemma chainProblem?_eq_none {id : EntityId} {name : String} {next : Nat}
    (hname : s.supertypeName? id = some name)
    (hnext : s.entities.indexOf? (Name.canonical name) = some next)
    (hloop : (s.chain id).ending ≠ .loop id) : s.chainProblem? id = none := by
  have hmembers : (s.chain id).ending = .loop ⟨next⟩ ∨ (s.chain id).members ≠ [id] := by
    rw [chain, followChain_eq, hname]
    simp only [hnext]
    split_ifs with hmem
    · exact .inl rfl
    · refine .inr fun heq => ?_
      have hlength := (s.suffix_followChain ⟨next⟩ [⟨next⟩, id]).length_le
      rw [heq] at hlength
      simp at hlength
  unfold chainProblem? problemAlong?
  dsimp only
  split
  · rfl
  · rename_i undeclared hending
    rcases hmembers with heq | hne
    · rw [hending] at heq
      cases heq
    · exact if_neg hne
  · rename_i back hending
    refine if_neg fun heq => hloop ?_
    rw [hending, heq]

/-! ## Loops of entities -/

/-- What is to be reported of the supertype of an entity. -/
inductive ReportsSupertype (s : Schema) (e : Entity) : Option Problem → Prop
  /-- The entity is its own supertype, directly or by way of others. -/
  | loop (h : s.IsBelow e e) : ReportsSupertype s e (some (.supertypeLoop e.name))
  /-- The direct supertype is not declared. -/
  | undeclared {name : String} (hname : e.supertype = some name) (h : s.entity? name = none) :
      ReportsSupertype s e (some (.undeclaredSupertype name e.name))
  /-- The entity is not its own supertype, and its direct supertype is declared, if it has one. -/
  | nothing (hloop : ¬ s.IsBelow e e)
      (hdeclared : ∀ name, e.supertype = some name → ∃ parent, s.entity? name = some parent) :
      ReportsSupertype s e none

/-- There is one thing to be reported, or nothing. -/
lemma ReportsSupertype.unique {e : Entity} {r r' : Option Problem} (h : s.ReportsSupertype e r)
    (h' : s.ReportsSupertype e r') : r = r' := by
  -- an entity on a loop has a declared supertype, namely the next one on the loop
  have hdeclared : ∀ name, e.supertype = some name → s.entity? name = none → ¬ s.IsBelow e e := by
    intro name hname hnone hloop
    obtain ⟨parent, hparent, -⟩ := Relation.TransGen.head'_iff.1 hloop
    rw [supertype?, hname, Option.bind_some, hnone] at hparent
    cases hparent
  cases h <;> cases h' <;> simp_all

lemma supertypeName?_of_entityAt? {id : EntityId} {e : Entity} (he : s.entityAt? id = some e) :
    s.supertypeName? id = e.supertype := by
  rw [supertypeName?, he, Option.bind_some]

/-- Where a step from the place of an entity leads, its supertype stands. -/
lemma StepsUp.exists_supertype? {id next : EntityId} {e : Entity} (h : s.StepsUp id next)
    (he : s.entityAt? id = some e) :
    ∃ parent, s.entityAt? next = some parent ∧ s.supertype? e = some parent := by
  obtain ⟨name, hname, hid⟩ := Option.bind_eq_some_iff.1 h
  obtain ⟨i, hi, rfl⟩ := Option.map_eq_some_iff.1 hid
  exact supertype?_of_indexOf? he hname hi

/-- Going up from place to place, one goes up from entity to entity. -/
lemma isBelow_of_transGen {id top : EntityId} {e a : Entity}
    (h : Relation.TransGen s.StepsUp id top) (he : s.entityAt? id = some e)
    (ha : s.entityAt? top = some a) : s.IsBelow e a := by
  induction h using Relation.TransGen.head_induction_on generalizing e with
  | single hstep =>
    obtain ⟨parent, hat, hparent⟩ := hstep.exists_supertype? he
    obtain rfl := Option.some.inj (hat.symm.trans ha)
    exact .single hparent
  | head hstep _ ih =>
    obtain ⟨parent, hat, hparent⟩ := hstep.exists_supertype? he
    exact .head hparent (ih hat)

namespace Registered

variable (h : s.Registered)
include h

/-- The supertype of an entity stands where the step from its place leads. -/
lemma stepsUp {id next : EntityId} {e parent : Entity} (he : s.entityAt? id = some e)
    (hparent : s.supertype? e = some parent) (hat : s.entityAt? next = some parent) :
    s.StepsUp id next := by
  obtain ⟨name, i, hname, hi, hat'⟩ := exists_entityAt?_of_supertype? hparent
  rw [h.eq_of_key_eq hat hat' rfl]
  exact stepsUp_of_indexOf? ((supertypeName?_of_entityAt? he).trans hname) hi

/-- Going up from entity to entity, one goes up from place to place. -/
lemma transGen_of_isBelow {id top : EntityId} {e a : Entity} (hbelow : s.IsBelow e a)
    (he : s.entityAt? id = some e) (ha : s.entityAt? top = some a) :
    Relation.TransGen s.StepsUp id top := by
  induction hbelow using Relation.TransGen.head_induction_on generalizing id with
  | single hparent => exact .single (h.stepsUp he hparent ha)
  | head hparent _ ih =>
    obtain ⟨-, i, -, -, hat⟩ := exists_entityAt?_of_supertype? hparent
    exact .head (h.stepsUp he hparent hat) (ih hat)

/-- The chain of an entity comes back to it exactly if the entity is its own supertype. -/
lemma ending_eq_loop_iff {id : EntityId} {e : Entity} (he : s.entityAt? id = some e) :
    (s.chain id).ending = .loop id ↔ s.IsBelow e e :=
  (ending_chain_eq_loop_iff id).trans
    ⟨fun hloop => isBelow_of_transGen hloop he he, fun hloop => h.transGen_of_isBelow hloop he he⟩

/-- What the chain of an entity tells is what is to be reported. -/
theorem reports_chainProblem? {id : EntityId} {e : Entity} (he : s.entityAt? id = some e) :
    s.ReportsSupertype e (s.chainProblem? id) := by
  have hending := h.ending_eq_loop_iff he
  by_cases hloop : s.IsBelow e e
  · have hproblem : s.chainProblem? id = some (.supertypeLoop e.name) := by
      simp [chainProblem?, problemAlong?, hending.2 hloop, he]
    rw [hproblem]
    exact .loop hloop
  · have hname := supertypeName?_of_entityAt? he
    cases hsuper : e.supertype with
    | none =>
      have hproblem : s.chainProblem? id = none := by
        simp [chainProblem?, problemAlong?, chain, followChain_eq, hname, hsuper]
      rw [hproblem]
      exact .nothing hloop fun name h => by simp [hsuper] at h
    | some name =>
      cases hnext : s.entities.indexOf? (Name.canonical name) with
      | none =>
        have hproblem : s.chainProblem? id = some (.undeclaredSupertype name e.name) := by
          simp [chainProblem?, problemAlong?, chain, followChain_eq, hname, hsuper, hnext, he]
        rw [hproblem]
        exact .undeclared hsuper (entity?_of_indexOf?_eq_none hnext)
      | some next =>
        rw [chainProblem?_eq_none (hname.trans hsuper) hnext (hloop ∘ hending.1)]
        refine .nothing hloop fun name' hname' => ?_
        obtain rfl := Option.some.inj (hsuper.symm.trans hname')
        obtain ⟨parent, hat, -⟩ := supertype?_of_indexOf? he (hname.trans hsuper) hnext
        exact ⟨parent, (entity?_of_indexOf? hnext).trans hat⟩

end Registered

/-! ## What is reported of all entities -/

/-- What resolution reports of supertypes: these reports, entity by entity, before whatever else it
reports. -/
structure SupertypesReported (read resolved : Schema) (reports : List (Option Problem))
    (later : List Diagnostic) : Prop where
  /-- There is one report for an entity, or none, as its supertypes are. -/
  each : List.Forall₂ read.ReportsSupertype read.entities.values reports
  /-- The same schema asks for no other reports. -/
  unique : ∀ others, List.Forall₂ read.ReportsSupertype read.entities.values others →
    others = reports
  /-- The reports come in the order of the entities, after what reading has reported. -/
  diagnostics : resolved.diagnostics =
    read.diagnostics ++ reports.reduceOption.map Problem.toDiagnostic ++ later
  /-- Nothing of the kind is reported otherwise. -/
  other : ∀ d ∈ read.diagnostics ++ later,
    d.kind ≠ .inheritanceCycle ∧ d.kind ≠ .unresolvedSuperclass

/-- Resolution reports the supertypes that loop and those that are not declared. -/
theorem Registered.supertypesReported_resolve (h : s.Registered) (hs : s.Unresolved) :
    s.SupertypesReported s.resolve (s.entityIds.map s.chainProblem?)
      (s.laterProblems.map Problem.toDiagnostic) := by
  have heach : List.Forall₂ s.ReportsSupertype s.entities.values
      (s.entityIds.map s.chainProblem?) := by
    refine List.forall₂_iff_get.2 ⟨by simp [entityIds, Table.values, Table.size], ?_⟩
    intro i hi hi'
    simpa [entityIds] using h.reports_chainProblem? (s.entityAt?_eq_some_get hi)
  refine ⟨heach, fun others hothers => ?_, ?_, fun d hd => ?_⟩
  · have hunique : Relator.RightUnique s.ReportsSupertype := fun _ _ _ => ReportsSupertype.unique
    exact hunique.forall₂ hothers heach
  · rw [diagnostics_resolve, supertypeProblems, List.reduceOption, List.filterMap_map,
      List.map_append, List.append_assoc]
    rfl
  · rcases List.mem_append.1 hd with hd | hd
    · have hreading := hs.isOfReading d hd
      constructor <;> rintro heq <;> rw [heq] at hreading <;> exact Bool.false_ne_true hreading
    · obtain ⟨p, hp, rfl⟩ := List.mem_map.1 hd
      have hkind := kind_of_mem_laterProblems hp
      change p.kind ≠ _ ∧ p.kind ≠ _
      rcases hkind with hkind | hkind | hkind | hkind <;> rw [hkind] <;> decide

end Schema

/-- Whatever text is loaded, an entity that is its own supertype is reported once, an entity whose
direct supertype is not declared is reported once, and no other entity is reported for its
supertypes. -/
theorem Load.supertypes_reported (strips : Bool) (builtins : Catalogue) (text : String) :
    ∃ reports later, (Load.text ⟨false, strips⟩ builtins text).schema.SupertypesReported
      (Load.text ⟨true, strips⟩ builtins text).schema reports later := by
  rw [schema_text_resolves]
  exact ⟨_, _, (registered builtins strips _).supertypesReported_resolve
    (unresolved builtins strips _)⟩

/-- An entity that leads into a loop is no part of it. -/
example :
    ((Load.text ⟨true, false⟩ {} <|
      "ENTITY t SUBTYPE OF (a); END_ENTITY; ENTITY a SUBTYPE OF (b); END_ENTITY; " ++
        "ENTITY b SUBTYPE OF (a); END_ENTITY; ENTITY c SUBTYPE OF (d); END_ENTITY; " ++
        "ENTITY e SUBTYPE OF (c); END_ENTITY;").schema.diagnostics.map (·.message)) =
      ["supertype chain of a loops back to itself", "supertype chain of b loops back to itself",
        "supertype d of c is not declared"] := by decide +kernel

end ExpressSchema
