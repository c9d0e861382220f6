/-
# The register of names

Entities are listed under their canonical names, and so are types.  What is said here holds of both
lists.  A name is looked for under its canonical form; if that is not listed yet, a declaration of
this name is put at the end, and the name is issued the place where the declaration stands.  Nothing
else is ever done to the names in the list (`Enters`).  So whoever has been issued a place finds the
same declaration there ever after, and two names are issued one place exactly if their canonical
forms are the same (`Identifies.place_eq_iff`).
-/
import ExpressSchema.Declaration
import ExpressSchema.Table.Lemmas
import Mathlib.Data.List.Nodup

namespace ExpressSchema

/-- How a declaration is named. -/
structure Registration where
  /-- The canonical name under which it is listed. -/
  under : String
  /-- The canonical name that the declaration itself has. -/
  key : String
  /-- Its name as first written. -/
  name : String

/-- The declaration of this name, listed under its canonical form. -/
def Registration.ofName (name : String) : Registration :=
  ⟨Name.canonical name, Name.canonical name, name⟩

variable {register next : List Registration} {issued : List (String × Nat)}

/-! ## Entering a name -/

/-- What may happen to a register in one step, and what is issued: nothing, a place that is there,
or a new one at the end. -/
inductive Enters (register : List Registration) : Option (String × Nat) → List Registration → Prop
  | nothing : Enters register none register
  | found {name : String} {place : Nat} {r : Registration} (h : register[place]? = some r)
      (hr : r.under = Name.canonical name) : Enters register (some (name, place)) register
  | new {name : String} (h : Name.canonical name ∉ register.map (·.under)) :
      Enters register (some (name, register.length)) (register ++ [.ofName name])

lemma Enters.isPrefix {issue : Option (String × Nat)} (h : Enters register issue next) :
    register <+: next := by
  cases h with
  | nothing | found => exact List.prefix_rfl
  | new => exact List.prefix_append _ _

/-! ## What has been issued -/

/-- The register knows the names that have been issued their places, one after the other. -/
structure Identifies (issued : List (String × Nat)) (register : List Registration) : Prop where
  /-- Nothing is listed twice. -/
  nodup : (register.map (·.under)).Nodup
  /-- Every declaration is listed under the canonical name that it has itself, which is that of its
  name as first written. -/
  canonical : ∀ r ∈ register, r.key = r.under ∧ Name.canonical r.name = r.under
  /-- Where a name has been issued a place, its canonical form is listed. -/
  stands : ∀ p ∈ issued, ∃ r, register[p.2]? = some r ∧ r.under = Name.canonical p.1
  /-- The name at a place is the first that has been issued this place. -/
  first : ∀ place r, register[place]? = some r →
    (issued.find? fun p => p.2 = place).map Prod.fst = some r.name

lemma identifies_nil : Identifies [] [] :=
  ⟨List.nodup_nil, by simp, by simp, by simp⟩

namespace Identifies

/-- Two names have been issued one place exactly if they have one canonical form. -/
lemma place_eq_iff (h : Identifies issued register) {p q : String × Nat} (hp : p ∈ issued)
    (hq : q ∈ issued) : p.2 = q.2 ↔ Name.canonical p.1 = Name.canonical q.1 := by
  obtain ⟨r, hr, hru⟩ := h.stands p hp
  obtain ⟨r', hr', hru'⟩ := h.stands q hq
  constructor
  · intro heq
    rw [heq] at hr
    obtain rfl := Option.some.inj (hr.symm.trans hr')
    exact hru.symm.trans hru'
  · intro heq
    have hlt := (List.getElem?_eq_some_iff.1 hr).1
    refine (List.getElem?_inj (by simpa using hlt) h.nodup).1 ?_
    rw [List.getElem?_map, List.getElem?_map, hr, hr', Option.map_some, Option.map_some, hru, hru',
      heq]

/-- Nothing has been issued a place where nothing stands. -/
lemma place_lt (h : Identifies issued register) {p : String × Nat} (hp : p ∈ issued) :
    p.2 < register.length := by
  obtain ⟨r, hr, -⟩ := h.stands p hp
  exact (List.getElem?_eq_some_iff.1 hr).1

/-- What has been issued first stays first. -/
lemma first_append (h : Identifies issued register) (more : List (String × Nat)) {place : Nat}
    {r : Registration} (hr : register[place]? = some r) :
    ((issued ++ more).find? fun p => p.2 = place).map Prod.fst = some r.name := by
  obtain ⟨p, hp, hname⟩ := Option.map_eq_some_iff.1 (h.first place r hr)
  rw [List.find?_append, hp, Option.some_or, Option.map_some, hname]

/-- What happens in one step. -/
lemma enters (h : Identifies issued register) {issue : Option (String × Nat)}
    (hstep : Enters register issue next) : Identifies (issued ++ issue.toList) next := by
  cases hstep with
  | nothing =>
    rw [Option.toList_none, List.append_nil]
    exact h
  | @found name place r hr hru =>
    refine ⟨h.nodup, h.canonical, fun p hp => ?_, fun place' r' hr' => h.first_append _ hr'⟩
    rcases List.mem_append.1 hp with hp | hp
    · exact h.stands p hp
    · rw [List.mem_singleton.1 hp]
      exact ⟨r, hr, hru⟩
  | @new name hnew =>
    have hlast : (register ++ [Registration.ofName name])[register.length]? =
        some (Registration.ofName name) := List.getElem?_concat_length
    refine ⟨?_, fun r hr => ?_, fun p hp => ?_, fun place r hr => ?_⟩
    · rw [List.map_append]
      exact List.nodup_append_comm.1 (List.nodup_cons.2 ⟨hnew, h.nodup⟩)
    · rcases List.mem_append.1 hr with hr | hr
      · exact h.canonical r hr
      · rw [List.mem_singleton.1 hr]
        exact ⟨rfl, rfl⟩
    · rcases List.mem_append.1 hp with hp | hp
      · obtain ⟨r, hr, hru⟩ := h.stands p hp
        exact ⟨r, by rw [List.getElem?_append_left (h.place_lt hp), hr], hru⟩
      · rw [List.mem_singleton.1 hp]
        exact ⟨_, hlast, rfl⟩
    · rcases Nat.lt_trichotomy place register.length with hlt | rfl | hgt
      · rw [List.getElem?_append_left hlt] at hr
        exact h.first_append _ hr
      · -- the new place has not been issued before
        obtain rfl := Option.some.inj (hlast.symm.trans hr)
        have hnone : (issued.find? fun p => p.2 = register.length) = none :=
          List.find?_eq_none.2 fun p hp => by simpa using Nat.ne_of_lt (h.place_lt hp)
        rw [List.find?_append, hnone]
        simp [Registration.ofName]
      · have hlt := (List.getElem?_eq_some_iff.1 hr).1
        rw [List.length_append, List.length_singleton] at hlt
        omega

end Identifies
end ExpressSchema
