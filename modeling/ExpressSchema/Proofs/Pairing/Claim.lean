/-
# Claims of inverses on properties

An inverse claims the property against which it runs, unless that is a collection.  What pairing
does to an inverse depends on who else claims the same property, and on nothing else: an inverse
is paired if it is the only one with its claim.  Here is what that means for a list of inverses,
and how it changes when one more inverse comes to the list.
-/
import ExpressSchema.Proofs.Pairing.Partner
import Mathlib.Data.List.Nodup

namespace ExpressSchema

/-- The property that an inverse claims: the one against which it runs, unless that is a
collection. -/
def PropertyTable.claimOf? (t : PropertyTable) (p : PendingInverse) : Option PropertyId :=
  (t.forwardOf? p).filter fun target => !t.isCollectionAt target

/-- Properties before pairing, with the inverses that are to be paired: every property is found
under its name, none has a partner, and no inverse gives the name of an inverse for that of its
forward attribute. -/
structure Pairable (t : PropertyTable) (ps : List PendingInverse) : Prop where
  idOf?_iff : ∀ name id, t.idOf? name = some id ↔ t.nameAt? id = some name
  partner?_eq_none : ∀ id, t.partner? id = none
  nodup_own : (ps.map (·.own)).Nodup
  own_named : ∀ p ∈ ps, ∃ name, t.nameAt? p.own = some name
  forward_ne : ∀ p ∈ ps, ∀ q ∈ ps, t.nameAt? q.own ≠ some p.forward
  qualified_ne : ∀ p ∈ ps, ∀ q ∈ ps,
    t.nameAt? q.own ≠ some (Name.qualified p.forward p.range)

/-- Of these inverses, `p` and no other one claims `target`. -/
structure ClaimsAlone (t : PropertyTable) (ps : List PendingInverse) (p : PendingInverse)
    (target : PropertyId) : Prop where
  mem : p ∈ ps
  claims : t.claimOf? p = some target
  alone : ∀ q ∈ ps, t.claimOf? q = some target → q = p

/-- The two properties are those of an inverse that is alone with its claim, and of what it
claims. -/
def Joined (t : PropertyTable) (ps : List PendingInverse) (a b : PropertyId) : Prop :=
  ∃ p target, ClaimsAlone t ps p target ∧ (a = p.own ∧ b = target ∨ a = target ∧ b = p.own)

variable {t : PropertyTable} {ps qs : List PendingInverse} {p q : PendingInverse}
  {target other : PropertyId}

lemma forwardOf?_of_claimOf? (h : t.claimOf? p = some target) :
    t.forwardOf? p = some target ∧ t.isCollectionAt target = false := by
  simpa [PropertyTable.claimOf?, Option.filter_eq_some_iff] using h

lemma claimOf?_eq_none_of_forwardOf? (h : t.forwardOf? p = none) : t.claimOf? p = none := by
  simp [PropertyTable.claimOf?, h]

lemma claimOf?_eq_none_of_isCollectionAt (h : t.forwardOf? p = some target)
    (hc : t.isCollectionAt target = true) : t.claimOf? p = none := by
  simp [PropertyTable.claimOf?, h, hc]

lemma claimOf?_eq_some (h : t.forwardOf? p = some target)
    (hc : t.isCollectionAt target = false) : t.claimOf? p = some target := by
  simp [PropertyTable.claimOf?, h, hc]

namespace Pairable

lemma of_append (h : Pairable t (ps ++ qs)) : Pairable t ps where
  idOf?_iff := h.idOf?_iff
  partner?_eq_none := h.partner?_eq_none
  nodup_own := (List.nodup_append.1 (List.map_append ▸ h.nodup_own)).1
  own_named p hp := h.own_named p (List.mem_append_left _ hp)
  forward_ne p hp q hq := h.forward_ne p (List.mem_append_left _ hp) q (List.mem_append_left _ hq)
  qualified_ne p hp q hq :=
    h.qualified_ne p (List.mem_append_left _ hp) q (List.mem_append_left _ hq)

lemma eq_of_own_eq (h : Pairable t ps) (hp : p ∈ ps) (hq : q ∈ ps) (hpq : p.own = q.own) :
    p = q :=
  List.inj_on_of_nodup_map h.nodup_own hp hq hpq

lemma own_ne (h : Pairable t (ps ++ [p])) (hq : q ∈ ps) : q.own ≠ p.own := by
  have hn := h.nodup_own
  rw [List.map_append, List.nodup_append] at hn
  exact hn.2.2 q.own (List.mem_map_of_mem hq) p.own (by simp)

lemma notMem (h : Pairable t (ps ++ [p])) : p ∉ ps := fun hp => h.own_ne hp rfl

/-- What an inverse runs against is not the property of an inverse. -/
lemma target_ne_own (h : Pairable t ps) (hp : p ∈ ps) (hq : q ∈ ps)
    (ht : t.forwardOf? p = some target) : target ≠ q.own := by
  rintro rfl
  rcases Option.or_eq_some_iff.1 ht with hf | ⟨-, hf⟩
  · exact h.forward_ne p hp q hq ((h.idOf?_iff _ _).1 hf)
  · exact h.qualified_ne p hp q hq ((h.idOf?_iff _ _).1 hf)

/-- What an inverse runs against is a property with a name. -/
lemma target_named (h : Pairable t ps) (ht : t.forwardOf? p = some target) :
    ∃ name, t.nameAt? target = some name := by
  rcases Option.or_eq_some_iff.1 ht with hf | ⟨-, hf⟩
  · exact ⟨_, (h.idOf?_iff _ _).1 hf⟩
  · exact ⟨_, (h.idOf?_iff _ _).1 hf⟩

lemma nameAt?_inj (h : Pairable t ps) {name : String} {a b : PropertyId}
    (ha : t.nameAt? a = some name) (hb : t.nameAt? b = some name) : a = b := by
  have hab := ((h.idOf?_iff name a).2 ha).symm.trans ((h.idOf?_iff name b).2 hb)
  exact Option.some.inj hab

end Pairable

/-! ## One more inverse -/

namespace ClaimsAlone

lemma target_ne_own (h : Pairable t ps) (ha : ClaimsAlone t ps p target) (hq : q ∈ ps) :
    target ≠ q.own :=
  h.target_ne_own ha.mem hq (forwardOf?_of_claimOf? ha.claims).1

lemma target_inj (ha : ClaimsAlone t ps p target) (hb : ClaimsAlone t ps p other) :
    target = other :=
  Option.some.inj (ha.claims.symm.trans hb.claims)

/-- An inverse without a claim is in nobody's way. -/
lemma append_iff_of_none (hn : t.claimOf? p = none) :
    ClaimsAlone t (ps ++ [p]) q target ↔ ClaimsAlone t ps q target := by
  have hmem : ∀ {r}, r ∈ ps ++ [p] → t.claimOf? r = some target → r ∈ ps := by
    intro r hr hclaim
    rcases List.mem_append.1 hr with hr | hr
    · exact hr
    · rw [List.mem_singleton.1 hr, hn] at hclaim
      cases hclaim
  constructor
  · rintro ⟨hq, hclaim, halone⟩
    exact ⟨hmem hq hclaim, hclaim, fun r hr => halone r (List.mem_append_left _ hr)⟩
  · rintro ⟨hq, hclaim, halone⟩
    exact ⟨List.mem_append_left _ hq, hclaim, fun r hr hr' => halone r (hmem hr hr') hr'⟩

/-- An inverse whose claim has been made before ends the solitude of the one that made it, and is
not alone itself. -/
lemma append_iff_of_claimed (hp : p ∉ ps) (hclaim : t.claimOf? p = some other)
    (hbefore : ∃ r ∈ ps, t.claimOf? r = some other) :
    ClaimsAlone t (ps ++ [p]) q target ↔ ClaimsAlone t ps q target ∧ target ≠ other := by
  obtain ⟨r, hr, hrclaim⟩ := hbefore
  constructor
  · rintro ⟨hq, hqclaim, halone⟩
    have hne : target ≠ other := by
      rintro rfl
      -- the two that claim it would be one and the same
      have hpq := halone p (by simp) hclaim
      have hrq := halone r (List.mem_append_left _ hr) hrclaim
      exact hp (hpq.trans hrq.symm ▸ hr)
    have hqps : q ∈ ps := by
      rcases List.mem_append.1 hq with hq | hq
      · exact hq
      · rw [List.mem_singleton.1 hq, hclaim] at hqclaim
        exact absurd (Option.some.inj hqclaim).symm hne
    exact ⟨⟨hqps, hqclaim, fun s hs => halone s (List.mem_append_left _ hs)⟩, hne⟩
  · rintro ⟨⟨hq, hqclaim, halone⟩, hne⟩
    refine ⟨List.mem_append_left _ hq, hqclaim, fun s hs hsclaim => ?_⟩
    rcases List.mem_append.1 hs with hs | hs
    · exact halone s hs hsclaim
    · rw [List.mem_singleton.1 hs, hclaim] at hsclaim
      exact absurd (Option.some.inj hsclaim).symm hne

/-- An inverse with a new claim is alone with it. -/
lemma append_iff_of_new (hclaim : t.claimOf? p = some other)
    (hnew : ∀ r ∈ ps, t.claimOf? r ≠ some other) :
    ClaimsAlone t (ps ++ [p]) q target ↔
      ClaimsAlone t ps q target ∨ q = p ∧ target = other := by
  constructor
  · rintro ⟨hq, hqclaim, halone⟩
    rcases List.mem_append.1 hq with hq | hq
    · exact .inl ⟨hq, hqclaim, fun s hs => halone s (List.mem_append_left _ hs)⟩
    · have hqp := List.mem_singleton.1 hq
      rw [hqp, hclaim] at hqclaim
      exact .inr ⟨hqp, (Option.some.inj hqclaim).symm⟩
  · rintro (⟨hq, hqclaim, halone⟩ | ⟨rfl, rfl⟩)
    · refine ⟨List.mem_append_left _ hq, hqclaim, fun s hs hsclaim => ?_⟩
      rcases List.mem_append.1 hs with hs | hs
      · exact halone s hs hsclaim
      · rw [List.mem_singleton.1 hs, hclaim] at hsclaim
        rw [Option.some.inj hsclaim] at hnew
        exact absurd hqclaim (hnew q hq)
    · refine ⟨by simp, hclaim, fun s hs hsclaim => ?_⟩
      rcases List.mem_append.1 hs with hs | hs
      · exact absurd hsclaim (hnew s hs)
      · exact List.mem_singleton.1 hs

end ClaimsAlone

namespace Joined

variable {a b : PropertyId}

lemma append_iff_of_none (hn : t.claimOf? p = none) :
    Joined t (ps ++ [p]) a b ↔ Joined t ps a b := by
  simp only [Joined, ClaimsAlone.append_iff_of_none hn]

lemma append_iff_of_new (hclaim : t.claimOf? p = some other)
    (hnew : ∀ r ∈ ps, t.claimOf? r ≠ some other) :
    Joined t (ps ++ [p]) a b ↔
      Joined t ps a b ∨ a = p.own ∧ b = other ∨ a = other ∧ b = p.own := by
  simp only [Joined, ClaimsAlone.append_iff_of_new hclaim hnew]
  constructor
  · rintro ⟨q, target, hq | ⟨rfl, rfl⟩, hab⟩
    · exact .inl ⟨q, target, hq, hab⟩
    · exact .inr hab
  · rintro (⟨q, target, hq, hab⟩ | hab)
    · exact ⟨q, target, .inl hq, hab⟩
    · exact ⟨p, other, .inr ⟨rfl, rfl⟩, hab⟩

end Joined
end ExpressSchema
