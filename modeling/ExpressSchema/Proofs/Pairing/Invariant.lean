/-
# The invariant of pairing

Inverses are paired one after the other, and three things change on the way: the properties that
are claimed, the partners of properties, and the names under which properties are found.  At each
point all three are what the claims of the inverses so far say (`Pairing.After`): a property is
claimed if one of them claims it, the pairs are those of the inverses that are alone with their
claims, and of the inverses so far only these are still found under their names.

`After.step` shows this of one more inverse, with a case for each of the four ways that it may go,
and `Pairable.after_foldl` of all of them.
-/
import ExpressSchema.Proofs.Pairing.Claim
import ExpressSchema.Proofs.Resolution.Reported
import Mathlib.Algebra.BigOperators.Group.Finset.Basic

namespace ExpressSchema

namespace Pairing

/-- A pairing of the properties `t` in which the inverses `ps` have had their turn. -/
structure After (t : PropertyTable) (ps : List PendingInverse) (x : Pairing) : Prop where
  unlinkedArena : x.properties.unlinkedArena = t.unlinkedArena
  partner?_iff : ∀ a b, x.properties.partner? a = some b ↔ Joined t ps a b
  idOf?_iff : ∀ name id, x.properties.idOf? name = some id ↔
    t.nameAt? id = some name ∧ ∀ p ∈ ps, p.own = id → ∃ target, ClaimsAlone t ps p target
  claimed_iff : ∀ target, target ∈ x.claimed ↔ ∃ p ∈ ps, t.claimOf? p = some target
  conflicts : countProblems .inverseConflict x.problems +
    (ps.filterMap t.claimOf?).toFinset.card = (ps.filterMap t.claimOf?).length
  unresolved : countProblems .unresolvedInverse x.problems =
    ps.countP fun p => (t.forwardOf? p).isNone

namespace After

variable {t : PropertyTable} {ps : List PendingInverse} {p : PendingInverse} {x : Pairing}
  {target : PropertyId}

/-! ## Before the next inverse has its turn -/

lemma idOf?_eq_of_ne (h : After t ps x) (hp : Pairable t ps) {name : String}
    (hname : ∀ q ∈ ps, t.nameAt? q.own ≠ some name) :
    x.properties.idOf? name = t.idOf? name := by
  apply Option.ext
  intro id
  rw [h.idOf?_iff, hp.idOf?_iff, and_iff_left_iff_imp]
  rintro hid q hq rfl
  exact absurd hid (hname q hq)

/-- Names taken away so far are names of inverses, so that an inverse finds its forward property
as if it were the first. -/
lemma forwardOf?_eq (h : After t ps x) (hp : Pairable t (ps ++ [p])) :
    x.properties.forwardOf? p = t.forwardOf? p := by
  have hmem : p ∈ ps ++ [p] := by simp
  unfold PropertyTable.forwardOf?
  rw [h.idOf?_eq_of_ne hp.of_append fun q hq =>
      hp.forward_ne p hmem q (List.mem_append_left _ hq),
    h.idOf?_eq_of_ne hp.of_append fun q hq =>
      hp.qualified_ne p hmem q (List.mem_append_left _ hq)]

/-- The next inverse has no partner yet. -/
lemma partner?_own (h : After t ps x) (hp : Pairable t (ps ++ [p])) :
    x.properties.partner? p.own = none := by
  rw [Option.eq_none_iff_forall_ne_some]
  intro b hb
  obtain ⟨q, other, hq, ⟨hown, -⟩ | ⟨hown, -⟩⟩ := (h.partner?_iff _ _).1 hb
  · exact hp.own_ne hq.mem hown.symm
  · have hforward := (forwardOf?_of_claimOf? hq.claims).1
    exact hp.target_ne_own (List.mem_append_left _ hq.mem) (by simp) hforward hown.symm

/-- What is not claimed has no partner yet. -/
lemma partner?_target (h : After t ps x) (hp : Pairable t (ps ++ [p]))
    (ht : t.forwardOf? p = some target) (hc : target ∉ x.claimed) :
    x.properties.partner? target = none := by
  rw [Option.eq_none_iff_forall_ne_some]
  intro b hb
  obtain ⟨q, other, hq, ⟨hown, -⟩ | ⟨rfl, -⟩⟩ := (h.partner?_iff _ _).1 hb
  · exact hp.target_ne_own (by simp) (List.mem_append_left _ hq.mem) ht hown
  · exact hc ((h.claimed_iff _).2 ⟨q, hq.mem, hq.claims⟩)

/-- The partner of what the next inverse runs against is the inverse that is alone with its claim
on it. -/
lemma partner?_target_iff (h : After t ps x) (hp : Pairable t (ps ++ [p]))
    (ht : t.forwardOf? p = some target) (id : PropertyId) :
    x.properties.partner? target = some id ↔ ∃ q, ClaimsAlone t ps q target ∧ id = q.own := by
  rw [h.partner?_iff]
  constructor
  · rintro ⟨q, other, hq, ⟨hown, -⟩ | ⟨rfl, rfl⟩⟩
    · exact absurd hown (hp.target_ne_own (by simp) (List.mem_append_left _ hq.mem) ht)
    · exact ⟨q, hq, rfl⟩
  · rintro ⟨q, hq, rfl⟩
    exact ⟨q, target, hq, .inr ⟨rfl, rfl⟩⟩

lemma nameAt?_eq (h : After t ps x) (id : PropertyId) :
    x.properties.nameAt? id = t.nameAt? id :=
  PropertyTable.nameAt?_congr h.unlinkedArena id

/-- An inverse that is alone with its claim is still found under its name. -/
lemma contains_own (h : After t ps x) (hp : Pairable t ps) {q : PendingInverse}
    (hq : ClaimsAlone t ps q target) :
    ∃ name, x.properties.nameAt? q.own = some name ∧ x.properties.contains name := by
  obtain ⟨name, hname⟩ := hp.own_named q hq.mem
  refine ⟨name, (h.nameAt?_eq _).trans hname, ?_⟩
  have hid : x.properties.idOf? name = some q.own := by
    rw [h.idOf?_iff]
    refine ⟨hname, fun r hr hrq => ?_⟩
    rw [hp.eq_of_own_eq hr hq.mem hrq]
    exact ⟨target, hq⟩
  rw [PropertyTable.contains, Table.contains_iff]
  by_contra hn
  rw [← Table.get?_eq_none_iff] at hn
  exact absurd (hid.symm.trans hn) (by simp)

lemma isSome_byId? (h : After t ps x) {id : PropertyId}
    (hname : ∃ name, t.nameAt? id = some name) : (x.properties.byId? id).isSome := by
  obtain ⟨name, hname⟩ := hname
  rw [PropertyTable.isSome_byId?_congr h.unlinkedArena]
  simpa [PropertyTable.nameAt?] using Option.isSome_of_eq_some hname

/-- Linking the next inverse with what it runs against makes these two partners. -/
lemma partner?_link (h : After t ps x) (hp : Pairable t (ps ++ [p]))
    (ht : t.forwardOf? p = some target) (id : PropertyId) :
    (x.properties.link p.own target).partner? id =
      if id = p.own then some target else if id = target then some p.own
      else x.properties.partner? id := by
  have hne : p.own ≠ target := fun heq => hp.target_ne_own (by simp) (by simp) ht heq.symm
  exact PropertyTable.partner?_link hne (h.isSome_byId? (hp.own_named p (by simp)))
    (h.isSome_byId? (hp.target_named ht)) id

lemma isCollection_link (h : After t ps x) (a b target : PropertyId) :
    ((x.properties.link a b).byId? target).any (·.isCollection) = t.isCollectionAt target :=
  PropertyTable.isCollectionAt_congr
    ((PropertyTable.unlinkedArena_link _ _ _).trans h.unlinkedArena) target

/-! ## The four ways of an inverse -/

variable (h : After t ps x) (hp : Pairable t (ps ++ [p]))
include h hp

/-- An inverse without a claim loses its name, and nothing else changes. -/
lemma letGo_own (hclaim : t.claimOf? p = none) {y : Pairing}
    (harena : y.properties.unlinkedArena = x.properties.unlinkedArena)
    (hpartner : ∀ a, y.properties.partner? a = x.properties.partner? a)
    (hidOf : ∀ name, y.properties.idOf? name = (x.properties.letGo p.own).idOf? name)
    (hclaimed : y.claimed = x.claimed)
    (hconflicts : countProblems .inverseConflict y.problems =
      countProblems .inverseConflict x.problems)
    (hunresolved : countProblems .unresolvedInverse y.problems =
      countProblems .unresolvedInverse x.problems + [p].countP fun p => (t.forwardOf? p).isNone) :
    After t (ps ++ [p]) y where
  unlinkedArena := harena.trans h.unlinkedArena
  partner?_iff a b := by
    rw [hpartner, h.partner?_iff, Joined.append_iff_of_none hclaim]
  idOf?_iff name id := by
    simp only [hidOf, PropertyTable.idOf?_letGo, h.nameAt?_eq]
    by_cases hname : t.nameAt? p.own = some name
    · -- the name is that of the inverse, which is not alone with a claim as it has none
      rw [if_pos hname]
      simp only [reduceCtorEq, false_iff, not_and]
      intro hid hall
      obtain ⟨target, halone⟩ := hall p (by simp) (hp.nameAt?_inj hname hid)
      exact absurd (hclaim.symm.trans halone.claims) (by simp)
    · rw [if_neg hname, h.idOf?_iff]
      refine and_congr_right fun hid => ?_
      simp only [List.mem_append, List.mem_singleton, ClaimsAlone.append_iff_of_none hclaim]
      constructor
      · rintro hall q (hq | rfl) hown
        · exact hall q hq hown
        · exact absurd (hown ▸ hid) hname
      · exact fun hall q hq => hall q (.inl hq)
  claimed_iff target := by simp [hclaimed, h.claimed_iff, or_and_right, exists_or, hclaim]
  conflicts := by simpa [hconflicts, hclaim] using h.conflicts
  unresolved := by rw [hunresolved, h.unresolved, List.countP_append]

/-- An inverse that runs against nothing known is let go. -/
lemma dropUnknown (ht : t.forwardOf? p = none) : After t (ps ++ [p]) (x.dropUnknown p) := by
  apply h.letGo_own hp (claimOf?_eq_none_of_forwardOf? ht)
  · simp [Pairing.dropUnknown]
  · simp [Pairing.dropUnknown]
  · simp [Pairing.dropUnknown]
  · rfl
  · simp [Pairing.dropUnknown, countProblems, Problem.kind]
  · simp [Pairing.dropUnknown, countProblems, Problem.kind, ht]

/-- An inverse that runs against a collection is let go, and what it was linked with for a moment
is as it was. -/
lemma pairFree_of_isCollectionAt (ht : t.forwardOf? p = some target)
    (hc : target ∉ x.claimed) (hcol : t.isCollectionAt target = true) :
    After t (ps ++ [p]) (x.pairFree p.own target) := by
  rw [Pairing.pairFree, if_pos ((h.isCollection_link p.own target target).trans hcol)]
  apply h.letGo_own hp (claimOf?_eq_none_of_isCollectionAt ht hcol)
  · simp
  · intro a
    simp only [PropertyTable.partner?_unlink, PropertyTable.partner?_letGo,
      h.partner?_link hp ht]
    -- the partners that were made are taken back, and neither of the two had one before
    by_cases hta : target = a
    · subst hta
      simpa using (h.partner?_target hp ht hc).symm
    · by_cases hoa : p.own = a
      · subst hoa
        simpa [hta] using (h.partner?_own hp).symm
      · simp [hta, hoa, Ne.symm hta, Ne.symm hoa]
  · intro name
    rw [PropertyTable.idOf?_unlink, PropertyTable.idOf?_unlink, PropertyTable.idOf?_letGo,
      PropertyTable.idOf?_letGo, PropertyTable.idOf?_link,
      PropertyTable.nameAt?_congr (PropertyTable.unlinkedArena_link x.properties p.own target)]
  · rfl
  · rfl
  · simp [ht]

/-- An inverse with a new claim is paired with what it claims. -/
lemma pairFree_of_claim (hclaim : t.claimOf? p = some target) (hc : target ∉ x.claimed) :
    After t (ps ++ [p]) (x.pairFree p.own target) := by
  obtain ⟨ht, hcol⟩ := forwardOf?_of_claimOf? hclaim
  have hnew : ∀ q ∈ ps, t.claimOf? q ≠ some target := fun q hq hqclaim =>
    hc ((h.claimed_iff target).2 ⟨q, hq, hqclaim⟩)
  have hown := h.partner?_own hp
  have htarget := h.partner?_target hp ht hc
  rw [Pairing.pairFree, if_neg (by rw [h.isCollection_link, hcol]; exact Bool.false_ne_true)]
  refine ⟨?_, fun a b => ?_, fun name id => ?_, fun other => ?_, ?_, ?_⟩
  · exact (PropertyTable.unlinkedArena_link _ _ _).trans h.unlinkedArena
  · rw [h.partner?_link hp ht, Joined.append_iff_of_new hclaim hnew, ← h.partner?_iff]
    by_cases ha : a = p.own
    · have hat : p.own ≠ target := fun heq => hp.target_ne_own (by simp) (by simp) ht heq.symm
      simp [ha, hown, hat, eq_comm]
    · by_cases hat : a = target
      · subst hat
        simp [ha, htarget, eq_comm]
      · simp [ha, hat]
  · rw [PropertyTable.idOf?_link, h.idOf?_iff]
    refine and_congr_right fun _ => ?_
    simp only [List.mem_append, List.mem_singleton, ClaimsAlone.append_iff_of_new hclaim hnew]
    constructor
    -- the new inverse has its claim alone, and for those before it nothing changes
    · rintro hall q (hq | rfl) hid
      · obtain ⟨other, hother⟩ := hall q hq hid
        exact ⟨other, .inl hother⟩
      · exact ⟨target, .inr ⟨rfl, rfl⟩⟩
    · intro hall q hq hid
      obtain ⟨other, hother | ⟨rfl, -⟩⟩ := hall q (.inl hq) hid
      · exact ⟨other, hother⟩
      · exact absurd hq hp.notMem
  · simp [h.claimed_iff, or_and_right, exists_or, hclaim, or_comm (a := other = target),
      eq_comm (a := target)]
  · have hmem : target ∉ (ps.filterMap t.claimOf?).toFinset := by simpa using hnew
    -- a new claim makes the claims one more and the properties that are claimed one more
    have hset : ((ps ++ [p]).filterMap t.claimOf?).toFinset =
        insert target (ps.filterMap t.claimOf?).toFinset := by
      ext other
      simp [hclaim, eq_comm]
    rw [hset, Finset.card_insert_of_notMem hmem, List.filterMap_append, List.length_append]
    simpa [hclaim, ← Nat.add_assoc] using h.conflicts
  · rw [List.countP_append, ← h.unresolved]
    simp [ht]

section DropBoth

variable (hclaim : t.claimOf? p = some target) (hc : target ∈ x.claimed)
include hclaim hc

/-- With a claim made once more, the inverse that was alone with it is alone no longer. -/
lemma claimsAlone_append {q : PendingInverse} {other : PropertyId} :
    ClaimsAlone t (ps ++ [p]) q other ↔ ClaimsAlone t ps q other ∧ other ≠ target :=
  ClaimsAlone.append_iff_of_claimed hp.notMem hclaim ((h.claimed_iff target).1 hc)

lemma partner?_dropBoth (a b : PropertyId) :
    (x.dropBoth p.own target).properties.partner? a = some b ↔ Joined t (ps ++ [p]) a b := by
  obtain ⟨ht, -⟩ := forwardOf?_of_claimOf? hclaim
  have hpartner := h.partner?_target_iff hp ht
  simp only [Pairing.dropBoth, PropertyTable.partner?_unlink, PropertyTable.partner?_letGo,
    PropertyTable.partner?_dropPartner, Joined, h.claimsAlone_append hp hclaim hc]
  constructor
  · intro hab
    have hta : target ≠ a := fun heq => by simp [heq] at hab
    have hpa : x.properties.partner? target ≠ some a := fun heq => by simp [heq] at hab
    rw [if_neg hta, if_neg hpa, h.partner?_iff] at hab
    obtain ⟨q, other, hq, hqab⟩ := hab
    refine ⟨q, other, ⟨hq, ?_⟩, hqab⟩
    rintro rfl
    rcases hqab with ⟨rfl, -⟩ | ⟨rfl, -⟩
    · exact hpa ((hpartner _).2 ⟨q, hq, rfl⟩)
    · exact hta rfl
  · rintro ⟨q, other, ⟨hq, hne⟩, hqab⟩
    have hqt : q.own ≠ target := fun heq =>
      hp.target_ne_own (by simp) (List.mem_append_left _ hq.mem) ht heq.symm
    have hta : target ≠ a := by
      rcases hqab with ⟨rfl, -⟩ | ⟨rfl, -⟩
      · exact hqt.symm
      · exact hne.symm
    -- a pair with another claim has nothing to do with the one that is broken up
    have hpa : x.properties.partner? target ≠ some a := by
      intro heq
      obtain ⟨r, hr, rfl⟩ := (hpartner a).1 heq
      rcases hqab with ⟨hown, -⟩ | ⟨hown, -⟩
      · rw [hp.of_append.eq_of_own_eq hr.mem hq.mem hown] at hr
        exact hne (hq.target_inj hr)
      · exact hq.target_ne_own hp.of_append hr.mem hown.symm
    rw [if_neg hta, if_neg hpa, h.partner?_iff]
    exact ⟨q, other, hq, hqab⟩

omit hc in
/-- Two names are lost: that of the inverse, and that of the one which was alone with the claim. -/
lemma idOf?_dropBoth_eq (name : String) :
    (x.dropBoth p.own target).properties.idOf? name =
      if t.nameAt? p.own = some name then none
      else if (x.properties.partner? target).bind t.nameAt? = some name then none
      else x.properties.idOf? name := by
  obtain ⟨ht, -⟩ := forwardOf?_of_claimOf? hclaim
  have hindexed : ∀ id, x.properties.partner? target = some id →
      ∃ name, x.properties.nameAt? id = some name ∧ x.properties.contains name := by
    intro id hid
    obtain ⟨q, hq, rfl⟩ := (h.partner?_target_iff hp ht id).1 hid
    exact h.contains_own hp.of_append hq
  simp only [Pairing.dropBoth, PropertyTable.idOf?_unlink, PropertyTable.idOf?_letGo,
    PropertyTable.nameAt?_congr (PropertyTable.unlinkedArena_dropPartner x.properties target),
    PropertyTable.idOf?_dropPartner hindexed, h.nameAt?_eq]

lemma idOf?_dropBoth (name : String) (id : PropertyId) :
    (x.dropBoth p.own target).properties.idOf? name = some id ↔
      t.nameAt? id = some name ∧
        ∀ q ∈ ps ++ [p], q.own = id → ∃ other, ClaimsAlone t (ps ++ [p]) q other := by
  obtain ⟨ht, -⟩ := forwardOf?_of_claimOf? hclaim
  have hpartner := h.partner?_target_iff hp ht
  rw [h.idOf?_dropBoth_eq hp hclaim]
  simp only [h.claimsAlone_append hp hclaim hc]
  -- a name is lost for the new inverse, or for the one before it, or for neither
  by_cases hown : t.nameAt? p.own = some name
  · rw [if_pos hown]
    simp only [reduceCtorEq, false_iff, not_and]
    intro hid hall
    obtain ⟨other, halone, -⟩ := hall p (by simp) (hp.nameAt?_inj hown hid)
    exact hp.notMem halone.mem
  rw [if_neg hown]
  by_cases hlost : (x.properties.partner? target).bind t.nameAt? = some name
  · -- the name is that of the inverse which was alone with the claim until now
    rw [if_pos hlost]
    simp only [reduceCtorEq, false_iff, not_and]
    intro hid hall
    obtain ⟨previous, hprevious, hname⟩ := Option.bind_eq_some_iff.1 hlost
    obtain ⟨q, hq, rfl⟩ := (hpartner previous).1 hprevious
    obtain ⟨other, hother, hne⟩ :=
      hall q (List.mem_append_left _ hq.mem) (hp.nameAt?_inj hname hid)
    exact hne (hother.target_inj hq)
  · rw [if_neg hlost, h.idOf?_iff]
    refine and_congr_right fun hid => ?_
    constructor
    · rintro hall q hq rfl
      rcases List.mem_append.1 hq with hq | hq
      · obtain ⟨other, hother⟩ := hall q hq rfl
        refine ⟨other, hother, ?_⟩
        rintro rfl
        have hprevious := (hpartner q.own).2 ⟨q, hother, rfl⟩
        exact hlost (by rw [hprevious, Option.bind_some, hid])
      · rw [List.mem_singleton.1 hq] at hid
        exact absurd hid hown
    · intro hall q hq hqid
      obtain ⟨other, hother, -⟩ := hall q (List.mem_append_left _ hq) hqid
      exact ⟨other, hother⟩

lemma claimed_dropBoth (other : PropertyId) :
    other ∈ (x.dropBoth p.own target).claimed ↔
      ∃ q ∈ ps ++ [p], t.claimOf? q = some other := by
  simp only [Pairing.dropBoth, h.claimed_iff, List.mem_append, List.mem_singleton]
  constructor
  · rintro ⟨q, hq, hqclaim⟩
    exact ⟨q, .inl hq, hqclaim⟩
  · rintro ⟨q, hq | rfl, hqclaim⟩
    · exact ⟨q, hq, hqclaim⟩
    · rw [← hclaim.symm.trans hqclaim |> Option.some.inj]
      exact (h.claimed_iff target).1 hc

omit hp in
/-- The number of conflicts grows with the number of claims, as none is new. -/
lemma conflicts_dropBoth :
    countProblems .inverseConflict (x.dropBoth p.own target).problems +
        ((ps ++ [p]).filterMap t.claimOf?).toFinset.card =
      ((ps ++ [p]).filterMap t.claimOf?).length := by
  -- the claims are one more, but the properties that are claimed are the same
  have hset : ((ps ++ [p]).filterMap t.claimOf?).toFinset =
      (ps.filterMap t.claimOf?).toFinset := by
    ext other
    simp only [List.filterMap_append, List.toFinset_append, Finset.mem_union]
    simp [hclaim]
    rintro rfl
    exact (h.claimed_iff _).1 hc
  have hcount := h.conflicts
  rw [hset, List.filterMap_append, List.length_append]
  simp only [Pairing.dropBoth, countProblems, List.map_append, List.count_append] at hcount ⊢
  simp [hclaim, Problem.kind]
  omega

/-- An inverse whose claim has been made before is let go, and so is the one that made it, unless
it went before. -/
lemma dropBoth : After t (ps ++ [p]) (x.dropBoth p.own target) where
  unlinkedArena := by simpa [Pairing.dropBoth] using h.unlinkedArena
  partner?_iff := h.partner?_dropBoth hp hclaim hc
  idOf?_iff := h.idOf?_dropBoth hp hclaim hc
  claimed_iff := h.claimed_dropBoth hp hclaim hc
  conflicts := h.conflicts_dropBoth hclaim hc
  unresolved := by
    rw [List.countP_append, ← h.unresolved]
    simp [(forwardOf?_of_claimOf? hclaim).1, Pairing.dropBoth, countProblems, Problem.kind]

end DropBoth

/-- One more inverse has had its turn. -/
lemma step : After t (ps ++ [p]) (x.step p) := by
  unfold Pairing.step
  rw [h.forwardOf?_eq hp]
  cases ht : t.forwardOf? p with
  | none => exact h.dropUnknown hp ht
  | some target =>
    dsimp only
    by_cases hc : target ∈ x.claimed
    -- what is claimed already is no collection, as collections are never claimed
    · obtain ⟨q, -, hq⟩ := (h.claimed_iff target).1 hc
      have hcol := (forwardOf?_of_claimOf? hq).2
      rw [if_pos hc]
      exact h.dropBoth hp (claimOf?_eq_some ht hcol) hc
    · rw [if_neg hc]
      cases hcol : t.isCollectionAt target with
      | true => exact h.pairFree_of_isCollectionAt hp ht hc hcol
      | false => exact h.pairFree_of_claim hp (claimOf?_eq_some ht hcol) hc

end After
end Pairing

variable {t : PropertyTable} {ps : List PendingInverse}

lemma Pairable.after_nil (h : Pairable t []) :
    Pairing.After t [] { properties := t } := by
  refine ⟨rfl, fun a b => ?_, fun name id => ?_, fun target => ?_, rfl, rfl⟩
  · simp only [h.partner?_eq_none, reduceCtorEq, false_iff]
    rintro ⟨p, target, hp, -⟩
    exact List.not_mem_nil hp.mem
  · simp [h.idOf?_iff]
  · simp

/-- Once all inverses have had their turn, the invariant holds of all of them. -/
theorem Pairable.after_foldl (h : Pairable t ps) :
    Pairing.After t ps (ps.foldl Pairing.step { properties := t }) := by
  -- the next inverse comes at the end of the list, as the invariant speaks of all before it
  induction ps using List.reverseRecOn with
  | nil => exact h.after_nil
  | append_singleton ps p ih =>
    rw [List.foldl_append]
    exact (ih h.of_append).step h

end ExpressSchema
