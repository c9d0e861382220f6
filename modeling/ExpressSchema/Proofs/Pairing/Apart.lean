/-
# Pairing when inverses are nobody's forward attribute

Pairing takes names away by the name alone, and it makes partners without asking whether there were
others before.  Both go well as long as the names of the inverses tell them apart and none of them
is looked for as a forward attribute (`Apart`); attributes may share names with one another and with
inverses.  What then stays true while the inverses have their turns is `Pairing.Steady`: partners
are each other's, a partner that is an inverse is still found under its name, and of the names only
those of inverses go.
-/
import ExpressSchema.Proofs.Pairing.Partner
import Mathlib.Data.List.Induction
import Mathlib.Data.List.Nodup

namespace ExpressSchema

namespace PropertyTable

/-- The properties before pairing, with the inverses that are to be paired: the names of the
inverses tell them apart, and no inverse gives one of them for that of its forward attribute. -/
structure Apart (t : PropertyTable) (ps : List PendingInverse) : Prop where
  partner?_eq_none : ∀ id, t.partner? id = none
  nameAt?_of_idOf? : ∀ name id, t.idOf? name = some id → t.nameAt? id = some name
  own_named : ∀ p ∈ ps, ∃ name, t.nameAt? p.own = some name ∧ t.contains name = true
  nodup_name : (ps.map fun p => t.nameAt? p.own).Nodup
  forward_ne : ∀ p ∈ ps, ∀ q ∈ ps, t.nameAt? q.own ≠ some p.forward
  qualified_ne : ∀ p ∈ ps, ∀ q ∈ ps,
    t.nameAt? q.own ≠ some (Name.qualified p.forward p.range)

/-- The one is the property of an inverse, and the other is what this inverse runs against. -/
def Runs (t : PropertyTable) (ps : List PendingInverse) (a b : PropertyId) : Prop :=
  ∃ p ∈ ps, (a = p.own ∧ t.forwardOf? p = some b) ∨ (b = p.own ∧ t.forwardOf? p = some a)

variable {t : PropertyTable} {ps qs : List PendingInverse} {p q : PendingInverse}
  {target : PropertyId}

lemma Runs.append_left {a b : PropertyId} (h : t.Runs ps a b) : t.Runs (ps ++ qs) a b := by
  obtain ⟨p, hp, hab⟩ := h
  exact ⟨p, List.mem_append_left _ hp, hab⟩

namespace Apart

lemma of_append (h : t.Apart (ps ++ qs)) : t.Apart ps where
  partner?_eq_none := h.partner?_eq_none
  nameAt?_of_idOf? := h.nameAt?_of_idOf?
  own_named p hp := h.own_named p (List.mem_append_left _ hp)
  nodup_name := (List.nodup_append.1 (List.map_append ▸ h.nodup_name)).1
  forward_ne p hp q hq := h.forward_ne p (List.mem_append_left _ hp) q (List.mem_append_left _ hq)
  qualified_ne p hp q hq :=
    h.qualified_ne p (List.mem_append_left _ hp) q (List.mem_append_left _ hq)

lemma eq_of_nameAt?_eq (h : t.Apart ps) (hp : p ∈ ps) (hq : q ∈ ps)
    (hname : t.nameAt? p.own = t.nameAt? q.own) : p = q :=
  List.inj_on_of_nodup_map h.nodup_name hp hq hname

/-- The next inverse has a name of its own. -/
lemma nameAt?_ne (h : t.Apart (ps ++ [p])) (hq : q ∈ ps) : t.nameAt? q.own ≠ t.nameAt? p.own := by
  have hn := h.nodup_name
  rw [List.map_append, List.nodup_append] at hn
  exact hn.2.2 _ (List.mem_map_of_mem hq) _ (by simp)

lemma own_ne (h : t.Apart (ps ++ [p])) (hq : q ∈ ps) : q.own ≠ p.own :=
  fun heq => h.nameAt?_ne hq (congrArg t.nameAt? heq)

/-- What an inverse runs against is found under one of the two names that it may have. -/
lemma nameAt?_of_forwardOf? (h : t.Apart ps) (ht : t.forwardOf? p = some target) :
    t.nameAt? target = some p.forward ∨
      t.nameAt? target = some (Name.qualified p.forward p.range) := by
  rcases Option.or_eq_some_iff.1 ht with hf | ⟨-, hf⟩
  · exact .inl (h.nameAt?_of_idOf? _ _ hf)
  · exact .inr (h.nameAt?_of_idOf? _ _ hf)

/-- What an inverse runs against is not the property of an inverse. -/
lemma target_ne_own (h : t.Apart ps) (hp : p ∈ ps) (hq : q ∈ ps)
    (ht : t.forwardOf? p = some target) : target ≠ q.own := by
  rintro rfl
  rcases h.nameAt?_of_forwardOf? ht with hname | hname
  · exact h.forward_ne p hp q hq hname
  · exact h.qualified_ne p hp q hq hname

lemma isSome_byId?_target (h : t.Apart ps) (ht : t.forwardOf? p = some target) :
    (t.byId? target).isSome := by
  have hname : (t.nameAt? target).isSome := by
    rcases h.nameAt?_of_forwardOf? ht with hname | hname <;> simp [hname]
  simpa [nameAt?] using hname

lemma isSome_byId?_own (h : t.Apart ps) (hp : p ∈ ps) : (t.byId? p.own).isSome := by
  obtain ⟨name, hname, -⟩ := h.own_named p hp
  simpa [nameAt?] using Option.isSome_of_eq_some hname

end Apart
end PropertyTable

namespace Pairing

/-- A pairing of the properties `t` in which the inverses `ps` have had their turn. -/
structure Steady (t : PropertyTable) (ps : List PendingInverse) (x : Pairing) : Prop where
  unlinkedArena : x.properties.unlinkedArena = t.unlinkedArena
  /-- Of the names only those of inverses go. -/
  idOf?_eq : ∀ name, (∀ p ∈ ps, t.nameAt? p.own ≠ some name) →
    x.properties.idOf? name = t.idOf? name
  /-- Partners are each other's. -/
  partner?_symm : ∀ a b, x.properties.partner? a = some b → x.properties.partner? b = some a
  /-- One of two partners runs against the other. -/
  runs : ∀ a b, x.properties.partner? a = some b → t.Runs ps a b
  /-- An inverse with a partner keeps its name. -/
  own_idOf? : ∀ p ∈ ps, x.properties.partner? p.own ≠ none → ∀ name,
    t.nameAt? p.own = some name → x.properties.idOf? name = t.idOf? name
  /-- What is the partner of an inverse is claimed. -/
  claimed : ∀ p ∈ ps, ∀ target, x.properties.partner? target = some p.own → target ∈ x.claimed

namespace Steady

variable {t : PropertyTable} {ps : List PendingInverse} {p : PendingInverse} {x y : Pairing}
  {target : PropertyId}

/-! ## Before the next inverse has its turn -/

lemma nameAt?_eq (h : Steady t ps x) (id : PropertyId) :
    x.properties.nameAt? id = t.nameAt? id :=
  PropertyTable.nameAt?_congr h.unlinkedArena id

/-- An inverse finds its forward property as if it were the first. -/
lemma forwardOf?_eq (h : Steady t ps x) (hp : t.Apart (ps ++ [p])) :
    x.properties.forwardOf? p = t.forwardOf? p := by
  have hmem : p ∈ ps ++ [p] := by simp
  unfold PropertyTable.forwardOf?
  rw [h.idOf?_eq _ fun q hq => hp.forward_ne p hmem q (List.mem_append_left _ hq),
    h.idOf?_eq _ fun q hq => hp.qualified_ne p hmem q (List.mem_append_left _ hq)]

/-- The next inverse has no partner yet. -/
lemma partner?_own (h : Steady t ps x) (hp : t.Apart (ps ++ [p])) :
    x.properties.partner? p.own = none := by
  rw [Option.eq_none_iff_forall_ne_some]
  intro b hb
  obtain ⟨q, hq, ⟨hown, -⟩ | ⟨-, hforward⟩⟩ := h.runs _ _ hb
  · exact hp.own_ne hq hown.symm
  · exact hp.target_ne_own (List.mem_append_left _ hq) (by simp) hforward rfl

/-- The partner of what the next inverse runs against is an inverse that has had its turn. -/
lemma exists_own_of_partner?_target (h : Steady t ps x) (hp : t.Apart (ps ++ [p]))
    (ht : t.forwardOf? p = some target) {id : PropertyId}
    (hid : x.properties.partner? target = some id) : ∃ q ∈ ps, id = q.own := by
  obtain ⟨q, hq, ⟨hown, -⟩ | ⟨hown, -⟩⟩ := h.runs _ _ hid
  · exact absurd hown (hp.target_ne_own (by simp) (List.mem_append_left _ hq) ht)
  · exact ⟨q, hq, hown⟩

/-- What is not claimed has no partner yet. -/
lemma partner?_target (h : Steady t ps x) (hp : t.Apart (ps ++ [p]))
    (ht : t.forwardOf? p = some target) (hc : target ∉ x.claimed) :
    x.properties.partner? target = none := by
  rw [Option.eq_none_iff_forall_ne_some]
  intro b hb
  obtain ⟨q, hq, rfl⟩ := h.exists_own_of_partner?_target hp ht hb
  exact hc (h.claimed q hq target hb)

/-- Linking the next inverse with what it runs against makes these two partners. -/
lemma partner?_link (h : Steady t ps x) (hp : t.Apart (ps ++ [p]))
    (ht : t.forwardOf? p = some target) (id : PropertyId) :
    (x.properties.link p.own target).partner? id =
      if id = p.own then some target else if id = target then some p.own
      else x.properties.partner? id := by
  have hne : p.own ≠ target := fun heq => hp.target_ne_own (by simp) (by simp) ht heq.symm
  apply PropertyTable.partner?_link hne
  · rw [PropertyTable.isSome_byId?_congr h.unlinkedArena]
    exact hp.isSome_byId?_own (by simp)
  · rw [PropertyTable.isSome_byId?_congr h.unlinkedArena]
    exact hp.isSome_byId?_target ht

/-! ## The ways of an inverse -/

/-- An inverse without a partner is let go, and nothing else changes. -/
lemma letGo_own (h : Steady t ps x) (hp : t.Apart (ps ++ [p]))
    (harena : y.properties.unlinkedArena = x.properties.unlinkedArena)
    (hpartner : ∀ a, y.properties.partner? a = x.properties.partner? a)
    (hidOf : ∀ name, y.properties.idOf? name = (x.properties.letGo p.own).idOf? name)
    (hclaimed : y.claimed = x.claimed) : Steady t (ps ++ [p]) y := by
  have hname : ∀ name, t.nameAt? p.own ≠ some name →
      y.properties.idOf? name = x.properties.idOf? name := by
    intro name hne
    rw [hidOf, PropertyTable.idOf?_letGo, h.nameAt?_eq, if_neg hne]
  have hown : y.properties.partner? p.own = none := (hpartner _).trans (h.partner?_own hp)
  refine ⟨harena.trans h.unlinkedArena, fun name hne => ?_, fun a b hab => ?_, fun a b hab => ?_,
    fun q hq hq' name hqname => ?_, fun q hq target hq' => ?_⟩
  · rw [hname name (hne p (by simp)), h.idOf?_eq name fun q hq => hne q (List.mem_append_left _ hq)]
  · rw [hpartner] at hab ⊢
    exact h.partner?_symm a b hab
  · rw [hpartner] at hab
    exact (h.runs a b hab).append_left
  · rcases List.mem_append.1 hq with hq | hq
    · have hne : t.nameAt? p.own ≠ some name := fun heq =>
        hp.nameAt?_ne hq (hqname.trans heq.symm)
      rw [hpartner] at hq'
      rw [hname name hne, h.own_idOf? q hq hq' name hqname]
    · rw [List.mem_singleton.1 hq] at hq'
      exact absurd hown hq'
  · rw [hclaimed]
    rw [hpartner] at hq'
    rcases List.mem_append.1 hq with hq | hq
    · exact h.claimed q hq target hq'
    · rw [List.mem_singleton.1 hq] at hq'
      have hsymm := h.partner?_symm _ _ hq'
      rw [h.partner?_own hp] at hsymm
      cases hsymm

section Target

variable (h : Steady t ps x) (hp : t.Apart (ps ++ [p])) (ht : t.forwardOf? p = some target)
include h hp ht

/-- An inverse and what it runs against become partners if neither has one. -/
lemma link (hc : target ∉ x.claimed) :
    Steady t (ps ++ [p])
      { x with claimed := target :: x.claimed, properties := x.properties.link p.own target } := by
  have hlink := h.partner?_link hp ht
  have hown := h.partner?_own hp
  have htarget := h.partner?_target hp ht hc
  have hne : target ≠ p.own := hp.target_ne_own (by simp) (by simp) ht
  -- partners from before are neither of the two, as these had none
  have hbefore : ∀ a b, x.properties.partner? a = some b →
      b ≠ p.own ∧ b ≠ target := by
    intro a b hab
    have hsymm := h.partner?_symm a b hab
    constructor
    · rintro rfl
      simp [hown] at hsymm
    · rintro rfl
      simp [htarget] at hsymm
  have hcases : ∀ a b, (x.properties.link p.own target).partner? a = some b →
      a = p.own ∧ b = target ∨ a = target ∧ b = p.own ∨
        a ≠ p.own ∧ a ≠ target ∧ x.properties.partner? a = some b := by
    intro a b hab
    rw [hlink] at hab
    split_ifs at hab with hao hat
    · exact .inl ⟨hao, (Option.some.inj hab).symm⟩
    · exact .inr (.inl ⟨hat, (Option.some.inj hab).symm⟩)
    · exact .inr (.inr ⟨hao, hat, hab⟩)
  refine ⟨?_, fun name hne => ?_, fun a b hab => ?_, fun a b hab => ?_,
    fun q hq hq' name hqname => ?_, fun q hq other hq' => ?_⟩
  · exact (PropertyTable.unlinkedArena_link _ _ _).trans h.unlinkedArena
  · exact h.idOf?_eq name fun q hq => hne q (List.mem_append_left _ hq)
  · rcases hcases a b hab with ⟨rfl, rfl⟩ | ⟨rfl, rfl⟩ | ⟨-, -, hab⟩
    · rw [hlink, if_neg hne, if_pos rfl]
    · rw [hlink, if_pos rfl]
    · obtain ⟨hbo, hbt⟩ := hbefore a b hab
      rw [hlink, if_neg hbo, if_neg hbt, h.partner?_symm a b hab]
  · rcases hcases a b hab with ⟨rfl, rfl⟩ | ⟨rfl, rfl⟩ | ⟨-, -, hab⟩
    · exact ⟨p, by simp, .inl ⟨rfl, ht⟩⟩
    · exact ⟨p, by simp, .inr ⟨rfl, ht⟩⟩
    · exact (h.runs a b hab).append_left
  · change x.properties.idOf? name = _
    rcases List.mem_append.1 hq with hq | hq
    · have hqt : q.own ≠ target :=
        (hp.target_ne_own (by simp) (List.mem_append_left _ hq) ht).symm
      change (x.properties.link p.own target).partner? q.own ≠ none at hq'
      rw [hlink, if_neg (hp.own_ne hq), if_neg hqt] at hq'
      exact h.own_idOf? q hq hq' name hqname
    · rw [List.mem_singleton.1 hq] at hqname
      exact h.idOf?_eq name fun r hr heq => hp.nameAt?_ne hr (heq.trans hqname.symm)
  · rcases hcases other q.own hq' with ⟨-, hqt⟩ | ⟨rfl, -⟩ | ⟨-, -, hother⟩
    · exact absurd hqt.symm (hp.target_ne_own (by simp) hq ht)
    · exact List.mem_cons_self
    · rcases List.mem_append.1 hq with hq | hq
      · exact List.mem_cons_of_mem _ (h.claimed q hq other hother)
      · rw [List.mem_singleton.1 hq] at hother
        exact absurd rfl (hbefore other p.own hother).1

/-- The partner of what the next inverse runs against is found under its name. -/
lemma contains_partner?_target {id : PropertyId} (hid : x.properties.partner? target = some id) :
    ∃ name, x.properties.nameAt? id = some name ∧ x.properties.contains name = true := by
  obtain ⟨q, hq, rfl⟩ := h.exists_own_of_partner?_target hp ht hid
  obtain ⟨name, hname, hcontains⟩ := hp.own_named q (List.mem_append_left _ hq)
  have hpartner : x.properties.partner? q.own ≠ none := by
    rw [h.partner?_symm _ _ hid]
    simp
  refine ⟨name, (h.nameAt?_eq _).trans hname, ?_⟩
  rw [PropertyTable.contains_iff_isSome] at hcontains ⊢
  rw [h.own_idOf? q hq hpartner name hname]
  exact hcontains

/-- What the next inverse runs against is left without a partner, and that partner is let go. -/
lemma part :
    Steady t ps { x with properties := (x.properties.dropPartner target).unlink target } := by
  have hapart := hp.of_append
  have hparted : ∀ a b, ((x.properties.dropPartner target).unlink target).partner? a = some b →
      target ≠ a ∧ x.properties.partner? target ≠ some a ∧ x.properties.partner? a = some b := by
    intro a b hab
    rw [PropertyTable.partner?_unlink, PropertyTable.partner?_dropPartner] at hab
    split_ifs at hab with hta hpa
    exact ⟨hta, hpa, hab⟩
  -- the one name that goes is that of an inverse which is left without a partner
  have hidOf : ∀ name, (∀ q ∈ ps, x.properties.partner? target = some q.own →
      t.nameAt? q.own ≠ some name) →
      ((x.properties.dropPartner target).unlink target).idOf? name = x.properties.idOf? name := by
    intro name hname
    rw [PropertyTable.idOf?_unlink,
      PropertyTable.idOf?_dropPartner fun id hid => h.contains_partner?_target hp ht hid, if_neg]
    intro hlost
    obtain ⟨id, hid, hidname⟩ := Option.bind_eq_some_iff.1 hlost
    obtain ⟨q, hq, rfl⟩ := h.exists_own_of_partner?_target hp ht hid
    exact hname q hq hid ((h.nameAt?_eq _).symm.trans hidname)
  refine ⟨by simpa using h.unlinkedArena, fun name hne => ?_, fun a b hab => ?_,
    fun a b hab => ?_, fun q hq hq' name hqname => ?_, fun q hq other hq' => ?_⟩
  · rw [hidOf name fun q hq _ => hne q hq, h.idOf?_eq name hne]
  · obtain ⟨hta, hpa, hab⟩ := hparted a b hab
    have hba := h.partner?_symm a b hab
    have htb : target ≠ b := by
      rintro rfl
      exact hpa hba
    have hpb : x.properties.partner? target ≠ some b := by
      intro heq
      exact hta (Option.some.inj ((h.partner?_symm _ _ heq).symm.trans hba))
    rw [PropertyTable.partner?_unlink, PropertyTable.partner?_dropPartner, if_neg htb, if_neg hpb,
      hba]
  · exact h.runs a b (hparted a b hab).2.2
  · obtain ⟨b, hb⟩ := Option.ne_none_iff_exists'.1 hq'
    obtain ⟨-, hpq, hqb⟩ := hparted q.own b hb
    have hkept : x.properties.partner? q.own ≠ none := by simp [hqb]
    rw [hidOf name fun r hr hr' hrname => ?_, h.own_idOf? q hq hkept name hqname]
    rw [hapart.eq_of_nameAt?_eq hr hq (hrname.trans hqname.symm)] at hr'
    exact hpq hr'
  · exact h.claimed q hq other (hparted other q.own hq').2.2

end Target

/-- One more inverse has had its turn. -/
lemma step (h : Steady t ps x) (hp : t.Apart (ps ++ [p])) : Steady t (ps ++ [p]) (x.step p) := by
  unfold Pairing.step
  rw [h.forwardOf?_eq hp]
  cases ht : t.forwardOf? p with
  | none =>
    apply h.letGo_own hp
    · simp [Pairing.dropUnknown]
    · simp [Pairing.dropUnknown]
    · simp [Pairing.dropUnknown]
    · rfl
  | some target =>
    dsimp only
    by_cases hc : target ∈ x.claimed
    · rw [if_pos hc]
      apply (h.part hp ht).letGo_own hp
      · simp [Pairing.dropBoth]
      · simp [Pairing.dropBoth]
      · intro name
        dsimp only [Pairing.dropBoth]
        rw [PropertyTable.idOf?_unlink, PropertyTable.idOf?_letGo, PropertyTable.idOf?_letGo,
          PropertyTable.idOf?_unlink,
          PropertyTable.nameAt?_congr (PropertyTable.unlinkedArena_unlink _ target)]
      · rfl
    · rw [if_neg hc]
      unfold Pairing.pairFree
      dsimp only
      split_ifs with hcol
      · -- the partners that were made are taken back, and neither of the two had one before
        apply h.letGo_own hp
        · simp
        · intro a
          simp only [PropertyTable.partner?_unlink, PropertyTable.partner?_letGo,
            h.partner?_link hp ht]
          by_cases hta : target = a
          · subst hta
            simpa using (h.partner?_target hp ht hc).symm
          · by_cases hoa : p.own = a
            · subst hoa
              simpa [hta] using (h.partner?_own hp).symm
            · simp [hta, hoa, Ne.symm hta, Ne.symm hoa]
        · intro name
          rw [PropertyTable.idOf?_unlink, PropertyTable.idOf?_unlink, PropertyTable.idOf?_letGo,
            PropertyTable.idOf?_letGo, PropertyTable.idOf?_link,
            PropertyTable.nameAt?_congr
              (PropertyTable.unlinkedArena_link x.properties p.own target)]
        · rfl
      · exact h.link hp ht hc

end Steady

end Pairing

namespace PropertyTable.Apart

variable {t : PropertyTable} {ps : List PendingInverse}

lemma steady_nil (h : t.Apart []) : Pairing.Steady t [] { properties := t } where
  unlinkedArena := rfl
  idOf?_eq _ _ := rfl
  partner?_symm a b hab := by
    rw [h.partner?_eq_none] at hab
    cases hab
  runs a b hab := by
    rw [h.partner?_eq_none] at hab
    cases hab
  own_idOf? p hp := absurd hp List.not_mem_nil
  claimed p hp := absurd hp List.not_mem_nil

/-- Once all inverses have had their turn, the invariant holds of all of them. -/
theorem steady_foldl (h : t.Apart ps) :
    Pairing.Steady t ps (ps.foldl Pairing.step { properties := t }) := by
  -- the next inverse comes at the end of the list, as the invariant speaks of all before it
  induction ps using List.reverseRecOn with
  | nil => exact h.steady_nil
  | append_singleton ps p ih =>
    rw [List.foldl_append]
    exact (ih h.of_append).step h

/-- At its turn an inverse finds what it would find as the first. -/
theorem forwardOf?_at_turn (h : t.Apart ps) {j : Nat} {p : PendingInverse}
    (hj : ps[j]? = some p) :
    ((ps.take j).foldl Pairing.step { properties := t }).properties.forwardOf? p =
      t.forwardOf? p := by
  have htake : ps.take (j + 1) = ps.take j ++ [p] := by
    rw [List.take_add_one, hj, Option.toList_some]
  have hnext : t.Apart (ps.take j ++ [p]) := by
    rw [← List.take_append_drop (j + 1) ps, htake] at h
    exact h.of_append
  exact hnext.of_append.steady_foldl.forwardOf?_eq hnext

end PropertyTable.Apart

end ExpressSchema
