/-
# Partners

Two things about a property change while inverses are paired: the property that it is paired with,
its partner, and whether it is found under its name.  This file says what each step of pairing does
to the partners and to the names; everything else about a property stays, which is what `unlinked`
is for.
-/
import ExpressSchema.Proofs.Resolution.Passes

namespace ExpressSchema

/-- A property without its partner. -/
def Property.unlinked (p : Property) : Property := { p with inverse := none }

namespace PropertyTable

/-- The partner of a property. -/
def partner? (t : PropertyTable) (id : PropertyId) : Option PropertyId :=
  (t.byId? id).bind (·.inverse)

/-- All properties without their partners. -/
def unlinkedArena (t : PropertyTable) : List Property := t.arena.map Property.unlinked

/-- The name of a property, if there is such a property. -/
def nameAt? (t : PropertyTable) (id : PropertyId) : Option String := (t.byId? id).map (·.name)

/-- Whether a property may have several values. -/
def isCollectionAt (t : PropertyTable) (id : PropertyId) : Bool :=
  (t.byId? id).any (·.isCollection)

/-! ## What does not change -/

lemma unlinkedArena_modifyById (t : PropertyTable) (id : PropertyId) (f : Property → Property)
    (hf : ∀ p, (f p).unlinked = p.unlinked) :
    (t.modifyById id f).unlinkedArena = t.unlinkedArena := by
  apply List.ext_getElem?
  intro i
  simp only [unlinkedArena, modifyById, List.getElem?_map, List.getElem?_modify]
  cases t.arena[i]? with
  | none => rfl
  | some p => by_cases h : id.index = i <;> simp [h, hf]

@[simp] lemma unlinkedArena_remove (t : PropertyTable) (name : String) :
    (t.remove name).unlinkedArena = t.unlinkedArena := rfl

@[simp] lemma unlinkedArena_link (t : PropertyTable) (a b : PropertyId) :
    (t.link a b).unlinkedArena = t.unlinkedArena := by
  unfold link
  rw [unlinkedArena_modifyById, unlinkedArena_modifyById]
  all_goals exact fun _ => rfl

@[simp] lemma unlinkedArena_unlink (t : PropertyTable) (id : PropertyId) :
    (t.unlink id).unlinkedArena = t.unlinkedArena :=
  unlinkedArena_modifyById t id _ fun _ => rfl

@[simp] lemma unlinkedArena_letGo (t : PropertyTable) (id : PropertyId) :
    (t.letGo id).unlinkedArena = t.unlinkedArena := by
  unfold letGo
  cases t.byId? id <;> rfl

@[simp] lemma unlinkedArena_dropPaired (t : PropertyTable) (id : PropertyId) :
    (t.dropPaired id).unlinkedArena = t.unlinkedArena := by
  unfold dropPaired
  cases t.byId? id with
  | none => simp
  | some p => by_cases h : t.contains p.name <;> simp [h]

@[simp] lemma unlinkedArena_dropPartner (t : PropertyTable) (id : PropertyId) :
    (t.dropPartner id).unlinkedArena = t.unlinkedArena := by
  unfold dropPartner
  cases (t.byId? id).bind (·.inverse) <;> simp

section Same

variable {t u : PropertyTable} (h : t.unlinkedArena = u.unlinkedArena)
include h

lemma map_unlinked_byId?_congr (id : PropertyId) :
    (t.byId? id).map Property.unlinked = (u.byId? id).map Property.unlinked := by
  simp only [byId?, ← List.getElem?_map]
  exact congrArg (·[id.index]?) h

lemma nameAt?_congr (id : PropertyId) : t.nameAt? id = u.nameAt? id := by
  have hid := congrArg (Option.map (·.name)) (map_unlinked_byId?_congr h id)
  simpa [nameAt?, Function.comp_def, Property.unlinked] using hid

lemma isCollectionAt_congr (id : PropertyId) : t.isCollectionAt id = u.isCollectionAt id := by
  have hid := congrArg (Option.any (·.isCollection)) (map_unlinked_byId?_congr h id)
  simpa [isCollectionAt, Option.any_map, Function.comp_def, Property.unlinked,
    Property.isCollection] using hid

lemma isSome_byId?_congr (id : PropertyId) : (t.byId? id).isSome = (u.byId? id).isSome := by
  have hid := congrArg Option.isSome (map_unlinked_byId?_congr h id)
  simpa using hid

end Same

/-! ## Partners -/

@[simp] lemma partner?_remove (t : PropertyTable) (name : String) (id : PropertyId) :
    (t.remove name).partner? id = t.partner? id := rfl

@[simp] lemma partner?_letGo (t : PropertyTable) (a id : PropertyId) :
    (t.letGo a).partner? id = t.partner? id := by
  unfold letGo
  cases t.byId? a <;> rfl

@[simp] lemma partner?_unlink (t : PropertyTable) (a id : PropertyId) :
    (t.unlink a).partner? id = if a = id then none else t.partner? id := by
  simp only [partner?, unlink, byId?_modifyById]
  by_cases h : a = id
  · rw [if_pos h, if_pos h]
    cases t.byId? id <;> rfl
  · rw [if_neg h, if_neg h]

lemma partner?_link {t : PropertyTable} {a b : PropertyId} (hab : a ≠ b)
    (ha : (t.byId? a).isSome) (hb : (t.byId? b).isSome) (id : PropertyId) :
    (t.link a b).partner? id =
      if id = a then some b else if id = b then some a else t.partner? id := by
  obtain ⟨p, hp⟩ := Option.isSome_iff_exists.1 ha
  obtain ⟨q, hq⟩ := Option.isSome_iff_exists.1 hb
  simp only [partner?, link, byId?_modifyById]
  by_cases hia : id = a
  · subst hia
    rw [if_neg fun h => hab h.symm, if_pos rfl, hp]
    simp
  · by_cases hib : id = b
    · subst hib
      rw [if_pos rfl, if_neg hab, hq]
      simp [hia]
    · rw [if_neg fun h => hib h.symm, if_neg fun h => hia h.symm, if_neg hia, if_neg hib]

@[simp] lemma partner?_dropPaired (t : PropertyTable) (a id : PropertyId) :
    (t.dropPaired a).partner? id = if a = id then none else t.partner? id := by
  unfold dropPaired
  rw [partner?_unlink]
  cases t.byId? a with
  | none => rfl
  | some p => by_cases h : t.contains p.name <;> simp [h]

lemma partner?_dropPartner (t : PropertyTable) (target id : PropertyId) :
    (t.dropPartner target).partner? id =
      if t.partner? target = some id then none else t.partner? id := by
  unfold dropPartner
  have hdef : t.partner? target = (t.byId? target).bind (·.inverse) := rfl
  rw [← hdef]
  cases t.partner? target with
  | none => simp
  | some previous => simp

/-! ## Names -/

@[simp] lemma idOf?_unlink (t : PropertyTable) (a : PropertyId) (name : String) :
    (t.unlink a).idOf? name = t.idOf? name := rfl

@[simp] lemma idOf?_link (t : PropertyTable) (a b : PropertyId) (name : String) :
    (t.link a b).idOf? name = t.idOf? name := rfl

lemma idOf?_letGo (t : PropertyTable) (a : PropertyId) (name : String) :
    (t.letGo a).idOf? name = if t.nameAt? a = some name then none else t.idOf? name := by
  unfold letGo nameAt?
  cases t.byId? a with
  | none => simp
  | some p => simp [idOf?_remove, eq_comm]

/-- A partner that is found under its name loses this name, and no other one goes. -/
lemma idOf?_dropPartner {t : PropertyTable} {target : PropertyId}
    (h : ∀ id, t.partner? target = some id → ∃ name, t.nameAt? id = some name ∧ t.contains name)
    (name : String) :
    (t.dropPartner target).idOf? name =
      if (t.partner? target).bind t.nameAt? = some name then none else t.idOf? name := by
  unfold dropPartner
  have hdef : t.partner? target = (t.byId? target).bind (·.inverse) := rfl
  rw [← hdef]
  cases hp : t.partner? target with
  | none => simp
  | some previous =>
    obtain ⟨found, hname, hcontains⟩ := h previous hp
    obtain ⟨p, hbyId, rfl⟩ := Option.map_eq_some_iff.1 hname
    simp [dropPaired, hbyId, hcontains, nameAt?, idOf?_remove, eq_comm]

end PropertyTable

/-! ## Any number of inverses -/

namespace Pairing

lemma unlinkedArena_step (x : Pairing) (p : PendingInverse) :
    (x.step p).properties.unlinkedArena = x.properties.unlinkedArena := by
  unfold step
  cases x.properties.forwardOf? p with
  | none => simp [dropUnknown]
  | some target =>
    dsimp only
    split_ifs
    · simp [dropBoth]
    · unfold pairFree
      dsimp only
      split_ifs <;> simp

/-- Pairing changes nothing of a property but its partner. -/
lemma unlinkedArena_foldl_step (ps : List PendingInverse) (x : Pairing) :
    (ps.foldl step x).properties.unlinkedArena = x.properties.unlinkedArena := by
  induction ps generalizing x with
  | nil => rfl
  | cons p ps ih => rw [List.foldl_cons, ih, unlinkedArena_step]

end Pairing
end ExpressSchema
