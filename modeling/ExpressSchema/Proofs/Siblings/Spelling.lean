/-
# The spelling of siblings

Names count as one in the index of siblings when their canonical forms are one, and as one member of
a group when they differ in the case of the letters `A` to `Z` only.  On names of which only letters
of ASCII change in capitals the two agree.  On others they do not: a group may list `ä` and `Ä`, and
it may be found under a name that it does not contain.
-/
import ExpressSchema.Proofs.Siblings.FirstListing

namespace ExpressSchema

open SiblingIndex (Operation additions)

/-! ## Two ways to compare names -/

/-- A character outside ASCII is the small letter of no other. -/
lemma Text.eq_of_toLower_eq_of_le {c d : Char} (h : d.toLower = c) (hc : 128 ≤ c.toNat) :
    d = c := by
  rcases Nat.lt_or_ge d.toNat 128 with hlt | hge
  · have hsmall : d.toLower.toNat < 128 :=
      forall_ascii (p := fun d => d.toLower.toNat < 128) (by decide) hlt
    rw [h] at hsmall
    omega
  · rwa [toLower_eq_self_of_le hge] at h

namespace Name

/-- There is no punctuation in the name. -/
def IsBare (name : String) : Prop := bare name.toList = name.toList

/-- Only letters of ASCII change when the name is put in capitals. -/
def AsciiCased (name : String) : Prop :=
  ∀ c ∈ name.toList, 128 ≤ c.toNat → Text.capital c = [c]

instance (name : String) : Decidable (IsBare name) :=
  inferInstanceAs (Decidable (bare name.toList = name.toList))

instance (name : String) : Decidable (AsciiCased name) :=
  inferInstanceAs (Decidable (∀ c ∈ name.toList, 128 ≤ c.toNat → Text.capital c = [c]))

variable {m n : String}

/-- A name of which only letters of ASCII change in capitals is, in small letters, what its canonical
form is. -/
lemma map_toLower_canonical (hbare : IsBare n) (hcased : AsciiCased n) :
    (canonical n).toList.map Char.toLower = n.toList.map Char.toLower := by
  have hchar : ∀ c ∈ n.toList, (Text.capital c).map Char.toLower = [c.toLower] := by
    intro c hc
    rcases Nat.lt_or_ge c.toNat 128 with hlt | hge
    · exact Text.forall_ascii (p := fun c => (Text.capital c).map Char.toLower = [c.toLower])
        (by decide) hlt
    · rw [hcased c hc hge]
      rfl
  rw [toList_canonical, hbare, Text.capitals, List.map_flatMap, List.flatMap_congr hchar]
  exact List.flatMap_pure_eq_map _ _

lemma sameLetters_of_canonical_eq (hm : IsBare m) (hn : IsBare n) (hm' : AsciiCased m)
    (hn' : AsciiCased n) (h : canonical m = canonical n) :
    Text.sameLetters m.toList n.toList = true := by
  rw [Text.sameLetters_iff, ← map_toLower_canonical hm hm', h, map_toLower_canonical hn hn']

/-- Names that differ in the case of the letters `A` to `Z` only are the same outside ASCII. -/
lemma AsciiCased.of_sameLetters (hn : AsciiCased n)
    (h : Text.sameLetters m.toList n.toList = true) : AsciiCased m := by
  intro c hc hge
  have hmem : c.toLower ∈ n.toList.map Char.toLower := by
    rw [← Text.sameLetters_iff.1 h]
    exact List.mem_map_of_mem hc
  obtain ⟨d, hd, hlower⟩ := List.mem_map.1 hmem
  rw [Text.toLower_eq_self_of_le hge] at hlower
  obtain rfl := Text.eq_of_toLower_eq_of_le hlower hge
  exact hn d hd hge

end Name

/-! ## Groups -/

/-- The members of a group are bare, and no two of them differ in the case of the letters `A` to `Z`
only. -/
structure SiblingSet.Tidy (g : SiblingSet) : Prop where
  bare : ∀ m ∈ g.members, Name.IsBare m
  nodup : (g.members.map fun m => m.toList.map Char.toLower).Nodup

namespace SiblingSet

variable {g : SiblingSet} {n : String}

lemma contains_iff :
    g.contains n = true ↔ ∃ m ∈ g.members, Text.sameLetters m.toList n.toList = true :=
  List.any_eq_true

lemma mem_or_eq_of_mem_insert {m : String} (h : m ∈ (g.insert n).members) :
    m ∈ g.members ∨ m = n := by
  unfold insert at h
  split_ifs at h
  · exact .inl h
  · exact (List.mem_append.1 h).imp_right List.mem_singleton.1

namespace Tidy

lemma empty : Tidy ⟨[]⟩ := ⟨fun _ hm => absurd hm List.not_mem_nil, List.nodup_nil⟩

lemma insert (h : g.Tidy) (hn : Name.IsBare n) : (g.insert n).Tidy where
  bare m hm := by
    rcases mem_or_eq_of_mem_insert hm with hm | rfl
    · exact h.bare m hm
    · exact hn
  nodup := by
    unfold SiblingSet.insert
    split_ifs with hcontains
    · exact h.nodup
    · rw [List.map_append, List.map_singleton, ← List.concat_eq_append, List.nodup_concat]
      refine ⟨fun hmem => hcontains ?_, h.nodup⟩
      obtain ⟨m, hm, hsame⟩ := List.mem_map.1 hmem
      exact contains_iff.2 ⟨m, hm, Text.sameLetters_iff.2 hsame⟩

/-- A name of which only letters of ASCII change in capitals is in a group if a member of the same
canonical form is such a name. -/
lemma contains_iff (h : g.Tidy) (hn : Name.IsBare n) (hcased : Name.AsciiCased n) :
    g.contains n = true ↔
      ∃ m ∈ g.members, Name.canonical m = Name.canonical n ∧ Name.AsciiCased m := by
  rw [SiblingSet.contains_iff]
  constructor
  · rintro ⟨m, hm, hsame⟩
    exact ⟨m, hm, Name.canonical_eq_of_sameLetters hsame, hcased.of_sameLetters hsame⟩
  · rintro ⟨m, hm, hkey, hcased'⟩
    exact ⟨m, hm, Name.sameLetters_of_canonical_eq (h.bare m hm) hn hcased' hcased hkey⟩

lemma nodup_canonical (h : g.Tidy) :
    ((g.members.filter fun m => Name.AsciiCased m).map Name.canonical).Nodup := by
  have hsame : (g.members.filter fun m => Name.AsciiCased m).Pairwise fun m m' =>
      m.toList.map Char.toLower ≠ m'.toList.map Char.toLower :=
    (List.pairwise_map.1 h.nodup).sublist List.filter_sublist
  refine List.pairwise_map.2 (hsame.imp_of_mem fun {m m'} hm hm' hne hkey => hne ?_)
  obtain ⟨hmem, hcased⟩ := List.mem_filter.1 hm
  obtain ⟨hmem', hcased'⟩ := List.mem_filter.1 hm'
  exact Text.sameLetters_iff.1 (Name.sameLetters_of_canonical_eq (h.bare m hmem) (h.bare m' hmem')
    (of_decide_eq_true hcased) (of_decide_eq_true hcased') hkey)

end Tidy
end SiblingSet

/-! ## Operations -/

/-- All groups are tidy, and every member of a group is in the index. -/
structure SiblingIndex.Tidy (s : SiblingIndex) : Prop where
  groups : ∀ g ∈ s.sets, g.Tidy
  indexed : ∀ g ∈ s.sets, ∀ m ∈ g.members, Name.canonical m ∈ s.byMember.keys

namespace SiblingIndex

variable {s : SiblingIndex} {set : SiblingSetId} {member : String} {g : SiblingSet}

/-- A group after an addition is one that was there, perhaps with the member put in. -/
lemma exists_of_mem_sets_add (h : g ∈ (s.add set member).2.sets) :
    ∃ g' ∈ s.sets, g = g' ∨ g = g'.insert member := by
  obtain ⟨i, hi⟩ := List.mem_iff_getElem?.1 h
  have hset : (s.add set member).2.set? ⟨i⟩ = some g := hi
  rw [set?_add] at hset
  obtain ⟨g', hg', rfl⟩ := Option.map_eq_some_iff.1 hset
  refine ⟨g', List.mem_of_getElem? hg', ?_⟩
  split_ifs
  · exact .inr rfl
  · exact .inl rfl

namespace Tidy

lemma empty : Tidy {} where
  groups _ hg := absurd hg List.not_mem_nil
  indexed _ hg := absurd hg List.not_mem_nil

lemma openSet (h : s.Tidy) : s.openSet.2.Tidy where
  groups g hg := by
    rcases List.mem_append.1 hg with hg | hg
    · exact h.groups g hg
    · exact List.mem_singleton.1 hg ▸ .empty
  indexed g hg m hm := by
    rcases List.mem_append.1 hg with hg | hg
    · exact h.indexed g hg m hm
    · rw [List.mem_singleton.1 hg] at hm
      exact absurd hm List.not_mem_nil

lemma add (h : s.Tidy) (set : SiblingSetId) (hbare : Name.IsBare member) :
    (s.add set member).2.Tidy where
  groups g hg := by
    obtain ⟨g', hg', rfl | rfl⟩ := exists_of_mem_sets_add hg
    · exact h.groups g hg'
    · exact (h.groups g' hg').insert hbare
  indexed g hg m hm := by
    have hkeys : ∀ key, key ∈ s.byMember.keys ∨ key = Name.canonical member →
        key ∈ (s.add set member).2.byMember.keys := by
      intro key hkey
      rw [keys_byMember_add]
      split_ifs with hknown
      · exact hkey.elim id fun h => h ▸ hknown
      · exact List.mem_append.2 (hkey.imp_right List.mem_singleton.2)
    obtain ⟨g', hg', rfl | rfl⟩ := exists_of_mem_sets_add hg
    · exact hkeys _ (.inl (h.indexed g hg' m hm))
    · rcases SiblingSet.mem_or_eq_of_mem_insert hm with hm | rfl
      · exact hkeys _ (.inl (h.indexed g' hg' m hm))
      · exact hkeys _ (.inr rfl)

lemma after (h : s.Tidy) {operations : List Operation}
    (hbare : ∀ a ∈ additions operations, Name.IsBare a.2) : (s.after operations).Tidy := by
  induction operations generalizing s with
  | nil => exact h
  | cons a operations ih =>
    cases a with
    | openSet => exact ih h.openSet hbare
    | add set member =>
      exact ih (h.add set (hbare (set, member) List.mem_cons_self))
        fun b hb => hbare b (List.mem_cons_of_mem _ hb)

end Tidy
end SiblingIndex

/-! ## Reading -/

lemma Token.isBare_of_mem_names {token : Token} {name : String} (h : name ∈ token.names) :
    Name.IsBare name := by
  obtain ⟨part, hpart, rfl⟩ := List.mem_map.1 h
  obtain ⟨raw, -, rfl⟩ := List.mem_map.1 (List.mem_filter.1 hpart).1
  rw [Name.IsBare, String.toList_ofList, Name.bare_bare]

namespace State

lemma isBare_of_mem_membersListed {entity : EntityId} {token : Token} {name : String}
    (h : name ∈ membersListed entity token) : Name.IsBare name := by
  unfold membersListed at h
  split_ifs at h
  · exact absurd h List.not_mem_nil
  · exact Token.isBare_of_mem_names h

/-- Whatever is added to a group is bare. -/
lemma isBare_of_mem_additions {index : SiblingIndex} {token : Token} {state : State} :
    ∀ a ∈ additions (state.siblingOperations index token), Name.IsBare a.2 := by
  have hadded : ∀ (set : SiblingSetId) (members : List String),
      additions (members.map (.add set)) = members.map (set, ·) := by
    intro set members
    rw [additions, List.filterMap_map]
    exact congrFun List.filterMap_eq_map members
  cases state with
  | siblings entity set =>
    intro a ha
    rw [siblingOperations, hadded] at ha
    obtain ⟨name, hname, rfl⟩ := List.mem_map.1 ha
    exact isBare_of_mem_membersListed hname
  | subtypeClause entity =>
    intro a ha
    rw [siblingOperations] at ha
    split_ifs at ha
    · have hrest : additions (.openSet :: (membersListed entity (token.drop oneOf.length)).map
          (.add index.openSet.1)) = _ := hadded _ _
      rw [hrest] at ha
      obtain ⟨name, hname, rfl⟩ := List.mem_map.1 ha
      exact isBare_of_mem_membersListed hname
    · exact absurd ha List.not_mem_nil
  | _ => exact fun a ha => absurd ha List.not_mem_nil

lemma isBare_of_mem_additionsOf {tokens : List Token} {state : State} {w : Workspace} :
    ∀ a ∈ additions (state.siblingOperationsOf tokens w), Name.IsBare a.2 := by
  induction tokens generalizing state w with
  | nil => exact fun a ha => absurd ha List.not_mem_nil
  | cons token tokens ih =>
    intro a ha
    rw [siblingOperationsOf, SiblingIndex.additions_append] at ha
    rcases List.mem_append.1 ha with ha | ha
    · exact isBare_of_mem_additions a ha
    · exact ih a ha

end State

/-! ## Agreement -/

/-- The index and its groups agree on names of which only letters of ASCII change in capitals. -/
structure SiblingIndex.AgreesInAscii (s : SiblingIndex) : Prop where
  /-- Under every name that some group contains a group is found. -/
  found : ∀ g ∈ s.sets, ∀ n, g.contains n = true → ∃ g', s.get? n = some g'
  /-- A group that is found under a name has a member of its canonical form. -/
  listed : ∀ n g, s.get? n = some g → ∃ m ∈ g.members, Name.canonical m = Name.canonical n
  /-- If only letters of ASCII change in the name, the group contains it just when it has such a
  member in which only letters of ASCII change as well. -/
  contains_iff : ∀ n g, Name.IsBare n → Name.AsciiCased n → s.get? n = some g →
    (g.contains n = true ↔
      ∃ m ∈ g.members, Name.canonical m = Name.canonical n ∧ Name.AsciiCased m)
  /-- No two of these members of a group share a canonical form. -/
  nodup : ∀ g ∈ s.sets, ((g.members.filter fun m => Name.AsciiCased m).map Name.canonical).Nodup

lemma SiblingIndex.Tidy.agreesInAscii {s : SiblingIndex} (h : s.Tidy)
    {listed : List (SiblingSetId × String)} (hkeeps : s.KeepsFirst listed) :
    s.AgreesInAscii where
  found g hg n hn := by
    obtain ⟨m, hm, hsame⟩ := SiblingSet.contains_iff.1 hn
    have hkey : Name.canonical n ∈ s.byMember.keys :=
      Name.canonical_eq_of_sameLetters hsame ▸ h.indexed g hg m hm
    obtain ⟨id, hid⟩ := Option.ne_none_iff_exists'.1 fun hnone =>
      Table.get?_eq_none_iff.1 hnone hkey
    obtain ⟨g', hgroup, -⟩ := hkeeps.coherent _ id hid
    exact ⟨g', Option.bind_eq_some_iff.2 ⟨id, hid, hgroup⟩⟩
  listed n g hn := by
    obtain ⟨id, hid, hgroup⟩ := Option.bind_eq_some_iff.1 hn
    obtain ⟨g', hgroup', hmember⟩ := hkeeps.coherent _ id hid
    obtain rfl := Option.some.inj (hgroup.symm.trans hgroup')
    exact hmember
  contains_iff n g hbare hcased hn := by
    obtain ⟨id, -, hgroup⟩ := Option.bind_eq_some_iff.1 hn
    exact (h.groups g (List.mem_of_getElem? hgroup)).contains_iff hbare hcased
  nodup g hg := (h.groups g hg).nodup_canonical

/-! ## Loading -/

lemma State.agreesInAscii_stepAll (tokens : List Token) :
    (State.topLevel.stepAll tokens {}).2.schema.siblings.AgreesInAscii := by
  have hstart : State.topLevel.Held ({} : Schema) := trivial
  have hlists := State.listsBy_stepAll {} tokens hstart
  have hbare : ∀ a ∈ additions (State.topLevel.siblingOperationsOf tokens {}),
      Name.IsBare a.2 := isBare_of_mem_additionsOf
  have htidy := SiblingIndex.Tidy.empty.after hbare
  have hkeeps := SiblingIndex.KeepsFirst.empty.after hlists.issued
  rw [hlists.siblings]
  exact htidy.agreesInAscii hkeeps

/-- In every schema that is loaded the index of siblings and its groups agree on the names of which
only letters of ASCII change in capitals. -/
theorem Load.siblings_agreeInAscii (settings : LoadSettings) (builtins : Catalogue)
    (lines : List (List Char)) :
    (Load.lines settings builtins lines).schema.siblings.AgreesInAscii := by
  rw [schema_lines_stepAll]
  split_ifs
  · rw [Schema.siblings_resolve]
    exact State.agreesInAscii_stepAll _
  · exact State.agreesInAscii_stepAll _

/-- A group that lists one letter outside ASCII in two spellings, and another letter in one. -/
def umlautText : String := "ENTITY A SUPERTYPE OF (ONEOF (ä, Ä, ö)); END_ENTITY;"

/-- The capital is its own canonical form, and it is in the group that is found under it. -/
theorem siblings_agreeInAscii_umlautText :
    ∃ g, (Load.text ⟨true, true⟩ {} umlautText).schema.siblings.get? "Ä" = some g ∧
      Name.IsBare "Ä" ∧ Name.AsciiCased "Ä" ∧ g.contains "Ä" = true := by
  have hget : ∃ g ∈ (Load.text ⟨true, true⟩ {} umlautText).schema.siblings.get? "Ä",
      "Ä" ∈ g.members := by decide +kernel
  obtain ⟨g, hget, hmem⟩ := hget
  have hbare : Name.IsBare "Ä" := by decide
  have hcased : Name.AsciiCased "Ä" := by
    intro c hc _
    obtain rfl : c = 'Ä' := by simpa using hc
    decide +kernel
  have hagrees := Load.siblings_agreeInAscii ⟨true, true⟩ {} (Text.lines umlautText.toList)
  exact ⟨g, hget, hbare, hcased,
    (hagrees.contains_iff "Ä" g hbare hcased hget).2 ⟨"Ä", hmem, rfl, hcased⟩⟩

/-- One group has two members of one canonical form, and it is found under a name that it does not
contain. -/
theorem siblings_disagree_umlautText :
    ∃ g ∈ (Load.text ⟨true, true⟩ {} umlautText).schema.siblings.get? "Ö",
      Name.IsBare "Ö" ∧ g.contains "Ö" = false ∧
        "ä" ∈ g.members ∧ "Ä" ∈ g.members ∧ Name.canonical "ä" = Name.canonical "Ä" := by
  decide +kernel

end ExpressSchema
