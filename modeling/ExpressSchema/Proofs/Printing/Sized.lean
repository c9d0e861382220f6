/-
# Outlines of any size

Words of any length tell any number of declarations apart.  So an outline may have any number of
entities, and an entity any number of attributes and inverses, more than there are words for their
identifiers.  What such an outline declares is told here without writing it out.
-/
import ExpressSchema.Proofs.Printing.Outline
import ExpressSchema.Proofs.Resolution.Declared
import Mathlib.Data.List.Nodup

namespace ExpressSchema

/-! ## Words of any length -/

namespace Word

/-- The letter `x`, and so many times another letter. -/
def ofLength (n : Nat) : Word where
  chars := 'x' :: List.replicate n 'a'
  ne_nil := List.cons_ne_nil _ _
  isPlainChar_of_mem := List.forall_mem_cons.2 ⟨rfl, fun c hc => by
    rw [List.eq_of_mem_replicate hc]
    rfl⟩
  is_eq_false k hk := by
    have hletter : ∀ k ∈ keywords, 'x' ∉ k.toList.map Char.toLower := by decide
    exact Token.is_eq_false_of_mem List.mem_cons_self (hletter k hk)

/-- Names are told apart by their lengths if these grow with their numbers. -/
lemma injective_of_length {name : Nat → String} (k : Nat)
    (h : ∀ n, (name n).toList.length = n + k) : Function.Injective name := fun m n heq => by
  have hlength : m + k = n + k := by rw [← h m, ← h n, heq]
  exact Nat.add_right_cancel hlength

lemma key_ofLength_injective : Function.Injective fun n => (ofLength n).key :=
  injective_of_length 1 fun n => by simp [key_eq, ofLength]

lemma text_ofLength_injective : Function.Injective fun n => (ofLength n).text :=
  injective_of_length 1 fun n => by simp [ofLength]

lemma qualified_ofLength_injective (entity : String) :
    Function.Injective fun n => Name.qualified (ofLength n).text entity :=
  injective_of_length (entity.toList.length + 2) fun n => by
    simp [Name.qualified, ofLength]
    omega

/-- There is no number sign in a word. -/
lemma notMem_toList_text (x : Word) : '#' ∉ x.text.toList := by
  rw [toList_text]
  exact x.notMem_chars rfl

end Word

/-! ## Many attributes, inverses and entities -/

/-- An attribute with one number for a value. -/
def AttributeOutline.real (name : Word) : AttributeOutline :=
  ⟨name, false, .scalar, .builtin .real⟩

/-- An entity of which nothing is said but what attributes and inverses it has. -/
def EntityOutline.plain (name : Word) (attributes : List AttributeOutline)
    (inverses : List InverseOutline) : EntityOutline :=
  ⟨name, false, none, none, attributes, inverses, []⟩

/-- Each entity of an outline stands at its place with its attributes. -/
lemma map_attributes_entityEntries (os : List EntityOutline) (i n k : Nat) :
    ((entityEntries i n os)[k]?).map (·.2.attributes.length) =
      (os[k]?).map (·.attributes.length) := by
  induction os generalizing i n k with
  | nil => rfl
  | cons o os ih =>
    cases k with
    | zero => simp [entityEntries, EntityOutline.toEntity]
    | succ k => exact ih (i + 1) (n + o.subtypes.toList.length) k

namespace Outline

/-- One attribute after the other, with names of growing length. -/
def manyAttributes (n : Nat) : List AttributeOutline :=
  (List.range n).map fun k => .real (.ofLength k)

lemma getElem?_manyAttributes {n k : Nat} (hk : k < n) :
    (manyAttributes n)[k]? = some (.real (.ofLength k)) := by
  rw [manyAttributes, List.getElem?_map, List.getElem?_range hk, Option.map_some]

/-- So many entities, with names of growing length and one attribute each. -/
def ofEntities (n : Nat) : Outline where
  name := none
  types := []
  entities := (List.range n).map fun k => .plain (.ofLength k) (manyAttributes 1) []
  nodup_types := List.nodup_nil
  nodup_entities := by
    rw [List.map_map]
    exact List.Nodup.map Word.key_ofLength_injective List.nodup_range
  nodup_members := by
    have hnone : ((List.range n).map fun k =>
        EntityOutline.plain (.ofLength k) (manyAttributes 1) []).flatMap
          EntityOutline.subtypeKeys = [] :=
      List.flatMap_eq_nil_iff.2 (List.forall_mem_map.2 fun _ _ => rfl)
    rw [hnone]
    exact List.nodup_nil

/-- The entity at each place has its attribute. -/
lemma map_attributes_ofEntities {n k : Nat} (hk : k < n) :
    ((ofEntities n).toSchema.entityAt? ⟨k⟩).map (·.attributes.length) = some 1 := by
  have hentry : (ofEntities n).entities[k]? =
      some (.plain (.ofLength k) (manyAttributes 1) []) := by
    rw [ofEntities, List.getElem?_map, List.getElem?_range hk, Option.map_some]
  have hat := map_attributes_entityEntries (ofEntities n).entities 0 0 k
  rw [hentry, Option.map_some] at hat
  rw [Schema.entityAt?, Table.at?, Table.entryAt?, Option.map_map]
  exact hat

/-- One entity with these attributes and inverses. -/
def ofEntity (attributes : List AttributeOutline) (inverses : List InverseOutline) : Outline where
  name := none
  types := []
  entities := [.plain (.ofLength 0) attributes inverses]
  nodup_types := List.nodup_nil
  nodup_entities := List.nodup_singleton _
  nodup_members := List.nodup_nil

variable {attributes : List AttributeOutline} {inverses : List InverseOutline}

lemma declaredAttributes_ofEntity : (ofEntity attributes inverses).toSchema.declaredAttributes =
    attributes.map (AttributeOutline.toAttribute ⟨0⟩ false) := List.append_nil _

lemma declaredInverses_ofEntity : (ofEntity attributes inverses).toSchema.declaredInverses =
    inverses.map (InverseOutline.toInverse ⟨0⟩) := List.append_nil _

/-- The names of many attributes within the schema, which differ in their first part. -/
lemma attributeNames_manyAttributes (n : Nat) :
    (ofEntity (manyAttributes n) inverses).toSchema.attributeNames =
      (List.range n).map fun k => Name.qualified (Word.ofLength k).text (Word.ofLength 0).text := by
  refine (List.append_nil _).trans ?_
  simp only [EntityOutline.toEntity, EntityOutline.plain, manyAttributes, List.map_map]
  rfl

/-- An entity without a supertype has its own attributes only. -/
lemma chainAttributes_ofEntity :
    (ofEntity attributes inverses).toSchema.chainAttributes ⟨0⟩ =
      (attributes.map (AttributeOutline.toAttribute ⟨0⟩ false)).zipIdx.map
        fun p => (p.1, .ofNat ⟨0⟩ p.2) := by
  have hroot : (ofEntity attributes inverses).toSchema.supertypeName? ⟨0⟩ = none := rfl
  rw [Schema.chainAttributes, Schema.chain, Schema.followChain_eq, hroot]
  exact List.append_nil _

/-- With many attributes, the identifier at each place is made from the place. -/
lemma getElem?_chainAttributes_ofEntity {n k : Nat} (hk : k < n) :
    ((ofEntity (manyAttributes n) inverses).toSchema.chainAttributes ⟨0⟩)[k]? =
      some ((AttributeOutline.real (.ofLength k)).toAttribute ⟨0⟩ false, .ofNat ⟨0⟩ k) := by
  rw [chainAttributes_ofEntity, List.getElem?_map, List.getElem?_zipIdx, List.getElem?_map,
    getElem?_manyAttributes hk, Option.map_some, Option.map_some, Option.map_some, Nat.zero_add]

end Outline
end ExpressSchema
