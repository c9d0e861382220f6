/-
# Entities under their names

Every entity that is read is registered under the canonical form of its name, and stays registered
so.  That is why an entity that is found by its place can also be found by its name, and why two
entities with the same canonical name are the same.
-/
import ExpressSchema.Lookup
import ExpressSchema.Proofs.Inheritance.Descent
import ExpressSchema.Proofs.Reading.Loaded

namespace ExpressSchema
namespace Schema

/-- Every entity stands in the table under the canonical form of its name, and knows it. -/
structure Registered (s : Schema) : Prop where
  key : s.entities.values.map (·.key) = s.entities.keys
  name : (s.entities.values.map fun e => Name.canonical e.name) = s.entities.keys

/-! ## Keeping entities registered -/

lemma SameDescent.registered {s t : Schema} (h : s.SameDescent t) (ht : t.Registered) :
    s.Registered := by
  have hmap : ∀ (f : Entity → String) (g : Descent → String), (∀ e, f e = g e.descent) →
      s.entities.values.map f = t.entities.values.map f := by
    intro f g hf
    have hcomp : f = g ∘ Entity.descent := funext hf
    rw [hcomp, ← List.map_map, ← List.map_map, h.descent]
  constructor
  · rw [hmap (·.key) (·.key) fun _ => rfl, h.keys]
    exact ht.key
  · rw [hmap (fun e => Name.canonical e.name) (fun d => Name.canonical d.name) fun _ => rfl, h.keys]
    exact ht.name

lemma Registered.modifyEntity {s : Schema} (h : s.Registered) (id : EntityId)
    {f : Entity → Entity} (hkey : ∀ e, (f e).key = e.key) (hname : ∀ e, (f e).name = e.name) :
    (s.modifyEntity id f).Registered := by
  have hkeys : (s.modifyEntity id f).entities.keys = s.entities.keys := Table.keys_modifyAt _ _ _
  constructor
  · rw [map_values_modifyEntity s id hkey, hkeys, h.key]
  · rw [map_values_modifyEntity s id fun e => by rw [hname], hkeys, h.name]

lemma Registered.declareEntity {s : Schema} (h : s.Registered) (name : String) :
    (s.declareEntity (Name.canonical name) name).2.Registered := by
  unfold Schema.declareEntity
  rcases s.entities.findOrInsert_cases (Name.canonical name) (Entity.ofName name) with
    ⟨i, -, hfound⟩ | ⟨-, -, hentries⟩
  · rw [hfound]
    exact ⟨h.key, h.name⟩
  · -- the new entity comes last, under the canonical form of its name
    have hkey := h.key
    have hname := h.name
    unfold Table.values Table.keys at hkey hname
    constructor
    · dsimp only
      rw [Table.values, Table.keys, hentries, List.map_append, List.map_append, List.map_append,
        hkey]
      rfl
    · dsimp only
      rw [Table.values, Table.keys, hentries, List.map_append, List.map_append, List.map_append,
        hname]
      rfl

lemma Edit.registered {s t : Schema} (h : Edit s t) (hs : s.Registered) : t.Registered := by
  cases h with
  | declareEntity name => exact hs.declareEntity name
  | setAbstract | setSupertype | setSubtypes | addAttribute | addInverse | markUnique =>
    exact hs.modifyEntity _ (fun _ => rfl) fun _ => rfl
  | _ => exact ⟨hs.key, hs.name⟩

lemma Edits.registered {s t : Schema} (h : Edits s t) (hs : s.Registered) : t.Registered := by
  induction h with
  | refl => exact hs
  | tail _ hedit ih => exact hedit.registered ih

/-- The place of the entity of this name among the entities, which is its identifier unless it is
too large for a word. -/
def placeOf? (s : Schema) (name : String) : Option EntityId :=
  (s.entities.indexOf? (Name.canonical name)).map EntityId.mk

/-- What is found by its name stands where the name stands. -/
lemma entity?_of_indexOf? {s : Schema} {name : String} {i : Nat}
    (h : s.entities.indexOf? (Name.canonical name) = some i) :
    s.entity? name = s.entityAt? ⟨i⟩ :=
  Table.get?_eq_at?_of_indexOf? h

lemma entity?_of_indexOf?_eq_none {s : Schema} {name : String}
    (h : s.entities.indexOf? (Name.canonical name) = none) : s.entity? name = none := by
  rw [entity?, Table.get?_eq_none_iff, ← Table.indexOf?_isSome_iff, h]
  simp

end Schema

/-- Reading registers every entity under its canonical name. -/
theorem Load.registered (builtins : Catalogue) (strips : Bool) (lines : List (List Char)) :
    (Load.lines ⟨false, strips⟩ builtins lines).schema.Registered :=
  (edits_lines builtins strips lines).registered ⟨rfl, rfl⟩

namespace Schema.Registered

variable {s : Schema} (h : s.Registered)
include h

/-! ## Looking up a registered entity -/

lemma key_eq {id : EntityId} {e : Entity} (he : s.entityAt? id = some e) :
    s.entities.keys[id.index]? = some e.key := by
  rw [entityAt?_eq_getElem?] at he
  rw [← h.key, List.getElem?_map, he, Option.map_some]

lemma key_mem {id : EntityId} {e : Entity} (he : s.entityAt? id = some e) :
    e.key ∈ s.entities.keys :=
  List.mem_of_getElem? (h.key_eq he)

lemma canonical_name {id : EntityId} {e : Entity} (he : s.entityAt? id = some e) :
    Name.canonical e.name = e.key := by
  have hkey := h.key_eq he
  rw [entityAt?_eq_getElem?] at he
  rw [← h.name, List.getElem?_map, he, Option.map_some] at hkey
  exact Option.some.inj hkey

lemma placeOf?_name {id : EntityId} {e : Entity} (he : s.entityAt? id = some e) :
    s.placeOf? e.name = some id := by
  rw [placeOf?, h.canonical_name he, Table.indexOf?_eq_some_iff.2 (h.key_eq he), Option.map_some]

/-- Two entities with the same canonical name are the same. -/
lemma eq_of_key_eq {i j : EntityId} {a b : Entity} (ha : s.entityAt? i = some a)
    (hb : s.entityAt? j = some b) (hkey : a.key = b.key) : i = j := by
  have hi := Table.indexOf?_eq_some_iff.2 (h.key_eq ha)
  have hj := Table.indexOf?_eq_some_iff.2 (h.key_eq hb)
  rw [hkey, hj] at hi
  cases i
  cases j
  exact congrArg EntityId.mk (Option.some.inj hi).symm

end Schema.Registered
end ExpressSchema
