/-
# A memory for canonical names

The same few names occur over and over in a schema, so the canonical form of a name is worked out
once and remembered.  The memory never changes an answer: what it remembers of a name is the
name's canonical form, and `canonical_fst` says that this is also what it answers.
-/
import ExpressSchema.Name

namespace ExpressSchema
namespace Name

/-- Names that have been asked for, each with its canonical form. -/
structure Cache where
  /-- The remembered pairs, latest first. -/
  known : List (String × String) := []
  /-- Each name is remembered with its canonical form. -/
  sound : ∀ e ∈ known, e.2 = Name.canonical e.1 := by exact List.forall_mem_nil _

namespace Cache

/-- The memory that has not been asked anything. -/
def empty : Cache := {}

instance : Inhabited Cache := ⟨empty⟩

/-- The number of names remembered. -/
def size (c : Cache) : Nat := c.known.length

/-- Whether nothing has been asked yet. -/
def isEmpty (c : Cache) : Bool := c.known.isEmpty

/-- The canonical form of a name, remembered from an earlier call or else from now on. -/
def canonical (c : Cache) (name : String) : String × Cache :=
  match c.known.lookup name with
  | some key => (key, c)
  | none =>
    let key := Name.canonical name
    (key, { known := (name, key) :: c.known
            sound := by
              intro e he
              rcases List.mem_cons.1 he with rfl | he
              · rfl
              · exact c.sound e he })

/-- A pair that is looked up stands in the list. -/
theorem mem_of_lookup {known : List (String × String)} {name key : String}
    (h : known.lookup name = some key) : (name, key) ∈ known := by
  induction known with
  | nil => simp at h
  | cons e es ih =>
    obtain ⟨a, b⟩ := e
    rw [List.lookup_cons] at h
    split at h
    · rename_i heq
      rw [beq_iff_eq] at heq
      simp_all
    · exact List.mem_cons_of_mem _ (ih h)

/-- The memory answers with the canonical form, whatever was asked before. -/
@[simp] theorem canonical_fst (c : Cache) (name : String) :
    (c.canonical name).1 = Name.canonical name := by
  unfold canonical
  split
  · rename_i key h
    exact c.sound _ (mem_of_lookup h)
  · rfl

end Cache
end Name
end ExpressSchema
