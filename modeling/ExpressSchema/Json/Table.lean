/-
# Tables as JSON

A table is stored as an object: its keys become the names of the fields, in the order of the
table.  It is read back if its keys and values are.
-/
import ExpressSchema.Json.Value
import ExpressSchema.Table

namespace ExpressSchema
namespace Json

variable {κ α : Type}

/-- A table as an object. -/
def ofTable (name : κ → String) (f : α → Json) (t : Table κ α) : Json :=
  obj (t.entries.map fun e => (name e.1, f e.2))

/-- The key and the value that a field of an object stores. -/
def toPair? (key? : String → Option κ) (f : Json → Option α) (p : String × Json) :
    Option (κ × α) := do
  let key ← key? p.1
  let a ← f p.2
  some (key, a)

/-- The table that an object stores; no key may stand in it twice. -/
def toTable? [DecidableEq κ] (key? : String → Option κ) (f : Json → Option α) (v : Json) :
    Option (Table κ α) := do
  let fields ← v.toFields?
  let entries ← fields.mapM (toPair? key? f)
  Table.ofList? entries

/-- A table is read back if its keys and its values are. -/
theorem toTable?_ofTable [DecidableEq κ] {name : κ → String} {key? : String → Option κ}
    {f : α → Json} {g : Json → Option α} (hk : ∀ k, key? (name k) = some k)
    (h : ∀ a, g (f a) = some a) (t : Table κ α) :
    (ofTable name f t).toTable? key? g = some t := by
  have key : ∀ es : List (κ × α),
      (es.map fun e => (name e.1, f e.2)).mapM (toPair? key? g) = some es := by
    intro es
    induction es with
    | nil => rfl
    | cons e es ih => simp [toPair?, hk, h, ih]
  simp [ofTable, toTable?, toFields?, key]

/-- A table with strings for keys is read back if its values are. -/
theorem toTable?_ofTable_id {f : α → Json} {g : Json → Option α} (h : ∀ a, g (f a) = some a)
    (t : Table String α) : (ofTable id f t).toTable? some g = some t :=
  toTable?_ofTable (fun _ => rfl) h t

end Json
end ExpressSchema
