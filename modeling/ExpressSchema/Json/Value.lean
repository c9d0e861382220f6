/-
# JSON values

A schema is stored as JSON.  The values that this needs are null, truth values, natural numbers,
strings, arrays and objects, where an object keeps its fields in order.
-/
namespace ExpressSchema

/-- A JSON value. -/
inductive Json where
  /-- No value. -/
  | null
  /-- A truth value. -/
  | bool (b : Bool)
  /-- A natural number. -/
  | num (n : Nat)
  /-- A string. -/
  | str (s : String)
  /-- A sequence of values. -/
  | arr (items : List Json)
  /-- Named values, in order. -/
  | obj (fields : List (String × Json))
deriving Repr, Inhabited

namespace Json

/-! ## Putting values in -/

/-- A value that may be missing. -/
def ofOption {α : Type} (f : α → Json) : Option α → Json
  | none => null
  | some a => f a

/-- A sequence of values. -/
def ofList {α : Type} (f : α → Json) (xs : List α) : Json := arr (xs.map f)

/-! ## Taking values out -/

/-- The truth value that this is. -/
def toBool? : Json → Option Bool
  | bool b => some b
  | _ => none

/-- The number that this is. -/
def toNat? : Json → Option Nat
  | num n => some n
  | _ => none

/-- The string that this is. -/
def toStr? : Json → Option String
  | str s => some s
  | _ => none

/-- The sequence of values that this is. -/
def toList? {α : Type} (f : Json → Option α) : Json → Option (List α)
  | arr items => items.mapM f
  | _ => none

/-- The value that this is, where null stands for none. -/
def toOption? {α : Type} (f : Json → Option α) : Json → Option (Option α)
  | null => some none
  | v => (f v).map some

/-- The fields of the object that this is. -/
def toFields? : Json → Option (List (String × Json))
  | obj fields => some fields
  | _ => none

/-- The value of a field, as read by `f`. -/
def field? {α : Type} (v : Json) (name : String) (f : Json → Option α) : Option α :=
  v.toFields?.bind fun fields => (fields.find? fun p => p.1 = name).bind fun p => f p.2

@[simp] theorem toBool?_bool (b : Bool) : (bool b).toBool? = some b := rfl

@[simp] theorem toNat?_num (n : Nat) : (num n).toNat? = some n := rfl

@[simp] theorem toStr?_str (s : String) : (str s).toStr? = some s := rfl

@[simp] theorem field?_cons_self {α : Type} (name : String) (v : Json)
    (fields : List (String × Json)) (f : Json → Option α) :
    (obj ((name, v) :: fields)).field? name f = f v := by
  simp [field?, toFields?]

/-- A field is looked for behind the fields with other names. -/
theorem field?_cons_of_ne {α : Type} {other name : String} (h : other ≠ name) (v : Json)
    (fields : List (String × Json)) (f : Json → Option α) :
    (obj ((other, v) :: fields)).field? name f = (obj fields).field? name f := by
  simp [field?, toFields?, h]

/-- A sequence is read back if its members are. -/
theorem toList?_ofList {α : Type} {f : α → Json} {g : Json → Option α}
    (h : ∀ a, g (f a) = some a) (xs : List α) : (ofList f xs).toList? g = some xs := by
  simp only [ofList, toList?]
  induction xs with
  | nil => rfl
  | cons x xs ih => simp [h, ih]

/-- A value that may be missing is read back if it is read back when it is there and is not
null then. -/
theorem toOption?_ofOption {α : Type} {f : α → Json} {g : Json → Option α}
    (h : ∀ a, g (f a) = some a) (hn : ∀ a, f a ≠ null) (o : Option α) :
    (ofOption f o).toOption? g = some o := by
  cases o with
  | none => rfl
  | some a =>
    have hf := h a
    have hne := hn a
    simp only [ofOption]
    cases hv : f a <;> simp_all [toOption?]

end Json
end ExpressSchema
