/-
# The end of a sequence

Asking for the last element of a sequence, and taking it off.
-/
namespace ExpressSchema
namespace Text

variable {α : Type} [DecidableEq α]

/-- Whether a sequence ends with this element. -/
def endsWith (xs : List α) (x : α) : Bool := xs.getLast? = some x

/-- The sequence without this element at its end, if it ends with it. -/
def dropEnd? (xs : List α) (x : α) : Option (List α) :=
  if endsWith xs x then some xs.dropLast else none

/-- The sequence without this element at its end; one that ends otherwise stays as it is. -/
def dropEnd (xs : List α) (x : α) : List α := (dropEnd? xs x).getD xs

@[simp] theorem endsWith_append (xs : List α) (x y : α) : endsWith (xs ++ [y]) x = (y = x) := by
  simp [endsWith]

theorem endsWith_eq_false_of_notMem {xs : List α} {x : α} (h : x ∉ xs) : endsWith xs x = false := by
  rw [endsWith, decide_eq_false_iff_not]
  exact fun hlast => h (List.mem_of_getLast? hlast)

@[simp] theorem dropEnd?_append (xs : List α) (x : α) : dropEnd? (xs ++ [x]) x = some xs := by
  simp [dropEnd?]

@[simp] theorem dropEnd_append (xs : List α) (x : α) : dropEnd (xs ++ [x]) x = xs := by
  simp [dropEnd]

theorem dropEnd_of_not_endsWith {xs : List α} {x : α} (h : endsWith xs x = false) :
    dropEnd xs x = xs := by
  simp [dropEnd, dropEnd?, h]

end Text
end ExpressSchema
