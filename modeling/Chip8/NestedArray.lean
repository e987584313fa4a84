import Chip8.Error

/-!
# Nested arrays

What a host hands over as "an array" may have any number of dimensions: a single value, a row of
values, a table, and so on. `shape` counts along the first element of each level, which describes
a rectangular nesting completely. A nesting whose rows differ in length, or stand beside values, is
no array, and neither is one with too many dimensions (`NestedArray.checked`).
-/

namespace Chip8

/-- A value, or a row of nested arrays. -/
inductive NestedArray (α : Type) where
  | one (value : α)
  | row (items : List (NestedArray α))
deriving Inhabited

namespace NestedArray

variable {α : Type}

/-- The lengths of the dimensions, outermost first; a single value has none. -/
def shape : NestedArray α → List Nat
  | one _ => []
  | row [] => [0]
  | row (a :: as) => (as.length + 1) :: a.shape

def dimensionLimit : Nat := 64

def value? : NestedArray α → Option α
  | one a => some a
  | row _ => none

def items? : NestedArray α → Option (List (NestedArray α))
  | one _ => none
  | row items => some items

/-- The dimensions that some arrays of one level have in common, as far as this many levels go, and
whether there is nothing but values below them. -/
def common : Nat → List (NestedArray α) → List Nat × Bool
  | levels, as =>
      if as.all fun a => a.value?.isSome then ([], true)
      else
        match levels, as.mapM items? with
        | levels + 1, some (first :: rest) =>
            if rest.all fun items => items.length = first.length then
              let (below, even) := common levels (first ++ rest.flatten)
              (first.length :: below, even)
            else ([], false)
        | _, _ => ([], false)

/-- The array, unless it is uneven or nested too deeply for one. -/
def checked (a : NestedArray α) : Except Error (NestedArray α) :=
  let (dimensions, even) := common dimensionLimit [a]
  if even then .ok a
  else if dimensions.length = dimensionLimit then .error (.tooManyDimensions dimensionLimit)
  else .error (.unevenArray dimensions)

mutual

def values : NestedArray α → List α
  | one a => [a]
  | row items => valuesOfAll items

def valuesOfAll : List (NestedArray α) → List α
  | [] => []
  | a :: as => a.values ++ valuesOfAll as

end

def values? : NestedArray α → Option (List α)
  | one _ => none
  | row items => items.mapM value?

def table? : NestedArray α → Option (List (List α))
  | one _ => none
  | row items => items.mapM values?

def ofList (xs : List α) : NestedArray α := row (xs.map one)

theorem values?_ofList (xs : List α) : (ofList xs).values? = some xs := by
  simp only [values?, ofList]
  induction xs with
  | nil => rfl
  | cons x xs ih => simp [value?, ih]

/-- A flat array is even, whatever it holds. -/
theorem checked_ofList (xs : List α) : (ofList xs).checked = .ok (ofList xs) := by
  have values : common (dimensionLimit - 1) (xs.map one) = ([], true) := by
    unfold common
    simp [value?]
  have row : common dimensionLimit [ofList xs] = ([xs.length], true) := by
    rw [dimensionLimit] at values ⊢
    unfold common
    simp [ofList, value?, items?, values]
  simp [checked, row]

theorem shape_ofList (xs : List α) : (ofList xs).shape = [xs.length] := by
  cases xs <;> simp [ofList, shape]

example : (row [row [one 1, row []], row [one 2, one 3]]).checked matches
    .error (.unevenArray [2, 2]) := by decide
example : (row [row [], row [one 1]]).checked matches .error (.unevenArray [2]) := by decide
example : (row [row [], (row [] : NestedArray Nat)]).checked matches .ok _ := by decide

end NestedArray

end Chip8
