import Chip8.Count
import Chip8.Error

/-!
# Times in seconds

A clock shows whole seconds, which are exact at any size, or a floating-point number of them. The
time between two whole readings is exact; where a floating-point number takes part, the result is
one, which there is not for a whole reading beyond the largest of them (`Seconds.since`). Readings
are compared by their exact values. A rate is a number of events divided by the time that they took,
rounded once (`Seconds.per`).
-/

namespace Chip8

/-- A reading of a clock, or the time between two of them. -/
inductive Seconds where
  | whole (n : Int)
  | real (x : Float)

namespace Seconds

def toFloat : Seconds → Except Error Float
  | whole n =>
      match Binary.nearest? n 1 with
      | some x => .ok x
      | none => .error .numberTooLarge
  | real x => .ok x

def value : Seconds → Binary
  | whole n => Binary.ofInt n
  | real x => Binary.ofFloat x

def since (later earlier : Seconds) : Except Error Seconds :=
  match later, earlier with
  | whole a, whole b => .ok (whole (a - b))
  | a, b => do return real ((← a.toFloat) - (← b.toFloat))

instance (n : Nat) : OfNat Seconds n := ⟨whole n⟩

instance : LT Seconds := ⟨fun a b => Binary.compare? a.value b.value = some .lt⟩

instance : LE Seconds := ⟨fun a b => (Binary.compare? a.value b.value).any Ordering.isLE⟩

instance : DecidableLT Seconds := fun a b =>
  inferInstanceAs (Decidable (Binary.compare? a.value b.value = some .lt))

instance : DecidableLE Seconds := fun a b =>
  inferInstanceAs (Decidable ((Binary.compare? a.value b.value).any Ordering.isLE = true))

def atLeast (t least : Seconds) : Seconds := if t < least then least else t

/-- How many events there are in a second, if there are `count` of them in this time, which has to
be positive. -/
def per (t : Seconds) (count : Count) : Except Error Float :=
  match t, count with
  | whole n, .whole events =>
      match Binary.nearest? events n.toNat with
      | some rate => .ok rate
      | none => .error .quotientTooLarge
  | t, count => do
      let length ← t.toFloat
      match count.toFloat? with
      | some events => return events / length
      | none => throw .numberTooLarge

example : (whole (10 ^ 99 + 1)).since (whole (10 ^ 99)) = .ok (whole 1) := rfl
example : ((whole (10 ^ 99)).since (real 1)).isOk = true := by decide +kernel
example : ((whole (10 ^ 199 * 10 ^ 199)).since (real 1)).isOk = false := by decide +kernel
example : real 9007199254740992 < whole (2 ^ 53 + 1) := by decide +kernel
example : ¬ real (0 / 0) < 1 ∧ ¬ real (0 / 0) ≤ 1 := by decide +kernel

end Seconds

end Chip8
