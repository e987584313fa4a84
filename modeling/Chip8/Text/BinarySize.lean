import Chip8.Text.Decimal

/-!
# Sizes in memory

A number of bytes is written in the largest unit that leaves one at least, with three digits or
more. Of the number the 53 leading bits are kept.
-/

namespace Chip8.Text

def binaryUnits : List String := ["bytes", "KiB", "MiB", "GiB", "TiB", "PiB", "EiB"]

/-- A quotient that is rounded to this many places, as a multiple of the last one. -/
def roundedTo (places num den : Nat) : Nat := roundDiv (num * Nat.pow 10 places) den

def binarySize (bytes : Nat) : String :=
  let low := Nat.pow 2 (bytes.log2 - 52)
  let kept := roundDiv bytes low * low
  let power := bytes.log2 / 10
  let power := if roundedTo 0 kept (Nat.pow 1024 power) = 1024 then power + 1 else power
  let rounded (places : Nat) : Nat := roundedTo places kept (Nat.pow 1024 power)
  let places := if rounded 2 < 1000 then 2 else if rounded 1 < 1000 then 1 else 0
  placed places (rounded places) ++ (if places = 0 then "." else "") ++ " " ++
    (binaryUnits[power]?).getD "EiB"

example : binarySize 1536 = "1.50 KiB" ∧ binarySize (3 * 2 ^ 30) = "3.00 GiB" := by decide +kernel
example : binarySize (2 ^ 30 - 1) = "1.00 GiB" ∧ binarySize 600 = "600. bytes" := by decide +kernel

end Chip8.Text
