import Chip8.Binary
import Chip8.Text.Number

/-!
# Shortest decimal text

A floating-point number is written with the fewest digits from which it can be read back. The
digits are looked for on decimal grids that get finer by a tenth each time: of a grid, only the two
points around the number can be the ones. Numbers that are neither very large nor very small are
written with a point at its place, all others with an exponent.
-/

namespace Chip8.Text

/-- The points of a decimal grid around a quotient, the nearer one first, as multiples of the power
of ten. -/
def around (num den : Nat) (power : Int) : List Nat :=
  let n := num * Nat.pow 10 (-power).toNat
  let d := den * Nat.pow 10 power.toNat
  let nearest := roundDiv n d
  [nearest, if nearest * d ≤ n then nearest + 1 else nearest - 1]

/-- Do digits with a power of ten give these bits of a floating-point number back? -/
def readsBack (bits : Nat) (power : Int) (digits : Nat) : Bool :=
  Binary.nearestBits (digits * Nat.pow 10 power.toNat) (Nat.pow 10 (-power).toNat) == bits

/-- The digits of a quotient on the first grid on which it can be read back, and the power of ten
of that grid. With so many grids there is one. -/
def onGrid (bits num den : Nat) : Nat → Int → Nat × Int
  | 0, power => (roundDiv (num * Nat.pow 10 (-power).toNat) (den * Nat.pow 10 power.toNat), power)
  | grids + 1, power =>
      match (around num den power).find? (readsBack bits power) with
      | some digits => (digits, power)
      | none => onGrid bits num den grids (power - 1)

/-- The first power of ten above a quotient that is not zero, and that a floating-point number can
have. -/
def magnitude (num den : Nat) : Int :=
  if den ≤ num then (Nat.toDigits 10 (num / den)).length
  else -((List.range 330).takeWhile fun n => num * Nat.pow 10 (n + 1) < den).length

def quotient (significand : Nat) (exponent : Int) : Nat × Nat :=
  (significand * Nat.pow 2 exponent.toNat, Nat.pow 2 (-exponent).toNat)

/-- The digits of a floating-point number, and the place of the point counted from the front. -/
def shortest (significand : Nat) (exponent : Int) : List Char × Int :=
  if significand = 0 then (['0'], 1)
  else
    let (num, den) := quotient significand exponent
    let (digits, power) :=
      onGrid (Binary.nearestBits num den) num den 17 (magnitude num den - 1)
    let all := Nat.toDigits 10 digits
    let kept := (all.reverse.dropWhile (· = '0')).reverse
    (kept, all.length + power)

/-- The first place at which the point is written; further in front there is an exponent. -/
def firstPlace : Int := -3

def lastPlace : Int := 16

def positional (digits : List Char) (place : Int) : String :=
  if place ≤ 0 then
    "0." ++ String.ofList (List.replicate (-place).toNat '0' ++ digits)
  else
    let before := digits.take place.toNat
    let zeros := List.replicate (place.toNat - before.length) '0'
    let behind := digits.drop place.toNat
    String.ofList (before ++ zeros) ++ "." ++
      (if behind = [] then "0" else String.ofList behind)

/-- Digits with a point behind the first one, and an exponent of two digits at least. -/
def scientific (digits : List Char) (place : Int) : String :=
  let exponent := place - 1
  let behind := digits.drop 1
  String.ofList (digits.take 1) ++ (if behind = [] then "" else "." ++ String.ofList behind) ++
    (if exponent < 0 then "e-" else "e+") ++ padLeft '0' 2 (toString exponent.natAbs)

def real (x : Float) : String :=
  match Binary.ofFloat x with
  | .nan => "nan"
  | .infinite negative => if negative then "-inf" else "inf"
  | .finite negative significand exponent =>
      let (digits, place) := shortest significand exponent
      (if negative then "-" else "") ++
        (if firstPlace ≤ place ∧ place ≤ lastPlace then positional digits place
         else scientific digits place)

def groupedReal (x : Float) : String :=
  let text := (real x).toList
  let sign := text.takeWhile (· = '-')
  let whole := (text.dropWhile (· = '-')).takeWhile Char.isDigit
  let rest := (text.dropWhile (· = '-')).dropWhile Char.isDigit
  String.ofList (sign ++ (groupThree whole.reverse).reverse ++ rest)

example : real 0.1 = "0.1" ∧ real 100.0 = "100.0" ∧ real (-2.5) = "-2.5" := by decide +kernel
example : real 1e16 = "1e+16" ∧ real 1e15 = "1000000000000000.0" := by decide +kernel
example : real 0.0001 = "0.0001" ∧ real 0.00001 = "1e-05" := by decide +kernel
example : real 5e-324 = "5e-324" ∧ real (1 / 3) = "0.3333333333333333" := by decide +kernel
example : groupedReal 1234567.5 = "1,234,567.5" := by decide +kernel

end Chip8.Text
