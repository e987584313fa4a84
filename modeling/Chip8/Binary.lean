import Chip8.Rounding

/-!
# Binary floating-point numbers

A floating-point number of 64 bits is a whole multiple of a power of two, or infinite, or no number
at all. Here one is taken apart into that exact value (`Binary.ofFloat`), exact values are compared
(`Binary.compare?`), and a quotient of whole numbers is rounded to the nearest floating-point number
in a single step (`Binary.nearest`). The rounding rests on the place of the leading binary digit of
the quotient, which `leadingPlace_bounds` pins down.
-/

namespace Chip8

/-- The exact value of a floating-point number. -/
inductive Binary where
  | nan
  | infinite (negative : Bool)
  | finite (negative : Bool) (significand : Nat) (exponent : Int)

namespace Binary

/-! ## Exact values -/

def ofFloat (x : Float) : Binary :=
  let bits := x.toBits.toNat
  let negative := bits.testBit 63
  let exponent : Nat := bits / 0x10000000000000 % 2048
  let fraction : Nat := bits % 0x10000000000000
  if exponent = 2047 then
    if fraction = 0 then .infinite negative else .nan
  else if exponent = 0 then .finite negative fraction (-1074)
  else .finite negative (0x10000000000000 + fraction) (exponent - 1075)

def ofInt (n : Int) : Binary := .finite (n < 0) n.natAbs 0

def compare? : Binary → Binary → Option Ordering
  | nan, _ => none
  | _, nan => none
  | infinite a, infinite b => some (compare b a)
  | infinite a, finite _ _ _ => some (if a then .lt else .gt)
  | finite _ _ _, infinite b => some (if b then .gt else .lt)
  | finite a m e, finite b n f =>
      let multiple (negative : Bool) (significand : Nat) (exponent : Int) : Int :=
        (if negative then -1 else 1) * significand * (Nat.pow 2 (exponent - min e f).toNat : Nat)
      some (compare (multiple a m e) (multiple b n f))

/-- Whole numbers keep their order. -/
theorem compare?_ofInt (m n : Int) : compare? (ofInt m) (ofInt n) = some (compare m n) := by
  have size (k : Int) : (if decide (k < 0) = true then (-1 : Int) else 1) * k.natAbs = k := by
    by_cases h : k < 0
    · simp only [h, decide_true, if_true]
      omega
    · simp only [h, decide_false, Bool.false_eq_true, if_false]
      omega
  simp only [ofInt, compare?, Int.sub_self, Int.min_self, Int.toNat_zero, Nat.pow,
    Int.ofNat_one, Int.mul_one, size]

/-- The value as a quotient, unless it is infinite or no number. -/
def toRat? : Binary → Option Rat
  | nan | infinite _ => none
  | finite negative significand exponent =>
      let size : Rat :=
        significand * (Nat.pow 2 exponent.toNat : Nat) / (Nat.pow 2 (-exponent).toNat : Nat)
      some (if negative then -size else size)

/-! ## Quotients -/

/-- The quotient `num / den / 2 ^ place` as numerator and denominator. -/
def shifted (num den : Nat) (place : Int) : Nat × Nat :=
  if 0 ≤ place then (num, den * Nat.pow 2 place.toNat) else (num * Nat.pow 2 (-place).toNat, den)

def leadingPlace (num den : Nat) : Int :=
  let guess : Int := num.log2 - den.log2
  if (shifted num den guess).2 ≤ (shifted num den guess).1 then guess else guess - 1

/-- The bits of the floating-point number that is nearest to a quotient, the even one of two. The
last digit that is kept stands 52 places behind the leading one, but never behind the place -1074.
A quotient that is too large gives the bits of infinity or more. -/
def nearestBits (num den : Nat) : Nat :=
  if num = 0 then 0
  else
    let place := max (leadingPlace num den - 52) (-1074)
    let quotient := shifted num den place
    (place + 1074).toNat * 0x10000000000000 + roundDiv quotient.1 quotient.2

def infinityBits : Nat := 0x7FF0000000000000

/-- The floating-point number that is nearest to a quotient with a positive denominator; beyond the
largest one it is infinite. -/
def nearest (num : Int) (den : Nat) : Float :=
  let bits := min (nearestBits num.natAbs den) infinityBits
  Float.ofBits (UInt64.ofNat (if num < 0 then 0x8000000000000000 + bits else bits))

def nearest? (num : Int) (den : Nat) : Option Float :=
  if nearestBits num.natAbs den < infinityBits then some (nearest num den) else none

example : (nearest 1 3).toBits = 0x3FD5555555555555 := by decide +kernel
example : nearest (2 ^ 53 + 1) 1 = nearest (2 ^ 53) 1 := by decide +kernel
example : (nearest? (-5) (2 ^ 1075)).map Float.toBits = some 0x8000000000000002 := by decide +kernel
example : (nearest? (2 ^ 1024) 1).isNone := by decide +kernel

/-! ## The leading place -/

/-- One place less doubles the quotient. -/
theorem shifted_pred (num den : Nat) (place : Int) :
    ((shifted num den (place - 1)).1 = (shifted num den place).1 ∧
        2 * (shifted num den (place - 1)).2 = (shifted num den place).2) ∨
      ((shifted num den (place - 1)).1 = 2 * (shifted num den place).1 ∧
        (shifted num den (place - 1)).2 = (shifted num den place).2) := by
  unfold shifted
  simp only [Nat.pow_eq]
  by_cases h : 1 ≤ place
  · left
    have e : place.toNat = (place - 1).toNat + 1 := by omega
    have h0 : 0 ≤ place := by omega
    have h1 : 0 ≤ place - 1 := by omega
    simp only [h0, h1, if_true]
    rw [e, Nat.pow_succ]
    grind
  · right
    have e : (-(place - 1)).toNat = (-place).toNat + 1 := by omega
    have h1 : ¬ 0 ≤ place - 1 := by omega
    by_cases h0 : 0 ≤ place
    · have z : place = 0 := by omega
      subst z
      simp
      omega
    · simp only [h0, h1, if_false]
      rw [e, Nat.pow_succ]
      grind

/-- The difference of the logarithms is the leading place or one too many. -/
theorem shifted_log (num den : Nat) (hn : num ≠ 0) (hd : den ≠ 0) :
    (shifted num den (num.log2 - den.log2)).2 < 2 * (shifted num den (num.log2 - den.log2)).1 ∧
      (shifted num den (num.log2 - den.log2)).1 <
        2 * (shifted num den (num.log2 - den.log2)).2 := by
  have n1 := Nat.log2_self_le hn
  have n2 := Nat.lt_log2_self (n := num)
  have d1 := Nat.log2_self_le hd
  have d2 := Nat.lt_log2_self (n := den)
  rw [Nat.pow_succ] at n2 d2
  unfold shifted
  simp only [Nat.pow_eq]
  generalize num.log2 = a at *
  generalize den.log2 = b at *
  by_cases h : (0 : Int) ≤ a - b
  · have e : ((a : Int) - b).toNat = a - b := by omega
    have p : 2 ^ b * 2 ^ (a - b) = 2 ^ a := by
      rw [← Nat.pow_add]
      congr 1
      omega
    have lower := Nat.mul_le_mul_right (2 ^ (a - b)) d1
    have upper := Nat.mul_lt_mul_of_pos_right d2 (Nat.two_pow_pos (a - b))
    simp only [h, if_true, e]
    grind
  · have e : (-((a : Int) - b)).toNat = b - a := by omega
    have p : 2 ^ a * 2 ^ (b - a) = 2 ^ b := by
      rw [← Nat.pow_add]
      congr 1
      omega
    have lower := Nat.mul_le_mul_right (2 ^ (b - a)) n1
    have upper := Nat.mul_lt_mul_of_pos_right n2 (Nat.two_pow_pos (b - a))
    simp only [h, if_false, e]
    grind

/-- The quotient lies between the power of two at its leading place and the next one. -/
theorem leadingPlace_bounds (num den : Nat) (hn : num ≠ 0) (hd : den ≠ 0) :
    (shifted num den (leadingPlace num den)).2 ≤ (shifted num den (leadingPlace num den)).1 ∧
      (shifted num den (leadingPlace num den)).1 <
        2 * (shifted num den (leadingPlace num den)).2 := by
  have bounds := shifted_log num den hn hd
  have below := shifted_pred num den (num.log2 - den.log2)
  simp only [leadingPlace]
  split <;> grind

end Binary

end Chip8
