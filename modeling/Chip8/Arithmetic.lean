/-!
# Byte arithmetic with a flag

Five operations on bytes lose a bit, and report it in a flag: the carry of a sum, the absence of
a borrow in a difference, the bit that a shift moves out. Result and flag together determine the
exact value (`add_exact` and its companions), so nothing is lost.
-/

namespace Chip8

/-- A byte and the bit that did not fit into it. -/
structure Flagged where
  result : UInt8
  flag : Bool
deriving DecidableEq

namespace Flagged

def flagByte (f : Flagged) : UInt8 := if f.flag then 1 else 0

/-- The sum; the flag is the carry. -/
def add (a b : UInt8) : Flagged := ⟨a + b, decide (255 < a.toNat + b.toNat)⟩

/-- The difference; the flag says that nothing had to be borrowed. -/
def sub (a b : UInt8) : Flagged := ⟨a - b, decide (b ≤ a)⟩

/-- The right shift by one; the flag is the lowest bit. -/
def shiftRight (a : UInt8) : Flagged := ⟨a >>> 1, a &&& 1 == 1⟩

/-- The left shift by one; the flag is the highest bit. -/
def shiftLeft (a : UInt8) : Flagged := ⟨a <<< 1, a >>> 7 == 1⟩

theorem toNat_flagByte (f : Flagged) : f.flagByte.toNat = f.flag.toNat := by
  cases h : f.flag <;> simp [flagByte, h]

/-! ## Nothing is lost -/

theorem add_exact (a b : UInt8) :
    (add a b).result.toNat + 256 * (add a b).flag.toNat = a.toNat + b.toNat := by
  have ha := a.toNat_lt
  have hb := b.toNat_lt
  by_cases h : 255 < a.toNat + b.toNat <;> simp [add, UInt8.toNat_add, h] <;> omega

theorem sub_exact (a b : UInt8) :
    (sub a b).result.toNat + b.toNat = a.toNat + 256 * (1 - (sub a b).flag.toNat) := by
  have ha := a.toNat_lt
  have hb := b.toNat_lt
  by_cases h : b ≤ a
  · have h' : b.toNat ≤ a.toNat := UInt8.le_iff_toNat_le.mp h
    simp [sub, h]
    omega
  · have h' : a.toNat < b.toNat := by
      rw [UInt8.le_iff_toNat_le] at h
      omega
    simp [sub, UInt8.toNat_sub, h]
    omega

theorem shiftRight_exact (a : UInt8) :
    2 * (shiftRight a).result.toNat + (shiftRight a).flag.toNat = a.toNat := by
  have h : (a &&& 1).toNat = a.toNat % 2 := by
    simp [UInt8.toNat_and, Nat.and_one_is_mod]
  have hr : (a >>> 1).toNat = a.toNat / 2 := by
    simp [UInt8.toNat_shiftRight, Nat.shiftRight_eq_div_pow]
  have hf : (shiftRight a).flag.toNat = a.toNat % 2 := by
    rcases Nat.mod_two_eq_zero_or_one a.toNat with h2 | h2
    · have : a &&& 1 ≠ 1 := fun e => by rw [e] at h; simp [h2] at h
      simp [shiftRight, this, h2]
    · have : a &&& 1 = 1 := UInt8.toNat_inj.mp (by rw [h, h2]; rfl)
      simp [shiftRight, this, h2]
  rw [hf]
  simp only [shiftRight, hr]
  omega

theorem shiftLeft_exact (a : UInt8) :
    (shiftLeft a).result.toNat + 256 * (shiftLeft a).flag.toNat = 2 * a.toNat := by
  have ha := a.toNat_lt
  have h : (a >>> 7).toNat = a.toNat / 128 := by
    simp [UInt8.toNat_shiftRight, Nat.shiftRight_eq_div_pow]
  have hr : (a <<< 1).toNat = 2 * a.toNat % 256 := by
    simp [UInt8.toNat_shiftLeft, Nat.shiftLeft_eq, Nat.mul_comm]
  have hf : (shiftLeft a).flag.toNat = a.toNat / 128 := by
    rcases show a.toNat / 128 = 0 ∨ a.toNat / 128 = 1 by omega with h2 | h2
    · have : a >>> 7 ≠ 1 := fun e => by rw [e] at h; simp [h2] at h
      simp [shiftLeft, this, h2]
    · have : a >>> 7 = 1 := UInt8.toNat_inj.mp (by rw [h, h2]; rfl)
      simp [shiftLeft, this, h2]
  rw [hf]
  simp only [shiftLeft, hr]
  omega

end Flagged

end Chip8
