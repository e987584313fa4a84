/-!
# Integers as infinite words

An integer of any size and sign stands for its two's complement: infinitely many bits to the
left, all zero for a natural number and all one for a negative one. The decoder masks such
words, so that a word may come with junk above its sixteen bits. `Bits.and` is the bitwise
conjunction; `Bits.digit` reads one hexadecimal digit.

Main statements: `and_lowMask` (masking with the lowest `k` ones is the residue modulo `2 ^ k`)
and `digit_emod` (the four lowest digits see the low sixteen bits only).
-/

namespace Chip8.Bits

/-- Bitwise conjunction in two's complement. `-(a + 1)` has exactly the bits that `a` lacks, so
each mixed case removes the common bits from the natural number. -/
def and : Int → Int → Int
  | .ofNat a, .ofNat b => Int.ofNat (a &&& b)
  | .ofNat a, .negSucc b => Int.ofNat (a - (a &&& b))
  | .negSucc a, .ofNat b => Int.ofNat (b - (a &&& b))
  | .negSucc a, .negSucc b => .negSucc (a ||| b)

/-- The `k`-th hexadecimal digit, counted from the low end. -/
def digit (w : Int) (k : Nat) : Fin 16 :=
  ⟨(w / (Nat.pow 16 k : Nat) % 16).toNat, by omega⟩

/-- Do `k` bits hold this number, one of them its sign? -/
def fits (k : Nat) (n : Int) : Bool :=
  -(Nat.pow 2 (k - 1) : Nat) ≤ n && n < (Nat.pow 2 (k - 1) : Nat)

example : fits 8 127 ∧ fits 8 (-128) ∧ ¬ fits 8 128 ∧ ¬ fits 8 (-129) := by decide

theorem fits_32_iff {n : Int} : fits 32 n = true ↔ -0x80000000 ≤ n ∧ n < 0x80000000 := by
  simp [fits]

/-- A mask of `k` ones keeps the residue modulo `2 ^ k`, for negative words as well. -/
theorem and_lowMask (w : Int) (k : Nat) :
    and w (Int.ofNat (Nat.pow 2 k - 1)) = w % (Nat.pow 2 k : Nat) := by
  rw [Nat.pow_eq]
  have hp : (0 : Nat) < 2 ^ k := Nat.two_pow_pos k
  cases w with
  | ofNat a =>
      simp only [and, Nat.and_two_pow_sub_one_eq_mod, Int.ofNat_eq_natCast]
      norm_cast
  | negSucc a =>
      simp only [and, Nat.and_two_pow_sub_one_eq_mod, Int.ofNat_eq_natCast]
      have hlt : a % 2 ^ k < 2 ^ k := Nat.mod_lt _ hp
      rw [Int.negSucc_emod _ (by exact_mod_cast hp)]
      have h : (a : Int) % ((2 ^ k : Nat) : Int) = ((a % 2 ^ k : Nat) : Int) := by norm_cast
      rw [h]
      omega

/-- The four lowest digits depend on the low sixteen bits only. -/
theorem digit_emod (w : Int) {k : Nat} (hk : k < 4) : digit (w % 65536) k = digit w k := by
  apply Fin.ext
  match k, hk with
  | 0, _ => simp only [digit, Nat.pow_eq]; omega
  | 1, _ => simp only [digit, Nat.pow_eq]; omega
  | 2, _ => simp only [digit, Nat.pow_eq]; omega
  | 3, _ => simp only [digit, Nat.pow_eq]; omega

end Chip8.Bits
