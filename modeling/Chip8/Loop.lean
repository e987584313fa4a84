import Chip8.Bits
import Chip8.Error

/-!
# Loops

How long a loop may be that a host asks for. The rounds are counted in 32 bits (`Loop.countable`),
and if they are numbered beforehand, there has to be room for the numbers (`Loop.numberable`). How
much room there is depends on the computer, but what can be counted can be numbered: the room only
decides how a loop is refused that is too long in any case. A negative number of rounds is as good
as none.
-/

namespace Chip8

/-- The memory that a computer has for an array, in bytes. It holds the numbers of all rounds of a
loop that can be counted, four bytes each. -/
structure Space where
  bytes : Int
  numbers : 4 * 0x80000000 ≤ bytes

def Space.least : Space := ⟨0x200000000, by decide⟩

namespace Loop

def countable (n : Int) : Except Error Unit :=
  if Bits.fits 32 n then .ok () else .error (.notAnOperand n)

/-- Can so many rounds be numbered, with four bytes for each number? A number of more than 64 bits
is left to those who count. -/
def numberable (space : Space) (n : Int) : Except Error Unit :=
  if space.bytes < 4 * n && Bits.fits 64 n then .error (.loopTooLong (4 * n)) else .ok ()

theorem countable_eq_ok_iff {n : Int} :
    countable n = .ok () ↔ -0x80000000 ≤ n ∧ n < 0x80000000 := by
  simp [countable, Bits.fits_32_iff]

theorem countable_eq_error {n : Int} (long : ¬ (-0x80000000 ≤ n ∧ n < 0x80000000)) :
    countable n = .error (.notAnOperand n) :=
  if_neg fun fits => long (countable_eq_ok_iff.mp (if_pos fits))

theorem numberable_of_le (space : Space) {n : Int} (short : n ≤ 0x80000000) :
    numberable space n = .ok () := by
  have enough := space.numbers
  have fits : ¬ space.bytes < 4 * n := by omega
  simp [numberable, fits]

end Loop

end Chip8
