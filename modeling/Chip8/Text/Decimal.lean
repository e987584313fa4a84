import Chip8.Binary
import Chip8.Text.Number

/-!
# Numbers with fixed decimal places

A floating-point number is a whole multiple of a power of two. Written with `places` decimals it
is rounded from that exact value, a half going to the even neighbour, and a negative number keeps
its sign even where all its digits are zero.
-/

namespace Chip8.Text

/-- The digits of `n / 10 ^ places`. -/
def placed (places n : Nat) : String :=
  let whole := toString (n / Nat.pow 10 places)
  if places = 0 then whole
  else whole ++ "." ++ padLeft '0' places (toString (n % Nat.pow 10 places))

def fixed (places : Nat) (x : Float) : String :=
  match Binary.ofFloat x with
  | .nan => "nan"
  | .infinite negative => if negative then "-inf" else "inf"
  | .finite negative significand exponent =>
      let scaled := significand * Nat.pow 10 places
      let n := if 0 ≤ exponent then scaled * Nat.pow 2 exponent.toNat
        else roundDiv scaled (Nat.pow 2 (-exponent).toNat)
      (if negative then "-" else "") ++ placed places n

/-- Decimal text with a fixed number of places in a column of `width` characters. -/
def fixedColumn (width places : Nat) (x : Float) : String :=
  padLeft ' ' width (fixed places x)

end Chip8.Text
