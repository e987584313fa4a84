import Chip8.Text.Shortest
import Chip8.Value

/-!
# Decimal numerals

What a numeral stands for. It is read exactly; it may have a sign, a point, an exponent and low
lines between its digits, or name an infinity or what is no number. `Value.ofFloat` is the numeral
of a floating-point number.
-/

namespace Chip8.Value

/-- The number that some digits stand for; other characters do not count. -/
def ofDigits (digits : List Char) : Nat :=
  (digits.filter Char.isDigit).foldl (fun n c => 10 * n + (c.toNat - '0'.toNat)) 0

/-- A number with its sign, which is minus if there is one in front. -/
def signed (negative : Bool) (n : Nat) : Int := if negative then -n else n

def isNegative (numeral : List Char) : Bool := numeral.head? == some '-'

def unsigned (numeral : List Char) : List Char := numeral.dropWhile fun c => c = '-' || c = '+'

/-- The digits of a numeral as one number, and the power of ten that it has to be multiplied by,
without the sign. -/
def decimal (numeral : String) : Nat × Int :=
  let isMark (c : Char) : Bool := c = 'e' || c = 'E'
  let body := unsigned numeral.toList
  let mantissa := body.takeWhile fun c => !isMark c
  let power := (body.dropWhile fun c => !isMark c).drop 1
  let whole := mantissa.takeWhile (· != '.')
  let places := ((mantissa.dropWhile (· != '.')).drop 1).filter Char.isDigit
  (ofDigits (whole ++ places),
    signed (isNegative power) (ofDigits (unsigned power)) - places.length)

/-- The largest power of ten that makes a difference to a floating-point number. -/
def exponentLimit : Int := 400

/-- The floating-point number next to a value; only numbers and truth values have one. -/
def toFloat : Value → Float
  | num "NaN" => 0 / 0
  | num "Infinity" => 1 / 0
  | num "-Infinity" => -1 / 0
  | num numeral =>
      let (digits, exponent) := decimal numeral
      let exponent := max (min exponent exponentLimit) (-5000)
      let x := Binary.nearest (digits * Nat.pow 10 exponent.toNat) (Nat.pow 10 (-exponent).toNat)
      if isNegative numeral.toList then -x else x
  | bool true => 1
  | _ => 0

def toInt : Value → Int
  | num numeral =>
      let (digits, exponent) := decimal numeral
      signed (isNegative numeral.toList)
        (digits * Nat.pow 10 exponent.toNat / Nat.pow 10 (-exponent).toNat)
  | bool true => 1
  | _ => 0

def ofInt (n : Int) : Value := num (toString n)

def ofFloat (x : Float) : Value :=
  match Binary.ofFloat x with
  | .nan => num "NaN"
  | .infinite negative => num (if negative then "-Infinity" else "Infinity")
  | .finite _ _ _ => num (Text.real x)

def ofWhole (numeral : String) : Value := ofInt (num numeral).toInt

/-- The value of a numeral with places or an exponent, or of the name of an infinity or of what is
no number, in letters of any case. -/
def ofReal (numeral : String) : Value :=
  let letters := (unsigned numeral.toList).map Char.toLower
  if letters.head? = some 'i' then
    num (if isNegative numeral.toList then "-Infinity" else "Infinity")
  else if letters.head? = some 'n' then num "NaN"
  else ofFloat (num numeral).toFloat

example : (num "-1.5e2").toInt = -150 ∧ (num "1_0.2_5").toFloat = 10.25 := by decide +kernel
example : (ofReal "1_0E3").text = "10000.0" ∧ (ofReal "-INF").text = "-inf" := by decide +kernel
example : (ofWhole "+1_000").text = "1000" := by decide +kernel

end Chip8.Value
