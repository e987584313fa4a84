import Chip8.Bits
import Chip8.Picture
import Chip8.Seconds
import Chip8.State
import Chip8.Text.Digit
import Chip8.Value.Decimal

/-!
# What values mean

What values mean as numbers, counts, times, faults and truth values. Where a value of another kind
cannot be used, the error says what it was needed for.
-/

namespace Chip8.Value

def toSeconds (v : Value) : Seconds := if v.isWhole then .whole v.toInt else .real v.toFloat

def time (refusal : Kind → Error) (v : Value) : Except Error Seconds :=
  match v with
  | num _ | bool _ => .ok v.toSeconds
  | v => .error (refusal v.kind)

/-- The whole number that a value comes to, without its places; texts are read as numerals. -/
def whole (v : Value) : Except Error Int :=
  match v with
  | num "NaN" => .error .notANumber
  | num "Infinity" | num "-Infinity" => .error .infiniteNumber
  | num _ | bool _ => .ok v.toInt
  | str text =>
      match Text.whole? text with
      | some n => .ok n
      | none => .error (.notANumeral text)
  | v => .error (.ofKind .whole v.kind)

def integer (purpose : Purpose) (v : Value) : Except Error Int :=
  if v.isWhole then .ok v.toInt else .error (.ofKind purpose v.kind)

def count (purpose : Purpose) (v : Value) : Except Error Count :=
  match v with
  | num _ | bool _ => .ok (if v.isWhole then .whole v.toInt else .real v.toFloat)
  | v => .error (.ofKind purpose v.kind)

/-- The lengths of the outermost list and of the first ones within it. -/
def shape : Value → List Nat
  | arr [] => [0]
  | arr (first :: rest) => (rest.length + 1) :: first.shape
  | _ => []

def seed (v : Value) : Except Error Int :=
  match v with
  | arr _ => .error (.seedShape v.shape)
  | v => .ok v.toInt

def fault (v : Value) : Except Error Fault :=
  let code? := do
    let number ← (← (v.count .whole).toOption).finite?
    if number.isInt then some number.num else none
  match code?.bind Fault.ofCode? with
  | some fault => .ok fault
  | none => .error (.notAFault v.written)

/-- The number that is put on the stack for a value. One with places loses them, and is limited to
what 16 bits can hold. -/
def address (v : Value) : Except Error Int :=
  (v.count .address).map fun c => if c.IsWhole then c.truncated else (max 0 (min c 65535)).truncated

/-- The first address and the length of a window of memory. With places it is none, whether it lies
within memory or not. -/
def window (start length : Value) : Except Error (Int × Int) :=
  match start.count .edge, length.count .edge with
  | .ok (.whole start), .ok (.whole length) => .ok (start, length)
  | .ok first, .ok size =>
      let outside := first < 0 ∨ size < 0 ∨ Count.whole memorySize < first + size
      .error (.ofKind (if outside then .hexadecimal else .edge) .real)
  | .error _, _ => .error (.incomparable "<" start.kind .whole)
  | _, .error _ => .error (.incomparable "<" length.kind .whole)

/-- The factor by which a picture is magnified. What is no number is not greater than one either,
and does not magnify. -/
def scale (v : Value) : Except Error Int :=
  match v with
  | num "NaN" | num "-Infinity" => .ok 1
  | num "Infinity" => .error .infiniteNumber
  | num _ | bool _ => .ok v.toInt
  | v => .error (.incomparable ">" v.kind .whole)

/-- The component of a colour that a value stands for. What is no whole number is reduced to a byte,
unless it is longer than 64 bits. -/
def component (v : Value) : Except Error UInt8 := do
  let n ← v.whole
  if v.isWhole ∨ ¬ Bits.fits 64 n then componentOf n else return UInt8.ofNat (n % 256).toNat

/-- Does a value count as true? Nothing, zero, and what is empty do not. -/
def truth : Value → Bool
  | null => false
  | bool b => b
  | num numeral => (num numeral).toFloat != 0
  | str text => text != ""
  | arr items => !items.isEmpty
  | obj fields => !fields.isEmpty

example : (num "2.5e-1").toSeconds < .real 0.26 := by decide +kernel
example : ((num "2.50").count .summand).toOption = some (.real 2.5) := by decide +kernel
example : (str " 1_2 ").whole.toOption = some 12 ∧ (num "-2.9").whole.toOption = some (-2) := by
  decide +kernel

end Chip8.Value
