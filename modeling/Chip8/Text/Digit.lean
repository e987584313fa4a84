import Chip8.Text.CodeRange

/-!
# Decimal digits

The decimal digits of all scripts, and the whole numbers that are written in them. Each script has
ten digits in a row (version 14 of Unicode); a table holds the zeros. A numeral may have blanks
around it, a sign, and single low lines between its digits.
-/

namespace Chip8.Text

def zeros : List Nat :=
  [0x30, 0x660, 0x6F0, 0x7C0, 0x966, 0x9E6, 0xA66, 0xAE6, 0xB66, 0xBE6, 0xC66, 0xCE6, 0xD66, 0xDE6,
   0xE50, 0xED0, 0xF20, 0x1040, 0x1090, 0x17E0, 0x1810, 0x1946, 0x19D0, 0x1A80, 0x1A90, 0x1B50,
   0x1BB0, 0x1C40, 0x1C50, 0xA620, 0xA8D0, 0xA900, 0xA9D0, 0xA9F0, 0xAA50, 0xABF0, 0xFF10, 0x104A0,
   0x10D30, 0x11066, 0x110F0, 0x11136, 0x111D0, 0x112F0, 0x11450, 0x114D0, 0x11650, 0x116C0,
   0x11730, 0x118E0, 0x11950, 0x11C50, 0x11D50, 0x11DA0, 0x16A60, 0x16AC0, 0x16B50, 0x1D7CE,
   0x1D7D8, 0x1D7E2, 0x1D7EC, 0x1D7F6, 0x1E140, 0x1E2F0, 0x1E950, 0x1FBF0]

def digit? (c : Char) : Option Nat :=
  (zeros.find? fun z => z ≤ c.toNat && c.toNat < z + 10).map fun z => c.toNat - z

/-- The characters that stand for a gap. -/
def gaps : List CodeRange :=
  [⟨0x9, 0xD⟩, ⟨0x1C, 0x20⟩, ⟨0x85, 0x85⟩, ⟨0xA0, 0xA0⟩, ⟨0x1680, 0x1680⟩, ⟨0x2000, 0x200A⟩,
   ⟨0x2028, 0x2029⟩, ⟨0x202F, 0x202F⟩, ⟨0x205F, 0x205F⟩, ⟨0x3000, 0x3000⟩]

def isGap (c : Char) : Bool := CodeRange.covers gaps c

def trimmed (cs : List Char) : List Char :=
  ((cs.dropWhile isGap).reverse.dropWhile isGap).reverse

/-- Reads the rest of a numeral behind a digit; `n` is the number up to there. -/
def further? (n : Nat) : List Char → Option Nat
  | [] => some n
  | '_' :: c :: cs => (digit? c).bind fun d => further? (10 * n + d) cs
  | c :: cs => (digit? c).bind fun d => further? (10 * n + d) cs

def natural? : List Char → Option Nat
  | [] => none
  | c :: cs => (digit? c).bind fun d => further? d cs

def whole? (s : String) : Option Int :=
  match trimmed s.toList with
  | '-' :: cs => (natural? cs).map fun n => -n
  | '+' :: cs => (natural? cs).map Int.ofNat
  | cs => (natural? cs).map Int.ofNat

example : CodeRange.ascending gaps = true := by decide
example : ∀ n : Fin 10, digit? (Char.ofNat (48 + n)) = some n.val := by decide +kernel

example : whole? " -1_000\n" = some (-1000) := by decide +kernel
example : whole? "+٣٠" = some 30 := by decide +kernel
example : whole? "1__0" = none ∧ whole? "_1" = none ∧ whole? "1_" = none := by decide +kernel
example : whole? "" = none ∧ whole? "-" = none ∧ whole? "- 1" = none := by decide +kernel

end Chip8.Text
