/-!
# Integers as text

Integers are written in upper-case hexadecimal with leading zeros, in decimal with grouped
thousands, or as an aligned column. In every case a minus sign counts as part of the field.
-/

namespace Chip8.Text

def padLeft (c : Char) (width : Nat) (s : String) : String :=
  String.ofList (List.replicate (width - s.length) c) ++ s

def hexDigits (n : Nat) : String :=
  String.ofList ((Nat.toDigits 16 n).map Char.toUpper)

/-- Upper-case hexadecimal with leading zeros up to `width` characters, the sign among them. -/
def hex (width : Nat) (n : Int) : String :=
  if n < 0 then "-" ++ padLeft '0' (width - 1) (hexDigits n.natAbs)
  else padLeft '0' width (hexDigits n.natAbs)

def groupThree : List Char → List Char
  | a :: b :: c :: d :: rest => a :: b :: c :: ',' :: groupThree (d :: rest)
  | few => few

def grouped (n : Int) : String :=
  let digits := String.ofList (groupThree (Nat.toDigits 10 n.natAbs).reverse).reverse
  if n < 0 then "-" ++ digits else digits

example : hex 3 80 = "050" := by decide +kernel
example : hex 3 (-1) = "-01" := by decide +kernel
example : hex 3 (-300) = "-12C" := by decide +kernel
example : grouped 1234567 = "1,234,567" := by decide +kernel
example : grouped (-123) = "-123" := by decide +kernel

end Chip8.Text
