import Chip8.Text.CaseTable

/-!
# Small letters

A text in small letters, whatever its script. Nearly every letter has one small form; two depend on
more. The capital I with a dot becomes a small i that keeps the dot as a mark, and the Greek sigma
takes another form where it ends a word.
-/

namespace Chip8.Text

/-- The small form of a letter on its own; any other character is its own small form. -/
def small (c : Char) : Char :=
  match capitals.find? fun r => c.toNat ≤ r.last with
  | some r =>
      if r.first ≤ c.toNat ∧ (c.toNat - r.first) % r.step = 0 then
        Char.ofNat (c.toNat + r.distance).toNat
      else c
  | none => c

def meetsCase (cs : List Char) : Bool :=
  match cs.find? fun c => !CodeRange.covers passedOver c with
  | some c => CodeRange.covers withCase c
  | none => false

/-- The small form of a character between others; those before it are given backwards. -/
def smallBetween (before : List Char) (c : Char) (after : List Char) : List Char :=
  if c = 'İ' then ['i', '\u0307']
  else if c = 'Σ' then [if meetsCase before && !meetsCase after then 'ς' else 'σ']
  else [small c]

/-- The small forms of characters that stand behind others, which are given backwards. -/
def smallAll (before : List Char) : List Char → List Char
  | [] => []
  | c :: after => smallBetween before c after ++ smallAll (c :: before) after

def lower (s : String) : String := String.ofList (smallAll [] s.toList)

example : ∀ n : Fin 128, small (Char.ofNat n) = (Char.ofNat n).toLower := by
  decide +kernel

example : lower "PÑG" = "pñg" := by decide +kernel
example : lower "ΣΑΣ, Σ" = "σας, σ" := by decide +kernel
example : lower "İ" = "i\u0307" := by decide +kernel

end Chip8.Text
