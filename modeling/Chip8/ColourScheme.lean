import Chip8.Picture

/-!
# Colour schemes

The named pairs of colours in which a screen is saved.
-/

namespace Chip8

inductive ColourScheme where
  | classic
  | amber
  | white
  | blue
  | retro
deriving DecidableEq

namespace ColourScheme

def all : List ColourScheme := [classic, amber, white, blue, retro]

def name : ColourScheme → String
  | classic => "classic"
  | amber => "amber"
  | white => "white"
  | blue => "blue"
  | retro => "retro"

def on : ColourScheme → Colour
  | classic => ⟨0, 255, 0⟩
  | amber => ⟨255, 176, 0⟩
  | white => ⟨255, 255, 255⟩
  | blue => ⟨0, 255, 255⟩
  | retro => ⟨255, 255, 0⟩

def off : ColourScheme → Colour
  | classic | amber | white => ⟨0, 0, 0⟩
  | blue => ⟨0, 0, 64⟩
  | retro => ⟨64, 0, 64⟩

def named (name : String) : Except Error ColourScheme :=
  match all.find? fun s => s.name == name with
  | some s => .ok s
  | none => .error (.schemeUnknown name (all.map (·.name)))

theorem named_name (s : ColourScheme) : named s.name = .ok s := by
  cases s <;> rfl

end ColourScheme

end Chip8
