import Chip8.Bits
import Chip8.Operation

/-!
# The decode table

A word is recognised by masking it and comparing with a pattern. Patterns may overlap, and then
the earlier entry of the table wins. There are two ways to find the winner: `lookup` searches from
the front and stops at the first match, `classify` goes from the back to the front through the
whole table and lets every match override what it has. They agree on every table
(`classify_eq_lookup`).
-/

namespace Chip8

/-- Words that show `bits` under `mask` are instructions with this operation. -/
structure Pattern where
  mask : Int
  bits : Int
  operation : Operation

namespace Pattern

def accepts (p : Pattern) (w : Int) : Bool := Bits.and w p.mask == p.bits

/-- The operation of the first pattern that accepts the word. -/
def lookup (table : List Pattern) (w : Int) : Option Operation :=
  (table.find? fun p => p.accepts w).map (·.operation)

/-- The operation left after every pattern that accepts the word, last one first, has overridden
what was there. -/
def classify (table : List Pattern) (w : Int) : Option Operation :=
  table.foldr (fun p found => if p.accepts w then some p.operation else found) none

theorem classify_eq_lookup (table : List Pattern) (w : Int) :
    classify table w = lookup table w := by
  induction table with
  | nil => rfl
  | cons p rest ih =>
      simp only [classify, lookup, List.foldr_cons, List.find?_cons] at ih ⊢
      by_cases h : p.accepts w <;> simp [h, ih]

end Pattern

/-- The instruction set: exact words first, then what the first digit decides, then what the
first and the last decide, then what the first and the last two decide. -/
def decodeTable : List Pattern :=
  [⟨0xFFFF, 0x00E0, .cls⟩,
   ⟨0xFFFF, 0x00EE, .ret⟩,
   ⟨0xF000, 0x0000, .sys⟩,
   ⟨0xF000, 0x1000, .jp⟩,
   ⟨0xF000, 0x2000, .call⟩,
   ⟨0xF000, 0x3000, .seByte⟩,
   ⟨0xF000, 0x4000, .sneByte⟩,
   ⟨0xF000, 0x5000, .seReg⟩,
   ⟨0xF000, 0x6000, .ldByte⟩,
   ⟨0xF000, 0x7000, .addByte⟩,
   ⟨0xF000, 0x9000, .sneReg⟩,
   ⟨0xF000, 0xA000, .ldIndex⟩,
   ⟨0xF000, 0xB000, .jpOffset⟩,
   ⟨0xF000, 0xC000, .rnd⟩,
   ⟨0xF000, 0xD000, .drw⟩,
   ⟨0xF00F, 0x8000, .ldReg⟩,
   ⟨0xF00F, 0x8001, .orReg⟩,
   ⟨0xF00F, 0x8002, .andReg⟩,
   ⟨0xF00F, 0x8003, .xorReg⟩,
   ⟨0xF00F, 0x8004, .addReg⟩,
   ⟨0xF00F, 0x8005, .subReg⟩,
   ⟨0xF00F, 0x8006, .shr⟩,
   ⟨0xF00F, 0x8007, .subnReg⟩,
   ⟨0xF00F, 0x800E, .shl⟩,
   ⟨0xF0FF, 0xE09E, .skp⟩,
   ⟨0xF0FF, 0xE0A1, .sknp⟩,
   ⟨0xF0FF, 0xF007, .ldFromDelay⟩,
   ⟨0xF0FF, 0xF00A, .ldKey⟩,
   ⟨0xF0FF, 0xF015, .ldDelay⟩,
   ⟨0xF0FF, 0xF018, .ldSound⟩,
   ⟨0xF0FF, 0xF01E, .addIndex⟩,
   ⟨0xF0FF, 0xF029, .ldGlyph⟩,
   ⟨0xF0FF, 0xF033, .ldDecimal⟩,
   ⟨0xF0FF, 0xF055, .storeRegs⟩,
   ⟨0xF0FF, 0xF065, .loadRegs⟩]

end Chip8
