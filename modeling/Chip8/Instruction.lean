import Chip8.DecodeTable
import Chip8.Memory

/-!
# Instructions

An instruction is an operation together with exactly the operands that it reads. The operands are
digits of the instruction word `oxyn`: the registers `x` and `y`, the count `n`, the byte `nn` of
the last two digits and the address `nnn` of the last three.
-/

namespace Chip8

abbrev Register := Fin 16

/-- The operand fields of a word. -/
structure Fields where
  leading : Fin 16
  x : Register
  y : Register
  n : Fin 16
  nn : UInt8
  nnn : Address
deriving DecidableEq

/-- The fields of a word of any size: everything above sixteen bits is ignored. -/
def Fields.ofWord (w : Int) : Fields where
  leading := Bits.digit w 3
  x := Bits.digit w 2
  y := Bits.digit w 1
  n := Bits.digit w 0
  nn := UInt8.ofNat (w % 256).toNat
  nnn := ⟨(w % 4096).toNat, by show _ < 4096; omega⟩

inductive Instruction where
  | sys (nnn : Address)
  | cls
  | ret
  | jp (nnn : Address)
  | call (nnn : Address)
  | seByte (x : Register) (nn : UInt8)
  | sneByte (x : Register) (nn : UInt8)
  | seReg (x y : Register)
  | ldByte (x : Register) (nn : UInt8)
  | addByte (x : Register) (nn : UInt8)
  | ldReg (x y : Register)
  | orReg (x y : Register)
  | andReg (x y : Register)
  | xorReg (x y : Register)
  | addReg (x y : Register)
  | subReg (x y : Register)
  | shr (x y : Register)
  | subnReg (x y : Register)
  | shl (x y : Register)
  | sneReg (x y : Register)
  | ldIndex (nnn : Address)
  | jpOffset (nnn : Address)
  | rnd (x : Register) (nn : UInt8)
  | drw (x y : Register) (n : Fin 16)
  | skp (x : Register)
  | sknp (x : Register)
  | ldFromDelay (x : Register)
  | ldKey (x : Register)
  | ldDelay (x : Register)
  | ldSound (x : Register)
  | addIndex (x : Register)
  | ldGlyph (x : Register)
  | ldDecimal (x : Register)
  | storeRegs (x : Register)
  | loadRegs (x : Register)
deriving DecidableEq

/-- The operation, given the fields to take its operands from. -/
def Operation.instruction (op : Operation) (f : Fields) : Instruction :=
  match op with
  | sys => .sys f.nnn
  | cls => .cls
  | ret => .ret
  | jp => .jp f.nnn
  | call => .call f.nnn
  | seByte => .seByte f.x f.nn
  | sneByte => .sneByte f.x f.nn
  | seReg => .seReg f.x f.y
  | ldByte => .ldByte f.x f.nn
  | addByte => .addByte f.x f.nn
  | ldReg => .ldReg f.x f.y
  | orReg => .orReg f.x f.y
  | andReg => .andReg f.x f.y
  | xorReg => .xorReg f.x f.y
  | addReg => .addReg f.x f.y
  | subReg => .subReg f.x f.y
  | shr => .shr f.x f.y
  | subnReg => .subnReg f.x f.y
  | shl => .shl f.x f.y
  | sneReg => .sneReg f.x f.y
  | ldIndex => .ldIndex f.nnn
  | jpOffset => .jpOffset f.nnn
  | rnd => .rnd f.x f.nn
  | drw => .drw f.x f.y f.n
  | skp => .skp f.x
  | sknp => .sknp f.x
  | ldFromDelay => .ldFromDelay f.x
  | ldKey => .ldKey f.x
  | ldDelay => .ldDelay f.x
  | ldSound => .ldSound f.x
  | addIndex => .addIndex f.x
  | ldGlyph => .ldGlyph f.x
  | ldDecimal => .ldDecimal f.x
  | storeRegs => .storeRegs f.x
  | loadRegs => .loadRegs f.x

namespace Instruction

def operation : Instruction → Operation
  | sys _ => .sys
  | cls => .cls
  | ret => .ret
  | jp _ => .jp
  | call _ => .call
  | seByte _ _ => .seByte
  | sneByte _ _ => .sneByte
  | seReg _ _ => .seReg
  | ldByte _ _ => .ldByte
  | addByte _ _ => .addByte
  | ldReg _ _ => .ldReg
  | orReg _ _ => .orReg
  | andReg _ _ => .andReg
  | xorReg _ _ => .xorReg
  | addReg _ _ => .addReg
  | subReg _ _ => .subReg
  | shr _ _ => .shr
  | subnReg _ _ => .subnReg
  | shl _ _ => .shl
  | sneReg _ _ => .sneReg
  | ldIndex _ => .ldIndex
  | jpOffset _ => .jpOffset
  | rnd _ _ => .rnd
  | drw _ _ _ => .drw
  | skp _ => .skp
  | sknp _ => .sknp
  | ldFromDelay _ => .ldFromDelay
  | ldKey _ => .ldKey
  | ldDelay _ => .ldDelay
  | ldSound _ => .ldSound
  | addIndex _ => .addIndex
  | ldGlyph _ => .ldGlyph
  | ldDecimal _ => .ldDecimal
  | storeRegs _ => .storeRegs
  | loadRegs _ => .loadRegs

@[simp] theorem operation_instruction (op : Operation) (f : Fields) :
    (op.instruction f).operation = op := by
  cases op <;> rfl

def ofWord? (w : Int) : Option Instruction :=
  (Pattern.classify decodeTable w).map fun op => op.instruction (Fields.ofWord w)

end Instruction

end Chip8
