/-!
# Operations

The thirty-five operations of the instruction set, without their operands, and the numbers and
names under which they are reported. The order is the order of the instruction words.
-/

namespace Chip8

inductive Operation where
  | sys | cls | ret | jp | call
  | seByte | sneByte | seReg
  | ldByte | addByte
  | ldReg | orReg | andReg | xorReg | addReg | subReg | shr | subnReg | shl
  | sneReg | ldIndex | jpOffset | rnd | drw
  | skp | sknp
  | ldFromDelay | ldKey | ldDelay | ldSound | addIndex | ldGlyph | ldDecimal | storeRegs | loadRegs
deriving DecidableEq

namespace Operation

def all : List Operation :=
  [sys, cls, ret, jp, call, seByte, sneByte, seReg, ldByte, addByte, ldReg, orReg, andReg, xorReg,
   addReg, subReg, shr, subnReg, shl, sneReg, ldIndex, jpOffset, rnd, drw, skp, sknp, ldFromDelay,
   ldKey, ldDelay, ldSound, addIndex, ldGlyph, ldDecimal, storeRegs, loadRegs]

/-- The number of an operation: its place in the order. -/
def code (op : Operation) : Nat := all.idxOf op

/-- The number that stands for a word that is no instruction. -/
def noCode : Nat := all.length

/-- The name under which an operation is reported. -/
def name : Operation → String
  | sys => "SYS"
  | cls => "CLS"
  | ret => "RET"
  | jp => "JP"
  | call => "CALL"
  | seByte => "SE_VX_NN"
  | sneByte => "SNE_VX_NN"
  | seReg => "SE_VX_VY"
  | ldByte => "LD_VX_NN"
  | addByte => "ADD_VX_NN"
  | ldReg => "LD_VX_VY"
  | orReg => "OR"
  | andReg => "AND"
  | xorReg => "XOR"
  | addReg => "ADD_VX_VY"
  | subReg => "SUB"
  | shr => "SHR"
  | subnReg => "SUBN"
  | shl => "SHL"
  | sneReg => "SNE_VX_VY"
  | ldIndex => "LD_I"
  | jpOffset => "JP_V0"
  | rnd => "RND"
  | drw => "DRW"
  | skp => "SKP"
  | sknp => "SKNP"
  | ldFromDelay => "LD_VX_DT"
  | ldKey => "LD_VX_K"
  | ldDelay => "LD_DT_VX"
  | ldSound => "LD_ST_VX"
  | addIndex => "ADD_I_VX"
  | ldGlyph => "LD_F_VX"
  | ldDecimal => "LD_B_VX"
  | storeRegs => "LD_MEM_VX"
  | loadRegs => "LD_VX_MEM"

end Operation

end Chip8
