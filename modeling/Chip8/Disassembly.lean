import Chip8.Instruction
import Chip8.Text.Number

/-!
# Disassembly

The text of an instruction is a mnemonic and its operands, separated by commas. Every operand that
the instruction reads is shown. A word that is no instruction is shown as a number.
-/

namespace Chip8

inductive Operand where
  /-- A data register. -/
  | register (x : Register)
  /-- A byte in the instruction word. -/
  | byte (b : UInt8)
  /-- An address in the instruction word. -/
  | address (a : Address)
  /-- A number of rows. -/
  | rows (n : Fin 16)
  /-- The index register. -/
  | index
  /-- The memory that the index register points to. -/
  | atIndex
  /-- The delay timer. -/
  | delay
  /-- The sound timer. -/
  | sound
  /-- The next key. -/
  | key
  /-- The glyph of a digit. -/
  | glyph
  /-- The decimal digits of a byte. -/
  | decimal
deriving DecidableEq

def Operand.text : Operand → String
  | register x => "V" ++ Text.hex 1 x.val
  | byte b => "0x" ++ Text.hex 2 b.toNat
  | address a => "0x" ++ Text.hex 3 a.val
  | rows n => toString n.val
  | index => "I"
  | atIndex => "[I]"
  | delay => "DT"
  | sound => "ST"
  | key => "K"
  | glyph => "F"
  | decimal => "B"

namespace Instruction

def mnemonic : Instruction → String
  | sys _ => "SYS"
  | cls => "CLS"
  | ret => "RET"
  | jp _ | jpOffset _ => "JP"
  | call _ => "CALL"
  | seByte _ _ | seReg _ _ => "SE"
  | sneByte _ _ | sneReg _ _ => "SNE"
  | addByte _ _ | addReg _ _ | addIndex _ => "ADD"
  | orReg _ _ => "OR"
  | andReg _ _ => "AND"
  | xorReg _ _ => "XOR"
  | subReg _ _ => "SUB"
  | shr _ _ => "SHR"
  | subnReg _ _ => "SUBN"
  | shl _ _ => "SHL"
  | rnd _ _ => "RND"
  | drw _ _ _ => "DRW"
  | skp _ => "SKP"
  | sknp _ => "SKNP"
  | ldByte _ _ | ldReg _ _ | ldIndex _ | ldFromDelay _ | ldKey _ | ldDelay _ | ldSound _
  | ldGlyph _ | ldDecimal _ | storeRegs _ | loadRegs _ => "LD"

def operands : Instruction → List Operand
  | cls | ret => []
  | sys a | jp a | call a => [.address a]
  | jpOffset a => [.register 0, .address a]
  | ldIndex a => [.index, .address a]
  | seByte x b | sneByte x b | ldByte x b | addByte x b | rnd x b => [.register x, .byte b]
  | seReg x y | sneReg x y | ldReg x y | orReg x y | andReg x y | xorReg x y | addReg x y
  | subReg x y | shr x y | subnReg x y | shl x y => [.register x, .register y]
  | drw x y n => [.register x, .register y, .rows n]
  | skp x | sknp x => [.register x]
  | ldFromDelay x => [.register x, .delay]
  | ldKey x => [.register x, .key]
  | ldDelay x => [.delay, .register x]
  | ldSound x => [.sound, .register x]
  | addIndex x => [.index, .register x]
  | ldGlyph x => [.glyph, .register x]
  | ldDecimal x => [.decimal, .register x]
  | storeRegs x => [.atIndex, .register x]
  | loadRegs x => [.register x, .atIndex]

def text (i : Instruction) : String :=
  match i.operands with
  | [] => i.mnemonic
  | operands => i.mnemonic ++ " " ++ ", ".intercalate (operands.map (·.text))

end Instruction

/-- The text of the low sixteen bits of a word. -/
def disassemble (w : Int) : String :=
  let w := w % 65536
  match Pattern.lookup decodeTable w with
  | some op => (op.instruction (Fields.ofWord w)).text
  | none => "???? 0x" ++ Text.hex 4 w

end Chip8
