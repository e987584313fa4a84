import Chip8.CallStack
import Chip8.Error
import Chip8.Instruction
import Chip8.Keypad
import Chip8.Random
import Chip8.Sprite

/-!
# Machine states

A state holds everything that the next instruction may depend on. The program counter and the
index register are sixteen bits wide, although every instruction keeps them below 4096: a debugger
may put any content into them, and into the fault register. `State.WellFormed` lists what holds of
every state that grew from a fresh one.
-/

namespace Chip8

/-! ## Faults -/

/-- Contents of the fault register that have a meaning. -/
inductive Fault where
  /-- The machine runs. -/
  | clear
  | unsupportedOpcode
  | stackOverflow
  | stackUnderflow
deriving DecidableEq

namespace Fault

def all : List Fault := [clear, unsupportedOpcode, stackOverflow, stackUnderflow]

def code : Fault → UInt8
  | clear => 0
  | unsupportedOpcode => 1
  | stackOverflow => 2
  | stackUnderflow => 3

def ofCode? : Int → Option Fault
  | 0 => some clear
  | 1 => some unsupportedOpcode
  | 2 => some stackOverflow
  | 3 => some stackUnderflow
  | _ => none

@[simp] theorem ofCode?_code (f : Fault) : ofCode? f.code.toNat = some f := by
  cases f <;> rfl

theorem ofCode?_eq_clear_iff {code : Int} : ofCode? code = some clear ↔ code = 0 := by
  unfold ofCode?
  split <;> simp_all

end Fault

/-! ## States -/

abbrev Registers := Vector UInt8 16

/-- The register that arithmetic and drawing report to. -/
abbrev flagRegister : Register := Fin.last 15

theorem zero_lt_registers : 0 < 16 := by decide

/-- The register that a jump with an offset adds. -/
abbrev firstRegister : Register := ⟨0, zero_lt_registers⟩

structure State where
  /-- Key of the random number generator. -/
  key : Random.Key
  memory : Memory
  /-- Address of the next instruction. -/
  pc : UInt16
  display : Display
  stack : CallStack
  delay : UInt8
  sound : UInt8
  keypad : Keypad
  /-- The data registers. -/
  v : Registers
  /-- The index register, an address for sprites and blocks. -/
  index : UInt16
  /-- The word that was executed last. -/
  opcode : UInt16
  /-- Zero while the machine runs, otherwise the code of the fault that halted it. -/
  fault : UInt8
  /-- Shifts work on the target register and block transfers leave the index register alone; the
  first machines did otherwise. -/
  modern : Bool
deriving DecidableEq

namespace State

def fresh (key : Random.Key) (modern : Bool) : State where
  key := key
  memory := Memory.blank.store fontStart font
  pc := UInt16.ofNat programStart
  display := Bitmap.blank
  stack := CallStack.empty
  delay := 0
  sound := 0
  keypad := Keypad.released
  v := Vector.replicate 16 0
  index := 0
  opcode := 0
  fault := 0
  modern := modern

def raise (s : State) (f : Fault) : State := { s with fault := f.code }

def halted (s : State) : Bool := s.fault != 0

def advance (s : State) (n : Int) : State := { s with pc := wrap (s.pc.toNat + n) }

def next (s : State) : State := s.advance 2

def skipIf (s : State) (condition : Bool) : State := s.advance (if condition then 4 else 2)

def setV (s : State) (x : Register) (b : UInt8) : State := { s with v := s.v.set x b }

def getV (s : State) (x : Register) : UInt8 := s.v[x]

def soundOn (s : State) : Bool := 0 < s.sound

/-- The error that the fault register stands for, if it is not clear. -/
def error? (s : State) : Option Error :=
  match Fault.ofCode? s.fault.toNat with
  | some .clear => none
  | some .unsupportedOpcode => some (.unsupportedOpcode s.opcode.toNat s.pc.toNat)
  | some .stackOverflow => some (.stackOverflow s.pc.toNat)
  | some .stackUnderflow => some (.stackUnderflow s.pc.toNat)
  | none => some (.unknownFault s.fault.toNat)

/-- Twelve-bit addresses, a tidy stack and a fault register with a meaning. -/
structure WellFormed (s : State) : Prop where
  pc_lt : s.pc < 4096
  index_lt : s.index < 4096
  stack_tidy : s.stack.Tidy
  fault_le : s.fault ≤ 3

theorem wellFormed_fresh (key : Random.Key) (modern : Bool) : (fresh key modern).WellFormed where
  pc_lt := show (0x200 : UInt16) < 4096 by decide
  index_lt := show (0 : UInt16) < 4096 by decide
  stack_tidy := CallStack.tidy_empty
  fault_le := show (0 : UInt8) ≤ 3 by decide

theorem error?_eq_none_iff {s : State} : s.error? = none ↔ s.halted = false := by
  have h : s.halted = false ↔ Fault.ofCode? s.fault.toNat = some .clear := by
    rw [halted, bne_eq_false_iff_eq, ← UInt8.toNat_inj, UInt8.toNat_zero,
      Fault.ofCode?_eq_clear_iff]
    omega
  rw [h, error?]
  split <;> simp_all

end State

end Chip8
