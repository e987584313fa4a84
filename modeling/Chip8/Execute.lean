import Chip8.Arithmetic
import Chip8.State

/-!
# What instructions do

`State.perform` gives the effect of each instruction; every instruction moves the program counter
itself. A call pushes its own address, and a return goes on behind the call that it finds there.
Reading comes before writing: the registers that an instruction reads are those before it, even
where it writes to one of them.

`State.execute` records a word of any size as the last one executed and performs the instruction
that it stands for. A word that is no instruction halts the machine where it stands.
-/

namespace Chip8.State

/-! ## Calls and returns -/

def jump (s : State) (a : Address) : State := { s with pc := UInt16.ofNat a.val }

/-- Calls the subroutine at an address, or halts if the stack is full. -/
def call (s : State) (a : Address) : State :=
  if s.stack.isFull then s.raise .stackOverflow
  else { s with stack := s.stack.push s.pc }.jump a

/-- Returns behind the last call, or halts if there is none. -/
def ret (s : State) : State :=
  if s.stack.isEmpty then s.raise .stackUnderflow
  else { s with stack := s.stack.pop.1, pc := s.stack.pop.2 }.next

/-! ## Registers -/

/-- Writes the result of an arithmetic operation, then its flag, which therefore wins where the
target is the flag register. -/
def setFlagged (s : State) (x : Register) (r : Flagged) : State :=
  (s.setV x r.result).setV flagRegister r.flagByte

def shiftOperand (s : State) (x y : Register) : UInt8 := if s.modern then s.getV x else s.getV y

/-- Draws a random byte, keeps the bits under a mask, and moves on to the next key. -/
def random (s : State) (x : Register) (mask : UInt8) : State :=
  { s.setV x (s.key.byte &&& mask) with key := s.key.next }

/-! ## Keys -/

def keyDown (s : State) (x : Register) : Bool := s.keypad[Keypad.key (s.getV x).toNat]

/-- Stores the lowest pressed key and goes on; without one, stays at the instruction. -/
def awaitKey (s : State) (x : Register) : State :=
  match s.keypad.lowest? with
  | some k => (s.setV x (UInt8.ofNat k.val)).next
  | none => s

/-! ## Drawing -/

def sprite (s : State) (x y : Register) (n : Nat) : Sprite :=
  ⟨s.index.toNat, (s.getV x).toNat, (s.getV y).toNat, n⟩

/-- Toggles the pixels of the sprite; the flag register tells whether a lit one went dark. -/
def draw (s : State) (x y : Register) (n : Nat) : State :=
  let mask := (s.sprite x y n).mask s.memory
  { s with display := s.display.xor mask }.setV flagRegister (if s.display.meets mask then 1 else 0)

/-! ## Blocks of memory -/

def decimalDigits (b : UInt8) : List UInt8 := [b / 100, b / 10 % 10, b % 10]

/-- Where the index register points after a block transfer of `V0` to `Vx`. -/
def indexAfterBlock (s : State) (x : Register) : UInt16 :=
  if s.modern then s.index else wrap (s.index.toNat + x.val + 1)

def storeBlock (s : State) (x : Register) : State :=
  { s with
    memory := s.memory.store s.index.toNat (s.v.toList.take (x.val + 1))
    index := s.indexAfterBlock x }

def loadBlock (s : State) (x : Register) : State :=
  { s with
    v := Vector.ofFn fun k => if k ≤ x then s.memory.read (s.index.toNat + k.val) else s.getV k
    index := s.indexAfterBlock x }

/-! ## Instructions -/

def perform (s : State) : Instruction → State
  | .sys _ => s.next
  | .cls => { s with display := Bitmap.blank }.next
  | .ret => s.ret
  | .jp a => s.jump a
  | .call a => s.call a
  | .seByte x b => s.skipIf (s.getV x == b)
  | .sneByte x b => s.skipIf (s.getV x != b)
  | .seReg x y => s.skipIf (s.getV x == s.getV y)
  | .ldByte x b => (s.setV x b).next
  | .addByte x b => (s.setV x (s.getV x + b)).next
  | .ldReg x y => (s.setV x (s.getV y)).next
  | .orReg x y => (s.setV x (s.getV x ||| s.getV y)).next
  | .andReg x y => (s.setV x (s.getV x &&& s.getV y)).next
  | .xorReg x y => (s.setV x (s.getV x ^^^ s.getV y)).next
  | .addReg x y => (s.setFlagged x (Flagged.add (s.getV x) (s.getV y))).next
  | .subReg x y => (s.setFlagged x (Flagged.sub (s.getV x) (s.getV y))).next
  | .shr x y => (s.setFlagged x (Flagged.shiftRight (s.shiftOperand x y))).next
  | .subnReg x y => (s.setFlagged x (Flagged.sub (s.getV y) (s.getV x))).next
  | .shl x y => (s.setFlagged x (Flagged.shiftLeft (s.shiftOperand x y))).next
  | .sneReg x y => s.skipIf (s.getV x != s.getV y)
  | .ldIndex a => { s with index := UInt16.ofNat a.val }.next
  | .jpOffset a => { s with pc := wrap (a.val + (s.getV firstRegister).toNat) }
  | .rnd x b => (s.random x b).next
  | .drw x y n => (s.draw x y n.val).next
  | .skp x => s.skipIf (s.keyDown x)
  | .sknp x => s.skipIf (!s.keyDown x)
  | .ldFromDelay x => (s.setV x s.delay).next
  | .ldKey x => s.awaitKey x
  | .ldDelay x => { s with delay := s.getV x }.next
  | .ldSound x => { s with sound := s.getV x }.next
  | .addIndex x => { s with index := wrap (s.index.toNat + (s.getV x).toNat) }.next
  | .ldGlyph x =>
      { s with index := UInt16.ofNat (fontStart + (s.getV x).toNat % 16 * glyphSize) }.next
  | .ldDecimal x =>
      { s with memory := s.memory.store s.index.toNat (decimalDigits (s.getV x)) }.next
  | .storeRegs x => (s.storeBlock x).next
  | .loadRegs x => (s.loadBlock x).next

/-- Executes a word of any size. -/
def execute (s : State) (w : Int) : State :=
  let s := { s with opcode := UInt16.ofNat (w % 65536).toNat }
  match Instruction.ofWord? w with
  | some i => s.perform i
  | none => s.raise .unsupportedOpcode

/-! ## Debugging

Numbers that a debugger gives have to fit into 32 bits with their sign. -/

def executeGiven (s : State) (w : Int) : Except Error State :=
  if Bits.fits 32 w then .ok (s.execute w) else .error (.notAWord w)

def advanceGiven (s : State) (n : Int) : Except Error State :=
  if Bits.fits 32 n then .ok (s.advance n) else .error (.notAnOperand n)

/-- Pushes a return address, of which twelve bits are kept. -/
def pushGiven (s : State) (a : Int) : Except Error State :=
  if Bits.fits 32 a then .ok { s with stack := s.stack.push (UInt16.ofNat (a % 65536).toNat) }
  else .error (.notAWord a)

end Chip8.State
