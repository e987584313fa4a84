import Chip8.Execute
import Chip8.Loop

/-!
# Cycles and frames

A cycle executes the word at the program counter, unless the machine is halted. A frame is a
number of cycles followed by one tick of the timers, sixty times a second; the timers tick on a
halted machine as well. Loops over cycles and frames count in 32 bits, so what a host asks for has
to fit into them (`State.runGiven`, `State.frameGiven`, `State.framesGiven`).
-/

namespace Chip8

abbrev frameRate : Nat := 60

namespace State

def fetch (s : State) : UInt16 :=
  UInt16.ofNat (256 * (s.memory.read s.pc.toNat).toNat + (s.memory.read (s.pc.toNat + 1)).toNat)

def step (s : State) : State :=
  if s.halted then s else s.execute s.fetch.toNat

def run (s : State) : Nat → State
  | 0 => s
  | n + 1 => s.step.run n

/-- The states after each of `n` cycles. -/
def trajectory (s : State) : Nat → List State
  | 0 => []
  | n + 1 => s.step :: s.step.trajectory n

/-- Both timers go down by one, but not below zero. -/
def tick (s : State) : State :=
  { s with delay := UInt8.ofNat (s.delay.toNat - 1), sound := UInt8.ofNat (s.sound.toNat - 1) }

/-- One frame of `cycles` cycles; a negative number runs none. -/
def frame (s : State) (cycles : Int) : State := (s.run cycles.toNat).tick

def frames (s : State) (cycles : Int) : Nat → State
  | 0 => s
  | n + 1 => (s.frame cycles).frames cycles n

/-! ## Loops that a host asks for -/

def runGiven (s : State) (n : Int) : Except Error State :=
  (Loop.countable n).map fun _ => s.run n.toNat

def frameGiven (s : State) (cycles : Int) : Except Error State :=
  (Loop.countable cycles).map fun _ => s.frame cycles

/-- Can `n` frames be counted, and the cycles within them? Without frames nothing is counted. -/
def countable (cycles n : Int) : Except Error Unit := do
  if 0 < n then
    Loop.countable n
    Loop.countable cycles

def framesGiven (s : State) (space : Space) (cycles n : Int) : Except Error State := do
  Loop.numberable space n
  countable cycles n
  return s.frames cycles n.toNat

/-! ## Runs -/

theorem run_add (s : State) (a b : Nat) : s.run (a + b) = (s.run a).run b := by
  induction a generalizing s with
  | zero => simp [run]
  | succ a ih => rw [Nat.succ_add, run, ih, run]

theorem step_of_halted {s : State} (h : s.halted = true) : s.step = s := by
  simp [step, h]

theorem run_of_halted {s : State} (h : s.halted = true) (n : Nat) : s.run n = s := by
  induction n with
  | zero => rfl
  | succ n ih => rw [run, step_of_halted h, ih]

theorem halted_tick (s : State) : s.tick.halted = s.halted := rfl

end State

end Chip8
