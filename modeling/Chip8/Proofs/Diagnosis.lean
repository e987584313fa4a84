import Chip8.Host
import Chip8.Proofs.WellFormed

/-!
# What a halted machine says about itself

A machine halts at the instruction that it could not carry out and stays there. Its record, its
fault register, the error that a host builds from them and the text of the instruction at the
program counter therefore speak of one and the same word (`State.Explained`), and they go on doing
so whatever happens to the halted machine. `Fault.DueTo` says, without the interpreter, which fault
a word brings about on a stack of a given depth.
-/

namespace Chip8

namespace Fault

/-- Does a word bring about this fault, on a stack with so many addresses? -/
def DueTo (word : Int) (depth : Nat) : Fault → Prop
  | clear => False
  | unsupportedOpcode => Pattern.lookup decodeTable word = none
  | stackOverflow => Pattern.lookup decodeTable word = some .call ∧ depth = stackSize
  | stackUnderflow => Pattern.lookup decodeTable word = some .ret ∧ depth = 0

def error? (word pc : Int) : Fault → Option Error
  | clear => none
  | unsupportedOpcode => some (.unsupportedOpcode word pc)
  | stackOverflow => some (.stackOverflow pc)
  | stackUnderflow => some (.stackUnderflow pc)

end Fault

namespace State

variable {s : State} {f : Fault}

theorem trap_eq_iff_dueTo (wf : s.WellFormed) (real : f ≠ .clear) :
    s.trap s.pending = f ↔ f.DueTo s.fetch.toNat s.stack.pointer.toNat := by
  cases f with
  | clear => exact absurd rfl real
  | unsupportedOpcode => exact trap_eq_unsupportedOpcode_iff
  | stackOverflow =>
      have hle := wf.stack_tidy.toNat_pointer_le
      have hfull : s.stack.isFull = true ↔ s.stack.pointer.toNat = stackSize := by
        rw [CallStack.isFull_iff]
        exact ⟨fun h => Nat.le_antisymm hle h, fun h => Nat.le_of_eq h.symm⟩
      rw [trap_eq_stackOverflow_iff, hfull]
      rfl
  | stackUnderflow =>
      rw [trap_eq_stackUnderflow_iff, CallStack.isEmpty_iff]
      rfl

theorem error?_of_fault (h : s.fault = f.code) : s.error? = f.error? s.opcode.toNat s.pc.toNat := by
  rw [error?, h, Fault.ofCode?_code]
  cases f <;> rfl

/-! ## The invariant -/

/-- If the machine is halted, the word on record is the one at the program counter, and the fault
is the one that this word raises. -/
def Explained (s : State) : Prop :=
  s.halted = true → s.opcode = s.fetch ∧ s.fault = (s.trap s.pending).code

theorem Explained.step (h : s.Explained) : s.step.Explained := by
  cases healthy : s.halted with
  | true => rwa [step_of_halted healthy]
  | false =>
      intro halts
      -- a cycle that halts the machine moves neither memory, program counter nor stack
      rw [step_of_trap healthy ((halted_step_iff healthy).mp halts)]
      exact ⟨rfl, rfl⟩

theorem inductive_explained : Inductive Explained where
  fresh _ _ halts := by cases halts
  load _ _ _ halts := by cases halts
  step _ h := h.step
  tick _ h := h
  keys _ _ h := h

/-! ## Before and after the fault -/

theorem halted_step_iff_dueTo (wf : s.WellFormed) (healthy : s.halted = false) :
    s.step.halted = true ↔ ∃ f : Fault, f.DueTo s.fetch.toNat s.stack.pointer.toNat := by
  rw [halted_step_iff healthy]
  constructor
  · intro real
    exact ⟨_, (trap_eq_iff_dueTo wf real).mp rfl⟩
  · rintro ⟨f, due⟩ hclear
    have real : f ≠ .clear := by
      rintro rfl
      exact due
    rw [← trap_eq_iff_dueTo wf real, hclear] at due
    exact real due.symm

theorem fault_step_iff_dueTo (wf : s.WellFormed) (healthy : s.halted = false) (real : f ≠ .clear) :
    s.step.fault = f.code ↔ f.DueTo s.fetch.toNat s.stack.pointer.toNat := by
  rw [fault_step healthy, Fault.code_injective.eq_iff, trap_eq_iff_dueTo wf real]

/-- **A fault explains itself.** In a halted state that is reachable, the record is the word at the
program counter, the fault is the one that this word brings about on this stack, and the error and
the text of the current instruction tell of that word. A running machine halts at such a word, and
at no other one. -/
theorem fault_explains_itself (reach : s.Reachable) :
    (s.halted = true → ∃ f : Fault, f ≠ .clear ∧ s.fault = f.code ∧ s.opcode = s.fetch ∧
      f.DueTo s.opcode.toNat s.stack.pointer.toNat ∧
      s.error? = f.error? s.fetch.toNat s.pc.toNat ∧
      ∀ h : Host, h.state = s → h.currentInstruction = disassemble s.opcode.toNat) ∧
    (s.halted = false →
      (s.step.halted = true ↔ ∃ f : Fault, f.DueTo s.fetch.toNat s.stack.pointer.toNat) ∧
      ∀ f : Fault, f ≠ .clear →
        (s.step.fault = f.code ↔ f.DueTo s.fetch.toNat s.stack.pointer.toNat)) := by
  have wf := reach.wellFormed
  constructor
  · intro halts
    obtain ⟨hop, hfault⟩ := inductive_explained.of_reachable reach halts
    have real : s.trap s.pending ≠ .clear := by
      intro hclear
      rw [halted, hfault, hclear] at halts
      cases halts
    refine ⟨s.trap s.pending, real, hfault, hop, ?_, ?_, ?_⟩
    · rw [hop]
      exact (trap_eq_iff_dueTo wf real).mp rfl
    · rw [error?_of_fault hfault, hop]
    · rintro h rfl
      rw [Host.currentInstruction, hop]
  · intro healthy
    refine ⟨halted_step_iff_dueTo wf healthy, ?_⟩
    intro f real
    exact fault_step_iff_dueTo wf healthy real

/-- A return without a call, seen after three cycles, a tick, a key and one more cycle. -/
theorem fault_explains_itself_underflow :
    let s := (fresh (Random.Key.ofSeed 7) true).after
      [.load [0x00, 0xEE] false, .run 3, .tick, .press 2, .step]
    (s.halted = true ∧ s.fault = Fault.stackUnderflow.code) ∧
      s.opcode = s.fetch ∧ Fault.stackUnderflow.DueTo s.opcode.toNat s.stack.pointer.toNat ∧
      s.error? = Fault.stackUnderflow.error? s.fetch.toNat s.pc.toNat := by
  intro s
  have h : s.halted = true ∧ s.fault = Fault.stackUnderflow.code := by decide +kernel
  have reach : s.Reachable := ⟨7, true, _, _, rfl, rfl⟩
  clear_value s
  obtain ⟨halts, hfault⟩ := h
  obtain ⟨f, -, hf, hop, due, herror, -⟩ := (fault_explains_itself reach).1 halts
  obtain rfl : f = .stackUnderflow := Fault.code_injective (hf.symm.trans hfault)
  exact ⟨⟨halts, hfault⟩, hop, due, herror⟩

end State

end Chip8
