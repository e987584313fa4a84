import Chip8.Proofs.Reachable

/-!
# Well-formedness is invariant

Every reachable state is well-formed (`State.Reachable.wellFormed`): addresses have twelve bits, the
stack is tidy and the fault register holds the code of a fault. Calls and returns therefore use the
stack within its bounds (`State.StackInOrder`): the guards of both are about the pointer alone, and
it is tidiness that turns them into free and used slots.
-/

namespace Chip8.State

variable {s t : State} {op : Option Operation}

/-! ## One cycle -/

theorem Keeps.wellFormed (h : Keeps s t) (wf : s.WellFormed) : t.WellFormed where
  pc_lt := h.pc_lt wf.pc_lt
  index_lt := h.index_lt wf.index_lt
  stack_tidy := h.stack ▸ wf.stack_tidy
  fault_le := h.fault ▸ wf.fault_le

theorem wellFormed_raise (wf : s.WellFormed) (f : Fault) : (s.raise f).WellFormed :=
  ⟨wf.pc_lt, wf.index_lt, wf.stack_tidy, f.code_le⟩

theorem Effect.wellFormed (h : Effect s op t) (wf : s.WellFormed) : t.WellFormed := by
  cases h with
  | trap _ => exact wellFormed_raise wf _
  | call free a =>
      exact (keeps_jump _ a).wellFormed
        ⟨wf.pc_lt, wf.index_lt, wf.stack_tidy.push free s.pc, wf.fault_le⟩
  | ret used => exact ⟨wrap_lt _, wf.index_lt, wf.stack_tidy.pop used, wf.fault_le⟩
  | other _ _ keeps => exact keeps.wellFormed wf

theorem WellFormed.step (wf : s.WellFormed) : s.step.WellFormed := by
  cases healthy : s.halted with
  | true => rwa [step_of_halted healthy]
  | false =>
      have wf' : { s with opcode := s.fetch }.WellFormed :=
        ⟨wf.pc_lt, wf.index_lt, wf.stack_tidy, wf.fault_le⟩
      exact (effect_step healthy).wellFormed wf'

/-! ## Every history -/

theorem inductive_wellFormed : Inductive WellFormed where
  fresh := wellFormed_fresh
  load s _ _ :=
    have wf := wellFormed_fresh s.key s.modern
    ⟨wf.pc_lt, wf.index_lt, wf.stack_tidy, wf.fault_le⟩
  step _ wf := wf.step
  tick _ wf := ⟨wf.pc_lt, wf.index_lt, wf.stack_tidy, wf.fault_le⟩
  keys _ _ wf := ⟨wf.pc_lt, wf.index_lt, wf.stack_tidy, wf.fault_le⟩

theorem Reachable.wellFormed (reach : s.Reachable) : s.WellFormed :=
  inductive_wellFormed.of_reachable reach

/-! ## The stack within its bounds -/

/-- What the next cycle does to the stack. A call that is carried out pushes to a free slot, a
return that is carried out pops a slot in use, the pointer counts both without wrapping around, and
every other cycle leaves the stack alone. -/
structure StackInOrder (s : State) : Prop where
  push : s.pending = some .call → s.step.halted = false →
    s.stack.pointer.toNat < 16 ∧ s.step.stack = s.stack.push s.pc ∧
      s.step.stack.pointer.toNat = s.stack.pointer.toNat + 1
  pop : s.pending = some .ret → s.step.halted = false →
    1 ≤ s.stack.pointer.toNat ∧ s.stack.pointer.toNat ≤ 16 ∧ s.step.stack = s.stack.pop.1 ∧
      s.step.stack.pointer.toNat + 1 = s.stack.pointer.toNat
  rest : s.step.halted = true ∨ s.pending ≠ some .call ∧ s.pending ≠ some .ret →
    s.step.stack = s.stack

theorem WellFormed.stackInOrder (wf : s.WellFormed) : s.StackInOrder := by
  constructor
  · intro word runs
    obtain ⟨free, hstack⟩ := stack_step_of_call runs word
    refine ⟨CallStack.isFull_eq_false_iff.mp free, hstack, ?_⟩
    rw [hstack]
    exact CallStack.toNat_pointer_push free s.pc
  · intro word runs
    obtain ⟨used, hstack⟩ := stack_step_of_ret runs word
    have hpos := CallStack.isEmpty_eq_false_iff.mp used
    refine ⟨hpos, wf.stack_tidy.toNat_pointer_le, hstack, ?_⟩
    rw [hstack, CallStack.toNat_pointer_pop used]
    exact Nat.sub_add_cancel hpos
  · rintro (halts | ⟨noCall, noRet⟩)
    · exact stack_step_of_halted halts
    · exact stack_step_of_ne noCall noRet

/-- **The reachable-state invariant.** Every state that a host can bring about is well-formed, and
each cycle of a run from there stays within the sixteen slots of the stack. -/
theorem reachable_invariant (reach : s.Reachable) :
    s.WellFormed ∧ ∀ n, (s.run n).StackInOrder := by
  refine ⟨reach.wellFormed, ?_⟩
  intro n
  exact (inductive_wellFormed.run reach.wellFormed n).stackInOrder

/-- Inside a subroutine that is about to return. -/
theorem reachable_invariant_in_subroutine :
    let s := (fresh (Random.Key.ofSeed 7) true).after [.load [0x22, 0x02, 0x00, 0xEE] true, .step]
    s.Reachable ∧ (s.WellFormed ∧ ∀ n, (s.run n).StackInOrder) ∧
      s.pending = some .ret ∧ s.step.halted = false ∧ s.stack.pointer = 1 := by
  have reach : ((fresh (Random.Key.ofSeed 7) true).after
      [.load [0x22, 0x02, 0x00, 0xEE] true, .step]).Reachable :=
    ⟨7, true, _, _, rfl, rfl⟩
  exact ⟨reach, reachable_invariant reach, by decide +kernel⟩

end Chip8.State
