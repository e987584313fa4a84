import Chip8.Proofs.WellFormed
import Mathlib.Data.List.Infix

/-!
# Calls and their returns

A call pushes the address of its own instruction above the addresses that are live already. While
the stack stays at least as deep as the call has made it, whatever happens works above these
addresses (`State.prefix_live_step`), so that the return which goes below them finds the address of
the call on top and leaves the stack that the call found. Since a tidy stack is what its live
addresses say, that is the same stack in all its slots.
-/

namespace Chip8

/-- Is the event a single cycle, a tick, or a change of keys? -/
def Event.isElementary : Event → Bool
  | .step | .tick | .setKeys _ | .press _ | .release _ => true
  | .create _ _ | .load _ _ | .run _ | .frame _ => false

namespace State

variable {s : State} {base : List UInt16}

/-- **A cycle works above the addresses that it does not go below.** -/
theorem prefix_live_step (wf : s.WellFormed) (kept : base <+: s.stack.live)
    (deep : base.length ≤ s.step.stack.pointer.toNat) : base <+: s.step.stack.live := by
  cases runs : s.step.halted with
  | true => rwa [stack_step_of_halted runs]
  | false =>
      by_cases hcall : s.pending = some .call
      · obtain ⟨free, hstack⟩ := stack_step_of_call runs hcall
        rw [hstack, CallStack.live_push free]
        exact kept.trans (List.prefix_append _ _)
      · by_cases hret : s.pending = some .ret
        · obtain ⟨used, hstack⟩ := stack_step_of_ret runs hret
          -- one address goes, and by the bound it is none of `base`
          rw [hstack] at deep ⊢
          rw [wf.stack_tidy.live_pop used] at kept
          refine List.prefix_of_prefix_length_le kept (List.prefix_append _ _) ?_
          rwa [(wf.stack_tidy.pop used).length_live]
        · rwa [stack_step_of_ne hcall hret]

theorem prefix_live_afterEvent (wf : s.WellFormed) {e : Event} (elementary : e.isElementary = true)
    (kept : base <+: s.stack.live)
    (deep : base.length ≤ (s.afterEvent e).stack.pointer.toNat) :
    base <+: (s.afterEvent e).stack.live := by
  cases e with
  | create _ _ | load _ _ | run _ | frame _ => cases elementary
  | step => exact prefix_live_step wf kept deep
  | tick | press _ | release _ => exact kept
  | setKeys states =>
      rw [afterEvent]
      split
      · rename_i h
        obtain ⟨keypad, rfl⟩ := eq_keypad_of_setKeys h
        exact kept
      · exact kept

theorem prefix_live_after (reach : s.Reachable) {es : List Event}
    (elementary : ∀ e ∈ es, e.isElementary = true) (kept : base <+: s.stack.live)
    (deep : ∀ fs, fs <+: es → base.length ≤ (s.after fs).stack.pointer.toNat) :
    base <+: (s.after es).stack.live := by
  -- from the end, since the bound has to hold wherever the history is cut off
  induction es using List.reverseRecOn with
  | nil => exact kept
  | append_singleton es e ih =>
      have hes : base <+: (s.after es).stack.live := by
        apply ih
        · intro e' he'
          exact elementary e' (List.mem_append_left _ he')
        · intro fs hfs
          exact deep fs (hfs.trans (List.prefix_append _ _))
      have hdeep := deep (es ++ [e]) List.prefix_rfl
      rw [after_snoc] at hdeep ⊢
      exact prefix_live_afterEvent (reach.after es).wellFormed (elementary e (by simp)) hes hdeep

/-- At the return of a call, its own address lies on top of those that were live before it. -/
theorem live_at_return (reach : s.Reachable) (call : s.pending = some .call)
    (runs : s.step.halted = false) {es : List Event}
    (elementary : ∀ e ∈ es, e.isElementary = true)
    (inside : ∀ fs, fs <+: es →
      s.stack.pointer.toNat + 1 ≤ (s.step.after fs).stack.pointer.toNat)
    (depth : (s.step.after es).stack.pointer.toNat = s.stack.pointer.toNat + 1) :
    (s.step.after es).stack.live = s.stack.live ++ [wrap s.pc.toNat] := by
  obtain ⟨free, hpush⟩ := stack_step_of_call runs call
  have hcalled : s.step.stack.live = s.stack.live ++ [wrap s.pc.toNat] := by
    rw [hpush, CallStack.live_push free]
  have hlength : (s.stack.live ++ [wrap s.pc.toNat]).length = s.stack.pointer.toNat + 1 := by
    rw [List.length_append, reach.wellFormed.stack_tidy.length_live]
    rfl
  have hbase : s.stack.live ++ [wrap s.pc.toNat] <+: (s.step.after es).stack.live := by
    apply prefix_live_after reach.step elementary
    · rw [hcalled]
    · rwa [hlength]
  -- the stack is as deep as the call has made it, so that nothing else lies above
  refine (hbase.eq_of_length ?_).symm
  rw [hlength, (reach.step.after es).wellFormed.stack_tidy.length_live, depth]

/-- **A return undoes its call.** Let a call succeed, and let any cycles, ticks and changes of keys
follow during which the stack stays at least as deep as the call has made it. A return at that very
depth goes on behind the call, with the stack that the call found. -/
theorem return_restores_stack (reach : s.Reachable) (call : s.pending = some .call)
    (runs : s.step.halted = false) (es : List Event)
    (elementary : ∀ e ∈ es, e.isElementary = true)
    (inside : ∀ fs, fs <+: es →
      s.stack.pointer.toNat + 1 ≤ (s.step.after fs).stack.pointer.toNat)
    (healthy : (s.step.after es).halted = false) (ret : (s.step.after es).pending = some .ret)
    (depth : (s.step.after es).stack.pointer.toNat = s.stack.pointer.toNat + 1) :
    let r := (s.step.after es).step
    r.halted = false ∧ r.pc.toNat = (s.pc.toNat + 2) % 4096 ∧
      r.stack.pointer = s.stack.pointer ∧ r.stack = s.stack := by
  have hlive := live_at_return reach call runs elementary inside depth
  have hpop : (s.step.after es).stack.pop = (s.stack, wrap s.pc.toNat) :=
    reach.wellFormed.stack_tidy.pop_eq (reach.step.after es).wellFormed.stack_tidy hlive
  have used : (s.step.after es).stack.isEmpty = false :=
    CallStack.isEmpty_eq_false_iff.mpr (by omega)
  have hclear : (s.step.after es).trap (s.step.after es).pending = .clear := by
    rw [ret]
    exact trap_ret_iff.mpr used
  have hstep := step_of_ret healthy ret used
  rw [hpop] at hstep
  refine ⟨halted_step_eq_false_iff.mpr ⟨healthy, hclear⟩, ?_, ?_, ?_⟩
  · rw [hstep]
    change (wrap ((wrap s.pc.toNat).toNat + 2)).toNat = _
    rw [toNat_wrap, toNat_wrap]
    omega
  · rw [hstep]
    rfl
  · rw [hstep]
    rfl

/-- A subroutine that calls another one, with a tick and a key in between. -/
theorem return_restores_stack_nested :
    let s := (fresh (Random.Key.ofSeed 7) true).after
      [.load [0x22, 0x06, 0x12, 0x02, 0x00, 0xEE, 0x22, 0x04, 0x00, 0xEE] true]
    let es := [Event.step, .tick, .press 5, .step]
    let r := (s.step.after es).step
    (s.pending = some .call ∧ s.step.halted = false ∧
      (∀ fs ∈ es.inits, s.stack.pointer.toNat + 1 ≤ (s.step.after fs).stack.pointer.toNat) ∧
      (s.step.after es).halted = false ∧ (s.step.after es).pending = some .ret ∧
      (s.step.after es).stack.pointer.toNat = s.stack.pointer.toNat + 1) ∧
    r.halted = false ∧ r.pc.toNat = (s.pc.toNat + 2) % 4096 ∧
      r.stack.pointer = s.stack.pointer ∧ r.stack = s.stack := by
  intro s es r
  have h : s.pending = some .call ∧ s.step.halted = false ∧
      (∀ fs ∈ es.inits, s.stack.pointer.toNat + 1 ≤ (s.step.after fs).stack.pointer.toNat) ∧
      (s.step.after es).halted = false ∧ (s.step.after es).pending = some .ret ∧
      (s.step.after es).stack.pointer.toNat = s.stack.pointer.toNat + 1 := by
    decide +kernel
  have reach : s.Reachable := ⟨7, true, _, _, rfl, rfl⟩
  have elementary : ∀ e ∈ es, e.isElementary = true := by decide
  -- from here on the values do not matter
  clear_value s es
  obtain ⟨call, runs, inside, healthy, ret, depth⟩ := h
  refine ⟨⟨call, runs, inside, healthy, ret, depth⟩, ?_⟩
  exact return_restores_stack reach call runs es elementary
    (fun fs hfs => inside fs ((List.mem_inits fs es).mpr hfs)) healthy ret depth

end State

end Chip8
