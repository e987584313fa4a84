import Chip8.Program
import Chip8.Proofs.Effect
import Mathlib.Logic.Function.Iterate
import Mathlib.Order.Basic

/-!
# Faults are atomic and final

A run in which some cycle faults has a first such cycle (`State.HaltsIn`). That cycle changes the
record and the fault register only, and the state after it is where every longer run and every
frame that is long enough end, however the cycles are divided among runs. So it is with the runs and
frames that a host asks for, as long as their cycles can be counted in 32 bits (`State.StopsIn`).
-/

namespace Chip8.State

variable {s : State} {k : Nat}

theorem run_succ (s : State) (n : Nat) : s.run (n + 1) = (s.run n).step := by
  rw [run_add]
  rfl

theorem run_of_halted_le (halts : (s.run k).halted = true) {m : Nat} (h : k ≤ m) :
    s.run m = s.run k := by
  obtain ⟨d, rfl⟩ := Nat.exists_eq_add_of_le h
  rw [run_add, run_of_halted halts]

/-- The run from a state halts in its `k`-th cycle, and for good. -/
structure HaltsIn (s : State) (k : Nat) : Prop where
  pos : 1 ≤ k
  before : ∀ j < k, (s.run j).halted = false
  halted : (s.run k).halted = true
  /-- The cycle that faults leaves everything else as it was. -/
  atomic : s.run k =
    { s.run (k - 1) with opcode := (s.run k).opcode, fault := (s.run k).fault }
  run_eq : ∀ m, k ≤ m → s.run m = s.run k
  runGiven_eq : ∀ m : Int, k ≤ m → s.runGiven m = (Loop.countable m).map fun _ => s.run k
  frame_eq : ∀ c : Int, k ≤ c → s.frame c = (s.run k).tick
  frameGiven_eq : ∀ c : Int, k ≤ c →
    s.frameGiven c = (Loop.countable c).map fun _ => (s.run k).tick
  /-- Frames of the halted machine do nothing but tick. -/
  halted_frame : ∀ c : Int, (s.run k).frame c = (s.run k).tick
  halted_frameGiven : ∀ c : Int,
    (s.run k).frameGiven c = (Loop.countable c).map fun _ => (s.run k).tick

/-- A cycle that halts a running machine is the one in which the run halts. -/
theorem haltsIn_of_first {n : Nat} (before : ∀ j ≤ n, (s.run j).halted = false)
    (halts : (s.run (n + 1)).halted = true) : s.HaltsIn (n + 1) := by
  have hrun : ∀ c : Int, (n + 1 : Nat) ≤ c → s.run c.toNat = s.run (n + 1) := by
    intro c hc
    exact run_of_halted_le halts (by omega)
  have hstay : ∀ c : Int, (s.run (n + 1)).run c.toNat = s.run (n + 1) := by
    intro c
    exact run_of_halted halts c.toNat
  constructor
  case pos => exact Nat.succ_pos n
  case before =>
    intro j hj
    exact before j (Nat.le_of_lt_succ hj)
  case halted => exact halts
  case atomic =>
    have healthy := before n (Nat.le_refl n)
    rw [run_succ] at halts ⊢
    rw [Nat.add_sub_cancel, step_of_trap healthy ((halted_step_iff healthy).mp halts)]
  case run_eq =>
    intro m hm
    exact run_of_halted_le halts hm
  case runGiven_eq =>
    intro m hm
    rw [runGiven, hrun m hm]
  case frame_eq =>
    intro c hc
    rw [frame, hrun c hc]
  case frameGiven_eq =>
    intro c hc
    rw [frameGiven, frame, hrun c hc]
  case halted_frame =>
    intro c
    rw [frame, hstay]
  case halted_frameGiven =>
    intro c
    rw [frameGiven, frame, hstay]

theorem runs_or_haltsIn (healthy : s.halted = false) (n : Nat) :
    (∀ k ≤ n, (s.run k).halted = false) ∨ ∃ k ≤ n, s.HaltsIn k := by
  -- the first `n` cycles have run or the fault lies among them, and then it stays the first one
  induction n with
  | zero =>
      left
      intro k hk
      rw [Nat.le_zero.mp hk]
      exact healthy
  | succ n ih =>
      rcases ih with before | ⟨k, hk, halts⟩
      · cases h : (s.run (n + 1)).halted with
        | true => exact Or.inr ⟨n + 1, Nat.le_refl _, haltsIn_of_first before h⟩
        | false =>
            left
            intro k hk
            rcases Nat.le_succ_iff.mp hk with hle | rfl
            · exact before k hle
            · exact h
      · exact Or.inr ⟨k, Nat.le_succ_of_le hk, halts⟩

/-! ## Runs that a host asks for -/

theorem iterate_step (s : State) (n : Nat) : step^[n] s = s.run n := by
  induction n generalizing s with
  | zero => rfl
  | succ n ih => exact ih s.step

theorem runGiven_of_fits (s : State) {n : Int} (low : -0x80000000 ≤ n) (high : n < 0x80000000) :
    s.runGiven n = .ok (s.run n.toNat) := by
  rw [runGiven, Loop.countable_eq_ok_iff.mpr ⟨low, high⟩]
  rfl

theorem frameGiven_of_fits (s : State) {c : Int} (low : -0x80000000 ≤ c) (high : c < 0x80000000) :
    s.frameGiven c = .ok (s.frame c) := by
  rw [frameGiven, Loop.countable_eq_ok_iff.mpr ⟨low, high⟩]
  rfl

/-- A run that can be counted does its cycles. -/
theorem runGiven_of_lt (s : State) {n : Nat} (short : n < 0x80000000) :
    s.runGiven n = .ok (step^[n] s) := by
  rw [iterate_step]
  exact runGiven_of_fits s (by omega) (by omega)

theorem frameGiven_of_not_fits (s : State) {c : Int}
    (long : ¬ (-0x80000000 ≤ c ∧ c < 0x80000000)) : s.frameGiven c = .error (.notAnOperand c) := by
  rw [frameGiven, Loop.countable_eq_error long]
  rfl

/-- Runs and frames that cannot be counted are refused. -/
theorem refused_of_long (s : State) {n : Int} (long : 0x80000000 ≤ n) :
    s.runGiven n = .error (.notAnOperand n) ∧ s.frameGiven n = .error (.notAnOperand n) := by
  have refused := Loop.countable_eq_error (n := n) (by omega)
  rw [runGiven, frameGiven, refused]
  exact ⟨rfl, rfl⟩

/-- What a host sees of a machine that halts in its `k`-th cycle. -/
structure StopsIn (s : State) (k : Nat) : Prop where
  pos : 1 ≤ k
  before : ∀ j < k, (step^[j] s).halted = false
  halted : (step^[k] s).halted = true
  /-- The cycle that faults leaves everything else as it was. -/
  atomic : step^[k] s =
    { step^[k - 1] s with opcode := (step^[k] s).opcode, fault := (step^[k] s).fault }
  run : ∀ n : Int, k ≤ n → n < 0x80000000 → s.runGiven n = .ok (step^[k] s)
  frame : ∀ c : Int, k ≤ c → c < 0x80000000 → s.frameGiven c = .ok (step^[k] s).tick
  /-- Frames of the halted machine do nothing but tick. -/
  halted_frame : ∀ c : Int, -0x80000000 ≤ c → c < 0x80000000 →
    (step^[k] s).frameGiven c = .ok (step^[k] s).tick

theorem HaltsIn.stopsIn (halts : s.HaltsIn k) : s.StopsIn k := by
  constructor
  case pos => exact halts.pos
  case before =>
    intro j hj
    rw [iterate_step]
    exact halts.before j hj
  all_goals rw [iterate_step]
  case halted => exact halts.halted
  case atomic =>
    rw [iterate_step]
    exact halts.atomic
  case run =>
    intro n hn short
    rw [runGiven_of_fits s (by omega) short, halts.run_eq n.toNat (by omega)]
  case frame =>
    intro c hc short
    rw [frameGiven_of_fits s (by omega) short, halts.frame_eq c hc]
  case halted_frame =>
    intro c low high
    rw [frameGiven_of_fits _ low high, halts.halted_frame c]

/-- **Faults are atomic and final.** Within any number of cycles a running machine runs on or halts
for good in a first one of them. A run of less than `2 ^ 31` cycles does them, and it may be divided
into two, across a fault as well; from there on runs and frames are refused. -/
theorem fault_atomic_and_final (healthy : s.halted = false) :
    (∀ n : Nat, (∀ k ≤ n, (step^[k] s).halted = false) ∨ ∃ k ≤ n, s.StopsIn k) ∧
    (∀ n : Nat, n < 0x80000000 → s.runGiven n = .ok (step^[n] s)) ∧
    (∀ a b : Nat, a + b < 0x80000000 →
      s.runGiven (a + b : Nat) = s.runGiven a >>= fun t => t.runGiven b) ∧
    ∀ n : Int, 0x80000000 ≤ n →
      s.runGiven n = .error (.notAnOperand n) ∧ s.frameGiven n = .error (.notAnOperand n) := by
  refine ⟨?_, fun _ => s.runGiven_of_lt, ?_, fun _ => s.refused_of_long⟩
  · intro n
    rcases runs_or_haltsIn healthy n with runs | ⟨k, hk, halts⟩
    · left
      intro k hk
      rw [iterate_step]
      exact runs k hk
    · exact .inr ⟨k, hk, halts.stopsIn⟩
  · intro a b short
    have first : s.runGiven a = .ok (step^[a] s) := s.runGiven_of_lt (by omega)
    have second := (step^[a] s).runGiven_of_lt (n := b) (by omega)
    have both : step^[a + b] s = step^[b] (step^[a] s) := by
      rw [Nat.add_comm, Function.iterate_add_apply]
    rw [s.runGiven_of_lt short, first, both, ok_bind, second]

/-- A screen is cleared before the word that is no instruction. -/
theorem fault_atomic_and_final_second_cycle :
    let s := (fresh (Random.Key.ofSeed 7) true).loadBytes [0x00, 0xE0, 0xE0, 0x00]
    s.halted = false ∧ (step^[3] s).halted = true ∧ ∃ k ≤ 3, s.StopsIn k := by
  intro s
  have healthy : s.halted = false := rfl
  have halts : (step^[3] s).halted = true := by decide +kernel
  clear_value s
  rcases (fault_atomic_and_final healthy).1 3 with runs | h
  · rw [runs 3 (Nat.le_refl 3)] at halts
    cases halts
  · exact ⟨healthy, halts, h⟩

/-- A program that returns from nowhere: two runs of one half each end in the fault, and one run of
both is refused. -/
theorem long_run_refused :
    let s := (fresh (Random.Key.ofSeed 7) true).loadBytes [0x00, 0xEE]
    let half : Int := 0x40000000
    (s.halted = false ∧ (step^[1] s).halted = true) ∧
    (s.runGiven half >>= fun t => t.runGiven half) = .ok (step^[1] s) ∧
    s.runGiven (half + half) = .error (.notAnOperand (half + half)) ∧
    s.frameGiven (half + half) = .error (.notAnOperand (half + half)) := by
  intro s half
  have healthy : s.halted = false := rfl
  have halts : (s.run 1).halted = true := by decide +kernel
  clear_value s
  have before : ∀ j ≤ 0, (s.run j).halted = false := by
    intro j hj
    rw [Nat.le_zero.mp hj]
    exact healthy
  have stops := (haltsIn_of_first before halts).stopsIn
  have first := stops.run half (by decide) (by decide)
  have second : (step^[1] s).runGiven half = .ok (step^[1] s) := by
    rw [runGiven_of_fits _ (by decide) (by decide), run_of_halted stops.halted]
  refine ⟨⟨healthy, stops.halted⟩, ?_, s.refused_of_long (by decide)⟩
  rw [first, ok_bind, second]

end Chip8.State
