import Chip8.Proofs.Frames

/-!
# Cycles at a pace

Frames are cycles with a tick behind each `c` of them, and it is only in a cycle that the machine
can halt. So whatever is said about a run of frames can be said about its cycles, counted through
from the first one to the last: either the machine halts in none of them, or there is one in which
it does, and then the frames that remain only let the timers tick (`State.frames_cases`).
-/

namespace Chip8

namespace State

variable {s : State} {c m n i k : Nat}

/-- So many cycles, with a tick behind each `c` of them. -/
def paced (s : State) (c : Nat) : Nat → State
  | 0 => s
  | k + 1 => if (k + 1) % c = 0 then (s.paced c k).step.tick else (s.paced c k).step

/-- Is it in this cycle that the machine halts? The first one has the number zero. -/
def FaultsAt (s : State) (c k : Nat) : Prop :=
  (s.paced c k).halted = false ∧ (s.paced c k).step.halted = true

/-- Within a frame nothing ticks. -/
theorem paced_within (first : s.paced c (m * c) = s.frames c m) (hi : i < c) :
    s.paced c (m * c + i) = (s.frames c m).run i := by
  induction i with
  | zero => exact first
  | succ i ih =>
      have inside : (m * c + i + 1) % c ≠ 0 := by
        rw [Nat.add_assoc, Nat.mul_add_mod', Nat.mod_eq_of_lt hi]
        exact Nat.succ_ne_zero i
      rw [← Nat.add_assoc, paced, if_neg inside, ih (Nat.lt_of_succ_lt hi), run_succ]

/-- Frames are cycles with ticks between them. -/
theorem paced_frames (positive : 0 < c) (m : Nat) : s.paced c (m * c) = s.frames c m := by
  induction m with
  | zero => rw [Nat.zero_mul, paced, frames]
  | succ m ih =>
      obtain ⟨i, rfl⟩ := Nat.exists_eq_add_of_le' positive
      -- the tick of a frame is the one behind its last cycle
      have last : ((m + 1) * (i + 1)) % (i + 1) = 0 := Nat.mul_mod_left _ _
      rw [frames_succ, frame_natCast, run_succ, ← paced_within ih (Nat.lt_succ_self i)]
      rw [Nat.succ_mul, ← Nat.add_assoc] at last ⊢
      rw [paced, if_pos last]

theorem paced_add (hi : i < c) : s.paced c (m * c + i) = (s.frames c m).run i :=
  paced_within (paced_frames (Nat.zero_lt_of_lt hi) m) hi

/-- A machine that runs through its frames halts in none of their cycles. -/
theorem RunsThrough.not_faultsAt (runs : s.RunsThrough c n) (hk : k < n * c) :
    ¬ s.FaultsAt c k := by
  rintro ⟨-, halts⟩
  have positive : 0 < c := Nat.pos_of_mul_pos_left (Nat.zero_lt_of_lt hk)
  have inside : k % c < c := Nat.mod_lt k positive
  have number : k / c * c + k % c = k := by rw [Nat.mul_comm, Nat.div_add_mod]
  rw [← number, paced_add inside, ← run_succ,
    runs _ (Nat.div_lt_of_lt_mul (by rwa [Nat.mul_comm])) _ inside] at halts
  cases halts

/-- One that does not halts in one of them, and from then on it only ticks. -/
theorem FaultsAfter.faultsAt (faults : s.FaultsAfter c m i) (hm : m < n) :
    m * c + i < n * c ∧ s.FaultsAt c (m * c + i) ∧
      s.frames c n = (s.paced c (m * c + i)).step.ticks (n - m) := by
  rw [FaultsAt, paced_add faults.within, ← run_succ]
  refine ⟨?_, ⟨faults.halts.before i (Nat.lt_succ_self i), faults.halts.halted⟩,
    faults.frames_eq hm⟩
  calc m * c + i < m * c + c := Nat.add_lt_add_left faults.within _
    _ = (m + 1) * c := (Nat.succ_mul m c).symm
    _ ≤ n * c := Nat.mul_le_mul_right c hm

theorem frames_toNat (s : State) (cycles : Int) (n : Nat) :
    s.frames cycles n = s.frames (cycles.toNat : Int) n := by
  induction n generalizing s with
  | zero => rfl
  | succ n ih =>
      rw [frames, frames, ih]
      rfl

/-- **Frames end with a halted machine just if it halts in one of their cycles.** -/
theorem frames_cases (healthy : s.halted = false) (cycles : Int) (n : Nat) :
    ((s.frames cycles n).error? = none ∧ ∀ k < n * cycles.toNat, ¬ s.FaultsAt cycles.toNat k) ∨
      ∃ k < n * cycles.toNat, ∃ e, s.FaultsAt cycles.toNat k ∧
        s.frames cycles n = (s.paced cycles.toNat k).step.ticks (n - k / cycles.toNat) ∧
        (s.frames cycles n).error? = some e ∧ (s.paced cycles.toNat k).step.error? = some e := by
  -- a negative number of cycles makes frames of ticks alone, as none does
  rw [frames_toNat]
  rcases runsThrough_or_faultsAfter healthy cycles.toNat n with runs | ⟨m, i, hm, faults⟩
  · exact .inl ⟨error?_eq_none_iff.mpr (runs.halted healthy), fun k hk => runs.not_faultsAt hk⟩
  · obtain ⟨hk, halts, rest⟩ := faults.faultsAt hm
    cases fault : (s.paced cycles.toNat (m * cycles.toNat + i)).step.error? with
    | none => exact nomatch halts.2.symm.trans (error?_eq_none_iff.mp fault)
    | some e =>
        have frame : (m * cycles.toNat + i) / cycles.toNat = m := by
          rw [Nat.mul_comm, Nat.mul_add_div (Nat.zero_lt_of_lt faults.within),
            Nat.div_eq_of_lt faults.within, Nat.add_zero]
        refine .inr ⟨_, hk, e, halts, ?_, ?_, fault⟩
        · rw [frame, rest]
        · rw [rest]
          exact fault

end State

end Chip8
