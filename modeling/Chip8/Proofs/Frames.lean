import Chip8.Progress
import Chip8.Proofs.Halting
import Mathlib.Algebra.Ring.Int.Defs
import Mathlib.Algebra.Ring.Nat

/-!
# Many frames

Frames follow one another until the machine halts in one of them; from then on a frame is nothing
but a tick. Within any number of frames a running machine either runs through them all
(`State.RunsThrough`) or faults in a certain cycle of a certain frame (`State.FaultsAfter`), and
then all frames together lead to the state of that fault, with the timers down by the remaining
ticks (`State.FaultsAfter.frames_eq`). A progress bar that watches the frames does not change what
they do.
-/

namespace Chip8

namespace State

variable {s : State} {c m n i : Nat}

/-! ## Ticks -/

def ticks (s : State) (n : Nat) : State :=
  { s with delay := UInt8.ofNat (s.delay.toNat - n), sound := UInt8.ofNat (s.sound.toNat - n) }

theorem tick_eq_ticks (s : State) : s.tick = s.ticks 1 := rfl

theorem ticks_zero (s : State) : s.ticks 0 = s := by
  simp only [ticks, Nat.sub_zero, UInt8.ofNat_toNat]

theorem ticks_ticks (s : State) (m n : Nat) : (s.ticks m).ticks n = s.ticks (m + n) := by
  have timer (b : UInt8) :
      UInt8.ofNat ((UInt8.ofNat (b.toNat - m)).toNat - n) = UInt8.ofNat (b.toNat - (m + n)) := by
    have hb := b.toNat_lt
    rw [UInt8.toNat_ofNat', Nat.mod_eq_of_lt (by omega), Nat.sub_sub]
  simp only [ticks, timer]

/-! ## Frames one after the other -/

theorem frames_add (s : State) (c : Int) (m n : Nat) :
    s.frames c (m + n) = (s.frames c m).frames c n := by
  induction m generalizing s with
  | zero => rw [Nat.zero_add, frames]
  | succ m ih => rw [Nat.succ_add, frames, ih, frames]

theorem frames_succ (s : State) (c : Int) (n : Nat) :
    s.frames c (n + 1) = (s.frames c n).frame c := by
  rw [frames_add]
  rfl

theorem frame_natCast (s : State) (c : Nat) : s.frame c = (s.run c).tick := rfl

theorem frames_of_halted (halted : s.halted = true) (c : Int) (n : Nat) :
    s.frames c n = s.ticks n := by
  induction n with
  | zero => rw [ticks_zero, frames]
  | succ n ih =>
      have still : (s.ticks n).halted = true := halted
      rw [frames_succ, ih, frame, run_of_halted still, tick_eq_ticks, ticks_ticks]

/-- Does the machine run through `n` frames of `c` cycles without a fault? -/
def RunsThrough (s : State) (c n : Nat) : Prop :=
  ∀ k < n, ∀ j ≤ c, ((s.frames c k).run j).halted = false

/-- Does the machine run through `m` frames of `c` cycles, and halt in the next one after `i`
cycles more? -/
structure FaultsAfter (s : State) (c m i : Nat) : Prop where
  before : s.RunsThrough c m
  within : i < c
  halts : (s.frames c m).HaltsIn (i + 1)

theorem RunsThrough.halted (runs : s.RunsThrough c n) (healthy : s.halted = false) :
    (s.frames c n).halted = false := by
  cases n with
  | zero => exact healthy
  | succ n =>
      rw [frames_succ, frame_natCast, halted_tick]
      exact runs n (Nat.lt_succ_self n) c (Nat.le_refl c)

/-- Frame by frame, a running machine runs on or faults. -/
theorem runsThrough_or_faultsAfter (healthy : s.halted = false) (c n : Nat) :
    s.RunsThrough c n ∨ ∃ m i, m < n ∧ s.FaultsAfter c m i := by
  induction n with
  | zero => exact .inl fun k hk => absurd hk (Nat.not_lt_zero k)
  | succ n ih =>
      -- of the frames before, one has faulted, or the last frame is the first that can
      rcases ih with runs | ⟨m, i, hm, faults⟩
      · rcases runs_or_haltsIn (runs.halted healthy) c with on | ⟨j, hj, halts⟩
        · left
          intro k hk
          rcases Nat.lt_succ_iff_lt_or_eq.mp hk with hlt | rfl
          · exact runs k hlt
          · exact on
        · right
          obtain ⟨i, rfl⟩ := Nat.exists_eq_add_of_le' halts.pos
          exact ⟨n, i, Nat.lt_succ_self n, runs, hj, halts⟩
      · exact .inr ⟨m, i, Nat.lt_succ_of_lt hm, faults⟩

/-- The frames that follow a fault only tick. -/
theorem FaultsAfter.frames_eq (faults : s.FaultsAfter c m i) (hm : m < n) :
    s.frames c n = ((s.frames c m).run (i + 1)).ticks (n - m) := by
  obtain ⟨d, rfl⟩ := Nat.exists_eq_add_of_lt hm
  have hfault : (s.frames c m).frame c = ((s.frames c m).run (i + 1)).tick :=
    faults.halts.frame_eq c (Int.ofNat_le.mpr faults.within)
  -- the frame that faults gives the first tick, and `d` frames follow it
  have halted : (((s.frames c m).run (i + 1)).ticks 1).halted = true := faults.halts.halted
  rw [Nat.add_assoc, Nat.add_comm d, ← Nat.add_assoc, frames_add, frames_succ, hfault,
    tick_eq_ticks, frames_of_halted halted, ticks_ticks]
  congr 1
  omega

end State

/-! ## Frames under a progress bar -/

/-- A scan without a bar passes the state along. -/
theorem scan_fst {σ α β : Type} (body : σ → α → σ × β) (s : σ) (as : List α) :
    (scan body s as).1 = as.foldl (fun s a => (body s a).1) s := by
  induction as generalizing s with
  | nil => rfl
  | cons a as ih => exact ih (body s a).1

theorem State.foldl_frame (s : State) (c : Int) {α : Type} (as : List α) :
    as.foldl (fun s _ => s.frame c) s = s.frames c as.length := by
  induction as generalizing s with
  | nil => rfl
  | cons a as ih => exact ih (s.frame c)

namespace Progress.Plan

/-- The bar is moved beside the body and has no effect on it. -/
theorem state_run {σ : Type} (p : Plan) (body : σ → σ) (s : σ) :
    (p.run body s).state = (List.range p.total.rounds.toNat).foldl (fun s _ => body s) s := by
  have beside (as : List Nat) (w : Watched σ) :
      (as.foldl (fun w a => (p.watch (fun i : Nat => (i : Int)) (fun s _ => (body s, ())) w a).1)
        w).state = as.foldl (fun s _ => body s) w.state := by
    induction as generalizing w with
    | nil => rfl
    | cons a as ih => exact ih _
  rw [run, scan_fst]
  exact beside _ (Watched.start s)

theorem total_make (n : Int) (stride : Option Count) (title : Option String) :
    (make (.whole n) stride title).total = .whole n := rfl

/-- A plan for a whole number of iterations that can be counted is one that can be run. -/
theorem checked_make {n : Nat} (hn : n < 2 ^ 31) (stride : Option Count) (title : Option String)
    (space : Space) :
    (make (.whole n) stride title).checked space = .ok (make (.whole n) stride title) := by
  have short (k : Int) (hlow : -1 ≤ k) (hhigh : k < 2 ^ 31) : Loop.countable k = .ok () :=
    Loop.countable_eq_ok_iff.mpr (by omega)
  have last := short (n - 1) (by omega) (by omega)
  have all := short n (by omega) (by omega)
  have hmax : max (n : Int) 0 = n := by omega
  simp only [checked, total_make, Count.rounds_whole, hmax, last, all,
    Loop.numberable_of_le space (by omega : (n : Int) ≤ _), Count.isWhole_whole, if_true]
  rfl

end Progress.Plan

namespace State

/-! ## Frames that a host asks for -/

section

variable {c n : Int} (countable : 0 < n → Bits.fits 32 n = true ∧ Bits.fits 32 c = true)

include countable

theorem countable_of_fits : State.countable c n = .ok () := by
  rw [State.countable]
  split
  next positive =>
    obtain ⟨frames, cycles⟩ := countable positive
    rw [Loop.countable, Loop.countable, if_pos frames, if_pos cycles]
    rfl
  next => rfl

theorem framesGiven_of_fits (s : State) (space : Space) :
    s.framesGiven space c n = .ok (s.frames c n.toNat) := by
  have short : n ≤ 0x80000000 := by
    by_cases positive : 0 < n
    · have := Bits.fits_32_iff.mp (countable positive).1
      omega
    · omega
  rw [framesGiven, Loop.numberable_of_le space short, countable_of_fits countable]
  rfl

end

section

variable {c n : Nat} (short : n = 0 ∨ n < 2 ^ 31 ∧ c < 2 ^ 31)

include short

theorem fits_of_lt (positive : 0 < (n : Int)) :
    Bits.fits 32 n = true ∧ Bits.fits 32 c = true :=
  ⟨Bits.fits_32_iff.mpr (by omega), Bits.fits_32_iff.mpr (by omega)⟩

theorem countable_of_lt : State.countable c n = .ok () := countable_of_fits (fits_of_lt short)

theorem framesGiven_of_lt (s : State) (space : Space) :
    s.framesGiven space c n = .ok (s.frames c n) :=
  framesGiven_of_fits (fits_of_lt short) s space

end

end State

end Chip8
