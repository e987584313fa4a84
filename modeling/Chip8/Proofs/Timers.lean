import Chip8.Proofs.Chronicle
import Mathlib.Data.List.DropRight

/-!
# What the timers show

Only one instruction writes to each timer, only a program that is loaded clears it, and only ticks
lower it. So a timer shows the value that it was set to last, less the ticks since then, but not
below zero (`Timer.reading`), whether or not the machine halted meanwhile.
-/

namespace Chip8

inductive Timer where
  | delay
  | sound

namespace State

variable {s : State}

def timer (s : State) : Timer → UInt8
  | .delay => s.delay
  | .sound => s.sound

end State

/-- The register that an instruction sets the timer from, if it does. -/
def Timer.register? : Timer → Instruction → Option Register
  | .delay, .ldDelay x => some x
  | .sound, .ldSound x => some x
  | _, _ => none

/-! ## Timers in the past -/

def Happening.ticks : Happening → Bool
  | .tick => true
  | _ => false

namespace Moment

/-- The value that the timer is set to. A program that is loaded sets it to zero. -/
def sets? (m : Moment) (timer : Timer) : Option UInt8 :=
  match m.happening with
  | .load _ => some 0
  | _ => (m.instruction?.bind timer.register?).map m.before.getV

def ticks (m : Moment) : Bool := m.happening.ticks

end Moment

namespace Timer

variable {timer : Timer} {past : List Moment} {m : Moment}

/-- The value that the timer was set to last, or zero if it never was. -/
def lastSet (timer : Timer) (past : List Moment) : UInt8 :=
  (past.filterMap fun m => m.sets? timer).getLastD 0

/-- The number of ticks since the timer was set last, or since the beginning. -/
def ticksSince (timer : Timer) (past : List Moment) : Nat :=
  (past.rtakeWhile fun m => (m.sets? timer).isNone).countP Moment.ticks

/-- What the timer should show: its last value less the ticks since, but not below zero. -/
def reading (timer : Timer) (past : List Moment) : Nat :=
  (timer.lastSet past).toNat - timer.ticksSince past

theorem reading_snoc_of_sets {b : UInt8} (h : m.sets? timer = some b) :
    timer.reading (past ++ [m]) = b.toNat := by
  have value : timer.lastSet (past ++ [m]) = b := by
    simp [lastSet, List.filterMap_append, h]
  have ticks : timer.ticksSince (past ++ [m]) = 0 := by
    simp [ticksSince, h]
  rw [reading, value, ticks, Nat.sub_zero]

theorem reading_snoc_of_not_sets (h : m.sets? timer = none) :
    timer.reading (past ++ [m]) = timer.reading past - m.ticks.toNat := by
  have value : timer.lastSet (past ++ [m]) = timer.lastSet past := by
    simp [lastSet, List.filterMap_append, h]
  have ticks : timer.ticksSince (past ++ [m]) = timer.ticksSince past + m.ticks.toNat := by
    cases hm : m.ticks <;> simp [ticksSince, h, hm]
  rw [reading, value, ticks, Nat.sub_add_eq, reading]

end Timer

/-! ## Timers now -/

namespace State

variable {s t : State} {timer : Timer}

theorem timer_of_executes {i? : Option Instruction} (h : s.Executes i? t) :
    t.timer timer = ((i?.bind timer.register?).map s.getV).getD (s.timer timer) := by
  cases h with
  | nothing => cases timer <;> rfl
  | instruction i opcode =>
      cases timer with
      | delay =>
          cases i with
          | ldDelay x => rfl
          | _ => exact (spared_perform _ _).delay nofun
      | sound =>
          cases i with
          | ldSound x => rfl
          | _ => exact (spared_perform _ _).sound nofun

theorem toNat_timer_ticks (s : State) (n : Nat) (timer : Timer) :
    ((s.ticks n).timer timer).toNat = (s.timer timer).toNat - n := by
  have down (b : UInt8) : (UInt8.ofNat (b.toNat - n)).toNat = b.toNat - n := by
    have hb := b.toNat_lt
    rw [UInt8.toNat_ofNat', Nat.mod_eq_of_lt (by omega)]
  cases timer with
  | delay => exact down s.delay
  | sound => exact down s.sound

/-- **Whatever happens sets the timer, or lowers it by the tick that it is, if it is one.** -/
theorem toNat_timer_undergo (s : State) (x : Happening) (timer : Timer) :
    ((s.undergo x).timer timer).toNat =
      match (Moment.mk s x).sets? timer with
      | some b => b.toNat
      | none => (s.timer timer).toNat - x.ticks.toNat := by
  have executed {i? : Option Instruction} (h : s.Executes i? (s.undergo x)) :
      ((s.undergo x).timer timer).toNat =
        match (i?.bind timer.register?).map s.getV with
        | some b => b.toNat
        | none => (s.timer timer).toNat := by
    rw [timer_of_executes h]
    cases (i?.bind timer.register?).map s.getV <;> rfl
  cases x with
  | load _ | keys _ => cases timer <;> rfl
  | tick => exact s.toNat_timer_ticks 1 timer
  | cycle => exact executed s.executes_step
  | word w => exact executed (s.executes_word w)

theorem toNat_timer_foldl {xs : List Happening}
    (untouched : ∀ m ∈ s.moments xs, m.sets? timer = none) :
    ((xs.foldl undergo s).timer timer).toNat =
      (s.timer timer).toNat - xs.countP Happening.ticks := by
  induction xs generalizing s with
  | nil => rfl
  | cons x xs ih =>
      have first := untouched _ List.mem_cons_self
      have rest : ∀ m ∈ (s.undergo x).moments xs, m.sets? timer = none :=
        fun m hm => untouched m (List.mem_cons_of_mem _ hm)
      have hundergo := s.toNat_timer_undergo x timer
      rw [first] at hundergo
      rw [List.foldl_cons, ih rest, hundergo, List.countP_cons, Nat.sub_sub, Nat.add_comm]
      cases x.ticks <;> rfl

/-- A frame lowers the timer by one, if the machine is halted or nothing sets the timer. -/
theorem toNat_timer_frame {c : Int} (untouched : s.halted = true ∨
    ∀ m ∈ s.moments (Happening.frame c), m.sets? timer = none) :
    ((s.frame c).timer timer).toNat = (s.timer timer).toNat - 1 := by
  -- a halted machine is but ticked, so there is no need to look at its moments
  rcases untouched with halted | untouched
  · rw [frame, run_of_halted halted]
    exact s.toNat_timer_ticks 1 timer
  · have ticks : (Happening.frame c).countP Happening.ticks = 1 := by
      simp [Happening.frame, Happening.ticks, List.countP_replicate]
    rw [← foldl_frame_happenings, toNat_timer_foldl untouched, ticks]

/-- Frames lower the timer by one each, whatever their numbers of cycles, if these can be
counted. -/
theorem exists_foldlM_frameGiven {cs : List Int}
    (countable : ∀ c ∈ cs, -0x80000000 ≤ c ∧ c < 0x80000000)
    (untouched : s.halted = true ∨ ∀ m ∈ s.past (cs.map .frame), m.sets? timer = none) :
    ∃ u, cs.foldlM frameGiven s = .ok u ∧
      (u.timer timer).toNat = (s.timer timer).toNat - cs.length := by
  induction cs generalizing s with
  | nil => exact ⟨s, rfl, rfl⟩
  | cons c cs ih =>
      obtain ⟨⟨low, high⟩, others⟩ := List.forall_mem_cons.mp countable
      have ran := s.frameGiven_of_fits low high
      have first : s.happenings (.frame c) = Happening.frame c := by
        rw [happenings, handle, ran]
      have next : s.afterEvent (.frame c) = s.frame c := by
        rw [afterEvent, handle, ran]
      have before : s.halted = true ∨
          ∀ m ∈ s.moments (Happening.frame c), m.sets? timer = none := by
        refine untouched.imp_right fun untouched m hm => untouched m ?_
        rw [List.map_cons, past, first]
        exact List.mem_append_left _ hm
      have after : (s.frame c).halted = true ∨
          ∀ m ∈ (s.frame c).past (cs.map .frame), m.sets? timer = none := by
        refine untouched.imp (fun halted => ?_) fun untouched m hm => untouched m ?_
        · rw [frame, run_of_halted halted]
          exact halted
        · rw [List.map_cons, past, next]
          exact List.mem_append_right _ hm
      obtain ⟨u, rest, shown⟩ := ih others after
      refine ⟨u, ?_, ?_⟩
      · rw [List.foldlM_cons, ran, ok_bind, rest]
      · rw [shown, toNat_timer_frame before, Nat.sub_sub, Nat.add_comm, List.length_cons]

end State

theorem State.soundOn_eq_true_iff {s : State} :
    s.soundOn = true ↔ 0 < (s.timer .sound).toNat := by
  rw [soundOn, decide_eq_true_iff]
  rfl

theorem Moment.getV_after_of_ldFromDelay {m : Moment} {x : Register}
    (h : m.instruction? = some (.ldFromDelay x)) : m.after.getV x = m.before.timer .delay := by
  obtain ⟨opcode, hafter⟩ := after_of_instruction h
  rw [hafter, State.perform, State.getV_next, State.getV_setV, if_pos rfl]
  rfl

/-! ## Timers throughout a past -/

/-- Do the timers of a state, and the sound, show what its past has left of them? -/
structure TimersShow (past : List Moment) (s : State) : Prop where
  timer : ∀ timer, (s.timer timer).toNat = Timer.reading timer past
  sound : s.soundOn = true ↔ 0 < Timer.sound.reading past

theorem timersShow_of_eq {past : List Moment} {s : State}
    (h : ∀ timer, (s.timer timer).toNat = Timer.reading timer past) : TimersShow past s where
  timer := h
  sound := by rw [State.soundOn_eq_true_iff, h]

theorem Chronicle.timersShow {seed : Int} {past : List Moment} {s : State}
    (history : Chronicle seed past s) : Throughout TimersShow past s := by
  refine history.throughout ?_ ?_
  · intro modern
    refine timersShow_of_eq fun timer => ?_
    cases timer <;> rfl
  · intro past s x shown
    refine timersShow_of_eq fun timer => ?_
    rw [State.toNat_timer_undergo]
    cases h : (Moment.mk s x).sets? timer with
    | some b => rw [Timer.reading_snoc_of_sets h]
    | none => rw [Timer.reading_snoc_of_not_sets h, ← shown.timer, Moment.ticks]

/-- **The timers show what their history has left of them.** At each moment of the past of a
machine, a timer shows the value that it was set to last less the ticks since then, but not below
zero; there is a sound just if that is positive, and a program that reads the delay timer reads just
that. Frames in which nothing sets a timer, and frames of a machine that is halted, lower it by one
each, as long as their cycles can be counted; other frames are refused. -/
theorem timer_history {seed : Int} {past : List Moment} {s : State}
    (history : Chronicle seed past s) :
    Chronicle.Throughout TimersShow past s ∧
    (∀ before m later x, past = before ++ m :: later → m.instruction? = some (.ldFromDelay x) →
      (m.after.getV x).toNat = Timer.delay.reading before) ∧
    (∀ (t : State) (timer : Timer) (cs : List Int),
      (∀ c ∈ cs, -0x80000000 ≤ c ∧ c < 0x80000000) →
      (t.halted = true ∨ ∀ m ∈ t.past (cs.map .frame), m.sets? timer = none) →
        ∃ u, cs.foldlM State.frameGiven t = .ok u ∧
          (u.timer timer).toNat = (t.timer timer).toNat - cs.length) ∧
    ∀ (t : State) (c : Int), ¬ (-0x80000000 ≤ c ∧ c < 0x80000000) →
      t.frameGiven c = .error (.notAnOperand c) := by
  refine ⟨history.timersShow, ?_, ?_, fun t _ => t.frameGiven_of_not_fits⟩
  · intro before m later x hpast hread
    obtain ⟨-, earlier⟩ := history.timersShow
    rw [m.getV_after_of_ldFromDelay hread]
    exact (earlier before m later hpast).timer .delay
  · intro t timer cs countable untouched
    exact State.exists_foldlM_frameGiven countable untouched

/-- The delay timer is set to three, read after two ticks, and left alone for two frames. -/
theorem timer_history_counted_down :
    let start := State.fresh (Random.Key.ofSeed 7) true
    let es : List Event := [.load [0x60, 0x03, 0xF0, 0x15, 0xF1, 0x07] true, .frame 2, .tick]
    let m : Moment := ⟨start.after es, .cycle⟩
    let past := start.past (es ++ [.step])
    let s := start.after (es ++ [.step])
    (Chronicle 7 past s ∧ past = start.past es ++ [m] ∧ m.instruction? = some (.ldFromDelay 1) ∧
      ∀ m ∈ s.past [.frame 1, .frame 0], m.sets? .delay = none) ∧
    Timer.delay.reading (start.past es) = 1 ∧ (m.after.getV 1).toNat = 1 ∧
      ∃ u, [1, 0].foldlM State.frameGiven s = .ok u ∧ (u.timer .delay).toNat = 0 := by
  intro start es m past s
  have history : Chronicle 7 past s := .machine rfl _ (by decide)
  have hpast : past = start.past es ++ [m] := start.past_append es [.step]
  have shown : m.instruction? = some (.ldFromDelay 1) ∧
      (∀ m ∈ s.past [.frame 1, .frame 0], m.sets? .delay = none) ∧
      Timer.delay.reading (start.past es) = 1 ∧ (s.timer .delay).toNat ≤ 2 := by decide +kernel
  clear_value s m past start
  obtain ⟨hread, untouched, hreading, low⟩ := shown
  obtain ⟨-, reads, frames, -⟩ := timer_history history
  obtain ⟨u, ran, lowered⟩ := frames s .delay [1, 0] (by decide) (.inr untouched)
  refine ⟨⟨history, hpast, hread, untouched⟩, hreading, ?_, u, ran, ?_⟩
  · rw [reads _ m [] 1 hpast hread, hreading]
  · rw [lowered]
    exact Nat.sub_eq_zero_of_le low

/-- A program that sets the delay timer and returns from nowhere: a frame whose cycles cannot be
counted does not lower the timer. -/
theorem long_frame_not_ticked :
    let s := (State.fresh (Random.Key.ofSeed 7) true).after
      [.load [0x60, 0x05, 0xF0, 0x15, 0x00, 0xEE] true, .step, .step, .step]
    s.halted = true ∧ s.delay = 5 ∧
      s.frameGiven 0x80000000 = .error (.notAnOperand 0x80000000) ∧
      s.afterEvent (.frame 0x80000000) = s := by
  intro s
  have shown : s.halted = true ∧ s.delay = 5 := by decide +kernel
  clear_value s
  have refused := (s.refused_of_long (n := 0x80000000) (by decide)).2
  refine ⟨shown.1, shown.2, refused, ?_⟩
  rw [State.afterEvent, State.handle, refused]

end Chip8
