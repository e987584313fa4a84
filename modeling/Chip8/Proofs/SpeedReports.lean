import Chip8.Proofs.Ledger
import Chip8.Proofs.Metering
import Mathlib.Algebra.Order.Ring.Int

/-!
# What the reports on the speed cover

A run is counted in two parts, first its cycles and then its frames, both at one time. So it is the
cycles that fill a window, and the report on it covers the cycles of the run at hand, while the
frames of that run fall into the next window (`Host.countAll_pair`).

A window therefore holds `c` cycles for each of its frames, less those of the run that brought about
the last report, and a report has those of the run at hand on top (`Host.window_perform`). The
rates are in proportion only when these two runs have equally many frames.
-/

namespace Chip8

/-! ## No time at all -/

def Seconds.IsFinite : Seconds → Prop
  | .whole _ => True
  | .real x => x.isFinite = true

/-- Zero is at the same place in the order whatever its exponent is. -/
theorem Binary.zero_lt_iff (e : Int) (v : Binary) :
    compare? (.finite false 0 e) v = some .lt ↔ compare? (ofInt 0) v = some .lt := by
  cases v with
  | nan | infinite _ => rfl
  | finite negative n f =>
      have size (e : Int) : (0 : Int) < (Nat.pow 2 (f - min e f).toNat : Nat) :=
        Int.natCast_pos.mpr (Nat.two_pow_pos _)
      have sign (e : Int) : compare? (.finite false 0 e) (.finite negative n f) = some .lt ↔
          0 < (if negative then -1 else 1) * (n : Int) := by
        rw [compare?, Option.some.injEq, Int.compare_eq_lt]
        dsimp only
        rw [Int.natCast_zero, Int.mul_zero, Int.zero_mul, mul_pos_iff_of_pos_right (size e)]
      exact (sign e).trans (sign 0).symm

namespace Seconds

open Float.Model in
theorem unpacked_sub_self (spec : Format) {u : UnpackedFloat} (finite : u.isFinite = true) :
    u.sub spec u = .zero .positive := by
  cases u with
  | infinity _ | notANumber => cases finite
  | zero sign => cases sign <;> rfl
  | finite sign mantissa exponent _ =>
      change UnpackedFloat.normalize spec (_ - _) _ .positive = _
      rw [Int.sub_self]
      rfl

open Float.Model in
theorem real_sub_self {x : Float} (finite : x.isFinite = true) : x - x = Float.ofBits 0 := by
  change Float.ofModel (.pack (UnpackedFloat.sub .binary64 x.toModel.unpack x.toModel.unpack)) = _
  rw [unpacked_sub_self _ finite]
  rfl

/-- No time passes from a reading to itself, which is less than any positive time. -/
theorem since_self {now : Seconds} (finite : now.IsFinite) {interval : Seconds}
    (positive : 0 < interval) : ∃ none, now.since now = .ok none ∧ none < interval := by
  cases now with
  | whole n =>
      refine ⟨whole (n - n), rfl, ?_⟩
      rw [Int.sub_self]
      exact positive
  | real x =>
      refine ⟨real (x - x), rfl, ?_⟩
      rw [real_sub_self finite]
      exact (Binary.zero_lt_iff (-1074) _).mpr positive

end Seconds

/-! ## Counting cycles and frames at one time -/

namespace RateMeter

variable {τ ρ : Type} [Clock τ] [OfNat τ 0] [LE τ] [LT τ] [DecidableLE τ] [DecidableLT τ]
  {report : τ → Window τ → Except Error ρ} {m : RateMeter τ} {now : τ} {t : Tally}

variable (report) in
/-- A count that succeeds has found the window open, or it has been reported on. -/
theorem countReporting_cases {r : Option ρ}
    (counted : (m.countReporting (report now) now t).2 = .ok r) :
    m.full? now = .ok none ∨ ∃ length r, m.full? now = .ok (some length) ∧
      report now ⟨m.window.add t, length⟩ = .ok r := by
  have added : (m.add t).full? now = m.full? now := rfl
  rcases full : m.full? now with e | _ | length
  · simp only [countReporting, count, added, full] at counted
    cases counted
  · exact .inl rfl
  · cases possible : report now ⟨m.window.add t, length⟩ with
    | ok r => exact .inr ⟨length, r, rfl, possible⟩
    | error e =>
        have failed : report now ⟨(m.add t).window, length⟩ = .error e := possible
        simp only [countReporting, count, added, full, failed] at counted
        cases counted

theorem full?_restart {interval : τ} (hm : m.interval = .ok interval)
    (fresh : ∃ none, Clock.elapsed now now = .ok none ∧ none < interval) :
    (m.restart now).full? now = .ok none := by
  obtain ⟨none, elapsed, early⟩ := fresh
  simp only [full?, restart, hm, elapsed, Except.map, if_pos early, ite_self]

/-- Of two counts at one time only the first one can close a window. -/
theorem closings_pair_of_open (short : m.full? now = .ok none) (t u : Tally) :
    m.closings report [(now, t), (now, u)] = [] := by
  have second := countReporting_of_open report (m := m.add t) short u
  have first := countReporting_of_open report short t
  rw [closings, first.1, first.2, closings, second.2]
  rfl

theorem closings_pair_of_full {interval : τ} (hm : m.interval = .ok interval)
    (fresh : ∃ none, Clock.elapsed now now = .ok none ∧ none < interval) {length : τ}
    (full : m.full? now = .ok (some length)) {r : ρ}
    (possible : report now ⟨m.window.add t, length⟩ = .ok r) (u : Tally) :
    m.closings report [(now, t), (now, u)] = [⟨m.window.add t, length⟩] := by
  have begun := full?_restart (m := m.add t) hm fresh
  have second := countReporting_of_open report begun u
  have first := countReporting_of_full full possible
  rw [closings, first.1, first.2, closings, second.2]
  rfl

end RateMeter

def Command.frames? : Command → Option Int
  | .runFrame => some 1
  | .runFrames (.whole n) _ => some n
  | _ => none

theorem Command.counts_of_frames {cmd : Command} {n : Int} (hn : cmd.frames? = some n) (c : Int) :
    cmd.counts c = [.whole (c * n) 0, .whole 0 n] := by
  cases cmd with
  | runFrame =>
      obtain rfl := Option.some.inj hn
      rw [Int.mul_one]
      rfl
  | runFrames count progress =>
      cases count with
      | whole m =>
          obtain rfl := Option.some.inj hn
          rw [Int.mul_comm]
          rfl
      | real x => cases hn
  | _ => cases hn

namespace Host

variable {h : Host} {now : Seconds} {cmd : Command}

/-- Cycles and frames of one run: the cycles fill the window, if anything does. -/
theorem countAll_pair {interval : Seconds} (hm : h.meter.interval = .ok interval)
    (fresh : ∃ none, now.since now = .ok none ∧ none < interval) {t u : Tally}
    (succeeds : (h.countAll now [.ok t, .ok u]).result = .ok ()) :
    (h.meter.full? now = .ok none ∧ h.countAll now [.ok t, .ok u] =
      { h with meter := (h.meter.add t).add u }.observed (.ok ())) ∨
    ∃ length lines, h.meter.full? now = .ok (some length) ∧
      h.reported now ⟨h.meter.window.add t, length⟩ = .ok lines ∧
      h.countAll now [.ok t, .ok u] =
        { { h with meter := ((h.meter.add t).restart now).add u }.observed (.ok ()) with
          lines := lines } := by
  have pair : h.countAll now [.ok t, .ok u] = (h.count now t).andThen fun g _ =>
      (g.count now u).andThen fun g _ => g.observed (.ok ()) := rfl
  have first : (h.count now t).result = .ok () := by
    cases result : (h.count now t).result with
    | ok _ => rfl
    | error e =>
        rw [pair, (Outcome.andThen_of_error result _).2] at succeeds
        cases succeeds
  obtain ⟨r, counted⟩ := exists_of_count_ok first
  rw [pair]
  rcases RateMeter.countReporting_cases h.reported counted with
    short | ⟨length, lines, full, possible⟩
  · have second := count_of_open (h := { h with meter := h.meter.add t }) short u
    refine .inl ⟨short, ?_⟩
    rw [count_of_open short, Outcome.observed_andThen, second]
    rfl
  · have second := count_of_open (h := { h with meter := (h.meter.add t).restart now })
      (RateMeter.full?_restart (m := h.meter.add t) hm fresh) u
    refine .inr ⟨length, lines, full, possible, ?_⟩
    rw [count_of_full full possible, noted_andThen, second]
    exact congrArg (Outcome.mk _ · _ _) (List.append_nil lines)

/-! ## Runs of frames -/

def reports (h : Host) (now : Seconds) (cmd : Command) : List (Window Seconds) :=
  h.meter.closings h.reported ((h.made now cmd).map (now, ·))

/-- Does the host run `c` cycles in a frame, and report on them from time to time? -/
structure Reporting (h : Host) (c : Int) (interval : Seconds) : Prop where
  pace : h.config.cyclesPerFrame = .ofInt c
  meter : h.meter.interval = .ok interval
  positive : 0 < interval

section

variable {c n : Int} {interval : Seconds} (hr : h.Reporting c interval)

include hr

theorem Reporting.pace_eq : h.pace = c ∧ h.PacedInWholes := by
  have pace : h.pace = c := by rw [Host.pace, hr.pace]; rfl
  refine ⟨pace, ?_⟩
  rw [PacedInWholes, pace]
  exact hr.pace

/-- A run of frames that succeeds is completed, and its cycles and frames are counted. -/
theorem frames_counted (hn : cmd.frames? = some n)
    (succeeds : (h.perform now cmd).result.isOk = true) :
    ∃ s, h.completed? cmd = some s ∧
      h.made now cmd = [.whole (c * n) 0, .whole 0 n] ∧
      ({ h with state := s }.countAll now
        [.ok (.whole (c * n) 0), .ok (.whole 0 n)]).result = .ok () := by
  obtain ⟨pace, paced⟩ := hr.pace_eq
  have runs : ∃ go, h.going? cmd = some go := by
    cases cmd with
    | runFrame | runFrames _ _ => exact ⟨_, rfl⟩
    | _ => cases hn
  obtain ⟨go, hgo⟩ := runs
  cases result : (h.perform now cmd).result with
  | error e =>
      rw [result] at succeeds
      cases succeeds
  | ok a =>
      obtain ⟨s, hc, made, counted⟩ := completed_of_ok paced hgo result
      rw [pace, cmd.counts_of_frames hn c] at made counted
      exact ⟨s, hc, made, counted⟩

/-- **A report covers the cycles of the run that brings it about, but not its frames.** -/
theorem perform_frames (finite : now.IsFinite) (hn : cmd.frames? = some n)
    (succeeds : (h.perform now cmd).result.isOk = true) :
    let o := h.perform now cmd
    let cycles := Tally.whole (c * n) 0
    let frames := Tally.whole 0 n
    h.reports now cmd = [] ∧ o.lines = [] ∧ o.host.meter = (h.meter.add cycles).add frames ∨
      ∃ w, h.reports now cmd = [w] ∧ w.counted = h.meter.window.add cycles ∧
        h.reported now w = .ok o.lines ∧
        o.host.meter = ((h.meter.add cycles).restart now).add frames := by
  intro o cycles frames
  obtain ⟨pace, paced⟩ := hr.pace_eq
  have fresh := Seconds.since_self finite hr.positive
  obtain ⟨s, hc, made, counted⟩ := frames_counted hr hn succeeds
  obtain ⟨hhost, hlines, -⟩ := perform_of_completed paced hc now
  rw [pace, cmd.counts_of_frames hn c] at hhost hlines
  rcases countAll_pair (h := { h with state := s }) hr.meter fresh counted with
    ⟨short, pair⟩ | ⟨length, lines, full, possible, pair⟩
  · refine .inl ⟨?_, hlines.trans (congrArg (·.lines) pair), ?_⟩
    · rw [reports, made]
      exact RateMeter.closings_pair_of_open short cycles frames
    · exact (congrArg (·.meter) hhost).trans (congrArg (·.host.meter) pair)
  · refine .inr ⟨⟨h.meter.window.add cycles, length⟩, ?_, rfl, ?_, ?_⟩
    · rw [reports, made]
      exact RateMeter.closings_pair_of_full hr.meter fresh full possible frames
    · exact possible.trans (congrArg Except.ok (hlines.trans (congrArg (·.lines) pair)).symm)
    · exact (congrArg (·.meter) hhost).trans (congrArg (·.host.meter) pair)

theorem window_perform (finite : now.IsFinite) (hn : cmd.frames? = some n) {frames behind : Int}
    (window : h.meter.window = .whole (c * (frames - behind)) frames)
    (succeeds : (h.perform now cmd).result.isOk = true) :
    let o := h.perform now cmd
    h.reports now cmd = [] ∧ o.lines = [] ∧
        o.host.meter.window = .whole (c * (frames + n - behind)) (frames + n) ∨
      ∃ w, h.reports now cmd = [w] ∧ w.counted = .whole (c * (frames - behind + n)) frames ∧
        h.reported now w = .ok o.lines ∧ o.host.meter.window = .whole (c * (n - n)) n := by
  intro o
  have ahead : (Tally.whole (c * (frames - behind)) frames).add (.whole (c * n) 0) =
      .whole (c * (frames - behind + n)) frames := by
    rw [Tally.whole_add, ← Int.mul_add, Int.add_zero]
  rcases perform_frames hr finite hn succeeds with ⟨none, quiet, meter⟩ | ⟨w, one, hw, lines, meter⟩
  · refine .inl ⟨none, quiet, ?_⟩
    rw [meter]
    change (h.meter.window.add (.whole (c * n) 0)).add (.whole 0 n) = _
    rw [window, ahead, Tally.whole_add, Int.add_zero, sub_add_eq_add_sub]
  · refine .inr ⟨w, one, ?_, lines, ?_⟩
    · rw [hw, window, ahead]
    · rw [meter, Int.sub_self, Int.mul_zero]
      change (Tally.whole 0 0).add (.whole 0 n) = _
      rw [Tally.whole_add, Int.zero_add, Int.zero_add]

theorem Reporting.perform (hn : cmd.frames? = some n) (now : Seconds) :
    (h.perform now cmd).host.Reporting c interval := by
  rcases h.perform_parts now cmd with ⟨setting, rfl⟩ | ⟨state, meter, program, hhost, -⟩
  · cases hn
  · have interval := congrArg (·.interval) (meter_perform hr.pace_eq.2 now cmd)
    rw [RateMeter.interval_counting, hr.meter] at interval
    refine ⟨?_, interval, hr.positive⟩
    rw [hhost]
    exact hr.pace

end

/-! ## Histories of frames -/

/-- Do all commands of the history ask for frames, at times that are numbers of seconds, and get
them? -/
def RunsFrames (h : Host) : List (Seconds × Command) → Prop
  | [] => True
  | (now, cmd) :: es =>
      now.IsFinite ∧ (∃ n, cmd.frames? = some n) ∧ (h.perform now cmd).result.isOk = true ∧
        (h.perform now cmd).host.RunsFrames es

/-- The frames of the last command that brought about a report, `behind` before the first one. -/
def behind (h : Host) (k : Int) : List (Seconds × Command) → Int
  | [] => k
  | (now, cmd) :: es =>
      (h.perform now cmd).host.behind
        (if (h.reports now cmd).isEmpty then k else cmd.frames?.getD 0) es

/-- A window lacks the cycles of the run that brought about the last report. -/
theorem window_after {c : Int} {interval : Seconds} (hr : h.Reporting c interval)
    {es : List (Seconds × Command)} (runs : h.RunsFrames es) {frames k : Int}
    (window : h.meter.window = .whole (c * (frames - k)) frames) :
    (h.after es).Reporting c interval ∧
      ∃ frames, (h.after es).meter.window = .whole (c * (frames - h.behind k es)) frames := by
  induction es generalizing h frames k with
  | nil => exact ⟨hr, frames, window⟩
  | cons e es ih =>
      obtain ⟨now, cmd⟩ := e
      obtain ⟨finite, ⟨n, hn⟩, succeeds, later⟩ := runs
      have next := hr.perform hn now
      rw [behind]
      rcases window_perform hr finite hn window succeeds with
        ⟨none, -, window'⟩ | ⟨w, one, -, -, window'⟩
      · rw [none]
        exact ih next later window'
      · rw [one, hn]
        exact ih next later window'

/-- **Reports run ahead.** -/
theorem reports_run_ahead {config : Config} {logger : Logger} {space : Space} {clock : Seconds}
    (created : Host.create config logger space clock = .ok h) {c : Int}
    (pace : config.cyclesPerFrame = .ofInt c) {interval : Seconds}
    (every : config.reportInterval = .ok interval) (positive : 0 < interval)
    {es : List (Seconds × Command)} (runs : h.RunsFrames es) :
    let g := h.after es
    let k := h.behind 0 es
    ∃ frames, g.meter.window = .whole (c * (frames - k)) frames ∧
      ∀ now cmd n, now.IsFinite → cmd.frames? = some n →
        (g.perform now cmd).result.isOk = true →
        let o := g.perform now cmd
        g.reports now cmd = [] ∧ o.lines = [] ∧
            o.host.meter.window = .whole (c * (frames + n - k)) (frames + n) ∨
          ∃ w, g.reports now cmd = [w] ∧ g.reported now w = .ok o.lines ∧
            w.counted = .whole (c * (frames - k + n)) frames ∧
            o.host.meter.window = .whole (c * (n - n)) n ∧
            (w.counted = .whole (c * frames) frames ↔ c = 0 ∨ n = k) := by
  intro g k
  have first : h.Reporting c interval := by
    obtain ⟨state, -, rfl⟩ := eq_of_create created
    exact ⟨pace, every, positive⟩
  have none : h.meter.window = .whole (c * (0 - 0)) 0 := by
    obtain ⟨state, -, rfl⟩ := eq_of_create created
    rw [Int.sub_self, Int.mul_zero]
    rfl
  obtain ⟨hr, frames, window⟩ := window_after first runs none
  refine ⟨frames, window, ?_⟩
  intro now cmd n finite hn succeeds o
  rcases window_perform hr finite hn window succeeds with open_ | ⟨w, one, hw, lines, begun⟩
  · exact .inl open_
  · refine .inr ⟨w, one, lines, hw, begun, ?_⟩
    have same : w.counted = .whole (c * frames) frames ↔ c * (frames - k + n) = c * frames := by
      rw [hw, Tally.whole_inj, and_iff_left rfl]
    rw [same, mul_eq_mul_left_iff]
    omega

/-- The first report comes with the second run, of two frames. It covers the cycles of three frames,
and the window after it has two frames without their cycles. -/
theorem reports_run_ahead_of_two_frames :
    let config : Config := { cyclesPerFrame := .ofInt 1 }
    let h : Host :=
      { config := config
        logger := ⟨"chipax", "INFO", false, false, false, .real 0⟩
        space := .least
        meter := RateMeter.start (.ok (.real 3.0)) (.real 0)
        state := State.fresh (Random.Key.ofSeed 0) true, program := [] }
    let es : List (Seconds × Command) := [(.real 1, .runFrame), (.real 4, .runFrames 2 false)]
    Host.create config h.logger .least (.real 0) = .ok h ∧ h.RunsFrames es ∧ h.behind 0 es = 2 ∧
      ∃ frames, (h.after es).meter.window = .whole (1 * (frames - 2)) frames := by
  intro config h es
  have created : Host.create config h.logger .least (.real 0) = .ok h := rfl
  have ran : (h.perform (.real 1) .runFrame).result.isOk = true ∧
      ((h.perform (.real 1) .runFrame).host.perform (.real 4) (.runFrames 2 false)).result.isOk =
        true ∧ h.behind 0 es = 2 := by
    decide +kernel
  obtain ⟨first, second, behind⟩ := ran
  have finite : Float.isFinite 1 = true ∧ Float.isFinite 4 = true := by decide +kernel
  have runs : h.RunsFrames es :=
    ⟨finite.1, ⟨1, rfl⟩, first, finite.2, ⟨2, rfl⟩, second, trivial⟩
  obtain ⟨frames, window, -⟩ := reports_run_ahead created rfl rfl (by decide +kernel) runs
  rw [behind] at window
  exact ⟨created, runs, behind, frames, window⟩

/-- After the first frame, five seconds after the start, ten cycles and no frame are reported. -/
theorem first_report_without_frame :
    let h : Host :=
      { config := {}
        logger := ⟨"chipax", "INFO", false, false, false, .real 0⟩
        space := .least
        meter := RateMeter.start (.ok (.real 3.0)) (.real 0)
        state := State.fresh (Random.Key.ofSeed 0) true, program := [] }
    let o := h.perform (.real 5) .runFrame
    Host.create {} h.logger .least (.real 0) = .ok h ∧ o.result.isOk = true ∧
      (h.reports (.real 5) .runFrame).map (·.counted) = [.whole 10 0] ∧
      o.lines = [⟨"INFO", "[    INFO][chipax] CPU = 2Hz, FPS = 0.0Hz"⟩] := by
  intro h o
  have reported : o.result.isOk = true ∧
      (h.reports (.real 5) .runFrame).map (·.counted) = [.whole 10 0] ∧
      o.lines = [⟨"INFO", "[    INFO][chipax] CPU = 2Hz, FPS = 0.0Hz"⟩] := by
    decide +kernel
  exact ⟨rfl, reported⟩

end Host

end Chip8
