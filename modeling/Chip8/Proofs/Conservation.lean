import Chip8.Proofs.Ledger
import Chip8.Proofs.Metering
import Mathlib.Data.Int.Order.Basic
import Mathlib.Order.Lattice

/-!
# Nothing is counted twice or lost

The totals of a meter are its window and the windows that were closed (`RateMeter.conserved`), and
the totals of a host are the cycles and frames of its runs that succeeded (`Host.total_after`).

There is one exception. A run fails as well if a full window cannot be reported on, for instance
because a number in it is too large for a rate. By then the run is counted, at least in part, and
what was counted stays in the window and in the totals.
-/

namespace Chip8

/-! ## Meters whose times are exact -/

instance : Clock Int := ⟨fun later earlier => .ok (later - earlier)⟩

namespace RateMeter

section

variable {τ ρ : Type} [Clock τ] [OfNat τ 0] [LE τ] [LT τ] [DecidableLE τ] [DecidableLT τ]
  {report : τ → Window τ → Except Error ρ}

/-- **The totals are the window and the windows that were closed.** -/
theorem conserved (interval : Except Error τ) (begin : τ) {history : List (τ × Tally)}
    (counts : ∀ t ∈ history.map (·.2), t.IsWhole) :
    let first := start interval begin
    (first.counting report history).total =
      (Tally.sum ((first.closings report history).map (·.counted))).add
        (first.counting report history).window := by
  intro first
  obtain ⟨-, -, windows⟩ :=
    window_counting (m := first) report Tally.isWhole_zero counts
  rw [windows]
  exact total_counting (m := first) Tally.isWhole_zero counts

end

variable {τ ρ : Type} [LinearOrder τ] [OfNat τ 0] [Sub τ] [Clock τ]
  {report : τ → Window τ → Except Error ρ}

/-- Where times are exact, a window is full when it has lasted for the interval. -/
theorem full?_of_exact
    (exact : ∀ later earlier : τ, Clock.elapsed later earlier = .ok (later - earlier))
    {m : RateMeter τ} {interval : τ} (hm : m.interval = .ok interval) (now : τ) :
    m.full? now = .ok (if 0 < interval ∧ interval ≤ now - m.windowStart
      then some (now - m.windowStart) else none) := by
  rw [full?, hm, exact]
  by_cases never : interval ≤ 0
  · simp [never, not_lt_of_ge never]
  · by_cases early : now - m.windowStart < interval
    · simp [never, early, Except.map]
    · simp [never, early, not_lt.mp early, lt_of_not_ge never, Except.map]

/-- A count closes the window if that has lasted for the interval and can be reported on. -/
theorem count_of_exact
    (exact : ∀ later earlier : τ, Clock.elapsed later earlier = .ok (later - earlier))
    {m : RateMeter τ} {interval : τ} (hm : m.interval = .ok interval) (now : τ) (t : Tally) :
    let w : Window τ := ⟨m.window.add t, now - m.windowStart⟩
    let next := (m.countReporting (report now) now t).1
    if 0 < interval ∧ interval ≤ w.length ∧ (report now w).isOk then
      m.closed? report now t = some w ∧ next.window = .zero ∧ next.windowStart = now
    else
      m.closed? report now t = none ∧ next.window = m.window.add t ∧
        next.windowStart = m.windowStart := by
  intro w next
  have full := full?_of_exact exact hm now
  have hnext := fst_countReporting report m now t
  split
  next closes =>
    obtain ⟨positive, due, possible⟩ := closes
    rw [if_pos ⟨positive, due⟩] at full
    have hclosed := closed?_eq_some.mpr ⟨w.length, full, possible, rfl⟩
    rw [hclosed] at hnext
    exact ⟨hclosed, congrArg (·.window) hnext, congrArg (·.windowStart) hnext⟩
  next stays =>
    have hclosed : m.closed? report now t = none := by
      rw [Option.eq_none_iff_forall_ne_some]
      intro v hv
      obtain ⟨length, hfull, possible, rfl⟩ := closed?_eq_some.mp hv
      rw [full] at hfull
      obtain ⟨⟨positive, due⟩, hlength⟩ :=
        Option.ite_none_right_eq_some.mp (Except.ok.inj hfull)
      obtain rfl := Option.some.inj hlength
      exact stays ⟨positive, due, possible⟩
    rw [hclosed] at hnext
    exact ⟨hclosed, congrArg (·.window) hnext, congrArg (·.windowStart) hnext⟩

end RateMeter

/-! ## Hosts -/

/-- What a command is worth that succeeds, where a frame has `k` cycles. -/
def Command.worth (k : Int) : Command → Tally
  | .step => .whole 1 0
  | .runFrame => .whole k 1
  | .runFrames (.whole n) _ => .whole (n * k) n
  | _ => .zero

theorem Command.sum_counts {c : Command} (whole : c.InWholes) (k : Int) :
    Tally.sum (c.counts k) = c.worth k := by
  cases c with
  | runFrames n progress =>
      obtain ⟨n, rfl⟩ := Count.isWhole_iff.mp whole
      exact Tally.sum_cycles_frames (n * k) n
  | runFrame => exact Tally.sum_cycles_frames k 1
  | _ => rfl

namespace Host

variable {h : Host} {es : List (Seconds × Command)}

def gain (h : Host) (now : Seconds) (c : Command) : Tally :=
  match (h.perform now c).result with
  | .ok _ => c.worth h.pace
  | .error _ => Tally.sum (h.made now c)

def gained (h : Host) : List (Seconds × Command) → Tally
  | [] => .zero
  | (now, c) :: es => (h.gain now c).add ((h.perform now c).host.gained es)

theorem sum_made (paced : h.PacedInWholes) (now : Seconds) {c : Command} (whole : c.InWholes) :
    Tally.sum (h.made now c) = h.gain now c := by
  rw [gain]
  rcases made_cases paced now c with ⟨⟨a, hresult⟩, hmade⟩ | ⟨e, hresult, -⟩
  · rw [hresult, hmade]
    exact c.sum_counts whole h.pace
  · rw [hresult]

theorem isWhole_gain (paced : h.PacedInWholes) (now : Seconds) {c : Command} (whole : c.InWholes) :
    (h.gain now c).IsWhole := by
  rw [← sum_made paced now whole]
  exact Tally.isWhole_sum (h.isWhole_made now whole)

theorem isWhole_gained (paced : h.PacedInWholes) (wholes : ∀ e ∈ es, e.2.InWholes) :
    (h.gained es).IsWhole := by
  induction es generalizing h with
  | nil => exact Tally.isWhole_zero
  | cons e es ih =>
      obtain ⟨whole, later⟩ := List.forall_mem_cons.mp wholes
      exact (isWhole_gain paced e.1 whole).add (ih (pacedInWholes_perform paced e.1 whole) later)

theorem total_after (paced : h.PacedInWholes) (hm : h.meter.total.IsWhole)
    (wholes : ∀ e ∈ es, e.2.InWholes) :
    (h.after es).meter.total = h.meter.total.add (h.gained es) := by
  induction es generalizing h with
  | nil => exact (Tally.add_zero hm).symm
  | cons e es ih =>
      obtain ⟨now, c⟩ := e
      obtain ⟨whole, later⟩ := List.forall_mem_cons.mp wholes
      have paced' := pacedInWholes_perform paced now whole
      have gain := isWhole_gain paced now whole
      have first := total_perform paced hm now whole
      rw [sum_made paced now whole] at first
      have hm' : (h.perform now c).host.meter.total.IsWhole := by
        rw [first]
        exact hm.add gain
      refine (ih paced' hm' later).trans ?_
      rw [first, gained, Tally.add_assoc hm gain (isWhole_gained paced' later)]

end Host

/-- **No cycle and no frame is lost or counted twice.** -/
theorem nothing_lost {τ ρ : Type} [LinearOrder τ] [OfNat τ 0] [Sub τ] [Clock τ]
    (exact : ∀ later earlier : τ, Clock.elapsed later earlier = .ok (later - earlier))
    (report : τ → Window τ → Except Error ρ) (interval begin : τ) {history : List (τ × Tally)}
    (counts : ∀ e ∈ history, e.2.IsWhole) {config : Config} {logger : Logger} {clock : Seconds}
    {space : Space} {h : Host} (created : Host.create config logger space clock = .ok h) {k : Int}
    (pace : config.cyclesPerFrame = .ofInt k) {es : List (Seconds × Command)}
    (wholes : ∀ e ∈ es, e.2.InWholes) :
    (let first := RateMeter.start (.ok interval) begin
     let m := first.counting report history
     m.total = (Tally.sum ((first.closings report history).map (·.counted))).add m.window ∧
      ∀ now t,
        let w : Window τ := ⟨m.window.add t, now - m.windowStart⟩
        let next := (m.countReporting (report now) now t).1
        if 0 < interval ∧ interval ≤ w.length ∧ (report now w).isOk then
          m.closed? report now t = some w ∧ next.window = .zero ∧ next.windowStart = now
        else
          m.closed? report now t = none ∧ next.window = m.window.add t ∧
            next.windowStart = m.windowStart) ∧
    (let g := h.after es
     g.meter.total = h.gained es ∧
      g.meter = h.meter.counting h.reported (h.ledger es) ∧
      g.meter.total =
        (Tally.sum ((h.meter.closings h.reported (h.ledger es)).map (·.counted))).add
          g.meter.window ∧
      ∀ now c, c.InWholes →
        (g.perform now c).host.meter.total = g.meter.total.add (g.gain now c) ∧
        (∃ c', g.config.cyclesPerFrame = .ofInt c' ∧
          ∀ a, (g.perform now c).result = .ok a → g.gain now c = c.worth c') ∧
        ∀ e, (g.perform now c).result = .error e →
          g.gain now c = .zero ∨ g.made now c <+: c.counts g.pace ∧
            g.ReportFails now (g.made now c) e) := by
  have counts' : ∀ t ∈ history.map (·.2), t.IsWhole := List.forall_mem_map.mpr counts
  have fresh : h.meter = RateMeter.start config.reportInterval clock := by
    obtain ⟨state, -, rfl⟩ := Host.eq_of_create created
    rfl
  have paced : h.PacedInWholes := by
    obtain ⟨state, -, rfl⟩ := Host.eq_of_create created
    exact Host.pacedInWholes_iff.mpr ⟨k, pace⟩
  refine ⟨⟨RateMeter.conserved (.ok interval) begin counts', ?_⟩, ?_⟩
  · exact RateMeter.count_of_exact exact (RateMeter.interval_counting _ history)
  · intro g
    have meter : g.meter = _ := Host.meter_after paced wholes
    have paced' : g.PacedInWholes := Host.pacedInWholes_after paced wholes
    have total : h.meter.total = .zero := congrArg (·.total) fresh
    have whole₀ : h.meter.total.IsWhole := total ▸ Tally.isWhole_zero
    have after : g.meter.total = h.gained es := by
      rw [Host.total_after paced whole₀ wholes, total,
        Tally.zero_add (Host.isWhole_gained paced wholes)]
    refine ⟨after, meter, ?_, ?_⟩
    · rw [meter, fresh]
      exact RateMeter.conserved _ clock (Host.isWhole_ledger paced wholes)
    · intro now c whole
      have whole₁ : g.meter.total.IsWhole := after ▸ Host.isWhole_gained paced wholes
      have total := Host.total_perform paced' whole₁ now whole
      rw [Host.sum_made paced' now whole] at total
      refine ⟨total, ⟨g.pace, paced', ?_⟩, ?_⟩
      · intro a hresult
        rw [Host.gain, hresult]
      · intro e hresult
        rcases Host.made_cases paced' now c with ⟨⟨a, ok⟩, -⟩ | ⟨e', failed, none | fails⟩
        · rw [ok] at hresult
          cases hresult
        · rw [Host.gain, hresult, none]
          exact .inl rfl
        · obtain rfl := Except.error.inj (failed.symm.trans hresult)
          exact .inr ⟨g.made_prefix now c, fails⟩

/-- Three counts by a clock that is set back, and runs of two cycles a frame, of which the last one
halts and is not counted. -/
theorem nothing_lost_at_two_cycles :
    let config : Config := { cyclesPerFrame := .ofInt 2 }
    let logger : Logger := ⟨"chipax", "INFO", false, false, false, 0⟩
    let history : List (Int × Tally) := [(1, .whole 4 0), (3, .whole 0 1), (2, .whole 5 0)]
    let first := RateMeter.start (.ok 3) (0 : Int)
    let report (_ : Int) (_ : Window Int) : Except Error Unit := .ok ()
    let es : List (Seconds × Command) :=
      [(0, .load [0x12, 0x00] "program"), (1, .step), (2, .runFrame), (9, .runFrames 2 true),
        (9, .tick), (10, .load [0x00, 0xEE] "program"), (11, .runFrame)]
    (first.counting report history).total =
        (Tally.sum ((first.closings report history).map (·.counted))).add (.whole 5 0) ∧
      ∃ h, Host.create config logger .least 0 = .ok h ∧ (h.after es).meter.total = .whole 7 3 := by
  intro config logger history first report es
  have wholes : ∀ e ∈ es, e.2.InWholes := by simp [es, Command.InWholes, Count.IsWhole]
  have created : Host.create config logger .least 0 = .ok _ := rfl
  obtain ⟨⟨meter, -⟩, total, -⟩ :=
    nothing_lost (fun _ _ => rfl) report 3 0 (by decide : ∀ e ∈ history, _) created rfl wholes
  refine ⟨meter, _, created, ?_⟩
  rw [total]
  decide +kernel

/-- A number too large for a rate: the run fails, but its cycles are counted. -/
theorem unreported_cycles_counted :
    let logger : Logger := ⟨"chipax", "INFO", false, false, false, 0⟩
    let h : Host :=
      { config := { cyclesPerFrame := .ofInt (-1) }, logger := logger, space := .least
        meter := RateMeter.start (.ok (.real 3.0)) 0
        state := State.fresh (Random.Key.ofSeed 0) true, program := [] }
    let o := h.perform (.real 10.5) (.runFrames (.whole (-10 ^ 400)) false)
    Host.create { cyclesPerFrame := .ofInt (-1) } logger .least 0 = .ok h ∧
      o.result = .error .numberTooLarge ∧ o.host.meter.total = .whole (10 ^ 400) 0 := by
  intro logger h o
  refine ⟨rfl, Outcome.result_done_error.mpr ?_, ?_⟩
  · decide +kernel
  · decide +kernel

end Chip8
