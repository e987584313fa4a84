import Chip8.Proofs.Moderation
import Mathlib.Data.List.Forall2

/-!
# Observing a machine does not disturb it

Two hosts that differ in what they log, in the interval of their reports and in their clocks do the
same with their machines (`Host.Twins`), as long as the counts and times are of moderate size. If
they differ in the threshold of the log only, the stricter one prints just those lines of the other
that it admits.
-/

namespace Chip8

/-- Is the line printed at a level that this threshold admits? -/
def Line.isAdmitted (threshold : String) (line : Line) : Bool :=
  Level.rankOf threshold ≤ Level.rankOf line.level

/-- Hosts of one machine. If they are `alike` in everything but the threshold of the log, that of
the second one is `strict` and ranks at least as high. -/
structure Host.Twins (alike : Prop) (strict : String) (h g : Host) : Prop where
  config : ∃ level interval,
    g.config = { h.config with logLevel := level, reportInterval := interval }
  state : g.state = h.state
  program : g.program = h.program
  space : g.space = h.space
  total : g.meter.total = h.meter.total
  first : h.InBounds
  second : g.InBounds
  same : alike → g.meter = h.meter ∧ g.logger = h.logger.withThreshold strict ∧
    Level.rankOf h.logger.threshold ≤ Level.rankOf strict

structure Outcome.Twins {α : Type} (alike : Prop) (strict : String) (o p : Outcome α) : Prop where
  host : o.host.Twins alike strict p.host
  result : p.result = o.result
  lines : alike → p.lines = o.lines.filter (Line.isAdmitted strict)

variable {alike : Prop} {strict : String}

/-! ## Outcomes -/

namespace Outcome

variable {α β : Type}

theorem Twins.andThen {o p : Outcome α} (twins : o.Twins alike strict p)
    {next next' : Host → α → Outcome β}
    (later : ∀ a, o.result = .ok a → (next o.host a).Twins alike strict (next' p.host a)) :
    (o.andThen next).Twins alike strict (p.andThen next') := by
  rw [Outcome.andThen, Outcome.andThen, twins.result]
  cases result : o.result with
  | error e => exact ⟨twins.host, rfl, twins.lines⟩
  | ok a =>
      have then_ := later a result
      refine ⟨then_.host, then_.result, ?_⟩
      intro same
      change p.lines ++ (next' p.host a).lines = (o.lines ++ (next o.host a).lines).filter _
      rw [twins.lines same, then_.lines same, List.filter_append]

theorem Twins.withBar {o p : Outcome α} (twins : o.Twins alike strict p)
    (bar bar' : List Progress.Event) :
    Outcome.Twins alike strict { o with bar := bar } { p with bar := bar' } :=
  ⟨twins.host, twins.result, twins.lines⟩

theorem Twins.done {o p : Outcome Unit} (twins : o.Twins alike strict p) :
    o.done.Twins alike strict p.done :=
  ⟨twins.host, congrArg (Except.map fun _ => Reply.done) twins.result, twins.lines⟩

end Outcome

namespace Host

variable {h g : Host} {now later : Seconds} (twins : h.Twins alike strict g)

include twins

theorem Twins.update (s : State) {p q : List UInt8} (same : q = p) :
    Host.Twins alike strict { h with state := s, program := p }
      { g with state := s, program := q } :=
  ⟨twins.config, rfl, same, twins.space, twins.total, twins.first.congr rfl rfl,
    twins.second.congr rfl rfl, twins.same⟩

theorem Twins.observed {α : Type} (r : Except Error α) :
    (h.observed r).Twins alike strict (g.observed r) :=
  ⟨twins, rfl, fun _ => rfl⟩

theorem Twins.became (s : State) : (h.became s).Twins alike strict (g.became s) :=
  (twins.update s twins.program).observed (.ok ())

/-- Alike hosts print the same, as far as the stricter one admits it. -/
theorem Twins.print (times : alike → later = now) (same : alike) {ms : List Message}
    {lines : List Line} (printed : h.logger.print now ms = .ok lines) :
    g.logger.print later ms = .ok (lines.filter (Line.isAdmitted strict)) := by
  obtain ⟨-, logger, rank⟩ := twins.same same
  rw [logger, times same]
  exact Logger.print_of_rank_le h.logger strict now ms lines rank printed

theorem Twins.reported (times : alike → later = now) (same : alike) {w : Window Seconds}
    {lines : List Line} (reported : h.reported now w = .ok lines) :
    g.reported later w = .ok (lines.filter (Line.isAdmitted strict)) := by
  obtain ⟨rates, hrates, printed⟩ := exists_of_bind_ok reported
  rw [Host.reported, hrates]
  exact twins.print times same printed

/-- Alike hosts close the same windows and log the same of them, as far as it is admitted. -/
theorem Twins.count_alike (moderate : now.IsModerate) (times : alike → later = now) {t : Tally}
    (ht : t.IsWhole) (total : (h.meter.total.add t).IsModerate) (same : alike) :
    (g.count later t).host.meter = (h.count now t).host.meter ∧
      (g.count later t).lines = (h.count now t).lines.filter (Line.isAdmitted strict) := by
  obtain ⟨meter, -, -⟩ := twins.same same
  rcases full?_of_moderate twins.first moderate with short | ⟨length, full, hlength⟩
  · have short' : g.meter.full? later = .ok none := by rw [meter, times same, short]
    rw [count_of_open short, count_of_open short']
    exact ⟨congrArg (RateMeter.add · t) meter, rfl⟩
  · have full' : g.meter.full? later = .ok (some length) := by rw [meter, times same, full]
    obtain ⟨cycles, frames, hwindow, hc, hf⟩ := window_of_moderate twins.first ht total
    obtain ⟨lines, possible⟩ := reported_of_moderate twins.first moderate hlength hc hf
    rw [← hwindow] at possible
    have possible' := twins.reported times same possible
    rw [← meter] at possible'
    rw [count_of_full full possible, count_of_full full' possible']
    refine ⟨?_, rfl⟩
    change (g.meter.add t).restart later = (h.meter.add t).restart now
    rw [meter, times same]

section

variable (moderate : now.IsModerate) (moderate' : later.IsModerate) (times : alike → later = now)

include moderate moderate' times

theorem Twins.told (ms : List Message) : (h.told now ms).Twins alike strict (g.told later ms) := by
  obtain ⟨stamp, hstamp⟩ := twins.first.canStamp moderate
  obtain ⟨stamp', hstamp'⟩ := twins.second.canStamp moderate'
  have printed := Logger.print_of_stamp hstamp ms
  have printed' := Logger.print_of_stamp hstamp' ms
  have lines (same : alike) := (twins.print times same printed).symm.trans printed'
  rw [Host.told, Host.told, printed, printed']
  exact ⟨twins, rfl, fun same => (Except.ok.inj (lines same)).symm⟩

theorem Twins.refuse (e : Error) : (h.refuse now e).Twins alike strict (g.refuse later e) := by
  have told := twins.told moderate moderate' times [Report.halted e.message]
  exact told.andThen fun _ _ => told.host.observed (.error e)

/-! ## Counting -/

variable {t : Tally}

theorem Twins.count (ht : t.IsWhole) (total : (h.meter.total.add t).IsModerate) :
    (h.count now t).Twins alike strict (g.count later t) := by
  obtain ⟨result, first⟩ := count_of_moderate twins.first moderate ht total
  obtain ⟨result', second⟩ := count_of_moderate twins.second moderate' ht (twins.total ▸ total)
  have both (same : alike) := twins.count_alike moderate times ht total same
  have host := host_count h now t
  have host' := host_count g later t
  refine ⟨⟨?_, ?_, ?_, ?_, ?_, first, second, ?_⟩, result'.trans result.symm,
    fun same => (both same).2⟩
  · rw [host, host']
    exact twins.config
  · rw [host, host']
    exact twins.state
  · rw [host, host']
    exact twins.program
  · rw [host, host']
    exact twins.space
  · rw [host, host']
    change (RateMeter.countReporting ..).1.total = (RateMeter.countReporting ..).1.total
    rw [RateMeter.total_countReporting, RateMeter.total_countReporting, twins.total]
  · intro same
    refine ⟨(both same).1, ?_⟩
    rw [host, host']
    exact (twins.same same).2

theorem Twins.countAll {ts : List Tally} (wholes : ∀ t ∈ ts, t.IsWhole)
    (totals : ∀ us, us <+: ts → (h.meter.total.add (Tally.sum us)).IsModerate) :
    (h.countAll now (ts.map .ok)).Twins alike strict (g.countAll later (ts.map .ok)) := by
  induction ts generalizing h g with
  | nil => exact twins.observed (.ok ())
  | cons t ts ih =>
      obtain ⟨ht, wholes'⟩ := List.forall_mem_cons.mp wholes
      have hm := twins.first.total.isWhole
      have total : (h.meter.total.add t).IsModerate := by
        have one := totals [t] (List.prefix_append [t] ts)
        rwa [Tally.sum_cons, Tally.sum_nil, Tally.add_zero ht] at one
      have counted := twins.count moderate moderate' times ht total
      refine counted.andThen fun _ _ => ih counted.host wholes' fun us hus => ?_
      have next : (h.count now t).host.meter.total = h.meter.total.add t := by
        rw [host_count]
        exact RateMeter.total_countReporting _ _ _ _
      have more := totals (t :: us) (List.cons_prefix_cons.mpr ⟨rfl, hus⟩)
      have hus' := Tally.isWhole_sum fun u hu => wholes' u (hus.subset hu)
      rwa [Tally.sum_cons, ← Tally.add_assoc hm ht hus', ← next] at more

/-! ## Runs -/

/-- Two runs that do the same with the machine, whatever they show of it. -/
theorem Twins.drive {go go' : State → Except Error (State × List Progress.Event)}
    (same : (go' h.state).map Prod.fst = (go h.state).map Prod.fst) {ts : List (Except Error Tally)}
    (counts : ∀ s bar, h.state.error? = none → go h.state = .ok (s, bar) → s.error? = none →
      ({ h with state := s }.countAll now ts).Twins alike strict
        ({ g with state := s }.countAll later ts)) :
    (h.drive now go ts).Twins alike strict (g.drive later go' ts) := by
  rw [Host.drive, Host.drive, twins.state]
  cases healthy : h.state.error? with
  | some e => exact twins.refuse moderate moderate' times e
  | none =>
      cases run : go h.state with
      | error e =>
          have run' : go' h.state = .error e := by
            rw [run] at same
            cases run' : go' h.state with
            | ok r => rw [run'] at same; cases same
            | error e' => rw [run'] at same; exact congrArg _ (Except.error.inj same)
          dsimp only
          rw [run']
          refine (twins.observed (.error e)).andThen ?_
          intro _ never
          cases never
      | ok r =>
          obtain ⟨s, bar⟩ := r
          have run' : ∃ bar', go' h.state = .ok (s, bar') := by
            rw [run] at same
            cases run' : go' h.state with
            | error e => rw [run'] at same; cases same
            | ok r =>
                rw [run'] at same
                exact ⟨r.2, congrArg _ (Prod.ext (Except.ok.inj same) rfl)⟩
          obtain ⟨bar', run'⟩ := run'
          dsimp only
          rw [run', Outcome.observed_andThen, Outcome.observed_andThen]
          dsimp only
          cases runs : s.error? with
          | some e =>
              have next := twins.update s twins.program
              exact (next.refuse moderate moderate' times e).withBar bar bar'
          | none => exact (counts s bar healthy run runs).withBar bar bar'

end

/-! ## Commands -/

end Host

/-- Can `n` frames be watched by a progress bar, unless they cannot be numbered at all? The number
of the last one has to fit into 32 bits. -/
def Loop.Watchable (space : Space) (n : Int) : Prop :=
  Loop.numberable space n = .ok () → Loop.countable (n - 1) = .ok ()

/-- The same commands. Frames may be watched by a progress bar for one host and not for the
other. -/
inductive Command.Alike (space : Space) : Command → Command → Prop where
  | same (c : Command) : Alike space c c
  | frames {n : Int} (progress progress' : Bool) (watchable : Loop.Watchable space n) :
      Alike space (.runFrames (.whole n) progress) (.runFrames (.whole n) progress')

/-- The same answers, apart from rates. -/
def SameAnswer : Except Error Reply → Except Error Reply → Prop
  | .ok (.rates _), .ok (.rates _) => True
  | r, r' => r' = r

theorem Command.Alike.counts {space : Space} {c d : Command} (alike : c.Alike space d) (k : Int) :
    d.counts k = c.counts k := by
  cases alike <;> rfl

namespace Host

/-- Frames that can be run can be counted. -/
theorem countable_max (c n : Int) :
    (Loop.countable (max n 0) >>= fun _ => State.countable c n) = State.countable c n := by
  rw [State.countable]
  by_cases positive : 0 < n
  · rw [Int.max_eq_left (Int.le_of_lt positive), if_pos positive]
    cases Loop.countable n <;> rfl
  · rw [Int.max_eq_right (Int.not_lt.mp positive), if_neg positive]
    rfl

/-- The machine runs the same frames with a progress bar and without. -/
theorem framesWatched_fst (s : State) (space : Space) (c : Int) {n : Int}
    (watchable : Loop.Watchable space n) :
    (framesWatched s space c (.whole n)).map Prod.fst = s.framesGiven space c n := by
  let plan := Progress.Plan.make (.whole n) none none
  let watched := plan.run (fun s => s.frame c) s
  have state : watched.state = s.frames c n.toNat := by
    rw [Progress.Plan.state_run, State.foldl_frame, List.length_range]
    rfl
  have checked : plan.checked space = do
      Loop.numberable space n
      Loop.countable (n - 1)
      Loop.countable (max n 0)
      return plan := by
    simp only [Progress.Plan.checked, plan, Progress.Plan.total_make, Count.rounds_whole,
      Count.isWhole_whole, if_true]
  have counted := countable_max c n
  rw [framesWatched, checked, State.framesGiven, Count.rounds_whole, ← counted, ← state]
  cases numbered : Loop.numberable space n with
  | error e => rfl
  | ok _ =>
      rw [watchable numbered]
      cases Loop.countable (max n 0) with
      | error e => rfl
      | ok _ => cases State.countable c n <;> rfl

theorem going?_frames {h : Host} {n : Int} (watchable : Loop.Watchable h.space n)
    (progress : Bool) :
    ∃ go, h.going? (.runFrames (.whole n) progress) = some go ∧
      ∀ s, (go s).map Prod.fst =
        h.config.cyclesPerFrame.run >>= fun c => s.framesGiven h.space c n := by
  refine ⟨_, rfl, ?_⟩
  intro s
  cases h.config.cyclesPerFrame.run with
  | error e => rfl
  | ok c =>
      cases progress with
      | true => exact framesWatched_fst s h.space c watchable
      | false =>
          change (s.framesGiven h.space c n >>= fun t => pure (t, [])).map Prod.fst =
            s.framesGiven h.space c n
          cases s.framesGiven h.space c n <;> rfl

/-- A run of frames is counted as cycles and frames, any other as one cycle. -/
theorem counts_cases {h : Host} {c : Command} {s : State} (whole : c.InWholes)
    (hc : h.completed? c = some s) (k : Int) :
    c.counts k = [.whole 1 0] ∨ ∃ x y, c.counts k = [.whole x 0, .whole 0 y] := by
  cases c with
  | step => exact .inl rfl
  | runFrame => exact .inr ⟨k, 1, rfl⟩
  | runFrames n progress =>
      obtain ⟨n, rfl⟩ := Count.isWhole_iff.mp whole
      exact .inr ⟨n * k, n, rfl⟩
  | _ =>
      rw [completed?_of_not_going rfl] at hc
      cases hc

/-- Of two counts the second one is made unless the report of the first one fails. -/
theorem made_pair (m : RateMeter Seconds)
    (report : Seconds → Window Seconds → Except Error (List Line)) (now : Seconds) (t u : Tally) :
    m.made report now [t, u] =
      if (m.countReporting (report now) now t).2.isOk then [t, u] else [t] := by
  simp only [RateMeter.made, ite_self]
  split <;> rfl

/-- While a run is counted, the totals are of moderate size, if they are so in the end. -/
theorem totals_of_completed {h : Host} {c : Command} {now : Seconds} {s : State}
    (paced : h.PacedInWholes) (hb : h.InBounds) (moderate : now.IsModerate) (whole : c.InWholes)
    (hc : h.completed? c = some s) (total : (h.perform now c).host.meter.total.IsModerate) :
    ∀ us, us <+: c.counts h.pace → (h.meter.total.add (Tally.sum us)).IsModerate := by
  have hm := hb.total.isWhole
  have none : (h.meter.total.add (Tally.sum [])).IsModerate := by
    rw [Tally.sum_nil, Tally.add_zero hm]
    exact hb.total
  rw [total_perform paced hm now whole, made_of_completed hc] at total
  rcases counts_cases whole hc h.pace with counts | ⟨x, y, counts⟩
  · rw [counts] at total ⊢
    rw [RateMeter.made, RateMeter.made, ite_self] at total
    intro us hus
    rcases List.prefix_cons_iff.mp hus with rfl | ⟨vs, rfl, hvs⟩
    · exact none
    · rw [List.prefix_nil.mp hvs]
      exact total
  · rw [counts, made_pair] at total
    have one : Tally.sum [.whole x 0] = .whole x 0 := Tally.add_zero (Tally.isWhole_whole x 0)
    have first : (h.meter.total.add (.whole x 0)).IsModerate := by
      split at total
      · rw [Tally.sum_cycles_frames] at total
        exact hb.total.add_cycles total
      · rw [one] at total
        exact total
    -- so the report of the first count does not fail, and the second one is made as well
    obtain ⟨r, counted⟩ := exists_of_count_ok
      (count_of_moderate hb moderate (Tally.isWhole_whole x 0) first).1
    rw [counted] at total
    change (h.meter.total.add (Tally.sum [.whole x 0, .whole 0 y])).IsModerate at total
    intro us hus
    rw [counts] at hus
    rcases List.prefix_cons_iff.mp hus with rfl | ⟨vs, rfl, hvs⟩
    · exact none
    · rcases List.prefix_cons_iff.mp hvs with rfl | ⟨ws, rfl, hws⟩
      · rw [one]
        exact first
      · rw [List.prefix_nil.mp hws]
        exact total

section

variable {h g : Host} {now later : Seconds} (twins : h.Twins alike strict g)

include twins

theorem Twins.pace : g.config.cyclesPerFrame = h.config.cyclesPerFrame := by
  obtain ⟨level, interval, config⟩ := twins.config
  rw [config]

theorem Twins.paced (paced : h.PacedInWholes) : g.pace = h.pace ∧ g.PacedInWholes := by
  have same : g.pace = h.pace := by rw [Host.pace, Host.pace, twins.pace]
  refine ⟨same, ?_⟩
  rw [PacedInWholes, same, twins.pace]
  exact paced

theorem Twins.withConfig {c d : Config} (same : ∃ level interval,
    d = { c with logLevel := level, reportInterval := interval }) :
    Host.Twins alike strict { h with config := c } { g with config := d } :=
  ⟨same, twins.state, twins.program, twins.space, twins.total, twins.first.congr rfl rfl,
    twins.second.congr rfl rfl, twins.same⟩

theorem Twins.configure (setting : Setting) :
    (h.configure setting).Twins alike strict (g.configure setting) := by
  obtain ⟨level, interval, config⟩ := twins.config
  rw [Host.configure, Host.configure, config]
  cases setting with
  | logLevel level' => exact twins.withConfig ⟨level', interval, rfl⟩
  | reportInterval seconds => exact twins.withConfig ⟨level, seconds, rfl⟩
  | cyclesPerFrame _ | modern _ | strictLoad _ | seed _ =>
      exact twins.withConfig ⟨level, interval, rfl⟩
  | refused _ | other _ => exact twins

section

variable (moderate : now.IsModerate) (moderate' : later.IsModerate) (times : alike → later = now)

include moderate moderate' times

theorem Twins.run {c d : Command} {go go' : State → Except Error (State × List Progress.Event)}
    (paced : h.PacedInWholes) (hgo : h.going? c = some go) (hgo' : g.going? d = some go')
    (same : ∀ s, (go' s).map Prod.fst = (go s).map Prod.fst)
    (counts : d.counts h.pace = c.counts h.pace) (whole : c.InWholes)
    (total : (h.perform now c).host.meter.total.IsModerate) :
    (h.perform now c).Twins alike strict (g.perform later d) := by
  obtain ⟨pace, paced'⟩ := twins.paced paced
  rw [perform_of_going paced hgo, perform_of_going paced' hgo', pace, counts]
  refine (twins.drive moderate moderate' times (same h.state) ?_).done
  intro s bar healthy run runs
  have completed : h.completed? c = some s := by
    simp only [completed?, healthy, hgo, run, runs, Option.isNone_none, if_true]
  have next := twins.update s twins.program
  exact next.countAll moderate moderate' times (c.isWhole_counts whole h.pace)
    (totals_of_completed paced twins.first moderate whole completed total)

theorem Twins.load (data : List Int) (source : String) :
    (h.load now data source).Twins alike strict (g.load later data source) := by
  obtain ⟨level, interval, config⟩ := twins.config
  have strictLoad : g.config.strictLoad = h.config.strictLoad := by rw [config]
  rw [Host.load, Host.load, twins.state, strictLoad]
  cases h.state.load data h.config.strictLoad with
  | error e => exact twins.observed (.error e)
  | ok s => exact (twins.update s rfl).told moderate moderate' times _

theorem Twins.logRegisters : (h.logRegisters now).Twins alike strict (g.logRegisters later) := by
  have file : g.registerFile = h.registerFile := by rw [registerFile, registerFile, twins.state]
  rw [Host.logRegisters, Host.logRegisters, file]
  have told := twins.told moderate moderate' times (Report.registers h.registerFile).1
  exact told.andThen fun _ _ => told.host.observed _

end

end

end Host

structure Outcome.Agrees (alike : Prop) (strict : String) (o p : Outcome Reply) : Prop where
  host : o.host.Twins alike strict p.host
  answer : SameAnswer o.result p.result
  lines : alike → p.lines = o.lines.filter (Line.isAdmitted strict)

theorem sameAnswer_refl (r : Except Error Reply) : SameAnswer r r := by
  cases r with
  | error e => rfl
  | ok a => cases a <;> first | rfl | trivial

theorem Outcome.Twins.agrees {o p : Outcome Reply} (twins : o.Twins alike strict p) :
    o.Agrees alike strict p :=
  ⟨twins.host, by rw [twins.result]; exact sameAnswer_refl _, twins.lines⟩

namespace Host

theorem rates_of_moderate {h : Host} {now : Seconds} (hb : h.InBounds) (moderate : now.IsModerate) :
    ∃ rates, h.meter.rates now = .ok rates := by
  have none : (h.meter.total.add Tally.zero).IsModerate := by
    rw [Tally.add_zero hb.total.isWhole]
    exact hb.total
  obtain ⟨cycles, frames, window, hc, hf⟩ := window_of_moderate hb Tally.isWhole_zero none
  rw [Tally.add_zero hb.window] at window
  obtain ⟨length, since, short⟩ := Seconds.since_of_moderate moderate hb.windowStart
  obtain ⟨rates, hrates⟩ := Tally.perSecond_of_short short hc hf
  refine ⟨rates, ?_⟩
  rw [RateMeter.rates, since, window]
  exact hrates

variable {h g : Host} {now later : Seconds}

/-- **One command.** -/
theorem Twins.perform (twins : h.Twins alike strict g) (moderate : now.IsModerate)
    (moderate' : later.IsModerate) (times : alike → later = now) {c d : Command}
    (same : c.Alike h.space d) (paced : h.PacedInWholes) (whole : c.InWholes)
    (total : (h.perform now c).host.meter.total.IsModerate) :
    (h.perform now c).Agrees alike strict (g.perform later d) := by
  have run {c d : Command} {go go' : State → Except Error (State × List Progress.Event)}
      (hgo : h.going? c = some go) (hgo' : g.going? d = some go') :=
    twins.run moderate moderate' times paced hgo hgo'
  have view {r r' : Except Error Reply} (answer : r' = r) :
      (h.observed r).Agrees alike strict (g.observed r') := by
    rw [answer]
    exact (twins.observed r).agrees
  have window (start length : Int) : g.memoryWindow start length = h.memoryWindow start length := by
    rw [memoryWindow, memoryWindow, twins.state]
  cases same with
  | frames progress progress' watchable =>
      obtain ⟨go, hgo, ran⟩ := going?_frames (h := h) watchable progress
      obtain ⟨go', hgo', ran'⟩ := going?_frames (h := g) (twins.space ▸ watchable) progress'
      rw [twins.pace, twins.space] at ran'
      exact (run hgo hgo' (fun s => (ran' s).trans (ran s).symm) rfl whole total).agrees
  | same =>
    cases c with
    | rates =>
        obtain ⟨rates, hrates⟩ := rates_of_moderate twins.first moderate
        obtain ⟨rates', hrates'⟩ := rates_of_moderate twins.second moderate'
        rw [Host.perform, Host.perform, hrates, hrates']
        exact ⟨twins, trivial, fun _ => rfl⟩
    | load data source => exact (twins.load moderate moderate' times data source).done.agrees
    | loadFile path contents =>
        have loaded : (h.loadFile now path contents).Twins alike strict
            (g.loadFile later path contents) :=
          (twins.observed contents).andThen fun bytes _ =>
            twins.load moderate moderate' times (imageOf bytes) path
        exact loaded.done.agrees
    | reload =>
        have machine : g.state.loadBytes g.program = h.state.loadBytes h.program := by
          rw [twins.state, twins.program]
        rw [Host.perform, Host.perform, Host.reload, Host.reload, machine]
        exact ((twins.update _ twins.program).told moderate moderate' times _).done.agrees
    | step => exact (run rfl rfl (fun _ => rfl) rfl whole total).agrees
    | runFrame =>
        refine (run rfl rfl (fun s => ?_) rfl whole total).agrees
        rw [twins.pace]
    | runFrames _ _ =>
        refine (run rfl rfl (fun s => ?_) rfl whole total).agrees
        rw [twins.pace, twins.space]
    | tick =>
        rw [Host.perform, Host.perform, Host.tick, Host.tick, twins.state]
        exact (twins.became _).done.agrees
    | setKeys states =>
        rw [Host.perform, Host.perform, twins.state]
        cases h.state.setKeys states with
        | ok s => exact (twins.became s).done.agrees
        | error e => exact (twins.observed (.error e)).done.agrees
    | press key | release key =>
        rw [Host.perform, Host.perform, twins.state]
        exact (twins.became _).done.agrees
    | configure setting => exact ((twins.configure setting).observed _).agrees
    | logRegisters => exact (twins.logRegisters moderate moderate' times).done.agrees
    | currentInstruction =>
        refine view (congrArg (Except.ok ∘ Reply.text) ?_)
        rw [currentInstruction, currentInstruction, twins.state]
    | memoryWindow start length =>
        exact view (congrArg (Except.map Reply.bytes) (window start length))
    | programDump =>
        refine view (congrArg (Except.map Reply.bytes) ?_)
        rw [programDump, programDump, twins.program, window]
    | framebuffer => exact view (congrArg (Except.ok ∘ Reply.display ∘ State.display) twins.state)
    | elapsed =>
        refine view (congrArg (Except.map Reply.seconds) ?_)
        rw [elapsed, elapsed, twins.total]
    | keys => exact view (congrArg (Except.ok ∘ Reply.keypad ∘ State.keypad) twins.state)

/-! ## Histories -/

def outcomes (h : Host) : List (Seconds × Command) → List (Outcome Reply)
  | [] => []
  | (now, c) :: es => h.perform now c :: (h.perform now c).host.outcomes es

theorem Twins.outcomes (twins : h.Twins alike strict g) {es fs : List (Seconds × Command)}
    (same : List.Forall₂ (fun e f => e.2.Alike h.space f.2) es fs)
    (times : alike → fs.map Prod.fst = es.map Prod.fst)
    (moderate : ∀ e ∈ es, e.1.IsModerate) (moderate' : ∀ f ∈ fs, f.1.IsModerate)
    (paced : h.PacedInWholes) (wholes : ∀ e ∈ es, e.2.InWholes)
    (totals : ∀ o ∈ h.outcomes es, o.host.meter.total.IsModerate) :
    List.Forall₂ (Outcome.Agrees alike strict) (h.outcomes es) (g.outcomes fs) := by
  induction es generalizing h g fs with
  | nil =>
      cases same
      exact .nil
  | cons e es ih =>
      obtain ⟨f, fs, command, later, rfl⟩ := List.forall₂_cons_left_iff.mp same
      rw [← h.space_perform e.1 e.2] at later
      obtain ⟨hnow, hlater⟩ := List.forall_mem_cons.mp moderate
      obtain ⟨hnow', hlater'⟩ := List.forall_mem_cons.mp moderate'
      obtain ⟨whole, wholes'⟩ := List.forall_mem_cons.mp wholes
      obtain ⟨total, totals'⟩ := List.forall_mem_cons.mp totals
      have one := twins.perform hnow hnow' (fun same => (List.cons.inj (times same)).1) command
        paced whole total
      exact .cons one (ih one.host later (fun same => (List.cons.inj (times same)).2) hlater hlater'
        (pacedInWholes_perform paced e.1 whole) wholes' totals')

theorem inBounds_of_create {config : Config} {logger : Logger} {space : Space}
    {clock interval : Seconds} (created : Host.create config logger space clock = .ok h)
    (every : config.reportInterval = .ok interval) (start : logger.start.IsModerate)
    (moderate : clock.IsModerate) : h.InBounds := by
  obtain ⟨state, -, rfl⟩ := eq_of_create created
  exact ⟨⟨interval, every⟩, moderate, start, Tally.isModerate_zero, Tally.isWhole_zero, .zero,
    Tally.isModerate_zero, rfl⟩

/-- **Observation does not disturb the machine.** -/
theorem observation_does_not_disturb {config : Config} {logger logger' : Logger} {space : Space}
    {clock clock' interval interval' : Seconds} {level : String}
    (created : Host.create config logger space clock = .ok h)
    (created' : Host.create { config with logLevel := level, reportInterval := .ok interval' }
      logger' space clock' = .ok g)
    {k : Int} (pace : config.cyclesPerFrame = .ofInt k)
    (every : config.reportInterval = .ok interval)
    (start : logger.start.IsModerate ∧ clock.IsModerate)
    (start' : logger'.start.IsModerate ∧ clock'.IsModerate)
    {es fs : List (Seconds × Command)}
    (same : List.Forall₂ (fun e f => e.2.Alike space f.2) es fs)
    (moderate : ∀ e ∈ es, e.1.IsModerate) (moderate' : ∀ f ∈ fs, f.1.IsModerate)
    (wholes : ∀ e ∈ es, e.2.InWholes)
    (totals : ∀ o ∈ h.outcomes es, o.host.meter.total.IsModerate) :
    List.Forall₂ (fun o p => p.host.state = o.host.state ∧ p.host.program = o.host.program ∧
        p.host.meter.total = o.host.meter.total ∧ SameAnswer o.result p.result)
      (h.outcomes es) (g.outcomes fs) ∧
    (logger' = logger.withThreshold logger'.threshold →
      Level.rankOf logger.threshold ≤ Level.rankOf logger'.threshold →
      clock' = clock → interval' = interval → fs.map Prod.fst = es.map Prod.fst →
      List.Forall₂ (fun o p => p.lines = o.lines.filter (Line.isAdmitted logger'.threshold))
        (h.outcomes es) (g.outcomes fs)) := by
  let alike := logger' = logger.withThreshold logger'.threshold ∧
    Level.rankOf logger.threshold ≤ Level.rankOf logger'.threshold ∧
    clock' = clock ∧ interval' = interval ∧ fs.map Prod.fst = es.map Prod.fst
  have first := inBounds_of_create created every start.1 start.2
  have second := inBounds_of_create created' rfl start'.1 start'.2
  have paced : h.PacedInWholes := by
    obtain ⟨state, -, rfl⟩ := eq_of_create created
    exact pacedInWholes_iff.mpr ⟨k, pace⟩
  have twins : h.Twins alike logger'.threshold g := by
    obtain ⟨state, hstate, rfl⟩ := eq_of_create created
    obtain ⟨state', hstate', rfl⟩ := eq_of_create created'
    obtain rfl : state' = state := Except.ok.inj (hstate'.symm.trans hstate)
    refine ⟨⟨level, .ok interval', rfl⟩, rfl, rfl, rfl, rfl, first, second, ?_⟩
    rintro ⟨loggers, rank, rfl, rfl, -⟩
    exact ⟨congrArg (RateMeter.start · clock') every.symm, loggers, rank⟩
  have here : h.space = space := by
    obtain ⟨state, -, rfl⟩ := eq_of_create created
    rfl
  have agree := twins.outcomes (here ▸ same) (fun alike => alike.2.2.2.2) moderate moderate' paced
    wholes totals
  refine ⟨?_, ?_⟩
  · exact agree.imp fun _ _ a => ⟨a.host.state, a.host.program, a.host.total, a.answer⟩
  · intro logger rank clock interval times
    exact agree.imp fun _ _ a => a.lines ⟨logger, rank, clock, interval, times⟩

/-- Two hosts of a program that returns from no subroutine, of which one logs warnings only. -/
theorem observation_does_not_disturb_at_fault :
    let config : Config := { cyclesPerFrame := .ofInt 1 }
    let quiet : Config := { config with logLevel := "WARNING", reportInterval := .ok (.real 3.0) }
    let logger : Logger := ⟨"chipax", "INFO", false, false, false, .real 0⟩
    let host (config : Config) (logger : Logger) : Host :=
      { config := config, logger := logger, space := .least
        meter := RateMeter.start (.ok (.real 3.0)) (.real 0)
        state := State.fresh (Random.Key.ofSeed 0) true, program := [] }
    let h := host config logger
    let g := host quiet (logger.withThreshold "WARNING")
    let history (progress : Bool) : List (Seconds × Command) :=
      [(.real 1, .load [0x00, 0xEE] "program"), (.real 2, .runFrames 2 progress),
        (.real 3, .elapsed)]
    Host.create config logger .least (.real 0) = .ok h ∧
      Host.create quiet (logger.withThreshold "WARNING") .least (.real 0) = .ok g ∧
      (h.outcomes (history true)).map (·.lines.map (·.level)) = [["INFO"], ["ERROR"], []] ∧
      List.Forall₂ (fun o p => p.lines = o.lines.filter (Line.isAdmitted "WARNING"))
        (h.outcomes (history true)) (g.outcomes (history false)) := by
  intro config quiet logger host h g history
  have created : Host.create config logger .least (.real 0) = .ok h := rfl
  have created' : Host.create quiet (logger.withThreshold "WARNING") .least (.real 0) = .ok g := rfl
  have same : List.Forall₂ (fun e f : Seconds × Command => e.2.Alike .least f.2) (history true)
      (history false) :=
    .cons (.same _) (.cons (.frames true false fun _ => rfl) (.cons (.same _) .nil))
  have moderate (progress : Bool) : ∀ e ∈ history progress, e.1.IsModerate := by
    simp [history, Seconds.IsModerate]
  have wholes : ∀ e ∈ history true, e.2.InWholes := by
    simp [history, Command.InWholes, Count.IsWhole]
  refine ⟨created, created', by decide +kernel, ?_⟩
  refine (observation_does_not_disturb created created' rfl rfl ⟨trivial, trivial⟩
    ⟨trivial, trivial⟩ same (moderate true) (moderate false) wholes ?_).2 rfl (by decide +kernel)
    rfl rfl rfl
  have totals : (h.outcomes (history true)).map (·.host.meter.total) = List.replicate 3 .zero := by
    decide +kernel
  intro o ho
  have total : o.host.meter.total ∈ List.replicate 3 Tally.zero :=
    totals ▸ List.mem_map.mpr ⟨o, ho, rfl⟩
  rw [List.eq_of_mem_replicate total]
  exact Tally.isModerate_zero

/-- Frames that cannot be watched, and a time that cannot be put in front of a line. -/
theorem observation_disturbs_at_limits :
    let h : Host :=
      { config := {}
        logger := ⟨"chipax", "INFO", false, false, true, .real 0⟩
        space := .least
        meter := RateMeter.start (.ok (.real 3.0)) (.real 0)
        state := State.fresh (Random.Key.ofSeed 0) true, program := [] }
    let frames (progress : Bool) := h.runFrames (.real 0) (.whole (-3000000000)) progress
    let loaded (now : Seconds) := h.load now [0x12, 0x00] "program"
    Host.create {} h.logger .least (.real 0) = .ok h ∧
      (frames false).result = .ok () ∧
      (frames false).host.meter.total = .whole (-30000000000) (-3000000000) ∧
      (frames true).result = .error (.notAnOperand (-3000000001)) ∧
      (frames true).host.meter.total = .zero ∧
      (loaded (.real 0)).result = .ok () ∧
      (loaded (.whole (10 ^ 400))).result = .error .numberTooLarge := by
  intro h frames loaded
  refine ⟨rfl, ?_⟩
  decide +kernel

end Host

end Chip8
