import Chip8.Proofs.HostEvents
import Mathlib.Algebra.Ring.Int.Defs
import Mathlib.Algebra.Ring.Nat

/-!
# What a host counts

The ledger of a host lists everything that it counts, with the times (`Host.ledger`). Its meter is
at any moment the one that it was given, with the ledger counted in it (`Host.meter_after`), so
whatever holds of a meter and its history of counts holds of a host.

A count whose report cannot be made stands in the ledger like any other. It leaves the window open,
and nothing more is counted for the run that it belongs to.
-/

namespace Chip8

/-! ## A history of counts -/

namespace RateMeter

variable {τ ρ : Type} [Clock τ] [OfNat τ 0] [LE τ] [LT τ] [DecidableLE τ] [DecidableLT τ]
  (report : τ → Window τ → Except Error ρ)

/-- The window that a count closes: a full one on which a report can be made. -/
def closed? (m : RateMeter τ) (now : τ) (t : Tally) : Option (Window τ) :=
  match (m.count now t).2 with
  | .ok (some w) => if (report now w).isOk then some w else none
  | _ => none

def counting (m : RateMeter τ) (history : List (τ × Tally)) : RateMeter τ :=
  history.foldl (fun m e => (m.countReporting (report e.1) e.1 e.2).1) m

/-- The windows that are closed by this, the first one first. -/
def closings (m : RateMeter τ) : List (τ × Tally) → List (Window τ)
  | [] => []
  | (now, t) :: rest =>
      (m.closed? report now t).toList ++ (m.countReporting (report now) now t).1.closings rest

/-- Those of some counts at one time that are made: all up to the first whose report fails. -/
def made (m : RateMeter τ) (now : τ) : List Tally → List Tally
  | [] => []
  | t :: ts =>
      let next := m.countReporting (report now) now t
      t :: if next.2.isOk then next.1.made now ts else []

variable {report} {m : RateMeter τ} {now : τ} {t : Tally}

theorem made_prefix (m : RateMeter τ) (now : τ) (ts : List Tally) :
    m.made report now ts <+: ts := by
  induction ts generalizing m with
  | nil => exact List.nil_prefix
  | cons t ts ih =>
      rw [made, List.cons_prefix_cons]
      refine ⟨rfl, ?_⟩
      split
      · exact ih _
      · exact List.nil_prefix

theorem counting_append (m : RateMeter τ) (es fs : List (τ × Tally)) :
    m.counting report (es ++ fs) = (m.counting report es).counting report fs :=
  List.foldl_append

theorem closed?_eq_some {w : Window τ} :
    m.closed? report now t = some w ↔
      ∃ length, m.full? now = .ok (some length) ∧ (report now w).isOk = true ∧
        w = ⟨m.window.add t, length⟩ := by
  have full : (m.add t).full? now = m.full? now := rfl
  rw [closed?, count, full]
  rcases m.full? now with e | _ | length
  · simp
  · simp
  · dsimp only
    constructor
    · intro h
      obtain ⟨possible, hw⟩ := Option.ite_none_right_eq_some.mp h
      obtain rfl := Option.some.inj hw
      exact ⟨length, rfl, possible, rfl⟩
    · rintro ⟨_, hlength, possible, rfl⟩
      obtain rfl := Option.some.inj (Except.ok.inj hlength)
      exact if_pos possible

variable (report) in
theorem countReporting_of_open (short : m.full? now = .ok none) (t : Tally) :
    m.countReporting (report now) now t = (m.add t, .ok none) ∧ m.closed? report now t = none := by
  have added : (m.add t).full? now = .ok none := short
  simp only [countReporting, closed?, count, added, and_self]

theorem countReporting_of_full {length : τ} (full : m.full? now = .ok (some length)) {r : ρ}
    (possible : report now ⟨m.window.add t, length⟩ = .ok r) :
    m.countReporting (report now) now t = ((m.add t).restart now, .ok (some r)) ∧
      m.closed? report now t = some ⟨m.window.add t, length⟩ := by
  have added : (m.add t).full? now = .ok (some length) := full
  have made : report now ⟨(m.add t).window, length⟩ = .ok r := possible
  refine ⟨?_, closed?_eq_some.mpr ⟨length, full, ?_, rfl⟩⟩
  · simp only [countReporting, count, added, made]
  · rw [possible]
    rfl

variable (report) in
/-- A count adds to the window, and a window that it closes is followed by an empty one. -/
theorem fst_countReporting (m : RateMeter τ) (now : τ) (t : Tally) :
    (m.countReporting (report now) now t).1 =
      match m.closed? report now t with
      | some _ => (m.add t).restart now
      | none => m.add t := by
  rw [countReporting, closed?, count]
  rcases (m.add t).full? now with e | _ | length
  · rfl
  · rfl
  · dsimp only
    cases report now ⟨(m.add t).window, length⟩ <;> rfl

theorem interval_counting (m : RateMeter τ) (history : List (τ × Tally)) :
    (m.counting report history).interval = m.interval := by
  induction history generalizing m with
  | nil => rfl
  | cons e history ih =>
      refine (ih _).trans ?_
      dsimp only
      rw [fst_countReporting report]
      split <;> rfl

variable (report now) in
/-- What a count closes and what it leaves in the window is what there was and what came in. -/
theorem window_countReporting (whole : m.window.IsWhole) (ht : t.IsWhole) :
    (m.countReporting (report now) now t).1.window.IsWhole ∧
      (∀ u ∈ (m.closed? report now t).toList.map (·.counted), u.IsWhole) ∧
      (Tally.sum ((m.closed? report now t).toList.map (·.counted))).add
        (m.countReporting (report now) now t).1.window = m.window.add t := by
  have sum := whole.add ht
  rw [fst_countReporting report]
  cases hclosed : m.closed? report now t with
  | none => exact ⟨sum, by simp, Tally.zero_add sum⟩
  | some w =>
      obtain ⟨_, -, -, rfl⟩ := closed?_eq_some.mp hclosed
      refine ⟨Tally.isWhole_zero, by simpa using sum, ?_⟩
      simp [restart, Tally.add_zero sum]

variable (report) in
/-- The windows that were closed and the current one hold what was counted. -/
theorem window_counting (whole : m.window.IsWhole) {history : List (τ × Tally)}
    (counts : ∀ t ∈ history.map (·.2), t.IsWhole) :
    (m.counting report history).window.IsWhole ∧
      (∀ u ∈ (m.closings report history).map (·.counted), u.IsWhole) ∧
      (Tally.sum ((m.closings report history).map (·.counted))).add
        (m.counting report history).window = m.window.add (Tally.sum (history.map (·.2))) := by
  induction history generalizing m with
  | nil =>
      have same := (Tally.zero_add whole).trans (Tally.add_zero whole).symm
      exact ⟨whole, List.forall_mem_nil _, same⟩
  | cons e history ih =>
      obtain ⟨now, t⟩ := e
      obtain ⟨ht, later⟩ := List.forall_mem_cons.mp counts
      obtain ⟨first, closed, step⟩ := window_countReporting report now whole ht
      obtain ⟨last, rest, run⟩ := ih first later
      have hlater := Tally.isWhole_sum later
      let next := (m.countReporting (report now) now t).1
      let out := Tally.sum ((m.closed? report now t).toList.map (·.counted))
      let later' := Tally.sum ((next.closings report history).map (·.counted))
      have hout : out.IsWhole := Tally.isWhole_sum closed
      have hrest := Tally.isWhole_sum later
      rw [closings, List.map_append, Tally.sum_append closed rest]
      refine ⟨last, List.forall_mem_append.mpr ⟨closed, rest⟩, ?_⟩
      calc (out.add later').add (next.counting report history).window
          = out.add (later'.add (next.counting report history).window) :=
            Tally.add_assoc hout (Tally.isWhole_sum rest) last
        _ = out.add (next.window.add (Tally.sum (history.map (·.2)))) := congrArg _ run
        _ = (out.add next.window).add (Tally.sum (history.map (·.2))) :=
            (Tally.add_assoc hout first hrest).symm
        _ = (m.window.add t).add (Tally.sum (history.map (·.2))) := congrArg (Tally.add · _) step
        _ = m.window.add (t.add (Tally.sum (history.map (·.2)))) := Tally.add_assoc whole ht hrest

theorem total_counting (whole : m.total.IsWhole) {history : List (τ × Tally)}
    (counts : ∀ t ∈ history.map (·.2), t.IsWhole) :
    (m.counting report history).total = m.total.add (Tally.sum (history.map (·.2))) := by
  induction history generalizing m with
  | nil => exact (Tally.add_zero whole).symm
  | cons e history ih =>
      obtain ⟨now, t⟩ := e
      obtain ⟨ht, later⟩ := List.forall_mem_cons.mp counts
      have first : (m.countReporting (report now) now t).1.total = m.total.add t :=
        total_countReporting _ m now t
      have next : (m.countReporting (report now) now t).1.total.IsWhole := by
        rw [first]
        exact whole.add ht
      refine (ih next later).trans ?_
      rw [first, Tally.add_assoc whole ht (Tally.isWhole_sum later)]
      rfl

end RateMeter

/-! ## Counts of a command -/

/-- What is counted for a command that succeeds, one thing after the other, where a frame has `k`
cycles. -/
def Command.counts (k : Int) : Command → List Tally
  | .step => [.ofCycles 1]
  | .runFrame => [.ofCycles (.whole k), .ofFrames 1]
  | .runFrames n _ => [.ofCycles (n * .whole k), .ofFrames n]
  | _ => []

/-- Does the command speak of whole frames and cycles only? -/
def Command.InWholes : Command → Prop
  | .runFrames n _ => n.IsWhole
  | .configure (.cyclesPerFrame pace) => ∃ k, pace = .ofInt k
  | _ => True

theorem Command.isWhole_counts {c : Command} (whole : c.InWholes) (k : Int) :
    ∀ t ∈ c.counts k, t.IsWhole := by
  cases c with
  | runFrames n progress =>
      obtain ⟨n, rfl⟩ := Count.isWhole_iff.mp whole
      simp [counts, Tally.isWhole_ofCycles, Tally.isWhole_ofFrames]
  | step => exact List.forall_mem_singleton.mpr (Tally.isWhole_ofCycles 1)
  | runFrame =>
      exact List.forall_mem_cons.mpr
        ⟨Tally.isWhole_ofCycles k, List.forall_mem_singleton.mpr (Tally.isWhole_ofFrames 1)⟩
  | _ => exact List.forall_mem_nil _

/-! ## Counts of a host -/

namespace Host

variable {h g : Host} {now : Seconds} {e : Error} {k : Int} {c : Command}

theorem reported_congr (same : g.logger = h.logger) : g.reported = h.reported := by
  funext now w
  rw [reported, reported, same]

theorem result_count (h : Host) (now : Seconds) (t : Tally) :
    (h.count now t).result =
      (h.meter.countReporting (h.reported now) now t).2.map fun _ => () := by
  rw [count]
  cases report : (h.meter.countReporting (h.reported now) now t).2 with
  | ok _ => exact (Outcome.andThen_of_ok (o := observed _ _) report _).2
  | error _ => exact (Outcome.andThen_of_error (o := observed _ _) report _).2

theorem exists_of_count_ok {t : Tally} (counted : (h.count now t).result = .ok ()) :
    ∃ r, (h.meter.countReporting (h.reported now) now t).2 = .ok r := by
  rw [result_count] at counted
  cases report : (h.meter.countReporting (h.reported now) now t).2 with
  | ok r => exact ⟨r, rfl⟩
  | error e =>
      rw [report] at counted
      cases counted

theorem noted_andThen {β : Type} (h : Host) (lines : List Line) (next : Host → Unit → Outcome β) :
    Outcome.andThen { h.observed (.ok ()) with lines := lines } next =
      { next h () with lines := lines ++ (next h ()).lines } := rfl

theorem count_of_open (short : h.meter.full? now = .ok none) (t : Tally) :
    h.count now t = { h with meter := h.meter.add t }.observed (.ok ()) := by
  rw [count, (RateMeter.countReporting_of_open h.reported short t).1]
  rfl

theorem count_of_full {length : Seconds} (full : h.meter.full? now = .ok (some length)) {t : Tally}
    {lines : List Line} (possible : h.reported now ⟨h.meter.window.add t, length⟩ = .ok lines) :
    h.count now t =
      { { h with meter := (h.meter.add t).restart now }.observed (.ok ()) with
        lines := lines } := by
  rw [count, (RateMeter.countReporting_of_full full possible).1]
  change Outcome.mk _ ([] ++ lines) _ _ = _
  rfl

/-- Has the report of the last of these counts failed with this error? -/
def ReportFails (h : Host) (now : Seconds) (made : List Tally) (e : Error) : Prop :=
  ∃ earlier t, made = earlier ++ [t] ∧
    ((h.meter.counting h.reported (earlier.map (now, ·))).countReporting (h.reported now) now t).2 =
      .error e

/-- Of several counts, all are made, or all up to one whose report fails. -/
theorem countAll_made (h : Host) (now : Seconds) (ts : List Tally) :
    let made := h.meter.made h.reported now ts
    let o := h.countAll now (ts.map .ok)
    o.host = { h with meter := h.meter.counting h.reported (made.map (now, ·)) } ∧
      (o.result = .ok () ∧ made = ts ∨ ∃ e, o.result = .error e ∧ h.ReportFails now made e) := by
  induction ts generalizing h with
  | nil => exact ⟨rfl, .inl ⟨rfl, rfl⟩⟩
  | cons t ts ih =>
      intro made o
      have counted : o = (h.count now t).andThen fun h _ => h.countAll now (ts.map .ok) := rfl
      have hhost := host_count h now t
      have hresult := result_count h now t
      cases report : (h.meter.countReporting (h.reported now) now t).2 with
      | error e =>
          have hmade : made = [t] := by
            simp only [made, RateMeter.made, report]
            rfl
          rw [report] at hresult
          obtain ⟨last, failed⟩ := Outcome.andThen_of_error (o := h.count now t) hresult
            fun h _ => h.countAll now (ts.map .ok)
          refine ⟨?_, .inr ⟨e, ?_, [], t, hmade, report⟩⟩
          · rw [counted, last, hhost, hmade]
            rfl
          · rw [counted, failed]
      | ok lines =>
          let next := (h.meter.countReporting (h.reported now) now t).1
          have hmade : made = t :: next.made h.reported now ts := by
            simp only [made, RateMeter.made, report]
            rfl
          rw [report] at hresult
          obtain ⟨last, rest⟩ := Outcome.andThen_of_ok (o := h.count now t) hresult
            fun h _ => h.countAll now (ts.map .ok)
          obtain ⟨meter, result⟩ := ih (h.count now t).host
          rw [hhost] at last rest meter result
          refine ⟨?_, ?_⟩
          · rw [counted, last, meter, hmade]
            rfl
          · rw [counted, rest, hmade]
            rcases result with ⟨done, all⟩ | ⟨e, failed, earlier, u, hu, ends⟩
            · exact .inl ⟨done, congrArg _ all⟩
            · exact .inr ⟨e, failed, t :: earlier, u, congrArg _ hu, ends⟩

/-! ## Runs -/

def going? (h : Host) : Command → Option (State → Except Error (State × List Progress.Event))
  | .step => some fun s => .ok (s.step, [])
  | .runFrame => some fun s => do return (← s.frameGiven (← h.config.cyclesPerFrame.run), [])
  | .runFrames n progress => some fun s => do
      let cycles ← h.config.cyclesPerFrame.run
      if progress then framesWatched s h.space cycles n
      else return (← s.framesGiven h.space cycles n.rounds, [])
  | _ => none

/-- The machine after a run that is completed: one that is not refused, and in which the machine
does not halt. -/
def completed? (h : Host) (c : Command) : Option State :=
  match h.state.error?, h.going? c with
  | none, some go =>
      match go h.state with
      | .ok (s, _) => if s.error?.isNone then some s else none
      | .error _ => none
  | _, _ => none

def pace (h : Host) : Int :=
  match h.config.cyclesPerFrame.counted with
  | .ok (.whole k) => k
  | _ => 0

def made (h : Host) (now : Seconds) (c : Command) : List Tally :=
  if (h.completed? c).isSome then h.meter.made h.reported now (c.counts h.pace) else []

def PacedInWholes (h : Host) : Prop := h.config.cyclesPerFrame = .ofInt h.pace

theorem perform_of_going {go : State → Except Error (State × List Progress.Event)}
    (paced : h.PacedInWholes) (hgo : h.going? c = some go) (now : Seconds) :
    h.perform now c = (h.drive now go ((c.counts h.pace).map .ok)).done := by
  cases c with
  | step =>
      obtain rfl := Option.some.inj hgo
      rfl
  | runFrame | runFrames _ _ =>
      obtain rfl := Option.some.inj hgo
      rw [perform]
      simp only [runFrame, runFrames]
      rw [paced]
      rfl
  | _ => cases hgo

theorem lines_drive_of_run {run : State → Except Error (State × List Progress.Event)} {s : State}
    {bar : List Progress.Event} (healthy : h.state.error? = none)
    (hrun : run h.state = .ok (s, bar)) (runs : s.error? = none) (now : Seconds)
    (ts : List (Except Error Tally)) :
    (h.drive now run ts).lines = ({ h with state := s }.countAll now ts).lines := by
  simp only [drive, healthy, Outcome.andThen, observed, hrun, runs, List.nil_append]

/-- A run that is completed ends as its counts do. -/
theorem perform_of_completed {s : State} (paced : h.PacedInWholes) (hc : h.completed? c = some s)
    (now : Seconds) :
    let o := { h with state := s }.countAll now ((c.counts h.pace).map .ok)
    (h.perform now c).host = o.host ∧ (h.perform now c).lines = o.lines ∧
      (h.perform now c).result = o.result.map fun _ => .done := by
  rw [completed?] at hc
  split at hc
  next healthy hgo =>
    split at hc
    next t bar hrun =>
      split at hc
      next runs =>
        obtain rfl := Option.some.inj hc
        rw [perform_of_going paced hgo]
        have runs' := Option.isNone_iff_eq_none.mp runs
        have lines := lines_drive_of_run healthy hrun runs' now ((c.counts h.pace).map .ok)
        obtain ⟨hhost, hresult⟩ := drive_of_run healthy hrun runs' now ((c.counts h.pace).map .ok)
        exact ⟨hhost, lines, congrArg (Except.map fun _ => Reply.done) hresult⟩
      next => cases hc
    next => cases hc
  next => cases hc

theorem result_refuse_error (h : Host) (now : Seconds) (e : Error) :
    ∃ e', (h.refuse now e).result = .error e' := by
  rw [refuse]
  cases told : (h.told now [Report.halted e.message]).result with
  | ok _ => exact ⟨e, (Outcome.andThen_of_ok told _).2⟩
  | error e' => exact ⟨e', (Outcome.andThen_of_error told _).2⟩

/-- A run that is not completed raises an error and is not counted. -/
theorem perform_of_not_completed {go : State → Except Error (State × List Progress.Event)}
    (paced : h.PacedInWholes) (hgo : h.going? c = some go) (hc : h.completed? c = none)
    (now : Seconds) :
    (h.perform now c).host.meter = h.meter ∧ ∃ e, (h.perform now c).result = .error e := by
  rw [perform_of_going paced hgo]
  simp only [Outcome.host_done, Outcome.result_done_error]
  cases healthy : h.state.error? with
  | some e =>
      rw [drive_of_halted healthy]
      exact ⟨congrArg _ (host_refuse h now e), result_refuse_error h now e⟩
  | none =>
      cases hrun : go h.state with
      | error e =>
          obtain ⟨hhost, hresult⟩ := drive_of_refused_run healthy hrun now
            ((c.counts h.pace).map .ok)
          exact ⟨congrArg _ hhost, e, hresult⟩
      | ok r =>
          obtain ⟨s, bar⟩ := r
          cases halts : s.error? with
          | none => simp [completed?, healthy, hgo, hrun, halts] at hc
          | some e =>
              obtain ⟨hhost, hresult⟩ := drive_of_halting_run healthy hrun halts now
                ((c.counts h.pace).map .ok)
              rw [hhost, hresult]
              exact ⟨rfl, result_refuse_error _ now e⟩

theorem completed?_of_not_going (hgo : h.going? c = none) : h.completed? c = none := by
  rw [completed?, hgo]
  split
  · contradiction
  · rfl

theorem load_parts (h : Host) (now : Seconds) (data : List Int) (source : String) :
    ∃ state program,
      (h.load now data source).host = { h with state := state, program := program } := by
  rw [load]
  cases h.state.load data h.config.strictLoad with
  | error e => exact ⟨h.state, h.program, rfl⟩
  | ok s =>
      dsimp only
      rw [host_told]
      exact ⟨_, _, rfl⟩

/-- Logger and settings stay as they are, unless a setting is changed, and what is not a run is not
counted. -/
theorem perform_parts (h : Host) (now : Seconds) (c : Command) :
    (∃ setting, c = .configure setting) ∨ ∃ state meter program,
      (h.perform now c).host = { h with state := state, meter := meter, program := program } ∧
        (h.going? c = none → meter = h.meter) := by
  cases c with
  | configure setting => exact .inl ⟨setting, rfl⟩
  | load data source =>
      obtain ⟨state, program, hhost⟩ := load_parts h now data source
      exact .inr ⟨state, h.meter, program, hhost, fun _ => rfl⟩
  | loadFile path contents =>
      cases contents with
      | error e => exact .inr ⟨_, _, _, rfl, fun _ => rfl⟩
      | ok bytes =>
          obtain ⟨state, program, hhost⟩ := load_parts h now (imageOf bytes) path
          exact .inr ⟨state, h.meter, program, hhost, fun _ => rfl⟩
  | reload =>
      rw [perform, Outcome.host_done, reload, host_told]
      exact .inr ⟨_, _, _, rfl, fun _ => rfl⟩
  | step | runFrame | runFrames _ _ =>
      obtain ⟨meter, hhost⟩ := h.exists_meter_drive now _ _
      refine .inr ⟨_, meter, _, hhost, ?_⟩
      intro hgo
      cases hgo
  | setKeys states =>
      change _ ∨ ∃ state meter program, (h.attempt (h.state.setKeys states)).host = _ ∧ _
      cases h.state.setKeys states <;> exact .inr ⟨_, _, _, rfl, fun _ => rfl⟩
  | logRegisters =>
      rw [perform, Outcome.host_done, host_logRegisters]
      exact .inr ⟨_, _, _, rfl, fun _ => rfl⟩
  | tick | press _ | release _ | currentInstruction | memoryWindow _ _ | programDump | framebuffer
  | elapsed | rates | keys => exact .inr ⟨_, _, _, rfl, fun _ => rfl⟩

theorem configure_parts (h : Host) (now : Seconds) (setting : Setting) :
    ∃ config, (h.perform now (.configure setting)).host = { h with config := config } ∧
      (config = h.config ∨ h.config.assign setting = .ok config) := by
  rw [perform, configure]
  cases assigned : h.config.assign setting with
  | ok config => exact ⟨config, rfl, .inr rfl⟩
  | error e => exact ⟨h.config, rfl, .inl rfl⟩

theorem meter_of_not_going (hgo : h.going? c = none) (now : Seconds) :
    (h.perform now c).host.meter = h.meter := by
  rcases h.perform_parts now c with ⟨setting, rfl⟩ | ⟨state, meter, program, hhost, same⟩
  · obtain ⟨config, hhost, -⟩ := h.configure_parts now setting
    rw [hhost]
  · rw [hhost]
    exact same hgo

/-- A host keeps its logger and runs on the same computer. -/
theorem surroundings_perform (h : Host) (now : Seconds) (c : Command) :
    (h.perform now c).host.logger = h.logger ∧ (h.perform now c).host.space = h.space := by
  rcases h.perform_parts now c with ⟨setting, rfl⟩ | ⟨state, meter, program, hhost, -⟩
  · obtain ⟨config, hhost, -⟩ := h.configure_parts now setting
    rw [hhost]
    exact ⟨rfl, rfl⟩
  · rw [hhost]
    exact ⟨rfl, rfl⟩

theorem logger_perform (h : Host) (now : Seconds) (c : Command) :
    (h.perform now c).host.logger = h.logger := (h.surroundings_perform now c).1

theorem space_perform (h : Host) (now : Seconds) (c : Command) :
    (h.perform now c).host.space = h.space := (h.surroundings_perform now c).2

theorem pacedInWholes_iff : h.PacedInWholes ↔ ∃ k, h.config.cyclesPerFrame = .ofInt k := by
  constructor
  · exact fun paced => ⟨h.pace, paced⟩
  · rintro ⟨k, hk⟩
    rw [PacedInWholes, pace, hk]
    rfl

theorem pacedInWholes_perform (paced : h.PacedInWholes) (now : Seconds) (whole : c.InWholes) :
    (h.perform now c).host.PacedInWholes := by
  rcases h.perform_parts now c with ⟨setting, rfl⟩ | ⟨state, meter, program, hhost, -⟩
  · obtain ⟨config, hhost, hconfig⟩ := h.configure_parts now setting
    rw [hhost, pacedInWholes_iff]
    rcases hconfig with rfl | assigned
    · exact ⟨h.pace, paced⟩
    · cases setting with
      | cyclesPerFrame pace =>
          obtain ⟨k, rfl⟩ := whole
          obtain rfl := Except.ok.inj assigned
          exact ⟨k, rfl⟩
      | refused e | other name => cases assigned
      | _ =>
          obtain rfl := Except.ok.inj assigned
          exact ⟨h.pace, paced⟩
  · rw [hhost]
    exact paced

theorem made_of_completed {s : State} (hc : h.completed? c = some s) (now : Seconds) :
    h.made now c = h.meter.made h.reported now (c.counts h.pace) := by
  rw [made, hc]
  rfl

theorem made_of_not_completed (hc : h.completed? c = none) (now : Seconds) :
    h.made now c = [] := by
  rw [made, hc]
  rfl

/-- **A command does to the meter what its counts do.** -/
theorem meter_perform (paced : h.PacedInWholes) (now : Seconds) (c : Command) :
    (h.perform now c).host.meter =
      h.meter.counting h.reported ((h.made now c).map (now, ·)) := by
  cases hc : h.completed? c with
  | some s =>
      obtain ⟨hhost, -, -⟩ := perform_of_completed paced hc now
      rw [hhost, (countAll_made { h with state := s } now _).1, made_of_completed hc]
      rfl
  | none =>
      rw [made_of_not_completed hc]
      cases hgo : h.going? c with
      | none => exact meter_of_not_going hgo now
      | some go => exact (perform_of_not_completed paced hgo hc now).1

theorem counts_of_not_going (hgo : h.going? c = none) : c.counts h.pace = [] := by
  cases c with
  | step | runFrame | runFrames _ _ => cases hgo
  | _ => rfl

/-- A command that succeeds is counted in full. One that fails is not counted, or up to a count
whose report fails. -/
theorem made_cases (paced : h.PacedInWholes) (now : Seconds) (c : Command) :
    (∃ a, (h.perform now c).result = .ok a) ∧ h.made now c = c.counts h.pace ∨
      ∃ e, (h.perform now c).result = .error e ∧
        (h.made now c = [] ∨ h.ReportFails now (h.made now c) e) := by
  cases hc : h.completed? c with
  | some s =>
      obtain ⟨-, -, hresult⟩ := perform_of_completed paced hc now
      rw [hresult, made_of_completed hc]
      rcases (countAll_made { h with state := s } now _).2 with ⟨done, all⟩ | ⟨e, failed, fails⟩
      · rw [done]
        exact .inl ⟨⟨_, rfl⟩, all⟩
      · rw [failed]
        exact .inr ⟨e, rfl, .inr fails⟩
  | none =>
      rw [made_of_not_completed hc]
      cases hgo : h.going? c with
      | some go =>
          obtain ⟨-, e, failed⟩ := perform_of_not_completed paced hgo hc now
          exact .inr ⟨e, failed, .inl rfl⟩
      | none =>
          rw [counts_of_not_going hgo]
          cases hresult : (h.perform now c).result with
          | ok a => exact .inl ⟨⟨a, rfl⟩, rfl⟩
          | error e => exact .inr ⟨e, rfl, .inl rfl⟩

theorem made_prefix (h : Host) (now : Seconds) (c : Command) :
    h.made now c <+: c.counts h.pace := by
  rw [made]
  split
  · exact RateMeter.made_prefix h.meter now _
  · exact List.nil_prefix

theorem isWhole_made (h : Host) (now : Seconds) {c : Command} (whole : c.InWholes) :
    ∀ t ∈ h.made now c, t.IsWhole := by
  intro t ht
  exact c.isWhole_counts whole h.pace t ((h.made_prefix now c).subset ht)

/-- A run that succeeds is completed and counted in full. -/
theorem completed_of_ok {go : State → Except Error (State × List Progress.Event)}
    (paced : h.PacedInWholes) (hgo : h.going? c = some go) {a : Reply}
    (succeeds : (h.perform now c).result = .ok a) :
    ∃ s, h.completed? c = some s ∧ h.made now c = c.counts h.pace ∧
      ({ h with state := s }.countAll now ((c.counts h.pace).map .ok)).result = .ok () := by
  cases hc : h.completed? c with
  | none =>
      obtain ⟨-, e, failed⟩ := perform_of_not_completed paced hgo hc now
      rw [failed] at succeeds
      cases succeeds
  | some s =>
      obtain ⟨-, -, hresult⟩ := perform_of_completed paced hc now
      rcases (countAll_made { h with state := s } now _).2 with ⟨done, all⟩ | ⟨e, failed, -⟩
      · exact ⟨s, rfl, (made_of_completed hc now).trans all, done⟩
      · rw [hresult, failed] at succeeds
        cases succeeds

theorem total_perform (paced : h.PacedInWholes) (hm : h.meter.total.IsWhole) (now : Seconds)
    (whole : c.InWholes) :
    (h.perform now c).host.meter.total = h.meter.total.add (Tally.sum (h.made now c)) := by
  have counts : ((h.made now c).map (now, ·)).map (·.2) = h.made now c := by
    rw [List.map_map]
    exact List.map_id _
  rw [meter_perform paced, RateMeter.total_counting hm, counts]
  rw [counts]
  exact h.isWhole_made now whole

/-! ## Histories -/

/-- What is counted in a history, each count with its time. -/
def ledger (h : Host) : List (Seconds × Command) → List (Seconds × Tally)
  | [] => []
  | (now, c) :: es => (h.made now c).map (now, ·) ++ (h.perform now c).host.ledger es

section

variable {es : List (Seconds × Command)} (paced : h.PacedInWholes)
  (wholes : ∀ e ∈ es, e.2.InWholes)

include paced wholes

theorem pacedInWholes_after : (h.after es).PacedInWholes := by
  induction es generalizing h with
  | nil => exact paced
  | cons e es ih =>
      obtain ⟨whole, later⟩ := List.forall_mem_cons.mp wholes
      exact ih (pacedInWholes_perform paced e.1 whole) later

/-- **The meter of a host is the one that it was given, with the ledger counted in it.** -/
theorem meter_after : (h.after es).meter = h.meter.counting h.reported (h.ledger es) := by
  induction es generalizing h with
  | nil => rfl
  | cons e es ih =>
      obtain ⟨now, c⟩ := e
      obtain ⟨whole, later⟩ := List.forall_mem_cons.mp wholes
      have next := ih (pacedInWholes_perform paced now whole) later
      rw [reported_congr (h.logger_perform now c), meter_perform paced] at next
      rw [ledger, RateMeter.counting_append, ← next]
      rfl

theorem isWhole_ledger : ∀ t ∈ (h.ledger es).map (·.2), t.IsWhole := by
  induction es generalizing h with
  | nil => exact List.forall_mem_nil _
  | cons e es ih =>
      obtain ⟨now, c⟩ := e
      obtain ⟨whole, later⟩ := List.forall_mem_cons.mp wholes
      rw [ledger, List.map_append, List.map_map]
      refine List.forall_mem_append.mpr ⟨?_, ih (pacedInWholes_perform paced now whole) later⟩
      intro t ht
      obtain ⟨u, hu, rfl⟩ := List.mem_map.mp ht
      exact h.isWhole_made now whole u hu

end

end Host

end Chip8
