import Chip8.Headless
import Chip8.Proofs.Observation
import Chip8.Proofs.PacedCycles
import Chip8.Proofs.RememberedProgram
import Chip8.Proofs.SavedPicture
import Chip8.Proofs.SpeedReports
import Chip8.Proofs.WellFormed

/-!
# Where a headless run gets to

A headless run puts four things together: a program is loaded, its frames are run, the lines say
what has happened, and a picture of the screen is saved. What it comes to can be told from the
machine alone. Frames are cycles with a tick behind each `c` of them (`State.paced`); either the
machine halts in none of these cycles, or it halts in one of them and then only ticks
(`State.frames_cases`). Everything else follows that split: a run fails just if there is such a
cycle, its lines end with the fault and the registers, and there is no picture; or it comes to its
end, and lines and picture show the machine after all the frames (`Job.headless_run_ends`).

Each part happens at a time of its own (`Job.Times`), and lines are described by the messages that
they were printed for and their times (`Logger.Prints`), so that the threshold and the time stamps
remain matters of the logger. What a job asks for is gathered in `Job.Order`. Loops and rates have
limits (`Job.WithinLimits`), and so have pictures (`Job.Savable`); past them a run is stopped, and
neither fails nor comes to its end.
-/

namespace Chip8

namespace State

variable {s : State}

/-- A fault of a machine that was created, loaded and run stops a headless run with a failure. -/
theorem isMachineError_of_error? (wf : s.WellFormed) {e : Error} (h : s.error? = some e) :
    e.isMachineError = true := by
  -- a code that stands for no fault would be an error of another kind
  have known : ∃ f, Fault.ofCode? s.fault.toNat = some f := by
    have le : s.fault.toNat ≤ 3 := wf.fault_le
    have code : s.fault.toNat = 0 ∨ s.fault.toNat = 1 ∨ s.fault.toNat = 2 ∨ s.fault.toNat = 3 := by
      omega
    rcases code with code | code | code | code <;> rw [code] <;> exact ⟨_, rfl⟩
  obtain ⟨f, hf⟩ := known
  rw [error?, hf] at h
  cases f with
  | clear => cases h
  | _ =>
      obtain rfl := Option.some.inj h
      rfl

theorem wellFormed_frames (wf : s.WellFormed) (cycles : Int) (n : Nat) :
    (s.frames cycles n).WellFormed := by
  induction n generalizing s with
  | zero => exact wf
  | succ n ih => exact ih (inductive_wellFormed.frame wf cycles)

end State

/-! ## Lines -/

/-- Are these the lines that the logger prints for some messages, each of them at its time? -/
def Logger.Prints (l : Logger) : List (Seconds × List Message) → List Line → Prop
  | [], lines => lines = []
  | (now, messages) :: rest, lines => ∃ first later,
      l.print now messages = .ok first ∧ l.Prints rest later ∧ lines = first ++ later

namespace Logger

theorem CanStamp.exists_print {l : Logger} {now : Seconds} (clock : l.CanStamp now)
    (ms : List Message) : ∃ lines, l.print now ms = .ok lines := by
  obtain ⟨stamp, hstamp⟩ := clock
  exact ⟨_, print_of_stamp hstamp ms⟩

namespace Prints

variable {l : Logger} {now : Seconds} {ms : List Message} {lines later : List Line}
  {rest : List (Seconds × List Message)}

theorem cons (printed : l.print now ms = .ok lines) (others : l.Prints rest later) :
    l.Prints ((now, ms) :: rest) (lines ++ later) := ⟨lines, later, printed, others, rfl⟩

theorem last (printed : l.print now ms = .ok lines) : l.Prints [(now, ms)] lines :=
  ⟨lines, [], printed, rfl, (List.append_nil lines).symm⟩

end Prints

end Logger

namespace Host

variable {h g : Host} {now : Seconds} {ms : List Message} {lines : List Line}

def printing (h : Host) (lines : List Line) : Outcome Unit := ⟨h, lines, [], .ok ()⟩

theorem printing_andThen {β : Type} (h : Host) (lines : List Line)
    (next : Host → Unit → Outcome β) : (h.printing lines).andThen next =
      ⟨(next h ()).host, lines ++ (next h ()).lines, (next h ()).bar, (next h ()).result⟩ := rfl

theorem told_of_print (printed : h.logger.print now ms = .ok lines) :
    h.told now ms = h.printing lines := by
  rw [told, printed]
  rfl

theorem refuse_of_print {e : Error}
    (printed : h.logger.print now [Report.halted e.message] = .ok lines) :
    h.refuse now e = ⟨h, lines, [], .error e⟩ := by
  rw [refuse, told_of_print printed, printing_andThen]
  exact congrArg (Outcome.mk h · _ _) (List.append_nil lines)

/-- All sixteen data registers fill their rows. -/
theorem registers_complete (h : Host) : (Report.registers h.registerFile).2 = none := by
  have complete : (Report.rows 0 h.registerFile.data).2 = true := by
    rw [Report.rows_complete]
    simp [registerFile]
  simp only [Report.registers, complete, if_true]

theorem logRegisters_of_print
    (printed : h.logger.print now (Report.registers h.registerFile).1 = .ok lines) :
    h.logRegisters now = h.printing lines := by
  have complete := registers_complete h
  rw [logRegisters]
  rcases registers : Report.registers h.registerFile with ⟨messages, error?⟩
  rw [registers] at printed complete
  obtain rfl : error? = none := complete
  dsimp only
  rw [told_of_print printed, printing_andThen]
  exact congrArg (Outcome.mk h · _ _) (List.append_nil lines)

/-! ## Counting -/

/-- What counting leads to: so much more is counted in all, and nothing is printed but reports on
the speed. -/
structure Counts (h : Host) (now : Seconds) (t : Tally) (o : Outcome Unit) : Prop where
  total : ∃ meter lines, o = { h with meter := meter }.printing lines ∧
    meter.total = h.meter.total.add t
  reports : ∃ rates : List Rates, h.logger.print now (rates.map Report.rates) = .ok o.lines
  inBounds : o.host.InBounds

theorem counts_of_moderate {t : Tally} (hb : h.InBounds) (moderate : now.IsModerate)
    (ht : t.IsWhole) (total : (h.meter.total.add t).IsModerate) :
    h.Counts now t (h.count now t) := by
  obtain ⟨counted, next⟩ := count_of_moderate hb moderate ht total
  obtain ⟨r, report⟩ := exists_of_count_ok counted
  rcases RateMeter.countReporting_cases h.reported report with
    short | ⟨length, lines, full, possible⟩
  · refine ⟨?_, ⟨[], ?_⟩, next⟩
    · rw [count_of_open short]
      exact ⟨_, [], rfl, rfl⟩
    · rw [count_of_open short]
      rfl
  · obtain ⟨rates, -, printed⟩ := exists_of_bind_ok possible
    refine ⟨?_, ⟨[rates], ?_⟩, next⟩
    · rw [count_of_full full possible]
      exact ⟨_, lines, rfl, rfl⟩
    · rw [count_of_full full possible]
      exact printed

theorem Counts.nothing (hb : h.InBounds) (ht : h.meter.total.IsWhole) :
    h.Counts now Tally.zero (h.observed (.ok ())) :=
  ⟨⟨h.meter, [], rfl, (Tally.add_zero ht).symm⟩, ⟨[], rfl⟩, hb⟩

/-- What is counted one after the other adds up. -/
theorem Counts.andThen {t u : Tally} {o : Outcome Unit} {next : Host → Unit → Outcome Unit}
    (whole : h.meter.total.IsWhole ∧ t.IsWhole ∧ u.IsWhole) (first : h.Counts now t o)
    (second : o.host.Counts now u (next o.host ())) : h.Counts now (t.add u) (o.andThen next) := by
  obtain ⟨⟨meter, lines, rfl, total⟩, ⟨rates, printed⟩, -⟩ := first
  obtain ⟨⟨meter', lines', counted, total'⟩, ⟨rates', printed'⟩, inBounds⟩ := second
  have both : ((printing { h with meter := meter } lines).andThen next) =
      printing { h with meter := meter' } (lines ++ lines') := by
    rw [printing_andThen]
    exact congrArg (fun o : Outcome Unit => { o with lines := lines ++ o.lines }) counted
  rw [counted] at printed' inBounds
  rw [both]
  refine ⟨⟨meter', lines ++ lines', rfl, ?_⟩, ⟨rates ++ rates', ?_⟩, inBounds⟩
  · rw [total', ← Tally.add_assoc whole.1 whole.2.1 whole.2.2, ← total]
    rfl
  · have joint := Logger.print_append h.logger now (rates.map Report.rates)
      (rates'.map Report.rates)
    have later : h.logger.print now (rates'.map Report.rates) = .ok lines' := printed'
    rw [printed, later] at joint
    rw [List.map_append, joint]
    rfl

theorem Counts.total_eq {t : Tally} {o : Outcome Unit} (counts : h.Counts now t o) :
    o.host.meter.total = h.meter.total.add t := by
  obtain ⟨meter, lines, rfl, total⟩ := counts.total
  exact total

/-- Tallies are counted one after the other, as long as their sums are moderate. -/
theorem counts_countAll (moderate : now.IsModerate) {ts : List Tally} (hb : h.InBounds)
    (whole : ∀ t ∈ ts, t.IsWhole)
    (sums : ∀ us, us <+: ts → (h.meter.total.add (Tally.sum us)).IsModerate) :
    h.Counts now (Tally.sum ts) (h.countAll now (ts.map .ok)) := by
  induction ts generalizing h with
  | nil => exact .nothing hb hb.total.isWhole
  | cons t ts ih =>
      have ht : t.IsWhole := whole t List.mem_cons_self
      have hts : ∀ u ∈ ts, u.IsWhole := fun u hu => whole u (List.mem_cons_of_mem t hu)
      have one : (h.meter.total.add t).IsModerate := by
        rw [← Tally.add_zero ht]
        exact sums [t] ⟨ts, rfl⟩
      have first : h.Counts now t (h.countIf now (.ok t)) := counts_of_moderate hb moderate ht one
      refine first.andThen ⟨hb.total.isWhole, ht, Tally.isWhole_sum hts⟩ (ih first.inBounds hts ?_)
      intro us hus
      have hwhole : ∀ u ∈ us, u.IsWhole := fun u hu => hts u (hus.subset hu)
      rw [first.total_eq, Tally.add_assoc hb.total.isWhole ht (Tally.isWhole_sum hwhole)]
      exact sums (t :: us) (List.cons_prefix_cons.mpr ⟨rfl, hus⟩)

/-- So cycles and frames are, if their numbers are. -/
theorem counts_cycles_frames (hb : h.InBounds) (moderate : now.IsModerate)
    (fresh : h.meter.total = Tally.zero) {cycles frames : Int}
    (few : cycles.natAbs < Binary.large ∧ frames.natAbs < Binary.large) :
    h.Counts now (.whole cycles frames)
      (h.countAll now [.ok (.ofCycles (.whole cycles)), .ok (.ofFrames (.whole frames))]) := by
  have sum : Tally.sum [.whole cycles 0, .whole 0 frames] = .whole cycles frames := by
    rw [Tally.sum_cons, Tally.sum_cons, Tally.sum_nil, Tally.add_zero (Tally.isWhole_whole _ _),
      Tally.whole_add, Int.add_zero, Int.zero_add]
  rw [← sum]
  refine counts_countAll moderate hb ?_ ?_
  · simp only [List.forall_mem_cons]
    exact ⟨Tally.isWhole_whole _ _, Tally.isWhole_whole _ _, List.forall_mem_nil _⟩
  · intro us hus
    simp only [List.prefix_cons_iff, List.prefix_nil] at hus
    rcases hus with rfl | ⟨_, rfl, rfl | ⟨_, rfl, rfl⟩⟩
    · rw [fresh]
      exact Tally.isModerate_zero
    · rw [fresh, Tally.sum_cons, Tally.sum_nil, Tally.add_zero (Tally.isWhole_whole _ _),
        Tally.zero_add (Tally.isWhole_whole _ _)]
      exact ⟨cycles, 0, rfl, few.1, Nat.lt_of_le_of_lt (Nat.zero_le _) few.1⟩
    · rw [fresh, sum, Tally.zero_add (Tally.isWhole_whole _ _)]
      exact ⟨cycles, frames, rfl, few⟩

/-! ## Running frames -/

section

variable {c n : Int} {progress : Bool}

/-- The machine runs its frames, whether they are watched or not. -/
theorem exists_bar (space : Space)
    (countable : 0 < n → Bits.fits 32 n = true ∧ Bits.fits 32 c = true)
    (watchable : progress = true → Bits.fits 32 (n - 1) = true) (s : State) : ∃ bar,
    (if progress then framesWatched s space c (.whole n)
      else do return (← s.framesGiven space c (Count.whole n).rounds, [])) =
      .ok (s.frames c n.toNat, bar) := by
  have given := State.framesGiven_of_fits countable s space
  cases progress with
  | false =>
      refine ⟨[], ?_⟩
      change (s.framesGiven space c n >>= fun t => pure (t, [])) = _
      rw [given]
      rfl
  | true =>
      have same := framesWatched_fst s space c fun _ => if_pos (watchable rfl)
      rw [given] at same
      cases watched : framesWatched s space c (.whole n) with
      | error e =>
          rw [watched] at same
          cases same
      | ok r =>
          obtain ⟨t, bar⟩ := r
          rw [watched] at same
          obtain rfl := Except.ok.inj same
          exact ⟨bar, rfl⟩

section

variable {run : State → Except Error (State × List Progress.Event)} {s : State} {e : Error}
  {bar : List Progress.Event} {now : Seconds} {ts : List (Except Error Tally)}

theorem drive_eq_of_halting_run (healthy : h.state.error? = none)
    (hrun : run h.state = .ok (s, bar)) (halts : s.error? = some e)
    (printed : h.logger.print now [Report.halted e.message] = .ok lines) :
    h.drive now run ts = ⟨{ h with state := s }, lines, bar, .error e⟩ := by
  rw [drive, healthy]
  dsimp only
  rw [hrun, Outcome.observed_andThen]
  dsimp only
  rw [halts]
  dsimp only
  rw [refuse_of_print (h := { h with state := s }) printed]

theorem drive_eq_of_run (healthy : h.state.error? = none) (hrun : run h.state = .ok (s, bar))
    (runs : s.error? = none) :
    h.drive now run ts = { Host.countAll { h with state := s } now ts with bar := bar } := by
  rw [drive, healthy]
  dsimp only
  rw [hrun, Outcome.observed_andThen]
  dsimp only
  rw [runs]

end

/-- Frames in which the machine halts come to a refusal. -/
theorem runFrames_of_halting (healthy : h.state.error? = none)
    (pace : h.config.cyclesPerFrame = .ofInt c)
    (countable : 0 < n → Bits.fits 32 n = true ∧ Bits.fits 32 c = true)
    (watchable : progress = true → Bits.fits 32 (n - 1) = true) {e : Error}
    (halts : (h.state.frames c n.toNat).error? = some e)
    (printed : h.logger.print now [Report.halted e.message] = .ok lines) : ∃ bar,
    h.runFrames now (.whole n) progress =
      ⟨{ h with state := h.state.frames c n.toNat }, lines, bar, .error e⟩ := by
  obtain ⟨bar, hrun⟩ := exists_bar h.space countable watchable h.state
  refine ⟨bar, ?_⟩
  rw [runFrames, pace]
  exact drive_eq_of_halting_run healthy hrun halts printed

/-- Other frames come to a count. -/
theorem runFrames_of_running (healthy : h.state.error? = none)
    (pace : h.config.cyclesPerFrame = .ofInt c)
    (countable : 0 < n → Bits.fits 32 n = true ∧ Bits.fits 32 c = true)
    (watchable : progress = true → Bits.fits 32 (n - 1) = true)
    (runs : (h.state.frames c n.toNat).error? = none) : ∃ bar,
    h.runFrames now (.whole n) progress =
      { Host.countAll { h with state := h.state.frames c n.toNat } now
          [.ok (.ofCycles (.whole (n * c))), .ok (.ofFrames (.whole n))] with bar := bar } := by
  obtain ⟨bar, hrun⟩ := exists_bar h.space countable watchable h.state
  refine ⟨bar, ?_⟩
  rw [runFrames, pace]
  exact drive_eq_of_run healthy hrun runs

end

end Host

namespace Job

variable {job : Job} {logger l : Logger} {files : Files} {times : Times}

/-! ## What is asked for -/

/-- What a job asks for, and the computer that it is to run on. -/
structure Order where
  config : Config
  space : Space
  /-- Where the program comes from. -/
  path : String
  program : List UInt8
  cycles : Int
  frames : Int
  scale : Int
  scheme : ColourScheme

namespace Order

def start (o : Order) : State :=
  (State.fresh (Random.Key.ofSeed o.config.seed) o.config.modern).loadBytes o.program

def final (o : Order) : State := o.start.frames o.cycles o.frames.toNat

def picture (o : Order) : Picture :=
  .ofBitmap o.final.display o.scale (.plain o.scheme.on) (.plain o.scheme.off)

def loaded (o : Order) : Message :=
  Report.loaded o.path (.whole o.program.length) (.whole programCapacity)

def host (o : Order) (l : Logger) (created : Seconds) : Host where
  config := o.config
  logger := l
  space := o.space
  meter := RateMeter.start o.config.reportInterval created
  state := o.start
  program := o.program.take programCapacity

/-- The host after the frames, apart from what it counts. -/
def ended (o : Order) (l : Logger) (created : Seconds) : Host :=
  { o.host l created with state := o.final }

def registers (o : Order) (l : Logger) (created : Seconds) : List Message :=
  (Report.registers (o.ended l created).registerFile).1

def summary (o : Order) (elapsed : Float) : List Message :=
  let time := Text.fixed 1 elapsed
  let ran := (Count.whole o.frames).text
  [Level.info.message (s!"Ran {ran} frames ({time}s of machine time)"),
   Level.info.message ("Next instruction: " ++ disassemble o.final.fetch.toNat)]

end Order

variable {o : Order}

/-- Does the job ask for this, with settings that can be used and a program that can be loaded? -/
structure Asks (job : Job) (files : Files) (o : Order) : Prop where
  settings : Config.ofSettings job.settings = .ok o.config
  seed : Random.isSeed o.config.seed = true
  pace : o.config.cyclesPerFrame = .ofInt o.cycles
  interval : ∃ interval, o.config.reportInterval = .ok interval
  path : job.program = .ok o.path
  program : files.read o.path = .ok o.program
  fits : o.config.strictLoad = true → o.program.length ≤ programCapacity
  frames : job.frames = .ok (.whole o.frames)
  scale : job.scale = .ok o.scale
  scheme : job.scheme = .ok o.scheme.name

/-- Can so many frames be run? Loops are counted in 32 bits, the bar compares with the number of the
last frame, and rates and times are floating-point numbers. -/
structure WithinLimits (job : Job) (o : Order) : Prop where
  countable : 0 < o.frames → Bits.fits 32 o.frames = true ∧ Bits.fits 32 o.cycles = true
  watchable : job.progress = true → Bits.fits 32 (o.frames - 1) = true
  few : o.frames ≤ 0 →
    (o.frames * o.cycles).natAbs < Binary.large ∧ o.frames.natAbs < Binary.large

/-- Can the picture be saved, if one is asked for? It has to fit into memory, and the file has to be
one that can be written, with a name that says what is to be written. -/
structure Savable (job : Job) (files : Files) (o : Order) : Prop where
  fits : job.screenshot ≠ "" → Picture.Fits o.space.bytes screenWidth screenHeight o.scale
  narrow : job.screenshot ≠ "" → screenWidth * Picture.factor o.scale ≤ Picture.rowLimit
  known : job.screenshot ≠ "" → Picture.extension job.screenshot ∈ Picture.extensions
  writable : job.screenshot ≠ "" → files.writable job.screenshot = .ok ()

/-- What can be counted in 32 bits is easily turned into a floating-point number. -/
theorem WithinLimits.moderate (limits : job.WithinLimits o) :
    (o.frames * o.cycles).natAbs < Binary.large ∧ o.frames.natAbs < Binary.large := by
  have small {n : Int} (fits : Bits.fits 32 n = true) : n.natAbs ≤ 0x80000000 := by
    have := Bits.fits_32_iff.mp fits
    omega
  have large : 0x80000000 * 0x80000000 < Binary.large := by decide +kernel
  by_cases none : o.frames ≤ 0
  · exact limits.few none
  · obtain ⟨frames, cycles⟩ := limits.countable (Int.not_le.mp none)
    have product := Nat.mul_le_mul (small frames) (small cycles)
    have frames := small frames
    rw [Int.natAbs_mul]
    omega

structure Times.AreModerate (times : Times) : Prop where
  created : times.created.IsModerate
  loaded : times.loaded.IsModerate
  ran : times.ran.IsModerate
  shown : times.shown.IsModerate
  saved : times.saved.IsModerate

/-! ## The parts of a run -/

def saved? (job : Job) (o : Order) : Option Picture :=
  if job.screenshot = "" then none else some o.picture

def savedMessages (job : Job) : List Message :=
  if job.screenshot = "" then []
  else [Level.info.message ("Framebuffer saved to " ++ job.screenshot)]

theorem save_of_print (asks : job.Asks files o) (savable : job.Savable files o) {g : Host}
    (space : g.space = o.space) (final : g.state = o.final) {now : Seconds} {lines : List Line}
    (printed : g.logger.print now job.savedMessages = .ok lines) :
    job.save files g now = ⟨g, lines, [], .ok (job.saved? o)⟩ := by
  rw [savedMessages] at printed
  rw [save, saved?]
  by_cases none : job.screenshot = ""
  · rw [if_pos none] at printed ⊢
    obtain rfl := Except.ok.inj printed
    rw [if_pos none]
    rfl
  · have made := Picture.forFile_screen g.state.display o.scheme (savable.fits none)
      (savable.narrow none) (savable.known none) (savable.writable none)
    rw [final] at made
    rw [if_neg none] at printed ⊢
    rw [if_neg none, asks.scheme, asks.scale, space, final]
    dsimp only [bind, Except.bind]
    rw [made, Outcome.observed_andThen, Host.told_of_print printed, Host.printing_andThen]
    exact congrArg (Outcome.mk g · _ _) (List.append_nil lines)

theorem exists_summary (limits : job.WithinLimits o) {g : Host} (final : g.state = o.final)
    (counted : g.meter.total.frames = .whole o.frames) : ∃ elapsed,
    (Seconds.whole frameRate).per (.whole o.frames) = .ok elapsed ∧
      Job.summary g (.whole o.frames) = .ok (o.summary elapsed) := by
  have few : o.frames.natAbs < 2 * Binary.large := by
    have := limits.moderate.2
    omega
  have positive : ∀ n, Seconds.whole frameRate = .whole n → 0 < n := by
    rintro _ ⟨⟩
    decide
  have short : (Seconds.whole frameRate).IsShort := by
    change (frameRate : Int).natAbs < 2 * Binary.large
    decide +kernel
  obtain ⟨elapsed, helapsed⟩ := Seconds.per_of_short short positive few
  refine ⟨elapsed, helapsed, ?_⟩
  rw [Job.summary, Host.elapsed, counted, helapsed, Host.currentInstruction, final]
  rfl

/-- A run that no fault has stopped comes to its end. -/
theorem conclude_of_print (asks : job.Asks files o) (savable : job.Savable files o) {g : Host}
    (space : g.space = o.space) (final : g.state = o.final)
    {summary registers saved : List Line} {messages : List Message}
    (hsummary : Job.summary g (.whole o.frames) = .ok messages)
    (told : g.logger.print times.shown messages = .ok summary)
    (shown : g.logger.print times.shown (Report.registers g.registerFile).1 = .ok registers)
    (written : g.logger.print times.saved job.savedMessages = .ok saved) :
    job.conclude files g times (.whole o.frames) =
      ⟨g, summary ++ (registers ++ saved), [], .ok (job.saved? o)⟩ := by
  rw [conclude, hsummary, Outcome.observed_andThen, Host.told_of_print told, Host.printing_andThen,
    Host.logRegisters_of_print shown, Host.printing_andThen,
    save_of_print asks savable space final written]

/-! ## From the beginning to the end -/

/-- The host that the program is loaded into. -/
theorem exists_create (asks : job.Asks files o) (l : Logger) (now : Seconds) : ∃ h : Host,
    Host.create o.config l o.space now = .ok h ∧ h.config = o.config ∧ h.logger = l ∧
      o.host l now = { h with
        state := h.state.loadBytes o.program
        program := o.program.take programCapacity } := by
  let h : Host :=
    { config := o.config
      logger := l
      space := o.space
      meter := RateMeter.start o.config.reportInterval now
      state := State.fresh (Random.Key.ofSeed o.config.seed) o.config.modern
      program := [] }
  have created : Host.create o.config l o.space now = .ok h := by
    rw [Host.create, State.create, if_pos asks.seed]
    rfl
  exact ⟨h, created, rfl, rfl, rfl⟩

/-- A program that fits, or that need not, is loaded. -/
theorem loadFile_of_print (asks : job.Asks files o) {h : Host} (config : h.config = o.config)
    {now : Seconds} {lines : List Line} (printed : h.logger.print now [o.loaded] = .ok lines) :
    h.loadFile now o.path (files.read o.path) =
      Host.printing { h with
        state := h.state.loadBytes o.program
        program := o.program.take programCapacity } lines := by
  have fits : h.config.strictLoad = true → o.program.length ≤ programCapacity := by
    rw [config]
    exact asks.fits
  rw [Host.loadFile, asks.program, Outcome.observed_andThen, Host.load_of_fits fits]
  exact Host.told_of_print printed

/-- The host that has the program in place runs the frames. -/
theorem runAt_of_asks (asks : job.Asks files o) {l : Logger}
    (threshold : logger.withThreshold o.config.logLevel = l) {lines : List Line}
    (printed : l.print times.loaded [o.loaded] = .ok lines) :
    job.runAt logger files o.space times =
      { job.runOn files (o.host l times.created) times with
        lines := lines ++ (job.runOn files (o.host l times.created) times).lines } := by
  -- the host that was created is named, so that its blank memory is not looked into
  obtain ⟨h, created, config, rfl, host⟩ := exists_create asks l times.created
  rw [runAt, asks.settings, asks.path]
  dsimp only [bind, Except.bind]
  rw [threshold, created]
  dsimp only
  rw [loadFile_of_print asks config printed, ← host]
  rfl

/-! ## How a run ends -/

/-- A run in which the machine halts in the cycle with this number: it fails, leaves no picture, and
after the program has been loaded it says nothing but what the fault is and what the registers of
the halted machine hold. -/
structure Order.FailsAt (o : Order) (l : Logger) (times : Times) (r : Result) (k : Nat) : Prop where
  asked : k < o.frames.toNat * o.cycles.toNat
  faults : o.start.FaultsAt o.cycles.toNat k
  /-- The frames that remain only let the timers tick. -/
  final : o.final =
    (o.start.paced o.cycles.toNat k).step.ticks (o.frames.toNat - k / o.cycles.toNat)
  ending : r.ending = .failed 1
  picture : r.picture = none
  lines : ∃ e, (o.start.paced o.cycles.toNat k).step.error? = some e ∧
    l.Prints
      [(times.loaded, [o.loaded]), (times.ran, [Report.halted e.message]),
       (times.shown, o.registers l times.created)] r.lines

/-- A run in which it does not: it comes to its end, leaves the picture that is asked for, and says
where it has got to and what the registers hold after all the frames. There may be reports on the
speed before that. -/
structure Finishes (job : Job) (o : Order) (l : Logger) (times : Times) (r : Result) : Prop where
  ending : r.ending = .finished
  picture : r.picture = job.saved? o
  lines : ∃ (rates : List Rates) (elapsed : Float),
    (Seconds.whole frameRate).per (.whole o.frames) = .ok elapsed ∧
      l.Prints
        [(times.loaded, [o.loaded]), (times.ran, rates.map Report.rates),
         (times.shown, o.summary elapsed), (times.shown, o.registers l times.created),
         (times.saved, job.savedMessages)] r.lines

theorem inBounds_host (asks : job.Asks files o) (moderate : times.AreModerate)
    (start : l.start.IsModerate) : (o.host l times.created).InBounds :=
  ⟨asks.interval, moderate.created, start, Tally.isModerate_zero, Tally.isWhole_zero, .zero,
    Tally.isModerate_zero, rfl⟩

theorem healthy_host (o : Order) (l : Logger) (created : Seconds) :
    (o.host l created).state.error? = none := State.error?_eq_none_iff.mpr rfl

/-- Frames that raise a machine error end the run with a failure, once the registers are shown. -/
theorem runOn_of_raised {h g : Host} {n : Count} (frames : job.frames = .ok n) {e : Error}
    (machine : e.isMachineError = true) {said registers : List Line} {bar : List Progress.Event}
    (ran : h.runFrames times.ran n job.progress = ⟨g, said, bar, .error e⟩)
    (shown : g.logger.print times.shown (Report.registers g.registerFile).1 = .ok registers) :
    job.runOn files h times =
      { lines := said ++ registers, bar := bar, picture := none, ending := .failed 1 } := by
  rw [runOn, frames]
  dsimp only
  rw [ran]
  dsimp only
  rw [if_pos machine, Host.logRegisters_of_print shown]
  rfl

theorem runOn_of_halting (asks : job.Asks files o) (limits : job.WithinLimits o) {e : Error}
    (halts : o.final.error? = some e) (machine : e.isMachineError = true)
    {fault registers : List Line} (told : l.print times.ran [Report.halted e.message] = .ok fault)
    (shown : l.print times.shown (o.registers l times.created) = .ok registers) : ∃ bar,
    job.runOn files (o.host l times.created) times =
      { lines := fault ++ registers, bar := bar, picture := none, ending := .failed 1 } := by
  obtain ⟨bar, hrun⟩ := Host.runFrames_of_halting (healthy_host o l times.created) asks.pace
    limits.countable limits.watchable halts told
  have ran : (o.host l times.created).runFrames times.ran (.whole o.frames) job.progress =
      ⟨o.ended l times.created, fault, bar, .error e⟩ := hrun
  exact ⟨bar, runOn_of_raised asks.frames machine ran shown⟩

/-- Frames that no fault stops are counted, and it may be that the speed is reported. -/
theorem exists_runFrames (asks : job.Asks files o) (limits : job.WithinLimits o)
    (moderate : times.AreModerate) (start : l.start.IsModerate) (runs : o.final.error? = none) :
    ∃ (meter : RateMeter Seconds) (lines : List Line) (rates : List Rates)
      (bar : List Progress.Event),
      (o.host l times.created).runFrames times.ran (.whole o.frames) job.progress =
        ⟨{ o.ended l times.created with meter := meter }, lines, bar, .ok ()⟩ ∧
      meter.total.frames = .whole o.frames ∧
      l.print times.ran (rates.map Report.rates) = .ok lines := by
  obtain ⟨bar, hrun⟩ := Host.runFrames_of_running (healthy_host o l times.created) asks.pace
    limits.countable limits.watchable runs
  -- the frames have moved the machine only, and not what counts them
  have inBounds : (o.ended l times.created).InBounds :=
    (inBounds_host asks moderate start).congr rfl rfl
  obtain ⟨⟨meter, lines, counted, total⟩, ⟨rates, printed⟩, -⟩ :=
    Host.counts_cycles_frames inBounds moderate.ran rfl limits.moderate
  rw [counted] at printed
  refine ⟨meter, lines, rates, bar, ?_, ?_, printed⟩
  · exact hrun.trans (congrArg (fun t : Outcome Unit => { t with bar := bar }) counted)
  · rw [total]
    exact congrArg Tally.frames (Tally.zero_add (Tally.isWhole_whole _ _))

/-- After them the run is concluded. -/
theorem runOn_of_ran (asks : job.Asks files o) {h g : Host} {lines : List Line}
    {bar : List Progress.Event}
    (ran : h.runFrames times.ran (.whole o.frames) job.progress = ⟨g, lines, bar, .ok ()⟩) :
    job.runOn files h times =
      .ofOutcome { job.conclude files g times (.whole o.frames) with
        lines := lines ++ (job.conclude files g times (.whole o.frames)).lines
        bar := bar ++ (job.conclude files g times (.whole o.frames)).bar } := by
  rw [runOn, asks.frames]
  dsimp only
  rw [ran]
  rfl

theorem Result.ending_ofOutcome (p : Outcome (Option Picture)) (status : Nat) :
    (ofOutcome p).ending ≠ .failed status := by
  rw [ofOutcome]
  cases p.result <;> nofun

theorem not_failed_of_running (asks : job.Asks files o) (limits : job.WithinLimits o)
    (moderate : times.AreModerate) (threshold : logger.withThreshold o.config.logLevel = l)
    (start : l.start.IsModerate) (runs : o.final.error? = none) :
    (job.runAt logger files o.space times).ending ≠ .failed 1 := by
  obtain ⟨loaded, printed⟩ := (Logger.canStamp_of_moderate start moderate.loaded).exists_print
    [o.loaded]
  obtain ⟨meter, reports, rates, bar, ran, -, -⟩ := exists_runFrames asks limits moderate start runs
  rw [runAt_of_asks asks threshold printed, runOn_of_ran asks ran]
  exact Result.ending_ofOutcome _ _

theorem finishes_of_running (asks : job.Asks files o) (limits : job.WithinLimits o)
    (savable : job.Savable files o) (moderate : times.AreModerate)
    (threshold : logger.withThreshold o.config.logLevel = l) (start : l.start.IsModerate)
    (runs : o.final.error? = none) :
    job.Finishes o l times (job.runAt logger files o.space times) := by
  obtain ⟨loaded, printed⟩ := (Logger.canStamp_of_moderate start moderate.loaded).exists_print
    [o.loaded]
  obtain ⟨meter, reports, rates, bar, ran, frames, reported⟩ :=
    exists_runFrames asks limits moderate start runs
  let g : Host := { o.ended l times.created with meter := meter }
  obtain ⟨elapsed, helapsed, hsummary⟩ := exists_summary (g := g) limits rfl frames
  obtain ⟨summary, told⟩ := (Logger.canStamp_of_moderate start moderate.shown).exists_print
    (o.summary elapsed)
  obtain ⟨registers, shown⟩ := (Logger.canStamp_of_moderate start moderate.shown).exists_print
    (o.registers l times.created)
  obtain ⟨saved, written⟩ := (Logger.canStamp_of_moderate start moderate.saved).exists_print
    job.savedMessages
  have concluded := conclude_of_print asks savable (g := g) rfl rfl hsummary told shown written
  have prints := Logger.Prints.cons (l := l) reported (.cons told (.cons shown (.last written)))
  rw [runAt_of_asks asks threshold printed, runOn_of_ran asks ran, concluded]
  exact ⟨rfl, rfl, rates, elapsed, helapsed, .cons printed prints⟩

theorem wellFormed_final (o : Order) : o.final.WellFormed :=
  State.wellFormed_frames (State.inductive_wellFormed.load _ _ (State.wellFormed_fresh _ _)) _ _

theorem failsAt_of_halting (asks : job.Asks files o) (limits : job.WithinLimits o)
    (moderate : times.AreModerate) (threshold : logger.withThreshold o.config.logLevel = l)
    (start : l.start.IsModerate) {k : Nat} {e : Error}
    (asked : k < o.frames.toNat * o.cycles.toNat) (faults : o.start.FaultsAt o.cycles.toNat k)
    (final : o.final =
      (o.start.paced o.cycles.toNat k).step.ticks (o.frames.toNat - k / o.cycles.toNat))
    (halts : o.final.error? = some e)
    (fault : (o.start.paced o.cycles.toNat k).step.error? = some e) :
    o.FailsAt l times (job.runAt logger files o.space times) k := by
  obtain ⟨loaded, printed⟩ := (Logger.canStamp_of_moderate start moderate.loaded).exists_print
    [o.loaded]
  obtain ⟨said, told⟩ := (Logger.canStamp_of_moderate start moderate.ran).exists_print
    [Report.halted e.message]
  obtain ⟨registers, shown⟩ := (Logger.canStamp_of_moderate start moderate.shown).exists_print
    (o.registers l times.created)
  have machine := State.isMachineError_of_error? (wellFormed_final o) halts
  obtain ⟨bar, ran⟩ := runOn_of_halting asks limits halts machine told shown
  rw [runAt_of_asks asks threshold printed, ran]
  exact ⟨asked, faults, final, rfl, rfl, e, fault, .cons printed (.cons told (.last shown))⟩

/-- **A headless run fails just if a fault stops the machine.** Let a job ask for frames of a
program with settings that can be used, and let their number and that of the cycles be such that
they can be run. The run fails with the status 1 just if there are frames at all and the machine,
started afresh with the program in place, halts in one of their cycles; then it says so, shows the
registers of the halted machine and leaves no picture. Otherwise, and if a picture that is asked for
can be saved, it comes to its end, and what it shows and saves is the machine after all the
frames. -/
theorem headless_run_ends (asks : job.Asks files o) (limits : job.WithinLimits o)
    (moderate : times.AreModerate) (start : logger.start.IsModerate) :
    let r := job.runAt logger files o.space times
    let l := logger.withThreshold o.config.logLevel
    (r.ending = .failed 1 ↔
      0 < o.frames ∧ ∃ k < o.frames.toNat * o.cycles.toNat, o.start.FaultsAt o.cycles.toNat k) ∧
    (r.ending = .failed 1 → ∃ k, o.FailsAt l times r k) ∧
    (r.ending ≠ .failed 1 → job.Savable files o → job.Finishes o l times r) := by
  intro r l
  rcases o.start.frames_cases rfl o.cycles o.frames.toNat with
    ⟨runs, none⟩ | ⟨k, asked, e, faults, final, halts, fault⟩
  · have finished : r.ending ≠ .failed 1 :=
      not_failed_of_running asks limits moderate rfl start runs
    refine ⟨⟨fun failed => absurd failed finished, ?_⟩, fun failed => absurd failed finished, ?_⟩
    · rintro ⟨-, k, asked, faults⟩
      exact absurd faults (none k asked)
    · intro _ savable
      exact finishes_of_running asks limits savable moderate rfl start runs
  · have fails : o.FailsAt l times r k :=
      failsAt_of_halting asks limits moderate rfl start asked faults final halts fault
    have positive : 0 < o.frames := by
      have := Nat.pos_of_mul_pos_right (Nat.zero_lt_of_lt asked)
      omega
    refine ⟨⟨fun _ => ⟨positive, k, asked, faults⟩, fun _ => fails.ending⟩, fun _ => ⟨k, fails⟩, ?_⟩
    intro other
    exact absurd fails.ending other

/-- With one cycle to a frame, a machine that returns from nowhere in the second of three frames;
the third one still ticks. One frame alone comes to its end. -/
theorem headless_run_ends_underflow :
    let job (frames : Int) : Job :=
      { program := .ok "rom.ch8", frames := .ok (.whole frames), screenshot := "screen.png"
        settings := [.cyclesPerFrame (.ofInt 1)] }
    let files : Files := ⟨fun _ => .ok [0x60, 0x05, 0x00, 0xEE], fun _ => .ok ()⟩
    let logger : Logger := ⟨"chipax", "INFO", false, false, true, .real 0⟩
    let times : Times := ⟨.real 0, .real 0.5, .real 1.25, .real 1.5, .real 2⟩
    let o (frames : Int) : Order :=
      { config := { cyclesPerFrame := .ofInt 1 }, space := .least
        path := "rom.ch8", program := [0x60, 0x05, 0x00, 0xEE]
        cycles := 1, frames := frames, scale := 8, scheme := .classic }
    let r (frames : Int) := (job frames).runAt logger files .least times
    ((∀ n, (job n).Asks files (o n) ∧ (job n).Savable files (o n)) ∧
      (job 3).WithinLimits (o 3) ∧ (job 1).WithinLimits (o 1) ∧ times.AreModerate ∧
      logger.start.IsModerate) ∧
    ((o 3).start.FaultsAt 1 1 ∧ (r 3).ending = .failed 1 ∧
      ∃ k, (o 3).FailsAt (logger.withThreshold "INFO") times (r 3) k) ∧
    (r 1).ending = .finished ∧ (r 1).picture = some (o 1).picture := by
  intro job files logger times o r
  have asks (n : Int) : (job n).Asks files (o n) := by
    have fits : 4 ≤ programCapacity := by decide
    exact ⟨rfl, rfl, rfl, ⟨_, rfl⟩, rfl, rfl, fun _ => fits, rfl, rfl, rfl⟩
  have savable (n : Int) : (job n).Savable files (o n) := by
    have fits : Picture.Fits Space.least.bytes screenWidth screenHeight 8 := by
      rw [Picture.Fits]
      decide
    have narrow : screenWidth * Picture.factor 8 ≤ Picture.rowLimit := by decide
    have known : Picture.extension "screen.png" ∈ Picture.extensions := by decide +kernel
    exact ⟨fun _ => fits, fun _ => narrow, fun _ => known, fun _ => rfl⟩
  have limits : (job 3).WithinLimits (o 3) :=
    ⟨fun _ => by decide, fun _ => by decide, fun few => absurd few (by decide)⟩
  have limits' : (job 1).WithinLimits (o 1) :=
    ⟨fun _ => by decide, fun _ => by decide, fun few => absurd few (by decide)⟩
  have moderate : times.AreModerate := ⟨trivial, trivial, trivial, trivial, trivial⟩
  have faults : (o 3).start.FaultsAt 1 1 := by
    rw [State.FaultsAt]
    decide +kernel
  have healthy : ((o 1).start.paced 1 0).step.halted = false := by decide +kernel
  obtain ⟨failing, fails, -⟩ :=
    @headless_run_ends (job 3) logger files times (o 3) (asks 3) limits moderate trivial
  obtain ⟨failing', -, finishes⟩ :=
    @headless_run_ends (job 1) logger files times (o 1) (asks 1) limits' moderate trivial
  have failed := failing.mpr ⟨by decide, 1, by decide, faults⟩
  have finished : (r 1).ending ≠ .failed 1 := by
    intro failed
    obtain ⟨-, k, hk, -, halts⟩ := failing'.mp failed
    obtain rfl : k = 0 := Nat.lt_one_iff.mp hk
    exact absurd (healthy.symm.trans halts) Bool.false_ne_true
  have end' := finishes finished (savable 1)
  exact ⟨⟨fun n => ⟨asks n, savable n⟩, limits, limits', moderate, trivial⟩,
    ⟨faults, failed, fails failed⟩, end'.ending, end'.picture⟩

/-- Loops are counted in 32 bits, the progress bar compares with the number of the last frame,
frames are turned into seconds with floating-point numbers, and not every picture can be saved. -/
theorem headless_run_refused_at_limits :
    let job (cycles frames : Int) (progress : Bool) (scale : Int) (file : String) : Job :=
      { program := .ok "rom.ch8", frames := .ok (.whole frames), progress := progress
        screenshot := file, scale := .ok scale, settings := [.cyclesPerFrame (.ofInt cycles)] }
    let files : Files := ⟨fun _ => .ok [0x00, 0xEE], fun _ => .ok ()⟩
    let locked : Files := { files with writable := fun path => .error (.isADirectory path) }
    let logger : Logger := ⟨"chipax", "INFO", false, false, true, .real 0⟩
    let ending (files : Files) (job : Job) :=
      (job.runAt logger files .least (.still (.real 0))).ending
    let start := (State.fresh (Random.Key.ofSeed 0) true).loadBytes [0x00, 0xEE]
    (start.FaultsAt 0x80000000 0 ∧
      ending files (job 0x80000000 1 false 8 "") = .stopped (.notAnOperand 0x80000000)) ∧
    ending files (job 10 0x80000000 false 8 "") = .stopped (.notAnOperand 0x80000000) ∧
    ending files (job 10 (-0x80000000) true 8 "") = .stopped (.notAnOperand (-0x80000001)) ∧
    ending files (job 10 (-10 ^ 400) false 8 "") = .stopped .quotientTooLarge ∧
    ending files (job 10 0 false 0x10000 "screen.png") =
      .stopped (.memoryExhausted [0x200000, 0x400000, 3]) ∧
    ending files (job 10 0 false 8 "screen.xyz") = .stopped (.extensionUnknown ".xyz") ∧
    ending locked (job 10 0 false 8 "screen.png") = .stopped (.isADirectory "screen.png") := by
  intro job files locked logger ending start
  rw [State.FaultsAt]
  decide +kernel

end Job

end Chip8
