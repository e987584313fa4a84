import Chip8.Proofs.HeadlessRun
import Chip8.Proofs.Refusals

/-!
# Machine errors in a headless run

There are two places in a headless run where a machine error can arise, and they are not treated
alike. If it arises while the frames are run, then the run says why the machine halted, shows its
registers, and ends with a failure status (`Job.Stage.Reported`). A program that is refused because
it does not fit stops the run instead, and nothing at all is printed (`Job.Stage.Overloaded`). There
is no third place: settings, files and pictures are refused with ordinary errors only, so a run in
which no machine error arises ends in neither way (`Ending.IsOrdinary`).
-/

namespace Chip8

/-! ## Lines -/

/-- Each message that is let through is printed, behind the stamp of its time. -/
theorem Logger.Prints.exists_stamp {l : Logger} {parts : List (Seconds × List Message)}
    {lines : List Line} (prints : l.Prints parts lines) {now : Seconds} {ms : List Message}
    (part : (now, ms) ∈ parts) {m : Message} (hm : m ∈ ms) (admitted : l.admits m.level = true) :
    ∃ stamp, l.stamp now = .ok stamp ∧ l.format stamp m ∈ lines := by
  induction parts generalizing lines with
  | nil => cases part
  | cons first parts ih =>
      obtain ⟨printed, later, hprinted, hlater, rfl⟩ := prints
      rcases List.mem_cons.mp part with rfl | part
      · have kept : m ∈ ms.filter fun m => l.admits m.level := List.mem_filter.mpr ⟨hm, admitted⟩
        cases hstamp : l.stamp now with
        | error e =>
            rw [Logger.print_of_no_stamp hstamp, if_neg (List.ne_nil_of_mem kept)] at hprinted
            cases hprinted
        | ok stamp =>
            rw [Logger.print_of_stamp hstamp] at hprinted
            obtain rfl := Except.ok.inj hprinted
            exact ⟨stamp, rfl, List.mem_append_left _ (List.mem_map_of_mem kept)⟩
      · obtain ⟨stamp, hstamp, said⟩ := ih hlater part
        exact ⟨stamp, hstamp, List.mem_append_right _ said⟩

/-! ## Hosts -/

namespace Host

variable {h : Host} {now : Seconds} {n : Count} {progress : Bool} {e : Error}

theorem ordinary_create (config : Config) (logger : Logger) (space : Space) (now : Seconds) :
    Ordinary (Host.create config logger space now) := by
  refine Avoids.map ?_ _
  rw [State.create]
  split
  · exact avoids_ok _
  · exact avoids_error rfl

/-- If frames raise a machine error that is not among the settings, then the machine has halted in
them, and the host says so. -/
theorem exists_of_runFrames_raised (config : h.config.IsOrdinary)
    (interval : Ordinary h.meter.interval) (healthy : h.state.error? = none)
    (clock : h.logger.CanStamp now)
    (raised : (h.runFrames now n progress).result = .error e) (machine : e.isMachineError = true) :
    ∃ t bar lines, t.error? = some e ∧
      h.logger.print now [Report.halted e.message] = .ok lines ∧
      h.runFrames now n progress = ⟨{ h with state := t }, lines, bar, .error e⟩ := by
  obtain ⟨lines, printed⟩ := clock.exists_print [Report.halted e.message]
  rw [runFrames] at raised ⊢
  obtain ⟨t, bar, hrun, halts⟩ := exists_of_drive_raised (fun _ machine => machine)
    (by
      intro s
      refine Avoids.bind config.run fun _ => ?_
      split
      · exact ordinary_framesWatched s _ _ n
      · exact (s.ordinary_framesGiven _ _ _).bind fun _ => avoids_ok _)
    (by simpa using ⟨config.counted.map _, avoids_ok _⟩) interval healthy raised machine
  exact ⟨t, bar, lines, halts, printed, drive_eq_of_halting_run healthy hrun halts printed⟩

end Host

/-! ## Endings without a machine error -/

def Ending.IsOrdinary : Ending → Prop
  | finished => True
  | failed _ => False
  | stopped e => e.isMachineError = false

namespace Job

variable {job : Job} {logger : Logger} {files : Files} {space : Space} {times : Times}
  {settings : Value}

theorem Result.isOrdinary_ofOutcome {o : Outcome (Option Picture)} (ho : Ordinary o.result) :
    (ofOutcome o).ending.IsOrdinary := by
  rw [ofOutcome]
  cases result : o.result with
  | ok _ => trivial
  | error e => exact ho e result

theorem ordinary_save (hjob : job.IsOrdinary) (access : files.IsOrdinary) (h : Host)
    (now : Seconds) : Ordinary (job.save files h now).result := by
  rw [save]
  split
  · exact avoids_ok _
  · refine Outcome.avoids_andThen ?_ fun picture => ?_
    · exact Avoids.bind hjob.scheme fun _ => Picture.ordinary_forFile access _ _ _ hjob.scale _
    · exact Outcome.avoids_andThen (Host.ordinary_told _ _ _) fun _ => avoids_ok _

theorem ordinary_conclude (hjob : job.IsOrdinary) (access : files.IsOrdinary) (h : Host)
    (times : Times) (n : Count) : Ordinary (job.conclude files h times n).result := by
  have summary : Ordinary (summary h n) := (Seconds.ordinary_per _ _).map _
  refine Outcome.avoids_andThen summary fun _ => ?_
  refine Outcome.avoids_andThen (Host.ordinary_told _ _ _) fun _ => ?_
  exact Outcome.avoids_andThen (Host.ordinary_logRegisters _ _) fun _ =>
    ordinary_save hjob access _ _

/-! ## Where machine errors arise -/

def runDescribed (settings : Value) (logger : Logger) (files : Files) (space : Space)
    (times : Times) : Result :=
  match ofValue settings with
  | .ok job => job.runAt logger files space times
  | .error e => .stopped e

/-- What a run has come to when its program is about to be loaded. -/
structure Stage where
  job : Job
  /-- The host with nothing loaded. -/
  host : Host
  /-- Where the program comes from. -/
  path : String
  program : List UInt8

namespace Stage

variable {s : Stage} {n : Count} {e : Error}

structure Reached (s : Stage) (settings : Value) (logger : Logger) (files : Files)
    (space : Space) (times : Times) : Prop where
  described : ofValue settings = .ok s.job
  config : Config.ofSettings s.job.settings = .ok s.host.config
  created : Host.create s.host.config (logger.withThreshold s.host.config.logLevel) space
    times.created = .ok s.host
  path : s.job.program = .ok s.path
  program : files.read s.path = .ok s.program

def loaded (s : Stage) : Message :=
  Report.loaded s.path (.whole s.program.length) (.whole programCapacity)

def ready (s : Stage) : Host :=
  { s.host with
    state := s.host.state.loadBytes s.program
    program := s.program.take programCapacity }

def loading (s : Stage) (times : Times) : Outcome Unit :=
  s.host.load times.loaded (imageOf s.program) s.path

def running (s : Stage) (times : Times) (n : Count) : Outcome Unit :=
  (s.loading times).host.runFrames times.ran n s.job.progress

def RaisedByLoad (s : Stage) (times : Times) (e : Error) : Prop :=
  (s.loading times).result = .error e

structure RaisedByFrames (s : Stage) (times : Times) (n : Count) (e : Error) : Prop where
  loaded : (s.loading times).result = .ok ()
  frames : s.job.frames = .ok n
  raised : (s.running times n).result = .error e

/-- Is this the refusal of a program that has to fit into memory and does not? -/
structure Overloaded (s : Stage) (e : Error) : Prop where
  strict : s.host.config.strictLoad = true
  long : programCapacity < s.program.length
  error : e = .programTooLarge s.program.length programCapacity

/-- A run that reports an error of its machine: it says that the program was loaded, why the machine
halted, and what the registers of the halted machine hold. It fails with the status 1 and leaves no
picture. -/
structure Reported (s : Stage) (times : Times) (n : Count) (e : Error) (r : Result) : Prop where
  ending : r.ending = .failed 1
  picture : r.picture = none
  halted : (s.running times n).host.state.error? = some e
  lines : s.host.logger.Prints
    [(times.loaded, [s.loaded]), (times.ran, [Report.halted e.message]),
     (times.shown, (Report.registers (s.running times n).host.registerFile).1)] r.lines
  /-- So there is a line about the error, if errors are let through. -/
  said : s.host.logger.admits Level.error.name = true → ∃ stamp,
    s.host.logger.stamp times.ran = .ok stamp ∧
      s.host.logger.format stamp (Report.halted e.message) ∈ r.lines

/-! ## Loading -/

theorem Overloaded.loading_eq (overloaded : s.Overloaded e) (times : Times) :
    s.loading times = s.host.observed (.error e) := by
  rw [loading, Host.load_of_long overloaded.strict overloaded.long, overloaded.error]

theorem Overloaded.raisedByLoad (overloaded : s.Overloaded e) (times : Times) :
    s.RaisedByLoad times e := by
  rw [RaisedByLoad, overloaded.loading_eq]
  rfl

/-- The program is refused, or it is put in place and this is said. -/
theorem loading_cases (s : Stage) (times : Times) :
    (∃ e, s.Overloaded e) ∨ s.loading times = s.ready.told times.loaded [s.loaded] := by
  by_cases overloaded : s.host.config.strictLoad = true ∧ programCapacity < s.program.length
  · exact .inl ⟨_, overloaded.1, overloaded.2, rfl⟩
  · refine .inr (Host.load_of_fits ?_ _ _)
    intro strict
    exact Nat.not_lt.mp fun long => overloaded ⟨strict, long⟩

/-- A program that does not fit, and has to, is all that loading refuses with a machine error. -/
theorem raisedByLoad_iff (machine : e.isMachineError = true) :
    s.RaisedByLoad times e ↔ s.Overloaded e := by
  constructor
  · intro raised
    rcases s.loading_cases times with ⟨e', overloaded⟩ | told
    · rw [RaisedByLoad, overloaded.loading_eq] at raised
      obtain rfl := Except.error.inj raised
      exact overloaded
    · rw [RaisedByLoad, told] at raised
      rw [Host.ordinary_told _ _ _ e raised] at machine
      cases machine
  · intro overloaded
    exact overloaded.raisedByLoad times

theorem loading_of_ok (loaded : (s.loading times).result = .ok ()) : ∃ lines,
    s.host.logger.print times.loaded [s.loaded] = .ok lines ∧
      s.loading times = s.ready.printing lines := by
  rcases s.loading_cases times with ⟨e, overloaded⟩ | told
  · rw [overloaded.loading_eq] at loaded
    cases loaded
  · rw [told] at loaded ⊢
    cases printed : s.ready.logger.print times.loaded [s.loaded] with
    | ok lines => exact ⟨lines, printed, Host.told_of_print printed⟩
    | error e =>
        rw [Host.told, printed] at loaded
        cases loaded

theorem running_eq (loaded : (s.loading times).result = .ok ()) (n : Count) :
    s.running times n = s.ready.runFrames times.ran n s.job.progress := by
  obtain ⟨lines, -, placed⟩ := loading_of_ok loaded
  rw [running, placed]
  rfl

/-! ## How the run ends -/

theorem runDescribed_eq (reached : s.Reached settings logger files space times) :
    (∀ e, s.RaisedByLoad times e → runDescribed settings logger files space times =
      { Result.stopped e with lines := (s.loading times).lines }) ∧
    ((s.loading times).result = .ok () → runDescribed settings logger files space times =
      { s.job.runOn files (s.loading times).host times with
        lines := (s.loading times).lines ++
          (s.job.runOn files (s.loading times).host times).lines }) := by
  have loading : s.host.loadFile times.loaded s.path (files.read s.path) = s.loading times := by
    rw [Host.loadFile, reached.program, Outcome.observed_andThen, Stage.loading]
  rw [runDescribed, reached.described]
  dsimp only
  rw [runAt, reached.config, reached.path]
  dsimp only [bind, Except.bind]
  rw [reached.created]
  dsimp only
  rw [loading]
  refine ⟨fun e raised => ?_, fun loaded => ?_⟩
  · rw [raised]
  · rw [loaded]

/-- The refusal of a program stops the run, and that is all there is to see of it. -/
theorem Overloaded.runDescribed_eq (overloaded : s.Overloaded e)
    (reached : s.Reached settings logger files space times) :
    runDescribed settings logger files space times = .stopped e := by
  have raised := overloaded.raisedByLoad times
  rw [(Stage.runDescribed_eq reached).1 e raised, overloaded.loading_eq]
  rfl

theorem isOrdinary_job (reached : s.Reached settings logger files space times) : s.job.IsOrdinary :=
  isOrdinary_ofValue reached.described

theorem isOrdinary_config (reached : s.Reached settings logger files space times) :
    s.host.config.IsOrdinary :=
  Config.isOrdinary_ofSettings (isOrdinary_job reached).settings reached.config

/-- If frames raise a machine error, then this is reported. -/
theorem reported_of_raised (reached : s.Reached settings logger files space times)
    (moderate : times.AreModerate) (start : logger.start.IsModerate)
    (machine : e.isMachineError = true) (raised : s.RaisedByFrames times n e) :
    s.Reported times n e (runDescribed settings logger files space times) := by
  have config := isOrdinary_config reached
  obtain ⟨state, -, created⟩ := Host.eq_of_create reached.created
  have interval : Ordinary s.host.meter.interval := by
    rw [created]
    exact config.interval
  have clock {now : Seconds} (hnow : now.IsModerate) : s.host.logger.CanStamp now := by
    rw [created]
    exact Logger.canStamp_of_moderate start hnow
  obtain ⟨loaded, hloaded, placed⟩ := loading_of_ok raised.loaded
  have ran := running_eq raised.loaded n
  have failed := raised.raised
  rw [ran] at failed
  -- the settings bring no machine error with them, so it is the machine that has halted
  obtain ⟨t, bar, said, halts, told, outcome⟩ := Host.exists_of_runFrames_raised (h := s.ready)
    config interval (State.error?_eq_none_iff.mpr rfl) (clock moderate.ran) failed machine
  rw [outcome] at ran
  let g : Host := { s.ready with state := t }
  obtain ⟨registers, shown⟩ :=
    (clock moderate.shown).exists_print (Report.registers g.registerFile).1
  have ended : runDescribed settings logger files space times =
      { lines := loaded ++ (said ++ registers), bar := bar
        picture := none, ending := .failed 1 } := by
    have runs : s.job.runOn files s.ready times =
        { lines := said ++ registers, bar := bar, picture := none, ending := .failed 1 } :=
      runOn_of_raised raised.frames machine outcome shown
    rw [(Stage.runDescribed_eq reached).2 raised.loaded, placed]
    exact congrArg (fun r : Result => { r with lines := loaded ++ r.lines }) runs
  have prints : s.host.logger.Prints
      [(times.loaded, [s.loaded]), (times.ran, [Report.halted e.message]),
       (times.shown, (Report.registers g.registerFile).1)] (loaded ++ (said ++ registers)) :=
    .cons hloaded (.cons told (.last shown))
  rw [ended]
  refine ⟨rfl, rfl, ?halted, ?lines, ?said⟩
  case halted => rwa [ran]
  case lines => rwa [ran]
  case said =>
    intro admitted
    have level : (Report.halted e.message).level = Level.error.name := rfl
    rw [← level] at admitted
    exact prints.exists_stamp (List.mem_cons_of_mem _ List.mem_cons_self) List.mem_cons_self
      admitted

/-- Where no machine error arises, a run does not end with one. -/
theorem isOrdinary_of_not_raised (reached : s.Reached settings logger files space times)
    (access : files.IsOrdinary)
    (load : ∀ e, e.isMachineError = true → ¬ s.RaisedByLoad times e)
    (frames : ∀ n e, e.isMachineError = true → ¬ s.RaisedByFrames times n e) :
    (runDescribed settings logger files space times).ending.IsOrdinary := by
  have job := isOrdinary_job reached
  cases loaded : (s.loading times).result with
  | error e =>
      rw [(Stage.runDescribed_eq reached).1 e loaded]
      exact Bool.eq_false_iff.mpr fun machine => load e machine loaded
  | ok _ =>
      rw [(Stage.runDescribed_eq reached).2 loaded]
      -- the lines about the program make no difference to the ending
      change (s.job.runOn files (s.loading times).host times).ending.IsOrdinary
      rw [runOn]
      cases hframes : s.job.frames with
      | error e => exact job.frames e hframes
      | ok n =>
          dsimp only
          cases ran : ((s.loading times).host.runFrames times.ran n s.job.progress).result with
          | ok _ =>
              refine Result.isOrdinary_ofOutcome (Outcome.avoids_andThen ?_ fun _ => ?_)
              · rw [ran]
                exact avoids_ok _
              · exact ordinary_conclude job access _ _ _
          | error e =>
              have ordinary : e.isMachineError = false :=
                Bool.eq_false_iff.mpr fun machine => frames n e machine ⟨loaded, hframes, ran⟩
              dsimp only
              rw [if_neg (by rw [ordinary]; exact Bool.false_ne_true)]
              exact ordinary

end Stage

/-- A run that does not come to loading its program is stopped by an ordinary error. -/
theorem reached_or_ordinary (access : files.IsOrdinary) (settings : Value) (logger : Logger)
    (space : Space) (times : Times) : (∃ s : Stage, s.Reached settings logger files space times) ∨
      (runDescribed settings logger files space times).ending.IsOrdinary := by
  cases described : ofValue settings with
  | error e =>
      right
      rw [runDescribed, described]
      exact ordinary_ofValue settings e described
  | ok job =>
      have hjob := isOrdinary_ofValue described
      rw [runDescribed, described]
      dsimp only
      rw [runAt]
      cases hconfig : Config.ofSettings job.settings with
      | error e => exact .inr (Config.ordinary_ofSettings hjob.settings e hconfig)
      | ok config =>
          dsimp only [bind, Except.bind]
          cases created : Host.create config (logger.withThreshold config.logLevel) space
              times.created with
          | error e => exact .inr (Host.ordinary_create _ _ _ _ e created)
          | ok h =>
              cases hpath : job.program with
              | error e => exact .inr (hjob.program e hpath)
              | ok path =>
                  dsimp only
                  cases program : files.read path with
                  | error e => exact .inr (access.read path e program)
                  | ok bytes =>
                      left
                      obtain rfl : h.config = config := by
                        obtain ⟨state, -, rfl⟩ := Host.eq_of_create created
                        rfl
                      exact ⟨⟨job, h, path, bytes⟩, described, hconfig, created, hpath, program⟩

/-- A run in which no machine error arises ends without one. -/
theorem raised_or_ordinary (access : files.IsOrdinary) (settings : Value) (logger : Logger)
    (space : Space) (times : Times) :
    (∃ s : Stage, s.Reached settings logger files space times ∧ ∃ e, e.isMachineError = true ∧
      (s.RaisedByLoad times e ∨ ∃ n, s.RaisedByFrames times n e)) ∨
    (runDescribed settings logger files space times).ending.IsOrdinary := by
  rcases reached_or_ordinary access settings logger space times with ⟨s, reached⟩ | ordinary
  · by_cases raised : ∃ e, e.isMachineError = true ∧
        (s.RaisedByLoad times e ∨ ∃ n, s.RaisedByFrames times n e)
    · exact .inl ⟨s, reached, raised⟩
    · right
      refine Stage.isOrdinary_of_not_raised reached access ?load ?frames
      case load =>
        intro e machine load
        exact raised ⟨e, machine, .inl load⟩
      case frames =>
        intro n e machine frames
        exact raised ⟨e, machine, .inr ⟨n, frames⟩⟩
  · exact .inr ordinary

/-- **Every machine error is reported, but for the one that refuses a program.** Whatever settings
and files a run is given: a machine error that its frames raise is reported, and the run fails with
the status 1. A program that has to fit and does not is refused with a machine error as well, but
this one stops the run, and not a line is printed. No run ends in one of these ways without such an
error. -/
theorem machine_errors_reported_unless_loading (access : files.IsOrdinary)
    (moderate : times.AreModerate) (start : logger.start.IsModerate) (settings : Value) :
    let r := runDescribed settings logger files space times
    (∀ s : Stage, s.Reached settings logger files space times →
      ∀ e : Error, e.isMachineError = true →
        (∀ n, s.RaisedByFrames times n e → s.Reported times n e r) ∧
        (s.RaisedByLoad times e ↔ s.Overloaded e) ∧ (s.RaisedByLoad times e → r = .stopped e)) ∧
    (r.ending = .failed 1 → ∃ s : Stage, s.Reached settings logger files space times ∧
      ∃ n e, e.isMachineError = true ∧ s.RaisedByFrames times n e) ∧
    ∀ e : Error, e.isMachineError = true → r.ending = .stopped e →
      ∃ s : Stage, s.Reached settings logger files space times ∧ s.RaisedByLoad times e := by
  intro r
  have reported {s : Stage} (reached : s.Reached settings logger files space times) {e : Error}
      (machine : e.isMachineError = true) {n : Count} (raised : s.RaisedByFrames times n e) :
      s.Reported times n e r := Stage.reported_of_raised reached moderate start machine raised
  have stopped {s : Stage} (reached : s.Reached settings logger files space times) {e : Error}
      (machine : e.isMachineError = true) (raised : s.RaisedByLoad times e) : r = .stopped e :=
    ((Stage.raisedByLoad_iff machine).mp raised).runDescribed_eq reached
  refine ⟨?arises, ?fails, ?stops⟩
  case arises =>
    intro s reached e machine
    exact ⟨fun n => reported reached machine, Stage.raisedByLoad_iff machine,
      stopped reached machine⟩
  case fails =>
    intro failed
    rcases raised_or_ordinary access settings logger space times with
      ⟨s, reached, e, machine, load | ⟨n, frames⟩⟩ | ordinary
    · rw [stopped reached machine load] at failed
      cases failed
    · exact ⟨s, reached, n, e, machine, frames⟩
    · change r.ending.IsOrdinary at ordinary
      rw [failed] at ordinary
      exact ordinary.elim
  case stops =>
    intro e machine escaped
    rcases raised_or_ordinary access settings logger space times with
      ⟨s, reached, e', machine', load | ⟨n, frames⟩⟩ | ordinary
    · rw [stopped reached machine' load] at escaped
      obtain rfl := Ending.stopped.inj escaped
      exact ⟨s, reached, load⟩
    · rw [(reported reached machine' frames).ending] at escaped
      cases escaped
    · change r.ending.IsOrdinary at ordinary
      rw [escaped] at ordinary
      exact absurd (ordinary.symm.trans machine) Bool.false_ne_true

/-! ## Two runs with the same settings -/

def strictSettings : Value :=
  .obj [("rom", .str "rom.ch8"), ("frames", .num "1"), ("progress", .bool false),
    ("screenshot", .null), ("color_scheme", .str "classic"), ("scale", .num "8"),
    ("machine", .obj [("strict_load", .bool true)])]

def strictStage (logger : Logger) (times : Times) (program : List UInt8) : Stage :=
  let config : Config := { strictLoad := true }
  { job := { program := .ok "rom.ch8", frames := .ok 1, progress := false
             scale := (Value.num "8").scale, settings := [.strictLoad true] }
    host := { config := config, logger := logger.withThreshold config.logLevel, space := .least
              meter := RateMeter.start config.reportInterval times.created
              state := State.fresh (Random.Key.ofSeed config.seed) config.modern, program := [] }
    path := "rom.ch8"
    program := program }

theorem reached_strict (logger : Logger) (times : Times) (program : List UInt8) :
    (strictStage logger times program).Reached strictSettings logger
      (Folder.access ⟨[("rom.ch8", program)]⟩) .least times where
  described := by
    set_option maxRecDepth 2000 in
    rfl
  config := rfl
  created := rfl
  path := rfl
  program := by
    have parts : Folder.parts "rom.ch8" = .ok ["rom.ch8"] := by decide +kernel
    change Folder.read _ "rom.ch8" = _
    unfold Folder.read
    rw [parts]
    rfl

/-- A program that returns from nowhere. -/
theorem machine_errors_reported_underflow :
    let logger : Logger := ⟨"chipax", "INFO", false, false, true, .real 0⟩
    let times : Times := ⟨.real 0, .real 0.5, .real 1.25, .real 1.5, .real 2⟩
    let files := Folder.access ⟨[("rom.ch8", [0x00, 0xEE])]⟩
    let s := strictStage logger times [0x00, 0xEE]
    let e := Error.stackUnderflow 0x200
    (files.IsOrdinary ∧ times.AreModerate ∧ logger.start.IsModerate) ∧
    (s.Reached strictSettings logger files .least times ∧ e.isMachineError = true ∧
      s.RaisedByFrames times 1 e) ∧
    s.Reported times 1 e (runDescribed strictSettings logger files .least times) := by
  intro logger times files s e
  have access : files.IsOrdinary := Folder.isOrdinary_access _
  have moderate : times.AreModerate := ⟨trivial, trivial, trivial, trivial, trivial⟩
  have start : logger.start.IsModerate := trivial
  have reached := reached_strict logger times [0x00, 0xEE]
  have loaded : (s.loading times).result = .ok () := by decide +kernel
  have raised : (s.running times 1).result = .error e := by decide +kernel
  have frames : s.RaisedByFrames times 1 e := ⟨loaded, rfl, raised⟩
  obtain ⟨arises, -, -⟩ :=
    machine_errors_reported_unless_loading access moderate start strictSettings
  exact ⟨⟨access, moderate, start⟩, ⟨reached, rfl, frames⟩, (arises s reached e rfl).1 1 frames⟩

/-- A program that is one byte too long. Its refusal is a machine error and stops the run, and no
line says so, although errors are let through. -/
theorem refused_program_not_reported :
    let logger : Logger := ⟨"chipax", "INFO", false, false, true, .real 0⟩
    let files := Folder.access ⟨[("rom.ch8", List.replicate 3585 0)]⟩
    let r := runDescribed strictSettings logger files .least (.still (.real 0))
    let e := Error.programTooLarge 3585 3584
    e.isMachineError = true ∧ logger.admits Level.error.name = true ∧
      r.ending = .stopped e ∧ r.ending ≠ .failed 1 ∧ r.lines = [] := by
  intro logger files r e
  let s := strictStage logger (.still (.real 0)) (List.replicate 3585 0)
  have length : s.program.length = 3585 := List.length_replicate
  have overloaded : s.Overloaded e := by
    refine ⟨rfl, ?_, ?_⟩
    · rw [length]
      decide
    · rw [length]
      rfl
  have stopped : r = .stopped e := overloaded.runDescribed_eq (reached_strict _ _ _)
  have admitted : logger.admits Level.error.name = true := by decide +kernel
  rw [stopped]
  exact ⟨rfl, admitted, rfl, nofun, rfl⟩

end Job

end Chip8
