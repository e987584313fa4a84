import Chip8.Proofs.Chronicle

/-!
# The program that a host remembers

A host remembers the last program that it loaded, as far as it fits into memory, apart from the
memory that the program may overwrite. A load that is refused, whatever the reason, changes nothing
at all; one that is accepted starts the machine afresh, and so does a reload, which the length of
the program cannot prevent. All that may fail then is the message about it, for want of a time to
put in front of it (`Host.Told`).
-/

namespace Chip8

/-! ## Blocks of memory -/

theorem Memory.block_store (m : Memory) (a : Nat) {bs : List UInt8} (short : bs.length ≤ 4096) :
    (m.store a bs).block a bs.length = bs := by
  apply List.ext_getElem
  · rw [length_block]
  · intro k _ hk
    simp only [block, List.getElem_map, List.getElem_range]
    exact read_store m a bs k hk short

namespace State

def starting (key : Random.Key) (modern : Bool) (program : List UInt8) : State :=
  { fresh key modern with memory := (fresh key modern).memory.store programStart program }

theorem loadBytes_eq_starting (s : State) {program : List UInt8}
    (fits : program.length ≤ programCapacity) :
    s.loadBytes program = starting s.key s.modern program := by
  rw [loadBytes, List.take_of_length_le fits]
  rfl

theorem loadBytes_take (s : State) (bytes : List UInt8) :
    s.loadBytes (bytes.take programCapacity) = s.loadBytes bytes := by
  rw [loadBytes, List.take_take, Nat.min_self]
  rfl

/-! ## The mode -/

theorem modern_of_executes {s t : State} {i? : Option Instruction} (h : s.Executes i? t) :
    t.modern = s.modern := by
  cases h with
  | nothing => rfl
  | instruction i opcode => exact (spared_perform _ i).modern

theorem modern_undergo (s : State) (x : Happening) : (s.undergo x).modern = s.modern := by
  cases x with
  | load _ | tick | keys _ => rfl
  | cycle => exact modern_of_executes s.executes_step
  | word w => exact modern_of_executes (s.executes_word w)

end State

/-! ## Messages -/

theorem Seconds.eq_of_toFloat_error {t : Seconds} {e : Error} (h : t.toFloat = .error e) :
    e = .numberTooLarge := by
  cases t with
  | real x => cases h
  | whole n =>
      rw [toFloat] at h
      split at h
      · cases h
      · exact (Except.error.inj h).symm

theorem Seconds.eq_of_since_error {t u : Seconds} {e : Error} (h : t.since u = .error e) :
    e = .numberTooLarge := by
  unfold since at h
  split at h
  · cases h
  · rcases error_of_bind_error h with h | ⟨_, -, h⟩
    · exact eq_of_toFloat_error h
    · rcases error_of_bind_error h with h | ⟨_, -, h⟩
      · exact eq_of_toFloat_error h
      · cases h

theorem Logger.eq_of_stamp_error {l : Logger} {now : Seconds} {e : Error}
    (h : l.stamp now = .error e) : e = .numberTooLarge := by
  rw [stamp] at h
  split at h
  · rcases error_of_bind_error h with h | ⟨_, -, h⟩
    · exact Seconds.eq_of_since_error h
    · rcases error_of_bind_error h with h | ⟨_, -, h⟩
      · exact Seconds.eq_of_toFloat_error h
      · cases h
  · cases h

namespace Host

variable {h g : Host} {now : Seconds} {c : Command} {e : Error} {program : List UInt8}

/-- Did it work, unless the time is too large a number to be put in front of the message? -/
def Told (h : Host) (now : Seconds) (result : Except Error Reply) : Prop :=
  result = .ok .done ∨ ¬ h.logger.CanStamp now ∧ result = .error .numberTooLarge

theorem told_done (h : Host) (now : Seconds) (ms : List Message) :
    h.Told now (h.told now ms).done.result := by
  cases clock : h.logger.stamp now with
  | ok stamp => exact .inl (Outcome.result_done_ok.mpr (result_told ⟨stamp, clock⟩ ms))
  | error e =>
      have late : ¬ h.logger.CanStamp now := by
        rintro ⟨stamp, hstamp⟩
        rw [clock] at hstamp
        cases hstamp
      obtain rfl := Logger.eq_of_stamp_error clock
      rw [told, Logger.print_of_no_stamp clock]
      by_cases silent : (ms.filter fun m => h.logger.admits m.level) = []
      · rw [if_pos silent]
        exact .inl rfl
      · rw [if_neg silent]
        exact .inr ⟨late, rfl⟩

/-! ## Loading -/

def given (data : List Int) : Except Error (List UInt8) :=
  (image? data).elim (.error .notAByte) .ok

theorem given_imageOf (bytes : List UInt8) : given (imageOf bytes) = .ok bytes := by
  rw [given, image?_imageOf]
  rfl

def accepted (h : Host) : Except Error (List UInt8) → Except Error (List UInt8)
  | .error e => .error e
  | .ok bytes =>
      if h.config.strictLoad && programCapacity < bytes.length then
        .error (.programTooLarge bytes.length programCapacity)
      else .ok (bytes.take programCapacity)

/-- The program that a command loads, or why it does not. A command that gives nothing to load does
neither. -/
def loading? (h : Host) : Command → Option (Except Error (List UInt8))
  | .load data _ => some (h.accepted (given data))
  | .loadFile _ contents => some (h.accepted contents)
  | _ => none

theorem length_le_of_accepted {image : Except Error (List UInt8)}
    (taken : h.accepted image = .ok program) : program.length ≤ programCapacity := by
  cases image with
  | error e => cases taken
  | ok bytes =>
      rw [accepted] at taken
      split at taken
      · cases taken
      · obtain rfl := Except.ok.inj taken
        exact List.length_take_le _ _

theorem state_load_eq (h : Host) (data : List Int) : h.state.load data h.config.strictLoad =
    (h.accepted (given data)).map h.state.loadBytes := by
  rw [State.load, given]
  cases image? data with
  | none => rfl
  | some bytes =>
      change (if _ then _ else _) = (h.accepted (.ok bytes)).map _
      rw [accepted]
      split
      · rfl
      · exact congrArg Except.ok (h.state.loadBytes_take bytes).symm

theorem eq_take_of_accepted {data : List Int} (taken : h.accepted (given data) = .ok program) :
    ((image? data).getD []).take programCapacity = program := by
  rw [given] at taken
  cases himage : image? data with
  | none =>
      rw [himage] at taken
      cases taken
  | some bytes =>
      rw [himage] at taken
      change h.accepted (.ok bytes) = .ok program at taken
      rw [accepted] at taken
      split at taken
      · cases taken
      · exact Except.ok.inj taken

theorem length_le_of_loading (hc : h.loading? c = some (.ok program)) :
    program.length ≤ programCapacity := by
  cases c with
  | load _ _ | loadFile _ _ => exact length_le_of_accepted (Option.some.inj hc)
  | _ => cases hc

theorem load_of_refused {data : List Int} (refused : h.accepted (given data) = .error e)
    (now : Seconds) (source : String) : h.load now data source = h.observed (.error e) := by
  rw [load, state_load_eq, refused]
  rfl

theorem load_of_accepted {data : List Int} (taken : h.accepted (given data) = .ok program)
    (now : Seconds) (source : String) : h.load now data source =
      { h with state := h.state.loadBytes program, program := program }.told now
        [Report.loaded source (.whole data.length) (.whole programCapacity)] := by
  rw [load, state_load_eq, taken, eq_take_of_accepted taken]
  rfl

/-- An image that fits, or that need not, is put in place. -/
theorem load_of_fits {bytes : List UInt8}
    (fits : h.config.strictLoad = true → bytes.length ≤ programCapacity) (now : Seconds)
    (source : String) : h.load now (imageOf bytes) source =
      { h with
        state := h.state.loadBytes bytes
        program := bytes.take programCapacity }.told now
          [Report.loaded source (.whole bytes.length) (.whole programCapacity)] := by
  have short : ¬ (h.config.strictLoad && decide (programCapacity < bytes.length)) = true := by
    rw [Bool.and_eq_true, decide_eq_true_iff]
    rintro ⟨strict, long⟩
    exact absurd (fits strict) (Nat.not_le.mpr long)
  have taken : h.accepted (given (imageOf bytes)) = .ok (bytes.take programCapacity) := by
    rw [given_imageOf, accepted, if_neg short]
  rw [load_of_accepted taken, State.loadBytes_take, imageOf, List.length_map]

/-- Any other image is refused. -/
theorem load_of_long {bytes : List UInt8} (strict : h.config.strictLoad = true)
    (long : programCapacity < bytes.length) (now : Seconds) (source : String) :
    h.load now (imageOf bytes) source =
      h.observed (.error (.programTooLarge bytes.length programCapacity)) := by
  refine load_of_refused ?_ now source
  rw [given_imageOf, accepted, if_pos]
  rw [strict, Bool.true_and, decide_eq_true_iff]
  exact long

theorem perform_of_refused (hc : g.loading? c = some (.error e)) (now : Seconds) :
    (g.perform now c).host = g ∧ (g.perform now c).result = .error e := by
  cases c with
  | load data source =>
      rw [perform, load_of_refused (Option.some.inj hc)]
      exact ⟨rfl, rfl⟩
  | loadFile path contents =>
      cases contents with
      | error e' =>
          obtain rfl := Except.error.inj (Option.some.inj hc)
          exact ⟨rfl, rfl⟩
      | ok bytes =>
          have refused : g.accepted (given (imageOf bytes)) = .error e := by
            rw [given_imageOf]
            exact Option.some.inj hc
          rw [perform, loadFile, Outcome.observed_andThen, load_of_refused refused]
          exact ⟨rfl, rfl⟩
  | _ => cases hc

theorem perform_of_accepted (hc : g.loading? c = some (.ok program)) (now : Seconds) :
    (g.perform now c).host = { g with state := g.state.loadBytes program, program := program } ∧
      g.Told now (g.perform now c).result := by
  have loaded {data : List Int} (source : String)
      (taken : g.accepted (given data) = .ok program) :
      (g.load now data source).done.host =
        { g with state := g.state.loadBytes program, program := program } ∧
        g.Told now (g.load now data source).done.result := by
    rw [load_of_accepted taken]
    exact ⟨host_told _ now _, told_done _ now _⟩
  cases c with
  | load data source => exact loaded source (Option.some.inj hc)
  | loadFile path contents =>
      cases contents with
      | error e => cases hc
      | ok bytes =>
          have taken : g.accepted (given (imageOf bytes)) = .ok program := by
            rw [given_imageOf]
            exact Option.some.inj hc
          exact loaded path taken
  | _ => cases hc

theorem perform_reload_eq (g : Host) (now : Seconds) :
    (g.perform now .reload).host = { g with state := g.state.loadBytes g.program } ∧
      g.Told now (g.perform now .reload).result :=
  ⟨host_told _ now _, told_done _ now _⟩

theorem program_of_not_loading (hc : g.loading? c = none) (now : Seconds) :
    (g.perform now c).host.program = g.program := by
  have driven (run : State → Except Error (State × List Progress.Event))
      (tallies : List (Except Error Tally)) :
      (g.drive now run tallies).host.program = g.program := by
    obtain ⟨meter, hhost⟩ := g.exists_meter_drive now run tallies
    rw [hhost]
  cases c with
  | load _ _ | loadFile _ _ => cases hc
  | reload => rw [(g.perform_reload_eq now).1]
  | step | runFrame | runFrames _ _ => exact driven _ _
  | setKeys states =>
      rw [perform, Outcome.host_done]
      cases g.state.setKeys states <;> rfl
  | configure setting =>
      rw [perform, configure]
      split <;> rfl
  | logRegisters =>
      rw [perform, Outcome.host_done, host_logRegisters]
  | _ => rfl

/-! ## Histories -/

/-- The programs that are loaded in a history, as far as they fit. -/
def loads (h : Host) : List (Seconds × Command) → List (List UInt8)
  | [] => []
  | (now, c) :: es =>
      match h.loading? c with
      | some (.ok program) => program :: (h.perform now c).host.loads es
      | _ => (h.perform now c).host.loads es

/-- A command leaves the program that it loads, or that which was remembered before. -/
theorem program_perform (g : Host) (now : Seconds) (c : Command) :
    (g.perform now c).host.program =
      match g.loading? c with
      | some (.ok program) => program
      | _ => g.program := by
  cases hc : g.loading? c with
  | none => exact program_of_not_loading hc now
  | some r =>
      cases r with
      | error e => rw [(perform_of_refused hc now).1]
      | ok program => rw [(perform_of_accepted hc now).1]

theorem after_cons (h : Host) (now : Seconds) (c : Command) (es : List (Seconds × Command)) :
    h.after ((now, c) :: es) = (h.perform now c).host.after es := rfl

/-- **The program that is remembered is the last one that was loaded.** -/
theorem program_after (h : Host) (es : List (Seconds × Command)) :
    (h.after es).program = (h.loads es).getLastD h.program := by
  induction es generalizing h with
  | nil => rfl
  | cons entry es ih =>
      obtain ⟨now, c⟩ := entry
      rw [after_cons, ih, loads, program_perform]
      rcases h.loading? c with _ | _ | program
      · rfl
      · rfl
      · exact (List.getLastD_cons ..).symm

theorem length_program_after (fits : h.program.length ≤ programCapacity)
    (es : List (Seconds × Command)) : (h.after es).program.length ≤ programCapacity := by
  induction es generalizing h with
  | nil => exact fits
  | cons entry es ih =>
      obtain ⟨now, c⟩ := entry
      rw [after_cons]
      apply ih
      rw [program_perform]
      rcases hc : h.loading? c with _ | _ | program
      · exact fits
      · exact fits
      · exact length_le_of_loading hc

/-- No command changes the mode of the machine, not even one that changes the setting. -/
theorem modern_after (h : Host) (es : List (Seconds × Command)) :
    (h.after es).state.modern = h.state.modern := by
  have next (past : List Moment) (s : State) (x : Happening)
      (same : s.modern = h.state.modern) : (s.undergo x).modern = h.state.modern :=
    (s.modern_undergo x).trans same
  rw [state_after]
  exact @Chronicle.events (fun _ t => t.modern = h.state.modern) next [] h.state rfl _
    fun _ => creates_of_mem_allEvents

/-! ## What a host answers -/

/-- How a host answers that remembers a program, whatever became of that in memory. -/
structure Remembers (g : Host) (modern : Bool) (program : List UInt8) : Prop where
  /-- The dump shows the memory that the program was loaded into as it is now. -/
  dump : ∀ now, g.perform now .programDump =
    g.observed (.ok (.bytes (g.state.memory.block programStart program.length)))
  /-- The program is put back, however long it is. -/
  reload : ∀ now, g.Told now (g.perform now .reload).result ∧
    (g.perform now .reload).host = { g with state := State.starting g.state.key modern program }
  dump_reloaded : ∀ now later, ((g.perform now .reload).host.perform later .programDump).result =
    .ok (.bytes program)
  load : ∀ now c program', g.loading? c = some (.ok program') →
    g.Told now (g.perform now c).result ∧ (g.perform now c).host =
      { g with state := State.starting g.state.key modern program', program := program' }
  refused : ∀ now c e, g.loading? c = some (.error e) →
    (g.perform now c).result = .error e ∧ (g.perform now c).host = g

theorem programDump_eq (h : Host) (fits : h.program.length ≤ programCapacity) :
    h.programDump = .ok (h.state.memory.block programStart h.program.length) := by
  have short : h.program.length ≤ 3584 := fits
  rw [programDump, memoryWindow, if_neg]
  · rfl
  · simp only [Bool.or_eq_true, decide_eq_true_iff, programStart, memorySize]
    omega

theorem remembers (fits : g.program.length ≤ programCapacity) :
    g.Remembers g.state.modern g.program where
  dump now := by
    rw [perform, programDump_eq g fits]
    rfl
  reload now := by
    rw [← State.loadBytes_eq_starting _ fits]
    exact (g.perform_reload_eq now).symm
  dump_reloaded now later := by
    have short : g.program.length ≤ 4096 := Nat.le_trans fits (by decide)
    rw [(g.perform_reload_eq now).1, State.loadBytes_eq_starting _ fits]
    have dump :=
      programDump_eq { g with state := .starting g.state.key g.state.modern g.program } fits
    rw [State.starting, Memory.block_store _ _ short] at dump
    exact congrArg (Except.map Reply.bytes) dump
  load now c program' hc := by
    rw [← State.loadBytes_eq_starting _ (length_le_of_loading hc)]
    exact (perform_of_accepted hc now).symm
  refused now c e hc := (perform_of_refused hc now).symm

/-- **A host remembers the last program that it loaded.** Let a host be created and asked for
anything, one thing after another. It then remembers the last program that it loaded, as far as that
fits, or the empty one: the dump shows as much memory as that program takes up, and never fails; a
reload puts it back, with the mode that the machine was created with and the key that it has now;
and a load that is refused changes nothing at all. -/
theorem last_program_remembered {config : Config} {logger : Logger} {space : Space}
    {start : Seconds} {h : Host}
    (created : Host.create config logger space start = .ok h) (es : List (Seconds × Command)) :
    (h.after es).Remembers config.modern ((h.loads es).getLastD []) := by
  obtain ⟨state, hstate, hcreated⟩ := eq_of_create created
  have empty : h.program = [] := by rw [hcreated]
  have first : h.state.modern = config.modern := by
    rw [hcreated, State.eq_fresh_of_create hstate]
    rfl
  have fits : (h.after es).program.length ≤ programCapacity := by
    apply length_program_after
    rw [empty]
    exact Nat.zero_le _
  rw [← first, ← modern_after h es, ← empty, ← program_after]
  exact remembers fits

/-- A program that overwrites its own first byte, an image that is refused, and another mode that is
set but has no effect. -/
theorem last_program_remembered_overwritten :
    let config : Config := { strictLoad := true, reportInterval := .ok 0 }
    let logger : Logger := ⟨"chipax", "INFO", false, false, false, 0⟩
    let h : Host :=
      { config := config, logger := logger, space := .least, meter := RateMeter.start (.ok 0) 0
        state := State.fresh (Random.Key.ofSeed 0) true, program := [] }
    let es : List (Seconds × Command) :=
      [(1, .load [0xA2, 0x00, 0xF0, 0x55] "program"), (2, .step), (3, .step),
        (4, .load [0x100] "image"), (5, .configure (.modern false))]
    let g := h.after es
    Host.create config logger .least 0 = .ok h ∧
    (g.perform 6 .programDump).result = .ok (.bytes [0x00, 0x00, 0xF0, 0x55]) ∧
      ((g.perform 6 .reload).host.perform 7 .programDump).result =
        .ok (.bytes [0xA2, 0x00, 0xF0, 0x55]) := by
  intro config logger h es g
  have created : Host.create config logger .least 0 = .ok h := rfl
  have loads : h.loads es = [[0xA2, 0x00, 0xF0, 0x55]] := by decide +kernel
  have overwritten : g.state.memory.block programStart 4 = [0x00, 0x00, 0xF0, 0x55] := by
    decide +kernel
  have remembers := last_program_remembered created es
  rw [loads] at remembers
  refine ⟨created, ?_, remembers.dump_reloaded 6 7⟩
  rw [remembers.dump]
  exact congrArg (fun bytes => Except.ok (Reply.bytes bytes)) overwritten

end Host

end Chip8
