import Chip8.Proofs.Faultless
import Chip8.Proofs.Reachable

/-!
# A halted machine stays halted

Once a fault is raised, the host refuses every run with that very error and leaves everything as it
is (`Host.Held`). Ticks move the timers and keys the keypad, of which the error says nothing
(`Host.Resting`), so it is the same one for as long as no program is loaded. A load that succeeds
ends this, and so does a reload.
-/

namespace Chip8

inductive Command.Kind where
  | load
  | run
  | tick
  | keys
  | setting
  | view
deriving DecidableEq

def Command.kind : Command → Kind
  | .load _ _ | .loadFile _ _ | .reload => .load
  | .step | .runFrame | .runFrames _ _ => .run
  | .tick => .tick
  | .setKeys _ | .press _ | .release _ => .keys
  | .configure _ => .setting
  | .currentInstruction | .logRegisters | .memoryWindow _ _ | .programDump | .framebuffer
  | .elapsed | .rates | .keys => .view

namespace Host

variable {h g k : Host} {now : Seconds} {c : Command} {e : Error}

/-- What differs between two hosts of one halted machine: timers, keypad and settings. -/
structure Resting (h g : Host) : Prop where
  state : ∃ delay sound keypad,
    g.state = { h.state with delay := delay, sound := sound, keypad := keypad }
  meter : g.meter = h.meter
  logger : g.logger = h.logger
  program : g.program = h.program

/-- How commands end that are given at this time to a host whose machine is halted with `e`. -/
structure Held (g : Host) (e : Error) (now : Seconds) : Prop where
  /-- Runs are refused, and neither machine nor meter changes. -/
  run : ∀ c : Command, c.kind = .run →
    (g.perform now c).result = .error e ∧ (g.perform now c).host = g
  tick : ∀ c : Command, c.kind = .tick → ∃ delay sound,
    (g.perform now c).host = { g with state := { g.state with delay := delay, sound := sound } }
  keys : ∀ c : Command, c.kind = .keys → ∃ keypad,
    (g.perform now c).host = { g with state := { g.state with keypad := keypad } }
  setting : ∀ c : Command, c.kind = .setting → ∃ config,
    (g.perform now c).host = { g with config := config }
  view : ∀ c : Command, c.kind = .view → (g.perform now c).host = g
  failedLoad : ∀ c : Command, c.kind = .load → (g.perform now c).result.isOk = false →
    (g.perform now c).host = g
  /-- A load that succeeds sets the machine going again. -/
  load : ∀ c : Command, c.kind = .load → (g.perform now c).result.isOk = true →
    (g.perform now c).host.state.halted = false
  reload : (g.perform now .reload).result.isOk = true

/-- Does the history load nothing, at times that can be put in front of a line? -/
def Undisturbed : Host → List (Seconds × Command) → Prop
  | _, [] => True
  | h, (now, c) :: es =>
      h.logger.CanStamp now ∧ ¬ (c.kind = .load ∧ (h.perform now c).result.isOk = true) ∧
        (h.perform now c).host.Undisturbed es

/-! ## Loading -/

theorem halted_loadBytes (s : State) (bytes : List UInt8) : (s.loadBytes bytes).halted = false :=
  rfl

/-- A message after which the result is a success. -/
theorem isOk_told (clock : g.logger.CanStamp now) (ms : List Message) :
    (g.told now ms).result.isOk = true := by
  rw [result_told clock]
  rfl

/-- A load fails and changes nothing, or succeeds and ends the halt. -/
theorem load_cases (clock : g.logger.CanStamp now) (data : List Int) (name : String) :
    ((g.load now data name).result.isOk = false ∧ (g.load now data name).host = g) ∨
      (g.load now data name).result.isOk = true ∧
        (g.load now data name).host.state.halted = false := by
  rw [Host.load]
  cases hload : g.state.load data g.config.strictLoad with
  | error e => exact .inl ⟨rfl, rfl⟩
  | ok s =>
      obtain ⟨bytes, -, rfl⟩ := State.eq_loadBytes_of_load hload
      right
      dsimp only
      rw [host_told]
      refine ⟨?_, halted_loadBytes _ _⟩
      apply isOk_told
      exact clock

theorem isOk_done (o : Outcome Unit) : o.done.result.isOk = o.result.isOk := by
  rw [Outcome.done]
  cases o.result <;> rfl

theorem perform_reload (clock : g.logger.CanStamp now) :
    (g.perform now .reload).result.isOk = true ∧
      (g.perform now .reload).host.state.halted = false := by
  rw [perform, isOk_done, Outcome.host_done, Host.reload, host_told]
  refine ⟨?_, halted_loadBytes _ _⟩
  apply isOk_told
  exact clock

theorem perform_load_cases (clock : g.logger.CanStamp now) (hc : c.kind = .load) :
    ((g.perform now c).result.isOk = false ∧ (g.perform now c).host = g) ∨
      (g.perform now c).result.isOk = true ∧
        (g.perform now c).host.state.halted = false := by
  cases c with
  | load data name =>
      rw [perform, isOk_done]
      exact load_cases clock data name
  | loadFile path contents =>
      rw [perform, isOk_done]
      cases contents with
      | error e => exact .inl ⟨rfl, rfl⟩
      | ok bytes =>
          rw [Outcome.host_done, loadFile, Outcome.observed_andThen]
          exact load_cases clock _ path
  | reload => exact .inr (perform_reload clock)
  | _ => cases hc

/-! ## One command -/

theorem perform_run (halted : g.state.error? = some e) (clock : g.logger.CanStamp now)
    (hc : c.kind = .run) : (g.perform now c).result = .error e ∧ (g.perform now c).host = g := by
  have refused : ((g.refuse now e).done).result = .error e ∧ ((g.refuse now e).done).host = g :=
    ⟨Outcome.result_done_error.mpr (result_refuse clock e), host_refuse g now e⟩
  cases c with
  | step => rwa [perform, step, drive_of_halted halted now]
  | runFrame => rwa [perform, runFrame, drive_of_halted halted now]
  | runFrames n progress => rwa [perform, runFrames, drive_of_halted halted now]
  | _ => cases hc

theorem perform_tick (hc : c.kind = .tick) : ∃ delay sound,
    (g.perform now c).host =
      { g with state := { g.state with delay := delay, sound := sound } } := by
  cases c with
  | tick => exact ⟨_, _, rfl⟩
  | _ => cases hc

theorem perform_keys (hc : c.kind = .keys) : ∃ keypad,
    (g.perform now c).host = { g with state := { g.state with keypad := keypad } } := by
  cases c with
  | press n => exact ⟨_, rfl⟩
  | release n => exact ⟨_, rfl⟩
  | setKeys states =>
      rw [perform, Outcome.host_done]
      cases h : g.state.setKeys states with
      | error e => exact ⟨g.state.keypad, rfl⟩
      | ok s =>
          obtain ⟨keypad, rfl⟩ := State.eq_keypad_of_setKeys h
          exact ⟨keypad, rfl⟩
  | _ => cases hc

theorem perform_setting (hc : c.kind = .setting) : ∃ config,
    (g.perform now c).host = { g with config := config } := by
  cases c with
  | configure setting =>
      rw [perform, configure]
      split
      · exact ⟨_, rfl⟩
      · exact ⟨g.config, rfl⟩
  | _ => cases hc

theorem perform_view (hc : c.kind = .view) : (g.perform now c).host = g := by
  cases c with
  | logRegisters => exact host_logRegisters g now
  | currentInstruction | memoryWindow _ _ | programDump | framebuffer | elapsed | rates | keys =>
      rfl
  | _ => cases hc

/-- **A host whose machine is halted holds it so.** -/
theorem held (halted : g.state.error? = some e) (clock : g.logger.CanStamp now) :
    Held g e now where
  run _ := perform_run halted clock
  tick _ := perform_tick
  keys _ := perform_keys
  setting _ := perform_setting
  view _ := perform_view
  failedLoad c hc failed := by
    rcases perform_load_cases clock hc with ⟨-, hhost⟩ | ⟨hok, -⟩
    · exact hhost
    · rw [failed] at hok
      cases hok
  load c hc success := by
    rcases perform_load_cases clock hc with ⟨hfailed, -⟩ | ⟨-, hhalted⟩
    · rw [success] at hfailed
      cases hfailed
    · exact hhalted
  reload := (perform_reload clock).1

/-! ## Histories -/

theorem Resting.refl (h : Host) : Resting h h := ⟨⟨_, _, _, rfl⟩, rfl, rfl, rfl⟩

theorem Resting.trans (hg : Resting h g) (gk : Resting g k) : Resting h k := by
  obtain ⟨delay, sound, keypad, hstate⟩ := hg.state
  obtain ⟨delay', sound', keypad', gstate⟩ := gk.state
  refine ⟨⟨delay', sound', keypad', ?_⟩, gk.meter.trans hg.meter, gk.logger.trans hg.logger,
    gk.program.trans hg.program⟩
  rw [gstate, hstate]

theorem Resting.error? (hg : Resting h g) : g.state.error? = h.state.error? := by
  obtain ⟨delay, sound, keypad, hstate⟩ := hg.state
  rw [hstate]
  rfl

theorem Held.resting (held : Held g e now)
    (quiet : ¬ (c.kind = .load ∧ (g.perform now c).result.isOk = true)) :
    Resting g (g.perform now c).host := by
  cases hc : c.kind with
  | run => rw [(held.run c hc).2]; exact Resting.refl g
  | view => rw [held.view c hc]; exact Resting.refl g
  | tick =>
      obtain ⟨delay, sound, hhost⟩ := held.tick c hc
      rw [hhost]
      exact ⟨⟨delay, sound, _, rfl⟩, rfl, rfl, rfl⟩
  | keys =>
      obtain ⟨keypad, hhost⟩ := held.keys c hc
      rw [hhost]
      exact ⟨⟨_, _, keypad, rfl⟩, rfl, rfl, rfl⟩
  | setting =>
      obtain ⟨config, hhost⟩ := held.setting c hc
      rw [hhost]
      exact ⟨⟨_, _, _, rfl⟩, rfl, rfl, rfl⟩
  | load =>
      have failed : (g.perform now c).result.isOk = false := by
        rw [← Bool.not_eq_true]
        exact fun success => quiet ⟨hc, success⟩
      rw [held.failedLoad c hc failed]
      exact Resting.refl g

/-- A halted machine rests through every history that loads nothing. -/
theorem resting_after (halted : h.state.error? = some e) {es : List (Seconds × Command)}
    (quiet : h.Undisturbed es) : Resting h (h.after es) := by
  induction es generalizing h with
  | nil => exact Resting.refl h
  | cons event es ih =>
      obtain ⟨now, c⟩ := event
      obtain ⟨clock, still, rest⟩ := quiet
      -- the error is the same after the first command, so the rest meets the same machine
      have first := (held halted clock).resting still
      exact first.trans (ih (first.error?.trans halted) rest)

/-- **A halted machine stays halted with one and the same error.** Let a command raise a fault.
Through every history after it in which no program is loaded, the machine rests but for timers and
keypad, each run raises the same error again and changes nothing, and only a load or a reload that
succeeds ends this. -/
theorem halted_with_one_error (settings : h.FaultlessSettings)
    (source : ∀ path contents, c = .loadFile path contents → Faultless contents)
    (raised : (h.perform now c).result = .error e) (fault : e.isFault = true)
    (es : List (Seconds × Command)) (quiet : (h.perform now c).host.Undisturbed es) :
    let g := (h.perform now c).host.after es
    Resting (h.perform now c).host g ∧ g.state.halted = true ∧
      ∀ later, g.logger.CanStamp later → Held g e later := by
  intro g
  have halted := error?_of_raised settings source raised fault
  have rests : Resting (h.perform now c).host g := resting_after halted quiet
  have still : g.state.error? = some e := rests.error?.trans halted
  refine ⟨rests, ?_, fun _ => held still⟩
  rw [← Bool.not_eq_false, ← State.error?_eq_none_iff, still]
  nofun

/-- A return without a call, followed by a tick, a key, and an image that is none. -/
theorem halted_with_one_error_underflow :
    let h : Host :=
      { config := {}
        logger := ⟨"chipax", "INFO", false, false, true, .real 0⟩
        space := .least
        meter := RateMeter.start (.ok (.real 3)) (.real 0)
        state := (State.fresh (Random.Key.ofSeed 7) true).loadBytes [0x00, 0xEE]
        program := [0x00, 0xEE] }
    let e := Error.stackUnderflow 0x200
    let es : List (Seconds × Command) :=
      [(.real 1, .tick), (.real 1, .press 5), (.real 2, .load [0x100] "image")]
    let g := (h.perform (.real 1) .step).host.after es
    ((h.perform (.real 1) .step).result = .error e ∧ e.isFault = true ∧
      (h.perform (.real 1) .step).host.Undisturbed es) ∧
    g.state.halted = true ∧ (g.perform (.real 3) (.runFrames 5 true)).result = .error e ∧
      (g.perform (.real 3) (.runFrames 5 true)).host = g := by
  intro h e es g
  have healthy : h.state.error? = none := by decide +kernel
  have halts : h.state.step.error? = some e := by decide +kernel
  have clock (s : State) (x : Float) : { h with state := s }.logger.CanStamp (.real x) :=
    Logger.canStamp_real rfl x
  let k : Host := { h with state := h.state.step }
  obtain ⟨hhost, hresult⟩ : (h.step (.real 1)).host = k ∧
      (h.step (.real 1)).result = (k.refuse (.real 1) e).result :=
    drive_of_halting_run healthy rfl halts _ _
  have raised : (h.perform (.real 1) .step).result = .error e :=
    Outcome.result_done_error.mpr (hresult.trans (result_refuse (clock _ 1) e))
  have quiet : (h.perform (.real 1) .step).host.Undisturbed es := by
    change (h.step (.real 1)).host.Undisturbed es
    rw [hhost]
    exact ⟨clock _ 1, nofun, clock _ 1, nofun, clock _ 2, nofun, trivial⟩
  have source (path : String) (contents : Except Error (List UInt8))
      (hc : Command.step = .loadFile path contents) : Faultless contents := nomatch hc
  have settings : h.FaultlessSettings := ⟨faultless_ok _, faultless_ok _, faultless_ok _⟩
  obtain ⟨rests, halted, held⟩ := halted_with_one_error settings source raised rfl es quiet
  have logger : g.logger = h.logger := by
    rw [rests.logger]
    change (h.step (.real 1)).host.logger = _
    rw [hhost]
  refine ⟨⟨raised, rfl, quiet⟩, halted, (held (.real 3) ?_).run (.runFrames 5 true) rfl⟩
  rw [logger]
  exact clock h.state 3

end Host

end Chip8
