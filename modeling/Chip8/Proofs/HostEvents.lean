import Chip8.Proofs.Frames
import Chip8.Proofs.HostOutcome

/-!
# What a host does to its machine

A host reaches its machine through events only. `Host.events` tells which they are for every
command: none for a question, and none for a run that is refused because the machine is halted, the
pace is no number, or the frames cannot be counted. So the machine of a host lives through a history
of events like any other machine (`Host.state_after`). Whatever else a run does to the host, it does
to the meter (`Host.exists_meter_drive`).
-/

namespace Chip8

/-! ## Frames that were run -/

namespace State

variable {s t : State} {c n : Int}

/-- Frames one after the other are as many events, if their cycles can be counted. -/
theorem after_replicate_frame {k : Nat} (short : k = 0 ∨ Loop.countable c = .ok ()) :
    s.after (List.replicate k (.frame c)) = s.frames c k := by
  induction k generalizing s with
  | zero => rfl
  | succ k ih =>
      have counted : Loop.countable c = .ok () := short.resolve_left (Nat.succ_ne_zero k)
      have first : s.afterEvent (.frame c) = s.frame c := by
        simp only [afterEvent, handle, frameGiven, counted, Except.map]
      rw [List.replicate_succ, after_cons, first, ih (.inr counted), frames]

theorem countable_of_ok (h : State.countable c n = .ok ()) :
    n.toNat = 0 ∨ Loop.countable c = .ok () := by
  by_cases positive : 0 < n
  · right
    rw [State.countable, if_pos positive] at h
    obtain ⟨_, -, counted⟩ := exists_of_bind_ok h
    exact counted
  · left
    omega

theorem eq_frames_of_framesGiven {space : Space} (h : s.framesGiven space c n = .ok t) :
    t = s.frames c n.toNat ∧ (n.toNat = 0 ∨ Loop.countable c = .ok ()) := by
  obtain ⟨_, -, h⟩ := exists_of_bind_ok h
  obtain ⟨_, counted, h⟩ := exists_of_bind_ok h
  exact ⟨(Except.ok.inj h).symm, countable_of_ok counted⟩

end State

theorem Progress.Plan.eq_of_checked {p q : Progress.Plan} {space : Space}
    (h : p.checked space = .ok q) : q = p := by
  simp only [checked] at h
  obtain ⟨_, -, h⟩ := exists_of_bind_ok h
  split at h
  · obtain ⟨_, -, h⟩ := exists_of_bind_ok h
    obtain ⟨_, -, h⟩ := exists_of_bind_ok h
    exact (Except.ok.inj h).symm
  · obtain ⟨_, -, h⟩ := exists_of_bind_ok h
    exact (Except.ok.inj h).symm

namespace Host

variable {h : Host} {now : Seconds} {s t : State} {c : Int} {n : Count}

theorem eq_frames_of_framesWatched {space : Space} {bar : List Progress.Event}
    (h : framesWatched s space c n = .ok (t, bar)) :
    t = s.frames c n.rounds.toNat ∧ (n.rounds.toNat = 0 ∨ Loop.countable c = .ok ()) := by
  obtain ⟨plan, hplan, h⟩ := exists_of_bind_ok h
  obtain ⟨_, counted, h⟩ := exists_of_bind_ok h
  obtain rfl := Progress.Plan.eq_of_checked hplan
  have hstate : t = ((Progress.Plan.make n none none).run (fun s => s.frame c) s).state :=
    (congrArg Prod.fst (Except.ok.inj h)).symm
  rw [Progress.Plan.state_run, State.foldl_frame, List.length_range] at hstate
  exact ⟨hstate, State.countable_of_ok counted⟩

/-! ## Runs -/

theorem exists_meter_countAll (h : Host) (now : Seconds) (ts : List (Except Error Tally)) :
    ∃ meter, (h.countAll now ts).host = { h with meter := meter } := by
  induction ts generalizing h with
  | nil => exact ⟨h.meter, rfl⟩
  | cons t ts ih =>
      have first : ∃ meter, (h.countIf now t).host = { h with meter := meter } := by
        cases t with
        | error e => exact ⟨h.meter, rfl⟩
        | ok t =>
            rw [countIf, Outcome.observed_andThen, host_count]
            exact ⟨_, rfl⟩
      obtain ⟨meter, hfirst⟩ := first
      rw [countAll]
      cases counted : (h.countIf now t).result with
      | error e =>
          rw [(Outcome.andThen_of_error counted _).1, hfirst]
          exact ⟨meter, rfl⟩
      | ok _ =>
          rw [(Outcome.andThen_of_ok counted _).1, hfirst]
          exact ih { h with meter := meter }

def ran (h : Host) (run : State → Except Error (State × List Progress.Event)) : State :=
  match h.state.error?, run h.state with
  | none, .ok (s, _) => s
  | _, _ => h.state

section

variable {run : State → Except Error (State × List Progress.Event)}

theorem ran_of_halted (halted : h.state.halted = true) : h.ran run = h.state := by
  rw [ran]
  cases herror : h.state.error? with
  | some e => rfl
  | none =>
      rw [State.error?_eq_none_iff.mp herror] at halted
      cases halted

theorem ran_of_error {e : Error} (refused : run h.state = .error e) : h.ran run = h.state := by
  rw [ran, refused]
  split
  · contradiction
  · rfl

theorem ran_of_ok {bar : List Progress.Event} (healthy : h.state.halted = false)
    (runs : run h.state = .ok (s, bar)) : h.ran run = s := by
  rw [ran, State.error?_eq_none_iff.mpr healthy, runs]

theorem exists_meter_drive (h : Host) (now : Seconds)
    (run : State → Except Error (State × List Progress.Event))
    (tallies : List (Except Error Tally)) :
    ∃ meter, (h.drive now run tallies).host = { h with state := h.ran run, meter := meter } := by
  rw [ran]
  cases healthy : h.state.error? with
  | some e =>
      rw [drive_of_halted healthy, host_refuse]
      exact ⟨h.meter, rfl⟩
  | none =>
      cases result : run h.state with
      | error e =>
          rw [(drive_of_refused_run healthy result now tallies).1]
          exact ⟨h.meter, rfl⟩
      | ok r =>
          obtain ⟨s, bar⟩ := r
          cases halts : s.error? with
          | some e =>
              rw [(drive_of_halting_run healthy result halts now tallies).1]
              exact ⟨h.meter, rfl⟩
          | none =>
              rw [(drive_of_run healthy result halts now tallies).1]
              exact exists_meter_countAll { h with state := s } now tallies

theorem state_drive (h : Host) (now : Seconds)
    (run : State → Except Error (State × List Progress.Event))
    (tallies : List (Except Error Tally)) :
    (h.drive now run tallies).host.state = h.ran run := by
  obtain ⟨meter, hhost⟩ := h.exists_meter_drive now run tallies
  rw [hhost]

end

/-! ## Commands -/

def canRunFrames (h : Host) (n : Count) (progress : Bool) (cycles : Int) : Bool :=
  if progress then (framesWatched h.state h.space cycles n).isOk
  else (h.state.framesGiven h.space cycles n.rounds).isOk

def frameEvents (h : Host) (k : Nat) (can : Int → Bool) : List Event :=
  match h.state.halted, h.config.cyclesPerFrame.run with
  | false, .ok cycles => if can cycles then List.replicate k (.frame cycles) else []
  | _, _ => []

/-- The events that the machine meets when its host is asked for something. -/
def events (h : Host) : Command → List Event
  | .load data _ => [.load data h.config.strictLoad]
  | .loadFile _ (.ok bytes) => [.load (imageOf bytes) h.config.strictLoad]
  | .loadFile _ (.error _) => []
  | .reload => [.load (imageOf h.program) false]
  | .step => if h.state.halted then [] else [.step]
  | .tick => [.tick]
  | .runFrame => h.frameEvents 1 fun cycles => (h.state.frameGiven cycles).isOk
  | .runFrames n progress => h.frameEvents n.rounds.toNat (h.canRunFrames n progress)
  | .setKeys states => [.setKeys states]
  | .press key => [.press key]
  | .release key => [.release key]
  | .configure _ | .currentInstruction | .logRegisters | .memoryWindow _ _ | .programDump
  | .framebuffer | .elapsed | .rates | .keys => []

theorem state_load (h : Host) (now : Seconds) (data : List Int) (source : String) :
    (h.load now data source).host.state =
      h.state.afterEvent (.load data h.config.strictLoad) := by
  rw [load, State.afterEvent, State.handle]
  cases h.state.load data h.config.strictLoad with
  | error e => rfl
  | ok s =>
      dsimp only
      rw [host_told]

theorem state_reload (h : Host) (now : Seconds) :
    (h.reload now).host.state = h.state.afterEvent (.load (imageOf h.program) false) := by
  rw [reload, host_told, State.afterEvent, State.handle, State.load, image?_imageOf]
  rfl

/-- Frames that are run or refused as a whole. -/
theorem ran_frames {run : State → Except Error (State × List Progress.Event)} {k : Nat}
    {can : Int → Bool} {frames : Int → Except Error (State × List Progress.Event)}
    (hrun : run h.state = h.config.cyclesPerFrame.run >>= frames)
    (hcan : ∀ cycles, can cycles = (frames cycles).isOk)
    (hframes : ∀ cycles t bar, frames cycles = .ok (t, bar) →
      t = h.state.after (List.replicate k (.frame cycles))) :
    h.ran run = h.state.after (h.frameEvents k can) := by
  rw [frameEvents]
  cases halted : h.state.halted with
  | true => exact ran_of_halted halted
  | false =>
      cases pace : h.config.cyclesPerFrame.run with
      | error e =>
          rw [pace] at hrun
          exact ran_of_error hrun
      | ok cycles =>
          rw [pace] at hrun
          dsimp only
          rw [hcan]
          cases result : frames cycles with
          | error e => exact ran_of_error (hrun.trans result)
          | ok r =>
              obtain ⟨t, bar⟩ := r
              rw [ran_of_ok halted (hrun.trans result), hframes cycles t bar result]
              rfl

theorem state_runFrame (h : Host) (now : Seconds) :
    (h.runFrame now).host.state = h.state.after (h.events .runFrame) := by
  rw [runFrame, state_drive]
  refine ran_frames rfl ?_ ?_
  · intro cycles
    cases h.state.frameGiven cycles <;> rfl
  · intro cycles t bar hframe
    obtain ⟨s, hs, hpair⟩ := exists_of_bind_ok hframe
    obtain ⟨rfl, -⟩ := Prod.mk.inj (Except.ok.inj hpair)
    have first : h.state.afterEvent (.frame cycles) = s := by
      rw [State.afterEvent, State.handle, hs]
    exact first.symm

theorem state_runFrames (h : Host) (now : Seconds) (n : Count) (progress : Bool) :
    (h.runFrames now n progress).host.state = h.state.after (h.events (.runFrames n progress)) := by
  rw [runFrames, state_drive]
  refine ran_frames rfl ?_ ?_
  · intro cycles
    rw [canRunFrames]
    cases progress with
    | true => rfl
    | false => cases h.state.framesGiven h.space cycles n.rounds <;> rfl
  · intro cycles t bar hframes
    cases progress with
    | true =>
        obtain ⟨rfl, short⟩ := eq_frames_of_framesWatched hframes
        exact (State.after_replicate_frame short).symm
    | false =>
        obtain ⟨s, hs, hpair⟩ := exists_of_bind_ok hframes
        obtain ⟨rfl, -⟩ := Prod.mk.inj (Except.ok.inj hpair)
        obtain ⟨rfl, short⟩ := State.eq_frames_of_framesGiven hs
        exact (State.after_replicate_frame short).symm

/-- **A host does to its machine what the events of its commands do.** -/
theorem state_perform (h : Host) (now : Seconds) (c : Command) :
    (h.perform now c).host.state = h.state.after (h.events c) := by
  cases c with
  | load data source => exact state_load h now data source
  | loadFile path contents =>
      cases contents with
      | error e => rfl
      | ok bytes => exact state_load h now (imageOf bytes) path
  | reload => exact state_reload h now
  | step =>
      rw [perform, Outcome.host_done, step, state_drive, events]
      cases halted : h.state.halted with
      | true => exact ran_of_halted halted
      | false => exact ran_of_ok halted rfl
  | runFrame => exact state_runFrame h now
  | runFrames n progress => exact state_runFrames h now n progress
  | setKeys states =>
      change (h.attempt (h.state.handle (.setKeys states))).host.state =
        h.state.afterEvent (.setKeys states)
      rw [State.afterEvent]
      cases h.state.handle (.setKeys states) <;> rfl
  | configure setting =>
      rw [perform, configure]
      split <;> rfl
  | logRegisters =>
      rw [perform, Outcome.host_done, host_logRegisters]
      rfl
  | tick | press _ | release _ | currentInstruction | memoryWindow _ _ | programDump | framebuffer
  | elapsed | rates | keys => rfl

def allEvents (h : Host) : List (Seconds × Command) → List Event
  | [] => []
  | (now, c) :: es => h.events c ++ (h.perform now c).host.allEvents es

theorem state_after (h : Host) (es : List (Seconds × Command)) :
    (h.after es).state = h.state.after (h.allEvents es) := by
  induction es generalizing h with
  | nil => rfl
  | cons entry es ih =>
      obtain ⟨now, c⟩ := entry
      change ((h.perform now c).host.after es).state = _
      rw [ih, state_perform, allEvents, State.after_append]

end Host

/-! ## Creation -/

/-- Does the event put a new machine in place of the old one? -/
def Event.creates : Event → Bool
  | .create _ _ => true
  | _ => false

namespace Host

theorem creates_of_mem_events {h : Host} {c : Command} {e : Event} (he : e ∈ h.events c) :
    e.creates = false := by
  have frames {k : Nat} {can : Int → Bool} (he : e ∈ h.frameEvents k can) : e.creates = false := by
    rw [frameEvents] at he
    split at he
    · split at he
      · obtain rfl := List.eq_of_mem_replicate he
        rfl
      · cases he
    · cases he
  cases c with
  | loadFile path contents =>
      cases contents with
      | ok bytes => obtain rfl := List.mem_singleton.mp he; rfl
      | error e => cases he
  | step =>
      rw [events] at he
      split at he
      · cases he
      · obtain rfl := List.mem_singleton.mp he
        rfl
  | runFrame | runFrames _ _ => exact frames he
  | load _ _ | reload | tick | setKeys _ | press _ | release _ =>
      obtain rfl := List.mem_singleton.mp he
      rfl
  | _ => cases he

theorem creates_of_mem_allEvents {h : Host} {es : List (Seconds × Command)} {e : Event}
    (he : e ∈ h.allEvents es) : e.creates = false := by
  induction es generalizing h with
  | nil => cases he
  | cons entry es ih =>
      obtain ⟨now, c⟩ := entry
      rcases List.mem_append.mp he with first | later
      · exact creates_of_mem_events first
      · exact ih later

section

variable {config : Config} {logger : Logger} {space : Space}

theorem eq_of_create (created : Host.create config logger space now = .ok h) :
    ∃ state, State.create config.seed config.modern = .ok state ∧
      h = { config, logger, space, state, meter := RateMeter.start config.reportInterval now,
            program := [] } := by
  rw [Host.create] at created
  cases hstate : State.create config.seed config.modern with
  | error e => rw [hstate] at created; cases created
  | ok state =>
      rw [hstate] at created
      exact ⟨state, rfl, (Except.ok.inj created).symm⟩

theorem create_state (created : Host.create config logger space now = .ok h) :
    State.create config.seed config.modern = .ok h.state := by
  obtain ⟨state, hstate, rfl⟩ := eq_of_create created
  exact hstate

end

end Host

end Chip8
