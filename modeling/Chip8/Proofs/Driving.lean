import Chip8.Proofs.Frames
import Chip8.Proofs.Metering

/-!
# Three ways of driving a machine

Frames can be run cycle by cycle with a tick after each frame, one by one, or all at once with or
without a progress bar. A machine that runs through them ends in the same state each way, with the
same cycles counted. If it faults, the three ways raise the same error, and the machines differ in
their timers only: those of single cycles stop at the fault, a single frame ticks once more, and
frames at once tick to their end.
-/

namespace Chip8

/-! ## Histories that stop at the first failure -/

/-- Does what is asked at these readings of a clock, up to the first thing that fails. -/
def Host.obey (h : Host) : List (Float × Command) → Outcome Unit
  | [] => h.observed (.ok ())
  | (now, c) :: es => (h.perform (.real now) c).andThen fun h _ => h.obey es

namespace Outcome

variable {α β : Type} {o : Outcome α} {next : Host → α → Outcome β} {h : Host} {s s' : State}
  {e : Error} {a b c d r room : Nat}

/-- The outcome for a host `h`: the result, the state of its machine, and by how many cycles and
frames its totals have grown. -/
structure Ends (o : Outcome α) (h : Host) (result : Except Error α) (s : State)
    (cycles frames : Nat) : Prop where
  result : o.result = result
  state : o.host.state = s
  total : o.host.meter.total = h.meter.total.add (.whole cycles frames)

/-- All went well so far, and there is room for more. -/
structure GoesOn (o : Outcome α) (h : Host) (s : State) (cycles frames room : Nat) : Prop where
  ok : ∃ a, o.result = .ok a
  reaches : h.Reaches s cycles frames room o.host

theorem GoesOn.ends {o : Outcome Unit} (ho : o.GoesOn h s a b room) : o.Ends h (.ok ()) s a b := by
  obtain ⟨_, hresult⟩ := ho.ok
  exact ⟨hresult, ho.reaches.state, ho.reaches.total⟩

theorem GoesOn.andThen (whole : h.meter.total.IsWhole) (ho : o.GoesOn h s a b r)
    (hnext : ∀ x, (next o.host x).GoesOn o.host s' c d room) :
    (o.andThen next).GoesOn h s' (a + c) (b + d) room := by
  obtain ⟨x, hx⟩ := ho.ok
  obtain ⟨hhost, hresult⟩ := andThen_of_ok hx next
  constructor
  · rw [hresult]
    exact (hnext x).ok
  · rw [hhost]
    exact ho.reaches.trans whole (hnext x).reaches

/-- What goes on may fail later. -/
theorem GoesOn.andThen_ends (whole : h.meter.total.IsWhole) (ho : o.GoesOn h s a b r)
    (hnext : ∀ x, (next o.host x).Ends o.host (.error e) s' c d) :
    (o.andThen next).Ends h (.error e) s' (a + c) (b + d) := by
  obtain ⟨x, hx⟩ := ho.ok
  obtain ⟨hhost, hresult⟩ := andThen_of_ok hx next
  constructor
  · rw [hresult]
    exact (hnext x).result
  · rw [hhost]
    exact (hnext x).state
  · rw [hhost, (hnext x).total, ho.reaches.total, Tally.add_assoc whole (Tally.isWhole_whole _ _)
      (Tally.isWhole_whole _ _), Tally.whole_add]
    norm_cast

/-- What has failed is not gone on with. -/
theorem Ends.andThen (ho : o.Ends h (.error e) s a b) :
    (o.andThen next).Ends h (.error e) s a b := by
  obtain ⟨hhost, hresult⟩ := andThen_of_error ho.result next
  constructor
  · exact hresult
  · rw [hhost]
    exact ho.state
  · rw [hhost]
    exact ho.total

theorem GoesOn.done {o : Outcome Unit} (ho : o.GoesOn h s a b room) :
    o.done.GoesOn h s a b room := by
  obtain ⟨_, hresult⟩ := ho.ok
  exact ⟨⟨.done, result_done_ok.mpr hresult⟩, ho.reaches⟩

theorem Ends.done {o : Outcome Unit} (ho : o.Ends h (.error e) s a b) :
    o.done.Ends h (.error e) s a b :=
  ⟨result_done_error.mpr ho.result, ho.state, ho.total⟩

end Outcome

namespace Host

variable {h g : Host} {s : State} {e : Error} {c m n i room : Nat}

theorem obey_append (h : Host) (es fs : List (Float × Command)) :
    h.obey (es ++ fs) = (h.obey es).andThen fun h _ => h.obey fs := by
  induction es generalizing h with
  | nil => exact (Outcome.observed_andThen h () fun h _ => h.obey fs).symm
  | cons event es ih =>
      obtain ⟨now, c⟩ := event
      rw [List.cons_append, obey, obey, Outcome.andThen_assoc]
      simp only [ih]

/-! ## One command -/

section

variable {run : State → Except Error (State × List Progress.Event)} {bar : List Progress.Event}

/-- A run in which the machine goes on is counted. -/
theorem drive_goesOn (ts : List (Nat × Nat)) (healthy : h.state.halted = false)
    (hrun : run h.state = .ok (s, bar)) (runs : s.halted = false)
    (hr : h.HasRoom (Tally.need ts + room)) (now : Float) :
    (h.drive (.real now) run (Tally.series ts)).GoesOn h s (ts.map (·.1)).sum (ts.map (·.2)).sum
      room := by
  obtain ⟨hhost, hresult⟩ := drive_of_run (State.error?_eq_none_iff.mpr healthy) hrun
    (State.error?_eq_none_iff.mpr runs) (.real now) (Tally.series ts)
  obtain ⟨counted, hreach⟩ := countAll_of_hasRoom (hr.set_state s) now
  constructor
  · rw [hresult]
    exact ⟨(), counted⟩
  · rw [hhost]
    exact ⟨hreach.state, hreach.config, hreach.total, hreach.room⟩

/-- A run in which the machine halts is not counted. -/
theorem drive_ends {tallies : List (Except Error Tally)} (healthy : h.state.halted = false)
    (hrun : run h.state = .ok (s, bar)) (halts : s.error? = some e) (hr : h.HasRoom room)
    (now : Float) : (h.drive (.real now) run tallies).Ends h (.error e) s 0 0 := by
  obtain ⟨hhost, hresult⟩ := drive_of_halting_run (State.error?_eq_none_iff.mpr healthy)
    hrun halts (.real now) tallies
  have clock : { h with state := s }.logger.CanStamp (.real now) := hr.canStamp now
  constructor
  · rw [hresult]
    exact result_refuse clock e
  · rw [hhost]
  · rw [hhost]
    exact (Reaches.refl hr).total

end

theorem step_goesOn (runs : h.state.step.halted = false) (hr : h.HasRoom (1 + room))
    (now : Float) : (h.perform (.real now) .step).GoesOn h h.state.step 1 0 room := by
  have healthy := (State.halted_step_eq_false_iff.mp runs).1
  exact (drive_goesOn [(1, 0)] healthy rfl runs hr now).done

theorem step_ends (healthy : h.state.halted = false) (halts : h.state.step.error? = some e)
    (hr : h.HasRoom room) (now : Float) :
    (h.perform (.real now) .step).Ends h (.error e) h.state.step 0 0 :=
  (drive_ends healthy rfl halts hr now).done

theorem tick_goesOn (hr : h.HasRoom room) (now : Float) :
    (h.perform (.real now) .tick).GoesOn h h.state.tick 0 0 room := by
  exact ⟨⟨.done, rfl⟩, rfl, rfl, (Reaches.refl hr).total, hr.set_state h.state.tick⟩

def framesBar (c n : Nat) (s : State) : List Progress.Event :=
  ((Progress.Plan.make (.whole n) none none).run (fun s => s.frame c) s).events

theorem framesWatched_of_lt (s : State) (space : Space)
    (short : n = 0 ∨ n < 2 ^ 31 ∧ c < 2 ^ 31) :
    framesWatched s space c (.whole n) = .ok (s.frames c n, framesBar c n s) := by
  have hplan : (Progress.Plan.make (.whole n) none none).checked space =
      pure (.make (.whole n) none none) :=
    Progress.Plan.checked_make (by omega) none none space
  have hcountable : State.countable c n = pure () := State.countable_of_lt short
  have hstate : ((Progress.Plan.make (.whole n) none none).run (fun s => s.frame c) s).state =
      s.frames c n := by
    rw [Progress.Plan.state_run, State.foldl_frame, List.length_range,
      Progress.Plan.total_make, Count.rounds_whole, Int.toNat_natCast]
  rw [framesWatched, hplan, pure_bind, Count.rounds_whole, hcountable, pure_bind, ← hstate]
  rfl

section

variable (pace : h.config.cyclesPerFrame = .ofInt c)

include pace

theorem runFrame_eq (hc : c < 2 ^ 31) (now : Float) : h.runFrame (.real now) =
    h.drive (.real now) (fun s => .ok (s.frame c, [])) (Tally.series [(c, 0), (0, 1)]) := by
  have hrun (s : State) : (do return (← s.frameGiven (← (Pace.ofInt c).run), []) :
      Except Error (State × List Progress.Event)) = .ok (s.frame c, []) := by
    have hpace : (Pace.ofInt c).run = pure (c : Int) := rfl
    rw [hpace, pure_bind, s.frameGiven_of_fits (by omega) (by omega)]
    rfl
  rw [runFrame, pace]
  simp only [hrun]
  rfl

theorem runFrame_goesOn (hc : c < 2 ^ 31) (healthy : h.state.halted = false)
    (runs : (h.state.frame c).halted = false) (hr : h.HasRoom (c + 1 + room)) (now : Float) :
    (h.perform (.real now) .runFrame).GoesOn h (h.state.frame c) c 1 room := by
  rw [perform, runFrame_eq pace hc]
  exact (drive_goesOn [(c, 0), (0, 1)] healthy rfl runs hr now).done

theorem runFrame_ends (hc : c < 2 ^ 31) (healthy : h.state.halted = false)
    (halts : (h.state.frame c).error? = some e) (hr : h.HasRoom room) (now : Float) :
    (h.perform (.real now) .runFrame).Ends h (.error e) (h.state.frame c) 0 0 := by
  rw [perform, runFrame_eq pace hc]
  exact (drive_ends healthy rfl halts hr now).done

/-- Frames at once are frames one after the other, whether or not a bar watches them. -/
theorem exists_runFrames_eq (short : n = 0 ∨ n < 2 ^ 31 ∧ c < 2 ^ 31) (progress : Bool)
    (now : Float) : ∃ bar : State → List Progress.Event,
      h.runFrames (.real now) (.whole n) progress =
        h.drive (.real now) (fun s => .ok (s.frames c n, bar s))
          (Tally.series [(n * c, 0), (0, n)]) := by
  refine ⟨if progress then framesBar c n else fun _ => [], ?_⟩
  have hrun (s : State) : (do
      let cycles ← (Pace.ofInt c).run
      if progress then framesWatched s h.space cycles (.whole n)
      else return (← s.framesGiven h.space cycles (Count.whole n).rounds, []) :
        Except Error (State × List Progress.Event)) =
      .ok (s.frames c n, (if progress then framesBar c n else fun _ => []) s) := by
    have hpace : (Pace.ofInt c).run = pure (c : Int) := rfl
    rw [hpace, pure_bind, Count.rounds_whole, State.framesGiven_of_lt short s h.space]
    cases progress with
    | true => exact framesWatched_of_lt s h.space short
    | false => rfl
  rw [runFrames, pace]
  simp only [hrun]
  rfl

theorem runFrames_goesOn (short : n = 0 ∨ n < 2 ^ 31 ∧ c < 2 ^ 31)
    (healthy : h.state.halted = false) (runs : (h.state.frames c n).halted = false)
    (hr : h.HasRoom (n * c + n + room)) (progress : Bool) (now : Float) :
    (h.perform (.real now) (.runFrames (.whole n) progress)).GoesOn h (h.state.frames c n)
      (n * c) n room := by
  obtain ⟨bar, hrun⟩ := exists_runFrames_eq pace short progress now
  have hr' : h.HasRoom (Tally.need [(n * c, 0), (0, n)] + room) := by
    simpa [Tally.need] using hr
  rw [perform, hrun]
  simpa using (drive_goesOn _ healthy rfl runs hr' now).done

theorem runFrames_ends (short : n = 0 ∨ n < 2 ^ 31 ∧ c < 2 ^ 31)
    (healthy : h.state.halted = false) (halts : (h.state.frames c n).error? = some e)
    (hr : h.HasRoom room) (progress : Bool) (now : Float) :
    (h.perform (.real now) (.runFrames (.whole n) progress)).Ends h (.error e)
      (h.state.frames c n) 0 0 := by
  obtain ⟨bar, hrun⟩ := exists_runFrames_eq pace short progress now
  rw [perform, hrun]
  exact (drive_ends healthy rfl halts hr now).done

end

/-! ## Cycle by cycle -/

variable {es : List (Float × Command)}

theorem steps_goesOn (hes : es.map (·.2) = List.replicate m .step)
    (runs : ∀ j ≤ m, (h.state.run j).halted = false) (hr : h.HasRoom (m + room)) :
    (h.obey es).GoesOn h (h.state.run m) m 0 room := by
  induction m generalizing h es with
  | zero =>
      obtain rfl := List.map_eq_nil_iff.mp hes
      exact ⟨⟨(), rfl⟩, Reaches.refl (hr.mono (Nat.le_add_left _ _))⟩
  | succ m ih =>
      obtain ⟨⟨now, _⟩, es', rfl, rfl, hes'⟩ := List.map_eq_cons_iff.mp hes
      have hr' : h.HasRoom (1 + (m + room)) := hr.mono (by omega)
      have first := step_goesOn (runs 1 (by omega)) hr' now
      have rest := ih hes' (fun j hj => by
        rw [first.reaches.state]
        exact runs (j + 1) (by omega)) first.reaches.room
      rw [first.reaches.state] at rest
      change (h.obey ((now, .step) :: es')).GoesOn h (h.state.step.run m) (m + 1) 0 room
      rw [Nat.add_comm m 1]
      exact first.andThen (d := 0) hr.total fun _ => rest

theorem steps_ends (hes : es.map (·.2) = List.replicate m .step) (hi : i < m)
    (halts : h.state.HaltsIn (i + 1)) (he : (h.state.run (i + 1)).error? = some e)
    (hr : h.HasRoom i) : (h.obey es).Ends h (.error e) (h.state.run (i + 1)) i 0 := by
  obtain ⟨d, rfl⟩ := Nat.exists_eq_add_of_lt hi
  rw [Nat.add_assoc, List.replicate_add, List.replicate_succ] at hes
  -- `i` cycles go well, the next one faults, and those after it are not asked for
  obtain ⟨es₁, es₂, rfl, hes₁, hes₂⟩ := List.map_eq_append_iff.mp hes
  obtain ⟨⟨now, _⟩, es₃, rfl, rfl, -⟩ := List.map_eq_cons_iff.mp hes₂
  have hr' : h.HasRoom (i + 0) := hr
  have before := steps_goesOn hes₁ (fun j hj => halts.before j (by omega)) hr'
  rw [obey_append]
  refine before.andThen_ends (c := 0) (d := 0) hr.total fun _ => ?_
  have last := step_ends (h := (h.obey es₁).host) (e := e) ?_ ?_ before.reaches.room now
  · rw [before.reaches.state, ← State.run_succ] at last
    exact last.andThen
  · rw [before.reaches.state]
    exact halts.before i (by omega)
  · rw [before.reaches.state, ← State.run_succ]
    exact he

theorem obey_singleton_goesOn {now : Float} {command : Command}
    (whole : h.meter.total.IsWhole) {a b : Nat}
    (ho : (h.perform (.real now) command).GoesOn h s a b room) :
    (h.obey [(now, command)]).GoesOn h s a b room := by
  refine ho.andThen (c := 0) (d := 0) whole fun _ => ⟨⟨(), rfl⟩, ?_⟩
  rw [← ho.reaches.state]
  exact Reaches.refl ho.reaches.room

/-! ## Frame by frame -/

/-- Does a block of commands run one frame of `c` cycles and count `f` frames? -/
def RunsFrame (block : List Command) (c f : Nat) : Prop :=
  ∀ (h : Host) (es : List (Float × Command)) (room : Nat),
    h.config.cyclesPerFrame = .ofInt c → es.map (·.2) = block →
    (∀ j ≤ c, (h.state.run j).halted = false) → h.HasRoom (c + f + room) →
    (h.obey es).GoesOn h (h.state.frame c) c f room

theorem runsFrame_cycles (c : Nat) : RunsFrame (List.replicate c .step ++ [.tick]) c 0 := by
  intro h es room _ hes runs hr
  obtain ⟨es₁, es₂, rfl, hes₁, hes₂⟩ := List.map_eq_append_iff.mp hes
  obtain ⟨⟨now, _⟩, es₃, rfl, rfl, hes₃⟩ := List.map_eq_cons_iff.mp hes₂
  obtain rfl := List.map_eq_nil_iff.mp hes₃
  have steps := steps_goesOn hes₁ runs hr
  have last := tick_goesOn steps.reaches.room now
  rw [steps.reaches.state] at last
  rw [obey_append]
  exact steps.andThen (c := 0) (d := 0) hr.total fun _ =>
    obey_singleton_goesOn steps.reaches.room.total last

theorem runsFrame_frame (hc : c < 2 ^ 31) : RunsFrame [.runFrame] c 1 := by
  intro h es room pace hes runs hr
  obtain ⟨⟨now, _⟩, es', rfl, rfl, hes'⟩ := List.map_eq_cons_iff.mp hes
  obtain rfl := List.map_eq_nil_iff.mp hes'
  exact obey_singleton_goesOn hr.total
    (runFrame_goesOn pace hc (runs 0 (Nat.zero_le c)) (runs c (Nat.le_refl c)) hr now)

section

variable {block : List Command} {f : Nat} (frame : RunsFrame block c f)

include frame

theorem rounds_goesOn (pace : h.config.cyclesPerFrame = .ofInt c)
    (hes : es.map (·.2) = (List.replicate n block).flatten)
    (runs : h.state.RunsThrough c n) (hr : h.HasRoom (n * (c + f) + room)) :
    (h.obey es).GoesOn h (h.state.frames c n) (n * c) (n * f) room := by
  induction n generalizing h es with
  | zero =>
      obtain rfl := List.map_eq_nil_iff.mp hes
      rw [Nat.zero_mul, Nat.zero_mul]
      exact ⟨⟨(), rfl⟩, Reaches.refl (hr.mono (Nat.le_add_left _ _))⟩
  | succ n ih =>
      rw [List.replicate_succ, List.flatten_cons] at hes
      obtain ⟨es₁, es₂, rfl, hes₁, hes₂⟩ := List.map_eq_append_iff.mp hes
      rw [Nat.succ_mul, Nat.add_comm (n * (c + f)), Nat.add_assoc] at hr
      have first := frame h es₁ _ pace hes₁ (runs 0 (Nat.succ_pos n)) hr
      have rest := ih (first.reaches.config ▸ pace) hes₂ (by
        rw [first.reaches.state]
        intro k hk
        exact runs (k + 1) (Nat.succ_lt_succ hk)) first.reaches.room
      rw [first.reaches.state] at rest
      rw [obey_append, Nat.succ_mul, Nat.succ_mul, Nat.add_comm (n * c), Nat.add_comm (n * f)]
      exact first.andThen hr.total fun _ => rest

/-- If a block fails after frames that went well, the failure ends all of them. -/
theorem rounds_ends (pace : h.config.cyclesPerFrame = .ofInt c)
    (hes : es.map (·.2) = (List.replicate n block).flatten) (hm : m < n)
    (runs : h.state.RunsThrough c m) (hr : h.HasRoom (m * (c + f) + room)) {l : Nat}
    (fails : ∀ (g : Host) (fs : List (Float × Command)), g.config.cyclesPerFrame = .ofInt c →
      g.state = h.state.frames c m → g.HasRoom room → fs.map (·.2) = block →
      (g.obey fs).Ends g (.error e) s l 0) :
    (h.obey es).Ends h (.error e) s (m * c + l) (m * f) := by
  obtain ⟨d, rfl⟩ := Nat.exists_eq_add_of_lt hm
  rw [Nat.add_assoc, List.replicate_add, List.flatten_append, List.replicate_succ,
    List.flatten_cons] at hes
  obtain ⟨es₁, es', rfl, hes₁, hes'⟩ := List.map_eq_append_iff.mp hes
  obtain ⟨es₂, es₃, rfl, hes₂, -⟩ := List.map_eq_append_iff.mp hes'
  have before := rounds_goesOn frame pace hes₁ runs hr
  rw [obey_append]
  refine before.andThen_ends (d := 0) hr.total fun _ => ?_
  rw [obey_append]
  exact (fails _ es₂ (before.reaches.config ▸ pace) before.reaches.state before.reaches.room
    hes₂).andThen

end

/-! ## A fault on the way -/

/-- The commands that run `n` frames cycle by cycle, with a tick after each frame. -/
def cycleByCycle (c n : Nat) : List Command :=
  (List.replicate n (List.replicate c .step ++ [.tick])).flatten

def frameByFrame (n : Nat) : List Command := List.replicate n .runFrame

theorem frameByFrame_eq (n : Nat) : frameByFrame n = (List.replicate n [.runFrame]).flatten :=
  List.flatten_replicate_singleton.symm

theorem frameByFrame_goesOn (pace : h.config.cyclesPerFrame = .ofInt c)
    (short : n = 0 ∨ n < 2 ^ 31 ∧ c < 2 ^ 31) (hes : es.map (·.2) = frameByFrame n)
    (runs : h.state.RunsThrough c n) (hr : h.HasRoom (n * c + n)) :
    (h.obey es).GoesOn h (h.state.frames c n) (n * c) n 0 := by
  rcases short with rfl | ⟨-, hc⟩
  · obtain rfl := List.map_eq_nil_iff.mp hes
    rw [Nat.zero_mul]
    exact ⟨⟨(), rfl⟩, Reaches.refl (hr.mono (Nat.zero_le _))⟩
  · rw [frameByFrame_eq] at hes
    have hr' : h.HasRoom (n * (c + 1) + 0) := hr
    have all := rounds_goesOn (runsFrame_frame hc) pace hes runs hr'
    rwa [Nat.mul_one] at all

section

variable (pace : h.config.cyclesPerFrame = .ofInt c) (faults : h.state.FaultsAfter c m i)
  (hm : m < n) (he : ((h.state.frames c m).run (i + 1)).error? = some e)
  (hr : h.HasRoom (n * c + n))

include pace faults hm he hr

theorem cycleByCycle_ends (hes : es.map (·.2) = cycleByCycle c n) :
    (h.obey es).Ends h (.error e) ((h.state.frames c m).run (i + 1)) (m * c + i) 0 := by
  -- the fault comes before all that there is room for has been counted
  have hroom : m * (c + 0) + i ≤ n * c + n := by
    have frames := Nat.mul_le_mul_right c hm
    have cycles := faults.within
    rw [Nat.succ_mul] at frames
    rw [Nat.add_zero]
    omega
  refine rounds_ends (runsFrame_cycles c) pace hes hm faults.before (hr.mono hroom) ?_
  intro g fs _ hstate hr hfs
  obtain ⟨fs₁, fs₂, rfl, hfs₁, -⟩ := List.map_eq_append_iff.mp hfs
  rw [← hstate] at he ⊢
  rw [obey_append]
  exact (steps_ends hfs₁ faults.within (hstate ▸ faults.halts) he hr).andThen

theorem frameByFrame_ends (hc : c < 2 ^ 31) (hes : es.map (·.2) = frameByFrame n) :
    (h.obey es).Ends h (.error e) (((h.state.frames c m).run (i + 1)).ticks 1) (m * c) m := by
  rw [frameByFrame_eq] at hes
  have hroom : m * (c + 1) + 0 ≤ n * c + n := by
    have frames := Nat.mul_le_mul_right (c + 1) (Nat.le_of_lt hm)
    rwa [Nat.mul_succ n] at frames
  have hframe := faults.halts.frame_eq c (Int.ofNat_le.mpr faults.within)
  have all := rounds_ends (runsFrame_frame hc) pace hes hm faults.before (hr.mono hroom)
    (s := ((h.state.frames c m).run (i + 1)).ticks 1) (e := e) (l := 0) ?_
  · rwa [Nat.mul_one] at all
  intro g fs pace hstate hr hfs
  obtain ⟨⟨now, _⟩, fs', rfl, rfl, hfs'⟩ := List.map_eq_cons_iff.mp hfs
  have healthy : g.state.halted = false := by
    rw [hstate]
    exact faults.halts.before 0 (Nat.succ_pos i)
  have last := runFrame_ends (e := e) pace hc healthy (by rw [hstate, hframe]; exact he) hr now
  rw [hstate, hframe] at last
  exact last.andThen

theorem runFrames_fault_ends (healthy : h.state.halted = false) (hn : n < 2 ^ 31)
    (hc : c < 2 ^ 31) (progress : Bool) (now : Float) :
    (h.obey [(now, .runFrames (.whole n) progress)]).Ends h (.error e)
      (((h.state.frames c m).run (i + 1)).ticks (n - m)) 0 0 := by
  have hframes := faults.frames_eq hm
  have halts : (h.state.frames c n).error? = some e := by
    rw [hframes]
    exact he
  rw [← hframes]
  exact (runFrames_ends pace (.inr ⟨hn, hc⟩) healthy halts hr progress now).andThen

end

/-! ## The three ways -/

/-- Commands that are all given at one time. -/
theorem commands_at (now : Float) (cs : List Command) :
    (cs.map fun c => (now, c)).map (·.2) = cs := by
  simp [Function.comp_def]

/-- **Three ways of driving a machine agree.** A host whose machine runs, with a whole number `c` of
cycles in a frame, runs `n` frames cycle by cycle, one by one, and at once, at any readings of its
clock. Either the machine runs through them and all three ways end well in the same state, with
`n * c` cycles counted; or it faults in the cycle `j` of the frame `k`, and all three raise this
fault, in states that differ by the ticks that each way still gives. -/
theorem ways_of_driving_agree (healthy : h.state.halted = false)
    (pace : h.config.cyclesPerFrame = .ofInt c) (short : n = 0 ∨ n < 2 ^ 31 ∧ c < 2 ^ 31)
    (hr : h.HasRoom (n * c + n)) {cycles frames : List (Float × Command)}
    (hcycles : cycles.map (·.2) = cycleByCycle c n) (hframes : frames.map (·.2) = frameByFrame n)
    (now : Float) (progress : Bool) :
    let atOnce := h.obey [(now, .runFrames (.whole n) progress)]
    (h.state.RunsThrough c n ∧
      (h.obey cycles).Ends h (.ok ()) (h.state.frames c n) (n * c) 0 ∧
      (h.obey frames).Ends h (.ok ()) (h.state.frames c n) (n * c) n ∧
      atOnce.Ends h (.ok ()) (h.state.frames c n) (n * c) n) ∨
    ∃ k j : Nat, (1 ≤ k ∧ k ≤ n) ∧ (1 ≤ j ∧ j ≤ c) ∧ h.state.RunsThrough c (k - 1) ∧
      (h.state.frames c (k - 1)).HaltsIn j ∧
      let s := (h.state.frames c (k - 1)).run j
      ∃ e, s.error? = some e ∧
        (h.obey cycles).Ends h (.error e) s ((k - 1) * c + (j - 1)) 0 ∧
        (h.obey frames).Ends h (.error e) (s.ticks 1) ((k - 1) * c) (k - 1) ∧
        atOnce.Ends h (.error e) (s.ticks (n - (k - 1))) 0 0 := by
  intro atOnce
  -- the machine alone decides; the ways only differ in what they count and how often they tick
  rcases State.runsThrough_or_faultsAfter healthy c n with runs | ⟨m, i, hm, faults⟩
  · left
    have hcycles' : h.HasRoom (n * (c + 0) + 0) := hr.mono (Nat.le_add_right _ _)
    have hr' : h.HasRoom (n * c + n + 0) := hr
    refine ⟨runs, (rounds_goesOn (runsFrame_cycles c) pace hcycles runs hcycles').ends,
      (frameByFrame_goesOn pace short hframes runs hr).ends, ?_⟩
    have last := runFrames_goesOn pace short healthy (runs.halted healthy) hr' progress now
    exact (obey_singleton_goesOn hr.total last).ends
  · right
    obtain ⟨hn, hc⟩ : n < 2 ^ 31 ∧ c < 2 ^ 31 := by omega
    cases he : ((h.state.frames c m).run (i + 1)).error? with
    | none =>
        rw [State.error?_eq_none_iff, faults.halts.halted] at he
        cases he
    | some e =>
        refine ⟨m + 1, i + 1, ⟨by omega, hm⟩, ⟨by omega, faults.within⟩, faults.before,
          faults.halts, e, he, ?_⟩
        exact ⟨cycleByCycle_ends pace faults hm he hr hcycles,
          frameByFrame_ends pace faults hm he hr hc hframes,
          runFrames_fault_ends pace faults hm he hr healthy hn hc progress now⟩

/-- The machine sets its delay timer in the first of three frames and returns without a call in the
second one: the timer has ticked once, twice, or three times. -/
theorem ways_of_driving_agree_underflow :
    let image : List UInt8 := [0x60, 0x05, 0xF0, 0x15, 0x00, 0xEE]
    let h : Host :=
      { config := { cyclesPerFrame := .ofInt 2 }
        logger := ⟨"chipax", "INFO", false, false, true, .real 0⟩
        space := .least
        meter := RateMeter.start (.ok (.real 3)) (.real 0)
        state := (State.fresh (Random.Key.ofSeed 7) true).loadBytes image
        program := image }
    let told (cs : List Command) := h.obey (cs.map fun c => (10.5, c))
    let s := (h.state.frames 2 1).run 1
    let e := Error.stackUnderflow 0x204
    (h.state.halted = false ∧ h.HasRoom (3 * 2 + 3)) ∧ s.delay = 4 ∧
    (told (cycleByCycle 2 3)).Ends h (.error e) s 2 0 ∧
    (told (frameByFrame 3)).Ends h (.error e) (s.ticks 1) 2 1 ∧
    (told [.runFrames (.whole (3 : Nat)) true]).Ends h (.error e) (s.ticks 2) 0 0 := by
  intro image h told s e
  have healthy : h.state.halted = false := by decide +kernel
  have room : h.HasRoom (3 * 2 + 3) :=
    ⟨⟨_, rfl⟩, ⟨_, rfl⟩, ⟨_, rfl⟩, by decide,
      .inr ⟨by decide +kernel, 0, 0, rfl, by decide +kernel, by decide +kernel⟩⟩
  obtain ⟨first, delay, he⟩ : (∀ j ≤ 2, (h.state.run j).halted = false) ∧ s.delay = 4 ∧
      s.error? = some e := by decide +kernel
  have halted : s.halted = true := by
    rw [← Bool.not_eq_false, ← State.error?_eq_none_iff, he]
    nofun
  have second : ¬ h.state.RunsThrough 2 2 := fun through =>
    absurd (halted.symm.trans (through 1 (by decide) 1 (by decide))) (by decide)
  refine ⟨⟨healthy, room⟩, delay, ?_⟩
  rcases ways_of_driving_agree healthy rfl (.inr ⟨by decide, by decide⟩) room
    (commands_at 10.5 (cycleByCycle 2 3)) (commands_at 10.5 (frameByFrame 3)) 10.5 true with
    ⟨through, -⟩ | ⟨k, j, hk, hj, through, halts, e', he', ends⟩
  · exact absurd (fun k hk => through k (by omega)) second
  · have hk₁ : k ≠ 1 := by
      rintro rfl
      exact absurd (halts.halted.symm.trans (first j hj.2)) (by decide)
    have hk₂ : k ≤ 2 := by
      refine Nat.le_of_not_lt fun hlt => second fun i hi => through i (by omega)
    obtain rfl : k = 2 := by omega
    have hj₁ : j ≤ 1 := by
      refine Nat.le_of_not_lt fun hlt => ?_
      exact absurd (halted.symm.trans (halts.before 1 hlt)) (by decide)
    obtain rfl : j = 1 := by omega
    obtain rfl : e = e' := Option.some.inj (he.symm.trans he')
    exact ends

/-- Frames are counted in 32 bits, cycles one by one are not; and what was counted backwards can get
too large for a report, which only the counting of a frame brings about. -/
theorem ways_of_driving_differ :
    let host (c : Nat) (window : Tally) : Host :=
      { config := { cyclesPerFrame := .ofInt c }
        logger := ⟨"chipax", "INFO", false, false, true, .real 0⟩
        space := .least
        meter := ⟨.ok (.real 3), .real 0, window, window⟩
        state := (State.fresh (Random.Key.ofSeed 7) true).loadBytes [0x00, 0xEE]
        program := [0x00, 0xEE] }
    let told (h : Host) (cs : List Command) := (h.obey (cs.map fun c => (10.5, c))).result
    let e := Error.stackUnderflow 0x200
    let long := host (2 ^ 31) .zero
    let short := host 1 .zero
    let crowded := host 0 (.whole (10 ^ 400) (-10 ^ 400))
    (∀ c window, (host c window).state.halted = false) ∧
    (told long (cycleByCycle (2 ^ 31) 1) = .error e ∧
      told long (frameByFrame 1) = .error (.notAnOperand (2 ^ 31))) ∧
    (told short (frameByFrame (2 ^ 31)) = .error e ∧
      told short [.runFrames (.whole (2 ^ 31 : Nat)) false] = .error (.notAnOperand (2 ^ 31))) ∧
    told crowded (cycleByCycle 0 1) = .ok () ∧
      told crowded (frameByFrame 1) = .error .numberTooLarge := by
  intro host told e long short crowded
  have he : (long.state.run 1).error? = some e := by decide +kernel
  have healthy : long.state.halted = false := by decide +kernel
  have room (c room : Nat) (hroom : room < 2 ^ 33) : (host c .zero).HasRoom room := by
    have small : 2 ^ 33 < Binary.tooLarge := by decide +kernel
    exact ⟨⟨_, rfl⟩, ⟨_, rfl⟩, ⟨_, rfl⟩, Tally.isWhole_zero,
      .inr ⟨by omega, 0, 0, rfl, by omega, by omega⟩⟩
  have faults {c : Nat} (hc : 0 < c) : long.state.FaultsAfter c 0 0 := by
    have halts : (long.state.run 1).halted = true := by decide +kernel
    refine ⟨fun k hk => absurd hk (Nat.not_lt_zero k), hc, State.haltsIn_of_first ?_ halts⟩
    intro j hj
    obtain rfl := Nat.le_zero.mp hj
    exact healthy
  refine ⟨fun _ _ => healthy, ⟨?_, ?_⟩, ⟨?_, ?_⟩, rfl, ?_⟩
  · exact (cycleByCycle_ends (h := long) rfl (faults (by decide)) (by decide) he
      (room _ _ (by decide)) (commands_at _ _)).result
  · decide +kernel
  · exact (frameByFrame_ends (h := short) rfl (faults (by decide)) (by decide) he
      (room _ _ (by decide)) (by decide) (commands_at _ _)).result
  · decide +kernel
  · decide +kernel

end Host

end Chip8
