import Chip8.Proofs.OrdinaryErrors

/-!
# Errors that are no faults

Three of the machine errors tell of a fault of the machine (`Error.isFault`); the fourth refuses a
program. A host fails with other errors, if it fails, in all that it does (`Faultless`), unless it
is asked for a run. A fault that it raises is therefore that of its machine, which is halted with it
(`Host.error?_of_raised`).
-/

namespace Chip8

def Error.isFault : Error → Bool
  | .unsupportedOpcode _ _ | .stackOverflow _ | .stackUnderflow _ => true
  | _ => false

theorem Error.ofMachine_isFault : OfMachine isFault := by
  intro e h
  cases e with
  | unsupportedOpcode _ _ | stackOverflow _ | stackUnderflow _ => rfl
  | _ => cases h

def Faultless {α : Type} (r : Except Error α) : Prop := ∀ e, r = .error e → e.isFault = false

section

variable {α β : Type} {r : Except Error α}

theorem faultless_ok (a : α) : Faultless (.ok a : Except Error α) := avoids_ok a

theorem Faultless.map (hr : Faultless r) (f : α → β) : Faultless (r.map f) := Avoids.map hr f

theorem Ordinary.faultless (hr : Ordinary r) : Faultless r :=
  hr.avoids Error.ofMachine_isFault

end

/-- If the settings of a host cannot be used, they are refused with errors of their own, which tell
of no fault. -/
structure Host.FaultlessSettings (h : Host) : Prop where
  run : Faultless h.config.cyclesPerFrame.run
  counted : Faultless h.config.cyclesPerFrame.counted
  interval : Faultless h.meter.interval

/-! ## Loading -/

theorem State.faultless_load (s : State) (data : List Int) (strict : Bool) :
    Faultless (s.load data strict) := by
  rw [load]
  split
  · exact avoids_error rfl
  · split
    · exact avoids_error rfl
    · exact avoids_ok _

namespace Host

variable {h : Host} {now : Seconds} {e : Error}

theorem faultless_load (h : Host) (now : Seconds) (data : List Int) (source : String) :
    Faultless (h.load now data source).result := by
  have load := h.state.faultless_load data h.config.strictLoad
  rw [Host.load]
  split
  · exact (ordinary_told _ now _).faultless
  · rename_i e he
    exact avoids_error (load e he)

/-! ## Faults that are raised -/

theorem faultless_done {o : Outcome Unit} (ho : Faultless o.result) : Faultless o.done.result :=
  ho.map _

/-- **Only a halted machine raises a fault, and it is halted with that very fault.** -/
theorem error?_of_raised {c : Command} (settings : h.FaultlessSettings)
    (source : ∀ path contents, c = .loadFile path contents → Faultless contents)
    (raised : (h.perform now c).result = .error e) (fault : e.isFault = true) :
    (h.perform now c).host.state.error? = some e := by
  have machine := Error.ofMachine_isFault
  have contradiction (h : Faultless (h.perform now c).result) : False := by
    rw [h e raised] at fault
    cases fault
  cases c with
  | step =>
      refine error?_of_drive machine ?_ ?_ settings.interval
        (Outcome.result_done_error.mp raised) fault
      · intro s
        exact avoids_ok _
      · simpa using avoids_ok _
  | runFrame =>
      refine error?_of_drive machine ?_ ?_ settings.interval
        (Outcome.result_done_error.mp raised) fault
      · intro s
        refine Avoids.bind settings.run fun _ => ?_
        exact ((s.ordinary_frameGiven _).avoids machine).bind fun _ => avoids_ok _
      · simpa using ⟨settings.counted.map _, avoids_ok _⟩
  | runFrames n progress =>
      refine error?_of_drive machine ?_ ?_ settings.interval
        (Outcome.result_done_error.mp raised) fault
      · intro s
        refine Avoids.bind settings.run fun _ => ?_
        split
        · exact (ordinary_framesWatched s _ _ n).avoids machine
        · exact ((s.ordinary_framesGiven _ _ _).avoids machine).bind fun _ => avoids_ok _
      · simpa using ⟨settings.counted.map _, avoids_ok _⟩
  | load data name => exact (contradiction (faultless_done (faultless_load h now data name))).elim
  | loadFile path contents =>
      refine (contradiction (faultless_done ?_)).elim
      exact Outcome.avoids_andThen (source path contents rfl) fun _ => faultless_load _ _ _ _
  | reload => exact (contradiction (faultless_done (ordinary_told _ now _).faultless)).elim
  | setKeys states =>
      have keys := ordinary_attempt h (h.state.ordinary_setKeys states)
      exact (contradiction (faultless_done keys.faultless)).elim
  | logRegisters =>
      exact (contradiction (faultless_done (ordinary_logRegisters h now).faultless)).elim
  | memoryWindow start length =>
      exact (contradiction ((h.ordinary_memoryWindow _ _).faultless.map _)).elim
  | programDump => exact (contradiction ((h.ordinary_memoryWindow _ _).faultless.map _)).elim
  | elapsed => exact (contradiction ((Seconds.ordinary_per _ _).faultless.map _)).elim
  | rates =>
      refine (contradiction (Faultless.map (Ordinary.faultless ?_) _)).elim
      exact (Seconds.ordinary_since _ _).bind fun _ => Tally.ordinary_perSecond _ _
  | tick | press _ | release _ | configure _ | currentInstruction | framebuffer | keys =>
      exact (contradiction (faultless_ok _)).elim

end Host

end Chip8
