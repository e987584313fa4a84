import Chip8.Proofs.HostOutcome

/-!
# Ordinary errors

Machine errors come from a machine: it halts, or it refuses a program. All else that can go wrong
fails with ordinary errors, if it fails (`Ordinary`): times, lines and rates that there are not,
loops that cannot be counted, arrays that are none. The settings of a host are a case of their own,
since they bring errors with them. If none of these is of some sort of machine errors (`OfMachine`),
then counting fails with no error of this sort either (`Host.avoids_countAll`), and a run that does
has left its machine halted (`Host.exists_of_drive_raised`).
-/

namespace Chip8

/-- Does this fail, if it fails, with no error of this sort? -/
def Avoids {α : Type} (sort : Error → Bool) (r : Except Error α) : Prop :=
  ∀ e, r = .error e → sort e = false

/-- Are all errors of this sort machine errors? -/
def OfMachine (sort : Error → Bool) : Prop := ∀ e, sort e = true → e.isMachineError = true

/-- Does this fail, if it fails, with no machine error? -/
def Ordinary {α : Type} (r : Except Error α) : Prop := Avoids Error.isMachineError r

section

variable {α β : Type} {sort : Error → Bool} {r : Except Error α}

theorem avoids_ok (a : α) : Avoids sort (.ok a : Except Error α) := nofun

theorem avoids_error {e : Error} (h : sort e = false) :
    Avoids sort (.error e : Except Error α) := by
  rintro _ ⟨⟩
  exact h

theorem Avoids.bind {f : α → Except Error β} (hr : Avoids sort r) (hf : ∀ a, Avoids sort (f a)) :
    Avoids sort (r >>= f) := by
  cases r with
  | ok a => exact hf a
  | error e => exact avoids_error (hr e rfl)

theorem Avoids.map (hr : Avoids sort r) (f : α → β) : Avoids sort (r.map f) := by
  cases r with
  | ok a => exact avoids_ok _
  | error e => exact avoids_error (hr e rfl)

theorem avoids_mapM {f : α → Except Error β} {xs : List α} (hf : ∀ x ∈ xs, Avoids sort (f x)) :
    Avoids sort (xs.mapM f) := by
  induction xs with
  | nil => exact avoids_ok _
  | cons x xs ih =>
      rw [List.mapM_cons]
      refine (hf x List.mem_cons_self).bind fun y => ?_
      refine (ih fun z hz => hf z (List.mem_cons_of_mem x hz)).bind fun ys => ?_
      exact avoids_ok (y :: ys)

theorem avoids_foldlM {f : β → α → Except Error β} {xs : List α}
    (hf : ∀ b, ∀ x ∈ xs, Avoids sort (f b x)) (b : β) : Avoids sort (xs.foldlM f b) := by
  induction xs generalizing b with
  | nil => exact avoids_ok b
  | cons x xs ih =>
      rw [List.foldlM_cons]
      exact (hf b x List.mem_cons_self).bind
        (ih fun c y hy => hf c y (List.mem_cons_of_mem x hy))

/-- Where there are no machine errors, there are none of any sort of them. -/
theorem Ordinary.avoids (hr : Ordinary r) (machine : OfMachine sort) : Avoids sort r := by
  intro e he
  rw [← Bool.not_eq_true]
  intro hit
  exact absurd ((hr e he).symm.trans (machine e hit)) Bool.false_ne_true

end

/-! ## Times and lines -/

theorem Seconds.ordinary_toFloat (t : Seconds) : Ordinary t.toFloat := by
  cases t with
  | real x => exact avoids_ok _
  | whole n =>
      rw [toFloat]
      split
      · exact avoids_ok _
      · exact avoids_error rfl

theorem Seconds.ordinary_since (later earlier : Seconds) : Ordinary (later.since earlier) := by
  unfold since
  split
  · exact avoids_ok _
  · exact (ordinary_toFloat _).bind fun _ => (ordinary_toFloat _).bind fun _ => avoids_ok _

theorem Seconds.ordinary_per (t : Seconds) (count : Count) : Ordinary (t.per count) := by
  unfold per
  split
  · split
    · exact avoids_ok _
    · exact avoids_error rfl
  · refine (ordinary_toFloat _).bind fun _ => ?_
    split
    · exact avoids_ok _
    · exact avoids_error rfl

theorem Tally.ordinary_perSecond (t : Tally) (length : Seconds) :
    Ordinary (t.perSecond length) :=
  (Seconds.ordinary_per _ _).bind fun _ => (Seconds.ordinary_per _ _).bind fun _ =>
    avoids_ok _

theorem Logger.ordinary_stamp (l : Logger) (now : Seconds) : Ordinary (l.stamp now) := by
  rw [stamp]
  split
  · exact ((Seconds.ordinary_since _ _).bind fun _ => (Seconds.ordinary_toFloat _).bind
      fun _ => avoids_ok _)
  · exact avoids_ok _

theorem Logger.ordinary_print (l : Logger) (now : Seconds) (ms : List Message) :
    Ordinary (l.print now ms) := by
  rw [print]
  split
  · exact avoids_ok _
  · exact (l.ordinary_stamp now).map _

/-! ## Loops -/

theorem Loop.ordinary_countable (n : Int) : Ordinary (Loop.countable n) := by
  rw [countable]
  split
  · exact avoids_ok _
  · exact avoids_error rfl

theorem Loop.ordinary_numberable (space : Space) (n : Int) :
    Ordinary (Loop.numberable space n) := by
  rw [numberable]
  split
  · exact avoids_error rfl
  · exact avoids_ok _

theorem State.ordinary_countable (cycles n : Int) : Ordinary (State.countable cycles n) := by
  rw [countable]
  split
  · exact (Loop.ordinary_countable n).bind fun _ => Loop.ordinary_countable cycles
  · exact avoids_ok _

theorem State.ordinary_frameGiven (s : State) (cycles : Int) : Ordinary (s.frameGiven cycles) :=
  (Loop.ordinary_countable cycles).map _

theorem State.ordinary_framesGiven (s : State) (space : Space) (cycles n : Int) :
    Ordinary (s.framesGiven space cycles n) :=
  (Loop.ordinary_numberable space n).bind fun _ => (State.ordinary_countable cycles n).bind fun _ =>
    avoids_ok _

theorem Progress.Plan.ordinary_checked (p : Progress.Plan) (space : Space) :
    Ordinary (p.checked space) := by
  rw [checked]
  refine (Loop.ordinary_numberable _ _).bind fun _ => ?_
  split
  · exact (Loop.ordinary_countable _).bind fun _ => (Loop.ordinary_countable _).bind fun _ =>
      avoids_ok _
  · exact (Loop.ordinary_countable _).bind fun _ => avoids_ok _

theorem Host.ordinary_framesWatched (s : State) (space : Space) (cycles : Int) (n : Count) :
    Ordinary (Host.framesWatched s space cycles n) :=
  (Progress.Plan.ordinary_checked _ space).bind fun _ =>
    (State.ordinary_countable _ _).bind fun _ => avoids_ok _

/-! ## Arrays and registers -/

theorem NestedArray.ordinary_checked {α : Type} (a : NestedArray α) : Ordinary a.checked := by
  simp only [checked]
  split
  · exact avoids_ok _
  · split
    · exact avoids_error rfl
    · exact avoids_error rfl

theorem State.ordinary_setKeys (s : State) (states : NestedArray Bool) :
    Ordinary (s.setKeys states) := by
  refine (NestedArray.ordinary_checked states).bind fun _ => ?_
  split
  · exact avoids_ok _
  · exact avoids_error rfl

theorem Report.ordinary_registers (file : Report.RegisterFile) :
    ∀ e, (Report.registers file).2 = some e → e.isMachineError = false := by
  intro e he
  simp only [registers] at he
  split at he
  · cases he
  · cases he
    rfl

/-! ## Operations of a host -/

section

variable {sort : Error → Bool}

theorem Outcome.avoids_andThen {α β : Type} {o : Outcome α} {next : Host → α → Outcome β}
    (ho : Avoids sort o.result) (hnext : ∀ a, Avoids sort (next o.host a).result) :
    Avoids sort (o.andThen next).result := by
  cases h : o.result with
  | ok a => rw [(andThen_of_ok h _).2]; exact hnext a
  | error e => rw [(andThen_of_error h _).2]; exact avoids_error (ho e h)

namespace RateMeter

variable {m : RateMeter Seconds} {ρ : Type} {report : Window Seconds → Except Error ρ}

theorem avoids_full? (machine : OfMachine sort) (hm : Avoids sort m.interval) (now : Seconds) :
    Avoids sort (m.full? now) := by
  rw [full?]
  split
  · rename_i e he
    exact avoids_error (hm e he)
  · split
    · exact avoids_ok _
    · exact ((Seconds.ordinary_since _ _).avoids machine).map _

theorem avoids_countReporting (machine : OfMachine sort) (hm : Avoids sort m.interval)
    (hreport : ∀ w, Ordinary (report w)) (now : Seconds) (t : Tally) :
    Avoids sort (m.countReporting report now t).2 := by
  have full := avoids_full? (m := m.add t) machine hm now
  rw [countReporting, count]
  cases hfull : (m.add t).full? now with
  | error e => exact avoids_error (full e hfull)
  | ok length =>
      cases length with
      | none => exact avoids_ok _
      | some length =>
          dsimp only
          split
          · exact avoids_ok _
          · rename_i e he
            exact avoids_error ((hreport _).avoids machine e he)

theorem interval_countReporting (m : RateMeter Seconds) (now : Seconds) (t : Tally) :
    (m.countReporting report now t).1.interval = m.interval := by
  rw [countReporting, count]
  cases (m.add t).full? now with
  | error e => rfl
  | ok length =>
      cases length with
      | none => rfl
      | some length =>
          dsimp only
          split <;> rfl

end RateMeter

namespace Host

variable {h : Host} {now : Seconds} {e : Error}

theorem ordinary_told (h : Host) (now : Seconds) (ms : List Message) :
    Ordinary (h.told now ms).result := by
  have print := h.logger.ordinary_print now ms
  rw [told]
  split
  · exact avoids_ok _
  · rename_i e he
    exact avoids_error (print e he)

theorem ordinary_logRegisters (h : Host) (now : Seconds) :
    Ordinary (h.logRegisters now).result := by
  have registers := Report.ordinary_registers h.registerFile
  rw [logRegisters]
  rcases hfile : Report.registers h.registerFile with ⟨messages, error?⟩
  rw [hfile] at registers
  refine Outcome.avoids_andThen (ordinary_told h now messages) fun _ => ?_
  cases error? with
  | none => exact avoids_ok _
  | some e => exact avoids_error (registers e rfl)

theorem ordinary_attempt (h : Host) {change : Except Error State} (hc : Ordinary change) :
    Ordinary (h.attempt change).result := by
  cases change with
  | ok s => exact avoids_ok _
  | error e => exact avoids_error (hc e rfl)

theorem ordinary_memoryWindow (h : Host) (start length : Int) :
    Ordinary (h.memoryWindow start length) := by
  rw [memoryWindow]
  split
  · exact avoids_error rfl
  · exact avoids_ok _

theorem avoids_count (machine : OfMachine sort) (hm : Avoids sort h.meter.interval) (t : Tally) :
    Avoids sort (h.count now t).result := by
  have reported (w : Window Seconds) : Ordinary (h.reported now w) :=
    (Tally.ordinary_perSecond _ _).bind fun _ => h.logger.ordinary_print now _
  exact Outcome.avoids_andThen (RateMeter.avoids_countReporting machine hm reported now t)
    fun _ => avoids_ok _

theorem avoids_countIf (machine : OfMachine sort) (hm : Avoids sort h.meter.interval)
    {t : Except Error Tally} (ht : Avoids sort t) :
    Avoids sort (h.countIf now t).result :=
  Outcome.avoids_andThen ht fun t => avoids_count machine hm t

theorem interval_countIf (h : Host) (now : Seconds) (t : Except Error Tally) :
    (h.countIf now t).host.meter.interval = h.meter.interval := by
  rw [countIf]
  cases t with
  | error e => rfl
  | ok t =>
      rw [(Outcome.andThen_of_ok rfl _).1, host_count]
      exact RateMeter.interval_countReporting _ now t

theorem avoids_countAll (machine : OfMachine sort) (hm : Avoids sort h.meter.interval)
    (now : Seconds) {ts : List (Except Error Tally)} (hts : ∀ t ∈ ts, Avoids sort t) :
    Avoids sort (h.countAll now ts).result := by
  induction ts generalizing h with
  | nil => exact avoids_ok _
  | cons t ts ih =>
      refine Outcome.avoids_andThen (avoids_countIf machine hm (hts t List.mem_cons_self)) ?_
      intro _
      refine ih ?_ fun u hu => hts u (List.mem_cons_of_mem t hu)
      rwa [interval_countIf]

/-! ## Runs that raise machine errors -/

theorem eq_of_refuse_raised {e' : Error} (raised : (h.refuse now e').result = .error e)
    (machine : e.isMachineError = true) : e' = e := by
  cases told : (h.told now [Report.halted e'.message]).result with
  | ok _ =>
      rw [refuse, (Outcome.andThen_of_ok told _).2] at raised
      exact Except.error.inj raised
  | error e'' =>
      rw [refuse, (Outcome.andThen_of_error told _).2] at raised
      obtain rfl := Except.error.inj raised
      rw [ordinary_told h now _ _ told] at machine
      cases machine

variable {run : State → Except Error (State × List Progress.Event)}
  {tallies : List (Except Error Tally)}

/-- If a machine that is not halted is run, and this raises a machine error that the settings do not
bring with them, then the machine has halted in the run. -/
theorem exists_of_drive_raised (machine : OfMachine sort)
    (hrun : ∀ s, Avoids sort (run s)) (hts : ∀ t ∈ tallies, Avoids sort t)
    (hm : Avoids sort h.meter.interval) (healthy : h.state.error? = none)
    (raised : (h.drive now run tallies).result = .error e) (hit : sort e = true) :
    ∃ s bar, run h.state = .ok (s, bar) ∧ s.error? = some e := by
  cases result : run h.state with
  | error e' =>
      rw [(drive_of_refused_run healthy result now tallies).2] at raised
      obtain rfl := Except.error.inj raised
      rw [hrun h.state e' result] at hit
      cases hit
  | ok r =>
      obtain ⟨s, bar⟩ := r
      refine ⟨s, bar, rfl, ?_⟩
      cases halts : s.error? with
      | some e' =>
          rw [(drive_of_halting_run healthy result halts now tallies).2] at raised
          rw [eq_of_refuse_raised raised (machine e hit)]
      | none =>
          rw [(drive_of_run healthy result halts now tallies).2] at raised
          have hm' : Avoids sort { h with state := s }.meter.interval := hm
          rw [avoids_countAll machine hm' now hts e raised] at hit
          cases hit

/-- A run that raises such an error leaves its machine halted with it. -/
theorem error?_of_drive (machine : OfMachine sort)
    (hrun : ∀ s, Avoids sort (run s)) (hts : ∀ t ∈ tallies, Avoids sort t)
    (hm : Avoids sort h.meter.interval) (raised : (h.drive now run tallies).result = .error e)
    (hit : sort e = true) : (h.drive now run tallies).host.state.error? = some e := by
  cases healthy : h.state.error? with
  | some e' =>
      rw [drive_of_halted healthy] at raised ⊢
      rw [host_refuse, healthy, eq_of_refuse_raised raised (machine e hit)]
  | none =>
      obtain ⟨s, bar, result, halts⟩ :=
        exists_of_drive_raised machine hrun hts hm healthy raised hit
      rw [(drive_of_halting_run healthy result halts now tallies).1]
      exact halts

end Host

end

end Chip8
