import Chip8.Command

/-!
# What operations of a host lead to

A message never changes a host, and it is printed wherever the logger can put the time in front of
it (`Logger.CanStamp`). Each run of the machine ends in one of four ways, of which `Host.drive` has
an equation each: it is refused, it cannot be started, the machine halts in it, or it is counted.
-/

namespace Chip8

namespace Outcome

variable {α β : Type} {o : Outcome α}

theorem andThen_of_ok {a : α} (h : o.result = .ok a) (next : Host → α → Outcome β) :
    (o.andThen next).host = (next o.host a).host ∧
      (o.andThen next).result = (next o.host a).result := by
  rw [andThen, h]
  exact ⟨rfl, rfl⟩

theorem andThen_of_error {e : Error} (h : o.result = .error e) (next : Host → α → Outcome β) :
    (o.andThen next).host = o.host ∧ (o.andThen next).result = .error e := by
  rw [andThen, h]
  exact ⟨rfl, rfl⟩

theorem andThen_assoc {γ : Type} (o : Outcome α) (next : Host → α → Outcome β)
    (last : Host → β → Outcome γ) :
    (o.andThen next).andThen last = o.andThen fun h a => (next h a).andThen last := by
  cases h : o.result with
  | error e => simp only [andThen, h]
  | ok a =>
      cases h' : (next o.host a).result <;>
        simp only [andThen, h, h', List.append_assoc]

theorem observed_andThen (h : Host) (a : α) (next : Host → α → Outcome β) :
    (h.observed (.ok a)).andThen next = next h a := rfl

theorem host_done (o : Outcome Unit) : o.done.host = o.host := rfl

theorem result_done_error {o : Outcome Unit} {e : Error} :
    o.done.result = .error e ↔ o.result = .error e := by
  rw [done]
  cases o.result <;> simp [Except.map]

theorem result_done_ok {o : Outcome Unit} : o.done.result = .ok .done ↔ o.result = .ok () := by
  rw [done]
  cases o.result <;> simp [Except.map]

end Outcome

/-! ## Messages -/

/-- Can the logger put this time in front of a line? -/
def Logger.CanStamp (l : Logger) (now : Seconds) : Prop := ∃ stamp, l.stamp now = .ok stamp

/-- A logger that started at a floating-point reading can stamp every such reading. -/
theorem Logger.canStamp_real {l : Logger} {x : Float} (h : l.start = .real x) (y : Float) :
    l.CanStamp (.real y) := by
  rw [CanStamp, stamp, h]
  split
  · exact ⟨_, rfl⟩
  · exact ⟨_, rfl⟩

namespace Host

variable {h : Host} {now : Seconds} {e : Error}

theorem host_told (h : Host) (now : Seconds) (ms : List Message) : (h.told now ms).host = h := by
  rw [told]
  split <;> rfl

theorem result_told (clock : h.logger.CanStamp now) (ms : List Message) :
    (h.told now ms).result = .ok () := by
  obtain ⟨stamp, hstamp⟩ := clock
  rw [told, Logger.print_of_stamp hstamp]
  rfl

theorem host_refuse (h : Host) (now : Seconds) (e : Error) : (h.refuse now e).host = h := by
  rw [refuse]
  cases told : (h.told now [Report.halted e.message]).result with
  | ok _ => rw [(Outcome.andThen_of_ok told _).1]; exact host_told h now _
  | error _ => rw [(Outcome.andThen_of_error told _).1]; exact host_told h now _

theorem result_refuse (clock : h.logger.CanStamp now) (e : Error) :
    (h.refuse now e).result = .error e := by
  rw [refuse, (Outcome.andThen_of_ok (result_told clock _) _).2]
  rfl

theorem host_logRegisters (g : Host) (now : Seconds) : (g.logRegisters now).host = g := by
  have told := host_told g now (Report.registers g.registerFile).1
  change ((g.told now (Report.registers g.registerFile).1).andThen _).host = g
  cases result : (g.told now (Report.registers g.registerFile).1).result with
  | ok _ => rw [(Outcome.andThen_of_ok result _).1]; exact told
  | error e => rw [(Outcome.andThen_of_error result _).1]; exact told

/-! ## Counting -/

theorem host_count (h : Host) (now : Seconds) (t : Tally) : (h.count now t).host =
    { h with meter := (h.meter.countReporting (h.reported now) now t).1 } := by
  rw [count]
  cases report : (h.meter.countReporting (h.reported now) now t).2 with
  | ok _ => rw [(Outcome.andThen_of_ok report _).1]; rfl
  | error _ => rw [(Outcome.andThen_of_error report _).1]; rfl

theorem countAll_cons_of_ok {t : Tally} (counted : (h.count now t).result = .ok ())
    (ts : List (Except Error Tally)) :
    (h.countAll now (.ok t :: ts)).host = ((h.count now t).host.countAll now ts).host ∧
      (h.countAll now (.ok t :: ts)).result =
        ((h.count now t).host.countAll now ts).result := by
  have first : h.countIf now (.ok t) = h.count now t := Outcome.observed_andThen h t _
  rw [countAll, first]
  exact Outcome.andThen_of_ok counted _

/-! ## Runs -/

variable {run : State → Except Error (State × List Progress.Event)}
  {s : State} {bar : List Progress.Event}

theorem drive_of_halted (halted : h.state.error? = some e) (now : Seconds)
    (run : State → Except Error (State × List Progress.Event))
    (tallies : List (Except Error Tally)) :
    h.drive now run tallies = h.refuse now e := by
  rw [drive, halted]

theorem drive_of_refused_run (healthy : h.state.error? = none) (hrun : run h.state = .error e)
    (now : Seconds) (tallies : List (Except Error Tally)) :
    (h.drive now run tallies).host = h ∧ (h.drive now run tallies).result = .error e := by
  rw [drive, healthy]
  exact Outcome.andThen_of_error (o := h.observed (run h.state)) hrun _

theorem drive_of_halting_run (healthy : h.state.error? = none)
    (hrun : run h.state = .ok (s, bar)) (halts : s.error? = some e) (now : Seconds)
    (tallies : List (Except Error Tally)) :
    (h.drive now run tallies).host = { h with state := s } ∧
      (h.drive now run tallies).result = ({ h with state := s }.refuse now e).result := by
  rw [drive, healthy]
  obtain ⟨hhost, hresult⟩ := Outcome.andThen_of_ok (o := h.observed (run h.state)) hrun _
  dsimp only
  rw [hhost, hresult]
  simp only [halts]
  exact ⟨host_refuse _ now e, rfl⟩

theorem drive_of_run (healthy : h.state.error? = none) (hrun : run h.state = .ok (s, bar))
    (runs : s.error? = none) (now : Seconds) (tallies : List (Except Error Tally)) :
    (h.drive now run tallies).host = ({ h with state := s }.countAll now tallies).host ∧
      (h.drive now run tallies).result =
        ({ h with state := s }.countAll now tallies).result := by
  rw [drive, healthy]
  obtain ⟨hhost, hresult⟩ := Outcome.andThen_of_ok (o := h.observed (run h.state)) hrun _
  dsimp only
  rw [hhost, hresult]
  simp only [runs]
  exact ⟨rfl, rfl⟩

end Host

end Chip8
