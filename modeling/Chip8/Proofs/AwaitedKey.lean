import Chip8.Proofs.Commuting

/-!
# Waiting for a key

FX0A without a pressed key puts itself on record and does nothing else, so the machine comes back to
it in every cycle, and all that time does is to run the timers down
(`State.Waits.foldlM_frameGiven`). The machine waits through any number of cycles, frames and ticks,
and goes on in the first cycle that finds a pressed key: VX takes the lowest one
(`State.awaits_key`).
-/

namespace Chip8

namespace Keypad

/-- Of the pressed keys one is the lowest. -/
theorem exists_lowest? {p : Keypad} {k : Fin keyCount} (pressed : p.get k = true) :
    ∃ j, p.lowest? = some j := by
  cases lowest : p.lowest? with
  | some j => exact ⟨j, rfl⟩
  | none => cases (lowest?_eq_none_iff.mp lowest k).symm.trans pressed

end Keypad

/-- Does the event let time pass? -/
def Event.passesTime : Event → Bool
  | .step | .run _ | .frame _ | .tick => true
  | .create _ _ | .load _ _ | .setKeys _ | .press _ | .release _ => false

namespace State

variable {s t : State} {e : Event} {es : List Event}

/-! ## Time passes -/

/-- Is the machine at the word FX0A, with no key pressed? -/
structure Waits (s : State) : Prop where
  running : s.halted = false
  word : Operation.ldKey.Form (Fields.ofWord s.fetch.toNat)
  released : ∀ k, s.keypad.get k = false

/-- What time makes of a machine that waits: the timers are down by so many ticks, and a word is on
record. -/
def idle (s : State) (n : Nat) (w : UInt16) : State := { s.ticks n with opcode := w }

theorem idle_idle (s : State) (m n : Nat) (w w' : UInt16) :
    (s.idle m w).idle n w' = s.idle (m + n) w' :=
  congrArg (fun t : State => { t with opcode := w' }) (ticks_ticks s m n)

theorem idle_zero (s : State) (w : UInt16) : s.idle 0 w = { s with opcode := w } := by
  rw [idle, ticks_zero]

theorem tick_idle (s : State) (n : Nat) (w : UInt16) : (s.idle n w).tick = s.idle (n + 1) w :=
  idle_idle s n 1 w w

namespace Waits

variable {n : Nat} {c : Int}

theorem idle (waits : s.Waits) (n : Nat) (w : UInt16) : (s.idle n w).Waits :=
  ⟨waits.running, waits.word, waits.released⟩

theorem step_eq (waits : s.Waits) : s.step = s.idle 0 s.fetch := by
  rw [step_of_form waits.running waits.word nofun, idle_zero]
  change awaitKey _ _ = _
  rw [awaitKey, Keypad.lowest?_eq_none_iff.mpr waits.released]

theorem run_eq (waits : s.Waits) (n : Nat) : s.run (n + 1) = s.idle 0 s.fetch := by
  induction n with
  | zero => exact waits.step_eq
  | succ n ih =>
      rw [run_succ, ih, (waits.idle 0 _).step_eq, idle_idle]
      rfl

theorem frame_eq (waits : s.Waits) (hc : 1 ≤ c) : s.frame c = s.idle 1 s.fetch := by
  obtain ⟨m, hm⟩ := Nat.exists_eq_add_of_le' (show 1 ≤ c.toNat by omega)
  rw [frame, hm, waits.run_eq, tick_idle]

/-- Frames that a host asks for, one after the other. -/
theorem foldlM_frameGiven (waits : s.Waits) {cs : List Int}
    (countable : ∀ c ∈ cs, 1 ≤ c ∧ c < 0x80000000) :
    cs.foldlM frameGiven s = .ok (s.idle cs.length (if cs = [] then s.opcode else s.fetch)) := by
  induction cs using List.reverseRecOn with
  | nil => exact congrArg Except.ok (idle_zero s _).symm
  | append_singleton cs c ih =>
      have earlier := ih fun c hc => countable c (List.mem_append_left _ hc)
      obtain ⟨low, high⟩ := countable c (List.mem_append_right _ (List.mem_singleton_self c))
      have last := frameGiven_of_fits (s.idle cs.length (if cs = [] then s.opcode else s.fetch))
        (c := c) (by omega) high
      rw [(waits.idle _ _).frame_eq low, idle_idle] at last
      have some : cs ++ [c] ≠ [] := List.append_ne_nil_of_right_ne_nil cs (List.cons_ne_nil c [])
      rw [List.foldlM_append, earlier, ok_bind, List.foldlM_cons, last, ok_bind, List.foldlM_nil,
        List.length_append, List.length_singleton, if_neg some]
      rfl

/-- Whatever makes the time pass, the machine waits on. -/
theorem exists_idle_afterEvent (waits : s.Waits) (passes : e.passesTime = true) :
    ∃ n w, s.afterEvent e = s.idle n w := by
  have none : s = s.idle 0 s.opcode := (idle_zero s s.opcode).symm
  have ran (m : Nat) : ∃ w, s.run m = s.idle 0 w := by
    cases m with
    | zero => exact ⟨_, none⟩
    | succ m => exact ⟨_, waits.run_eq m⟩
  rw [afterEvent]
  split
  · rename_i t handled
    cases e with
    | step => exact ⟨0, _, (Except.ok.inj handled).symm.trans waits.step_eq⟩
    | tick => exact ⟨1, s.opcode, (Except.ok.inj handled).symm⟩
    | run n =>
        obtain ⟨w, hw⟩ := ran n.toNat
        exact ⟨0, w, (eq_run_of_runGiven handled).trans hw⟩
    | frame c =>
        obtain ⟨w, hw⟩ := ran c.toNat
        refine ⟨1, w, (eq_frame_of_frameGiven handled).trans ?_⟩
        rw [frame, hw, tick_idle]
    | create _ _ | load _ _ | setKeys _ | press _ | release _ => cases passes
  · exact ⟨0, _, none⟩

theorem exists_idle_after (waits : s.Waits) (passes : ∀ e ∈ es, e.passesTime = true) :
    ∃ n w, s.after es = s.idle n w := by
  induction es using List.reverseRecOn with
  | nil => exact ⟨0, _, (idle_zero s s.opcode).symm⟩
  | append_singleton es e ih =>
      obtain ⟨m, w, before⟩ := ih fun e he => passes e (List.mem_append_left _ he)
      have last := passes e (List.mem_append_right _ (List.mem_singleton_self e))
      obtain ⟨n, w', after⟩ := (waits.idle m w).exists_idle_afterEvent last
      exact ⟨m + n, w', by rw [after_snoc, before, after, idle_idle]⟩

end Waits

/-! ## Keys move -/

theorem exists_keypad_after (moves : ∀ e ∈ es, e.movesKeys = true) (s : State) :
    ∃ keypad, s.after es = { s with keypad := keypad } := by
  induction es using List.reverseRecOn with
  | nil => exact ⟨s.keypad, rfl⟩
  | append_singleton es e ih =>
      obtain ⟨keypad, before⟩ := ih fun e he => moves e (List.mem_append_left _ he)
      have last := moves e (List.mem_append_right _ (List.mem_singleton_self e))
      rw [after_snoc, before, afterEvent, handle_of_movesKeys last]
      cases e.keysAfter keypad with
      | ok moved => exact ⟨moved, rfl⟩
      | error _ => exact ⟨keypad, rfl⟩

/-- A pressed key is stored, in spite of the timers and of what is on record. -/
theorem step_of_pressed {k : Fin keyCount} (running : s.halted = false)
    (word : Operation.ldKey.Form (Fields.ofWord s.fetch.toNat))
    (lowest : s.keypad.lowest? = some k) :
    s.step = { s.setV (Fields.ofWord s.fetch.toNat).x (UInt8.ofNat k.val) with
      pc := wrap (s.pc.toNat + 2), opcode := s.fetch } := by
  rw [step_of_form running word nofun]
  change awaitKey _ _ = _
  rw [awaitKey, lowest]
  rfl

/-- **A machine waits for a key until there is one.** While no key is pressed, frames only run the
timers down and put FX0A on record, however many there are, as long as the cycles of each can be
counted. If keys are moved then and some of them are pressed, the next cycle stores the lowest of
these in VX and goes on; it changes nothing else, and there is no fault. -/
theorem awaits_key (waits : s.Waits) :
    (∀ cs : List Int, (∀ c ∈ cs, 1 ≤ c ∧ c < 0x80000000) →
      cs.foldlM frameGiven s =
        .ok { s.ticks cs.length with opcode := if cs = [] then s.opcode else s.fetch }) ∧
    (∀ c : Int, 0x80000000 ≤ c → s.frameGiven c = .error (.notAnOperand c)) ∧
    ∀ idle keys : List Event, (∀ e ∈ idle, e.passesTime = true) →
      (∀ e ∈ keys, e.movesKeys = true) → ∀ t, s.after (idle ++ keys) = t →
        ((∀ k, t.keypad.get k = false) → t.Waits) ∧
        ((∃ k, t.keypad.get k = true) →
          ∃ k, t.keypad.get k = true ∧ (∀ j < k, t.keypad.get j = false) ∧
            t.step = { t.setV (Fields.ofWord s.fetch.toNat).x (UInt8.ofNat k.val) with
              pc := wrap (s.pc.toNat + 2), opcode := s.fetch } ∧
            t.step.halted = false) := by
  refine ⟨fun _ => waits.foldlM_frameGiven, fun c long => (s.refused_of_long long).2, ?_⟩
  · rintro idle keys passes moves t rfl
    obtain ⟨n, w, idled⟩ := waits.exists_idle_after passes
    obtain ⟨keypad, moved⟩ := exists_keypad_after moves (s.idle n w)
    rw [after_append, idled, moved]
    -- the machine stands where it stood, and only the keypad decides
    have running : { s.idle n w with keypad := keypad }.halted = false := waits.running
    have word : Operation.ldKey.Form
      (Fields.ofWord { s.idle n w with keypad := keypad }.fetch.toNat) := waits.word
    constructor
    · exact fun released => ⟨running, word, released⟩
    · rintro ⟨k, pressed⟩
      obtain ⟨j, lowest⟩ := Keypad.exists_lowest? pressed
      obtain ⟨down, least⟩ := Keypad.lowest?_eq_some_iff.mp lowest
      have stored := step_of_pressed running word lowest
      refine ⟨j, down, least, stored, ?_⟩
      rw [stored]
      exact running

/-- Three cycles and three ticks; then keys move, and two of them are pressed at the end. -/
theorem awaits_key_pressed :
    let s := { (fresh (Random.Key.ofSeed 7) true).loadBytes [0xFF, 0x0A] with delay := 3 }
    let t := s.after ([.frame 2, .tick, .frame 1] ++ [.press 12, .press 5, .release 12, .press 9])
    s.Waits ∧ [9, 1, 9, 9, 2].foldlM frameGiven s = .ok { s with opcode := 0xFF0A, delay := 0 } ∧
      t.step.getV flagRegister = 5 ∧ t.step.pc = 0x202 := by
  intro s t
  have fetched : s.fetch = 0xFF0A := by decide +kernel
  have pc : s.pc = 0x200 := rfl
  have ticked : s.ticks 5 = { s with delay := 0 } := rfl
  have waits : s.Waits := ⟨rfl, by rw [fetched]; exact ⟨rfl, rfl⟩, by decide +kernel⟩
  have pressed : ∀ k, t.keypad.get k = true ↔ k.val = 5 ∨ k.val = 9 := by decide +kernel
  have later : s.after
    ([.frame 2, .tick, .frame 1] ++ [.press 12, .press 5, .release 12, .press 9]) = t := rfl
  clear_value s t
  obtain ⟨frames, -, key⟩ := awaits_key waits
  have idled := frames [9, 1, 9, 9, 2] (by decide)
  obtain ⟨-, stores⟩ := key _ _ (by decide) (by decide) t later
  let five : Fin keyCount := ⟨5, by decide⟩
  obtain ⟨k, down, least, stored, -⟩ := stores ⟨five, (pressed five).mpr (.inl rfl)⟩
  have lowest : k.val = 5 := by
    rcases (pressed k).mp down with h | h
    · exact h
    · -- the other pressed key is above this one
      have up := least five (Fin.lt_def.mpr (by rw [h]; decide))
      cases up.symm.trans ((pressed five).mpr (.inl rfl))
  refine ⟨waits, ?_, ?_, ?_⟩
  · rw [idled, if_neg (List.cons_ne_nil _ _), fetched]
    exact congrArg (fun t : State => Except.ok { t with opcode := 0xFF0A }) ticked
  · rw [stored, fetched, lowest]
    exact (getV_setV _ flagRegister flagRegister _).trans (if_pos rfl)
  · rw [stored, pc]
    rfl

/-- A frame whose cycles cannot be counted does not even tick. -/
theorem long_wait_refused :
    let s := (fresh (Random.Key.ofSeed 7) true).after
      [.load [0x60, 0x05, 0xF0, 0x15, 0xF3, 0x0A] true, .step, .step]
    s.Waits ∧ s.delay = 5 ∧ s.frameGiven 0x80000000 = .error (.notAnOperand 0x80000000) ∧
      s.afterEvent (.frame 0x80000000) = s := by
  intro s
  have shown : s.fetch = 0xF30A ∧ s.halted = false ∧ (∀ k, s.keypad.get k = false) ∧
      s.delay = 5 := by decide +kernel
  clear_value s
  obtain ⟨fetched, running, released, delay⟩ := shown
  have refused := (s.refused_of_long (n := 0x80000000) (by decide)).2
  refine ⟨⟨running, by rw [fetched]; exact ⟨rfl, rfl⟩, released⟩, delay, refused, ?_⟩
  rw [afterEvent, handle, refused]

end State

end Chip8
