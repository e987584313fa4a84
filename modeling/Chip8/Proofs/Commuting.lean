import Chip8.Proofs.Exchange

/-!
# Host events between cycles

A tick changes the timers and a key that moves changes the keypad, and each of the two is looked at
by few operations only. As long as a run does without those, it is all one at which of its cycles
the event happens: the machine executes the same words, even where the program rewrites itself,
faults in the same cycle or not at all, and ends in the same state (`State.Commutes`).
-/

namespace Chip8

namespace Event

def movesKeys : Event → Bool
  | setKeys _ | press _ | release _ => true
  | _ => false

def keysAfter (e : Event) (keypad : Keypad) : Except Error Keypad :=
  match e with
  | setKeys states => do
      let states ← states.checked
      match Keypad.ofStates? states with
      | some keypad => return keypad
      | none => throw (.keyShape states.shape)
  | press k => .ok (keypad.put k true)
  | release k => .ok (keypad.put k false)
  | _ => .ok keypad

end Event

namespace Exchange

def tick : Exchange where
  delay b := UInt8.ofNat (b.toNat - 1)
  sound b := UInt8.ofNat (b.toNat - 1)

def keys (keypad : Keypad) : Exchange where
  keypad _ := keypad

theorem hidden_tick {s : State} {i : Instruction} (h : i.operation.usesTimers = false) :
    tick.Hidden s i where
  delay uses := by rw [h] at uses; cases uses
  sound uses := by rw [h] at uses; cases uses

theorem hidden_keys {s : State} {i : Instruction} {keypad : Keypad}
    (h : i.operation.usesKeypad = false) : (keys keypad).Hidden s i where
  keypad uses := by rw [h] at uses; cases uses

end Exchange

namespace State

variable {s t : State} {e : Event} {n : Nat}

/-! ## Keys -/

theorem keypad_of_executes {i? : Option Instruction} (h : s.Executes i? t) :
    t.keypad = s.keypad := by
  cases h with
  | nothing => rfl
  | instruction i opcode => exact (spared_perform _ i).keypad

theorem keypad_run (s : State) (n : Nat) : (s.run n).keypad = s.keypad := by
  induction n with
  | zero => rfl
  | succ n ih => rw [run_succ, keypad_of_executes (executes_step _), ih]

/-- An event that moves keys exchanges the keypad and nothing else. -/
theorem handle_of_movesKeys (moves : e.movesKeys = true) (s : State) :
    s.handle e = (e.keysAfter s.keypad).map fun keypad => s.exchange (.keys keypad) := by
  cases e with
  | press _ | release _ => rfl
  | setKeys states =>
      simp only [handle, setKeys, Event.keysAfter, bind, Except.bind]
      cases states.checked with
      | error _ => rfl
      | ok checked =>
          dsimp only
          cases Keypad.ofStates? checked <;> rfl
  | _ => cases moves

/-! ## Events that commute with cycles -/

/-- Do the next `n` cycles do without operations of a kind? A halted machine executes none. -/
def Avoids (s : State) (kind : Operation → Bool) (n : Nat) : Prop :=
  ∀ k < n, ∀ i ∈ (step^[k] s).instruction?, kind i.operation = false

/-- Is it all one at which of the next `n` cycles the event happens? -/
structure Commutes (s : State) (e : Event) (n : Nat) : Prop where
  /-- The event may happen before the cycles, after them, or between any two of them, and if it is
  refused, then at all of these places for the same reason. -/
  moved : ∀ k ≤ n, ((step^[k] s).handle e).map step^[n - k] = (step^[n] s).handle e
  /-- So it is if a host asks for the cycles in runs. -/
  given : n < 0x80000000 → ∀ k ≤ n,
    (s.runGiven k >>= fun t => t.handle e >>= fun u => u.runGiven (n - k : Nat)) =
      s.runGiven n >>= fun t => t.handle e
  /-- The event brings no fault about, and it prevents none. -/
  fault : ∀ t, s.handle e = .ok t → ∀ k ≤ n, (step^[k] t).fault = (step^[k] s).fault

/-- What holds of the cycles holds of runs that can be counted. -/
theorem given_of_moved {k : Nat} (short : n < 0x80000000) (hk : k ≤ n)
    (moved : ((step^[k] s).handle e).map step^[n - k] = (step^[n] s).handle e) :
    (s.runGiven k >>= fun t => t.handle e >>= fun u => u.runGiven (n - k : Nat)) =
      s.runGiven n >>= fun t => t.handle e := by
  have first : s.runGiven k = .ok (step^[k] s) := s.runGiven_of_lt (by omega)
  have rest (u : State) := u.runGiven_of_lt (n := n - k) (by omega)
  rw [first, s.runGiven_of_lt short, ok_bind, ok_bind, ← moved]
  cases (step^[k] s).handle e with
  | error _ => rfl
  | ok u =>
      rw [ok_bind, rest u]
      rfl

/-- An event that is an exchange commutes with cycles that do not see what is exchanged. -/
theorem commutes_of_hidden {x : Exchange} (kept : x.opcode = id)
    (acts : ∀ t : State, t.keypad = s.keypad → t.handle e = .ok (t.exchange x))
    (hidden : ∀ k < n, ∀ i ∈ (step^[k] s).instruction?, x.Hidden (step^[k] s) i) :
    s.Commutes e n := by
  have happens (k : Nat) : (step^[k] s).handle e = .ok ((step^[k] s).exchange x) := by
    rw [iterate_step]
    exact acts _ (keypad_run s k)
  have exchanged (k d : Nat) (hd : k + d ≤ n) :
      step^[d] ((step^[k] s).exchange x) = (step^[k + d] s).exchange x := by
    rw [Nat.add_comm, Function.iterate_add_apply, iterate_step _ d, iterate_step _ d]
    refine run_exchange kept fun j hj => ?_
    rw [← iterate_step, ← Function.iterate_add_apply]
    exact hidden (j + k) (by omega)
  have moved : ∀ k ≤ n, ((step^[k] s).handle e).map step^[n - k] = (step^[n] s).handle e := by
    intro k hk
    have rest := exchanged k (n - k) (by omega)
    rw [Nat.add_sub_cancel' hk] at rest
    rw [happens, happens, Except.map, rest]
  refine ⟨moved, fun short k hk => given_of_moved short hk (moved k hk), ?_⟩
  intro t ht k hk
  obtain rfl : s.exchange x = t := Except.ok.inj ((happens 0).symm.trans ht)
  have same := exchanged 0 k (by omega)
  rw [Nat.zero_add] at same
  rw [show step^[k] (s.exchange x) = _ from same]
  rfl

/-- An event that is refused is refused after any number of cycles. -/
theorem commutes_of_refused {error : Error}
    (refused : ∀ t : State, t.keypad = s.keypad → t.handle e = .error error) : s.Commutes e n := by
  have refuses (k : Nat) : (step^[k] s).handle e = .error error := by
    rw [iterate_step]
    exact refused _ (keypad_run s k)
  have moved : ∀ k ≤ n, ((step^[k] s).handle e).map step^[n - k] = (step^[n] s).handle e := by
    intro k hk
    rw [refuses, refuses]
    rfl
  refine ⟨moved, fun short k hk => given_of_moved short hk (moved k hk), ?_⟩
  intro t ht
  cases (refuses 0).symm.trans ht

theorem commutes_tick (avoids : s.Avoids Operation.usesTimers n) : s.Commutes .tick n :=
  commutes_of_hidden (x := .tick) rfl (fun _ _ => rfl) fun k hk i hi =>
    Exchange.hidden_tick (avoids k hk i hi)

theorem commutes_keys (avoids : s.Avoids Operation.usesKeypad n) (moves : e.movesKeys = true) :
    s.Commutes e n := by
  cases hkeys : e.keysAfter s.keypad with
  | error error =>
      have refused : ∀ t : State, t.keypad = s.keypad → t.handle e = .error error := by
        intro t same
        rw [handle_of_movesKeys moves, same, hkeys]
        rfl
      exact commutes_of_refused refused
  | ok keypad =>
      refine commutes_of_hidden (x := .keys keypad) rfl (fun t same => ?_) fun k hk i hi =>
        Exchange.hidden_keys (avoids k hk i hi)
      rw [handle_of_movesKeys moves, same, hkeys]
      rfl

/-- **Host events commute with instructions that do not look at them.** A tick may happen at any of
`n` cycles that do without the timers, so that the tick of a frame may be moved to any of its
cycles. Keys may be moved at any of `n` cycles that do without the keypad. A host may ask for less
than `2 ^ 31` cycles in a run or a frame; more of them are refused. -/
theorem host_events_commute (s : State) (n : Nat) :
    (s.Avoids Operation.usesTimers n → s.Commutes .tick n ∧
      (n < 0x80000000 → ∀ k ≤ n,
        (s.runGiven k >>= fun t => t.tick.runGiven (n - k : Nat)) = s.frameGiven n)) ∧
    (s.Avoids Operation.usesKeypad n → ∀ e : Event, e.movesKeys = true → s.Commutes e n) ∧
    (n < 0x80000000 →
      s.runGiven n = .ok (step^[n] s) ∧ s.frameGiven n = .ok (step^[n] s).tick) ∧
    (0x80000000 ≤ n →
      s.runGiven n = .error (.notAnOperand n) ∧ s.frameGiven n = .error (.notAnOperand n)) := by
  have frame (short : n < 0x80000000) : s.frameGiven n = .ok (step^[n] s).tick := by
    rw [frameGiven_of_fits s (by omega) (by omega), iterate_step]
    rfl
  refine ⟨?_, fun avoids e => commutes_keys avoids,
    fun short => ⟨s.runGiven_of_lt short, frame short⟩, fun long => s.refused_of_long (by omega)⟩
  intro avoids
  have commutes := commutes_tick avoids
  refine ⟨commutes, ?_⟩
  intro short k hk
  have ticks (t : State) : t.handle .tick = .ok t.tick := rfl
  have first : s.runGiven k = .ok (step^[k] s) := s.runGiven_of_lt (by omega)
  have given := commutes.given short k hk
  rw [first, ok_bind, ticks, ok_bind, s.runGiven_of_lt short, ok_bind, ticks] at given
  rw [first, ok_bind, given, frame short]

/-- A program that writes a word that is no instruction in its own way faults in the fourth cycle,
whenever a tick or a key comes. -/
theorem host_events_commute_rewritten :
    let s := (fresh (Random.Key.ofSeed 7) true).loadBytes
      [0x60, 0xE0, 0xA2, 0x06, 0xF0, 0x55, 0x00, 0xE0]
    (s.Avoids Operation.usesTimers 5 ∧ s.Avoids Operation.usesKeypad 5) ∧
    (s.runGiven 2 >>= fun t => t.tick.runGiven 3) = s.frameGiven 5 ∧
      (step^[4] (s.press 3)).fault = (step^[4] s).fault ∧
      (step^[4] s).fault = Fault.unsupportedOpcode.code := by
  intro s
  have shown : (s.Avoids Operation.usesTimers 5 ∧ s.Avoids Operation.usesKeypad 5) ∧
      (step^[4] s).fault = Fault.unsupportedOpcode.code := by
    unfold Avoids
    decide +kernel
  clear_value s
  obtain ⟨⟨timers, keypad⟩, faults⟩ := shown
  obtain ⟨ticks, keys, -, -⟩ := host_events_commute s 5
  obtain ⟨-, frame⟩ := ticks timers
  exact ⟨⟨timers, keypad⟩, frame (by decide) 2 (by decide),
    (keys keypad (.press 3) rfl).fault _ rfl 4 (by decide), faults⟩

/-- A program that returns from nowhere: the tick of a frame of too many cycles may not be moved
between them, since they can be counted only then. -/
theorem long_frame_refused :
    let s := (fresh (Random.Key.ofSeed 7) true).loadBytes [0x00, 0xEE]
    (∀ n, s.Avoids Operation.usesTimers n) ∧
    (s.runGiven 1 >>= fun t => t.tick.runGiven 0x7FFFFFFF) = .ok (step^[1] s).tick ∧
    s.frameGiven 0x80000000 = .error (.notAnOperand 0x80000000) := by
  intro s
  have first : s.instruction?.map Instruction.operation = some .ret := by decide +kernel
  have halts : (s.run 1).halted = true := by decide +kernel
  clear_value s
  have halted (k : Nat) : (step^[k + 1] s).halted = true := by
    rw [iterate_step, run_of_halted_le halts (Nat.succ_pos k)]
    exact halts
  refine ⟨?_, ?_, (s.refused_of_long (by decide)).2⟩
  · intro n k _ i hi
    cases k with
    | zero =>
        rw [show s.instruction? = some i from hi] at first
        rw [show i.operation = .ret from Option.some.inj first]
        rfl
    | succ k =>
        rw [instruction?, if_pos (halted k)] at hi
        cases hi
  · have once : s.runGiven 1 = .ok (step^[1] s) := s.runGiven_of_lt (by decide)
    have rest := runGiven_of_fits (step^[1] s).tick (n := 0x7FFFFFFF) (by decide) (by decide)
    have stays := run_of_halted (s := (step^[1] s).tick) (halted 0)
    rw [once, ok_bind, rest, stays]

end State

end Chip8
