import Chip8.Proofs.Commuting
import Chip8.Proofs.HaltedHost
import Chip8.Proofs.RememberedProgram

/-!
# What was last said of a key

Three kinds of commands say something of a key: one that moves it, one that gives the states of all
sixteen, and one that loads a program, which releases them all (`Host.keyed?`). A command that says
nothing of a key leaves it as it is, whether it is refused, faults or succeeds
(`Host.key_perform`), so a key is down just if that is the last thing said of it.
-/

namespace Chip8

/-! ## Sixteen states in a row -/

namespace NestedArray

variable {α : Type} {xs : List α}

theorem eq_map_of_mapM_value? {items : List (NestedArray α)} (h : items.mapM value? = some xs) :
    items = xs.map one := by
  induction items generalizing xs with
  | nil =>
      obtain rfl := Option.some.inj h
      rfl
  | cons item items ih =>
      cases item with
      | row _ => cases h
      | one x =>
          rw [List.mapM_cons] at h
          obtain ⟨y, hy, h⟩ := Option.bind_eq_some_iff.mp h
          obtain ⟨ys, hys, h⟩ := Option.bind_eq_some_iff.mp h
          obtain rfl := Option.some.inj hy
          obtain rfl := Option.some.inj h
          rw [ih hys, List.map_cons]

theorem eq_ofList_of_values? {a : NestedArray α} (h : a.values? = some xs) : a = ofList xs := by
  cases a with
  | one x => cases h
  | row items => rw [eq_map_of_mapM_value? h, ofList]

theorem eq_of_checked {a b : NestedArray α} (h : a.checked = .ok b) : b = a := by
  rw [checked] at h
  split at h
  split at h
  · exact (Except.ok.inj h).symm
  · split at h <;> cases h

end NestedArray

namespace Keypad

def row? (states : NestedArray Bool) : Option (List Bool) :=
  states.values?.filter fun down => down.length = keyCount

theorem row?_eq_some_iff {states : NestedArray Bool} {down : List Bool} :
    row? states = some down ↔ down.length = keyCount ∧ states = .ofList down := by
  rw [row?, Option.filter_eq_some_iff, decide_eq_true_iff, and_comm]
  refine and_congr_right fun _ => ⟨NestedArray.eq_ofList_of_values?, ?_⟩
  rintro rfl
  exact NestedArray.values?_ofList down

end Keypad

namespace State

variable {s : State} {states : NestedArray Bool} {down : List Bool}

theorem setKeys_of_row (h : Keypad.row? states = some down) (s : State) :
    ∃ keypad : Keypad, s.setKeys states = .ok { s with keypad := keypad } ∧
      ∀ k : Fin keyCount, some (keypad.get k) = down[k.val]? := by
  obtain ⟨length, rfl⟩ := Keypad.row?_eq_some_iff.mp h
  have size : down.toArray.size = keyCount := length
  refine ⟨⟨down.toArray, size⟩, ?_, ?_⟩
  · rw [setKeys, NestedArray.checked_ofList]
    simp only [bind, Except.bind, Keypad.ofStates?, NestedArray.values?_ofList, dif_pos size]
    rfl
  · intro k
    have inside : k.val < down.length := by
      rw [length]
      exact k.isLt
    rw [List.getElem?_eq_getElem inside]
    rfl

theorem setKeys_of_not_row (h : Keypad.row? states = none) (s : State) :
    ∃ e, s.setKeys states = .error e := by
  cases set : s.setKeys states with
  | error e => exact ⟨e, rfl⟩
  | ok t =>
      obtain ⟨array, even, given⟩ := exists_of_bind_ok set
      obtain rfl := NestedArray.eq_of_checked even
      rw [Keypad.row?, Option.filter_eq_none_iff] at h
      simp only [Keypad.ofStates?] at given
      cases values : array.values? with
      | none =>
          rw [values] at given
          cases given
      | some down =>
          have short : ¬ down.toArray.size = keyCount := by simpa using h down values
          rw [values] at given
          dsimp only at given
          rw [dif_neg short] at given
          cases given

/-! ## Runs -/

theorem keypad_afterEvent {e : Event} (runs : e = .step ∨ ∃ c, e = .frame c) (s : State) :
    (s.afterEvent e).keypad = s.keypad := by
  rcases runs with rfl | ⟨c, rfl⟩
  · exact keypad_of_executes s.executes_step
  · rw [afterEvent, handle]
    cases frame : s.frameGiven c with
    | error e => rfl
    | ok t =>
        obtain rfl := eq_frame_of_frameGiven frame
        exact keypad_run s c.toNat

theorem keypad_after {es : List Event} (runs : ∀ e ∈ es, e = .step ∨ ∃ c, e = .frame c)
    (s : State) : (s.after es).keypad = s.keypad := by
  induction es generalizing s with
  | nil => rfl
  | cons e es ih =>
      obtain ⟨first, later⟩ := List.forall_mem_cons.mp runs
      rw [after_cons, ih later, keypad_afterEvent first]

end State

/-- What a command that loads no other program makes of a key: down, up, or nothing. -/
def Command.moved? (k : Fin keyCount) : Command → Option Bool
  | .press j => if j % 16 = k.val then some true else none
  | .release j => if j % 16 = k.val then some false else none
  | .setKeys states => (Keypad.row? states).bind fun down => down[k.val]?
  | .reload => some false
  | _ => none

namespace Host

variable {h g : Host} {now : Seconds} {c : Command} {k : Fin keyCount}

theorem runs_of_mem_events {e : Event} (run : c.kind = .run) (he : e ∈ g.events c) :
    e = .step ∨ ∃ n, e = .frame n := by
  have frames {k : Nat} {can : Int → Bool} (he : e ∈ g.frameEvents k can) : ∃ n, e = .frame n := by
    rw [frameEvents] at he
    split at he
    · split at he
      · exact ⟨_, List.eq_of_mem_replicate he⟩
      · cases he
    · cases he
  cases c with
  | step =>
      rw [events] at he
      split at he
      · cases he
      · exact .inl (List.mem_singleton.mp he)
  | runFrame | runFrames _ _ => exact .inr (frames he)
  | _ => cases run

/-! ## One command -/

def keyed? (h : Host) (k : Fin keyCount) (c : Command) : Option Bool :=
  match h.loading? c with
  | some (.ok _) => some false
  | some (.error _) => none
  | none => c.moved? k

theorem key_eq_iff {j : Int} : Keypad.key j = k ↔ j % 16 = k.val := by
  rw [Keypad.key, Fin.ext_iff]
  dsimp only
  omega

theorem get_put (keypad : Keypad) (j : Int) (down : Bool) (k : Fin keyCount) :
    (keypad.put j down).get k = if j % 16 = k.val then down else keypad.get k := by
  have put := keypad.getElem_put j down k
  simp only [key_eq_iff] at put
  exact put

theorem get_loadBytes (s : State) (bytes : List UInt8) (k : Fin keyCount) :
    (s.loadBytes bytes).keypad.get k = false := by
  have up : Keypad.released.get k = false := by
    simp [Keypad.released, Vector.get]
  exact up

theorem keypad_of_unkeyed (keys : c.kind ≠ .keys) (load : c.kind ≠ .load) (now : Seconds) :
    (g.perform now c).host.state.keypad = g.state.keypad := by
  cases kind : c.kind with
  | keys => exact absurd kind keys
  | load => exact absurd kind load
  | run =>
      rw [state_perform]
      exact State.keypad_after (fun _ => runs_of_mem_events kind) g.state
  | tick =>
      obtain ⟨delay, sound, host⟩ := @perform_tick g now c kind
      rw [host]
  | setting =>
      obtain ⟨config, host⟩ := @perform_setting g now c kind
      rw [host]
  | view => rw [perform_view kind]

/-- **A key is what the command makes of it, or as it was before.** -/
theorem key_perform (g : Host) (now : Seconds) (c : Command) (k : Fin keyCount) :
    (g.perform now c).host.state.keypad.get k = (g.keyed? k c).getD (g.state.keypad.get k) := by
  rcases hc : g.loading? c with _ | e | program
  case some.error => rw [(perform_of_refused hc now).1, keyed?, hc, Option.getD_none]
  case some.ok =>
    rw [(perform_of_accepted hc now).1, keyed?, hc, Option.getD_some]
    exact get_loadBytes g.state program k
  case none =>
    rw [keyed?, hc]
    dsimp only
    cases c with
    | press j =>
        refine (get_put g.state.keypad j true k).trans ?_
        rw [Command.moved?]
        split <;> rfl
    | release j =>
        refine (get_put g.state.keypad j false k).trans ?_
        rw [Command.moved?]
        split <;> rfl
    | setKeys states =>
        rw [perform, Outcome.host_done, Command.moved?]
        cases row : Keypad.row? states with
        | none =>
            obtain ⟨e, refused⟩ := State.setKeys_of_not_row row g.state
            rw [refused]
            rfl
        | some down =>
            obtain ⟨keypad, set, keys⟩ := State.setKeys_of_row row g.state
            rw [set, Option.bind_some, ← keys k]
            rfl
    | reload =>
        rw [(g.perform_reload_eq now).1]
        exact get_loadBytes g.state g.program k
    | load _ _ | loadFile _ _ => cases hc
    | _ =>
        rw [keypad_of_unkeyed (by rintro ⟨⟩) (by rintro ⟨⟩) now]
        rfl

/-! ## Histories -/

def keyings (h : Host) (k : Fin keyCount) : List (Seconds × Command) → List Bool
  | [] => []
  | (now, c) :: es => (h.keyed? k c).toList ++ (h.perform now c).host.keyings k es

/-- **A key is what was last made of it.** -/
theorem key_after (h : Host) (k : Fin keyCount) (es : List (Seconds × Command)) :
    (h.after es).state.keypad.get k = (h.keyings k es).getLastD (h.state.keypad.get k) := by
  induction es generalizing h with
  | nil => rfl
  | cons entry es ih =>
      obtain ⟨now, c⟩ := entry
      rw [after_cons, ih, key_perform, keyings]
      cases h.keyed? k c with
      | none => rfl
      | some down => exact (List.getLastD_cons ..).symm

/-- The last thing made of a key was made by some command, and no later one made anything of it. -/
theorem getLast?_keyings {h : Host} {es : List (Seconds × Command)} {down : Bool} :
    (h.keyings k es).getLast? = some down ↔
      ∃ before now c later, es = before ++ (now, c) :: later ∧
        (h.after before).keyed? k c = some down ∧
        (h.after (before ++ [(now, c)])).keyings k later = [] := by
  induction es generalizing h with
  | nil => simp [keyings]
  | cons entry es ih =>
      obtain ⟨now, c⟩ := entry
      have first : (h.keyed? k c).toList.getLast? = h.keyed? k c := by cases h.keyed? k c <;> rfl
      rw [keyings, List.getLast?_append, Option.or_eq_some_iff, List.getLast?_eq_none_iff, ih,
        first]
      constructor
      · rintro (⟨before, now', c', later, rfl, made, silent⟩ | ⟨silent, made⟩)
        · exact ⟨(now, c) :: before, now', c', later, rfl, made, silent⟩
        · exact ⟨[], now, c, es, rfl, made, silent⟩
      · rintro ⟨before, now', c', later, shape, made, silent⟩
        cases before with
        | nil =>
            obtain ⟨head, rfl⟩ := List.cons.inj shape
            obtain ⟨rfl, rfl⟩ := Prod.mk.inj head
            exact .inr ⟨silent, made⟩
        | cons entry before =>
            obtain ⟨rfl, rfl⟩ := List.cons.inj shape
            exact .inl ⟨before, now', c', later, rfl, made, silent⟩

/-! ## What moves no key -/

/-- How commands that are given at this time treat the keypad as a whole. -/
structure KeepsKeys (g : Host) (now : Seconds) : Prop where
  /-- Running and ticking, settings and questions do not touch it, whether they fail or not. -/
  unkeyed : ∀ c : Command, c.kind ≠ .keys → c.kind ≠ .load →
    (g.perform now c).host.state.keypad = g.state.keypad
  /-- Key states are taken just if they are sixteen in a row. -/
  states : ∀ states, (g.perform now (.setKeys states)).result.isOk = true ↔
    ∃ down : List Bool, down.length = keyCount ∧ states = .ofList down
  /-- Those of another shape change nothing. -/
  shape : ∀ states, states.shape ≠ [keyCount] →
    (g.perform now (.setKeys states)).result.isOk = false ∧
      (g.perform now (.setKeys states)).host = g
  /-- A load that is refused changes nothing. -/
  refused : ∀ c e, g.loading? c = some (.error e) →
    (g.perform now c).result = .error e ∧ (g.perform now c).host = g
  /-- If a time can be put in front of the message, a load succeeds just if it releases every key,
  and changes nothing if it fails. -/
  load : g.logger.CanStamp now → ∀ c : Command, c.kind = .load →
    ((g.perform now c).result.isOk = true ↔ ∀ k, g.keyed? k c = some false) ∧
      ((g.perform now c).result.isOk = false → (g.perform now c).host = g)

theorem setKeys_of_row? {states : NestedArray Bool} (row : Keypad.row? states = none) :
    (g.perform now (.setKeys states)).result.isOk = false ∧
      (g.perform now (.setKeys states)).host = g := by
  obtain ⟨e, refused⟩ := State.setKeys_of_not_row row g.state
  rw [perform, refused]
  exact ⟨rfl, rfl⟩

theorem isOk_of_told {result : Except Error Reply} (clock : g.logger.CanStamp now)
    (told : g.Told now result) : result.isOk = true := by
  rcases told with rfl | ⟨late, -⟩
  · rfl
  · exact absurd clock late

theorem keepsKeys (g : Host) (now : Seconds) : g.KeepsKeys now where
  unkeyed _ keys load := keypad_of_unkeyed keys load now
  states states := by
    rcases row : Keypad.row? states with _ | down
    · rw [(setKeys_of_row? row).1]
      refine iff_of_false Bool.false_ne_true ?_
      rintro ⟨down, length, flat⟩
      rw [Keypad.row?_eq_some_iff.mpr ⟨length, flat⟩] at row
      cases row
    · obtain ⟨keypad, set, -⟩ := State.setKeys_of_row row g.state
      rw [perform, set]
      exact iff_of_true rfl ⟨down, Keypad.row?_eq_some_iff.mp row⟩
  shape states other := by
    apply setKeys_of_row?
    rcases row : Keypad.row? states with _ | down
    · rfl
    · obtain ⟨length, rfl⟩ := Keypad.row?_eq_some_iff.mp row
      rw [NestedArray.shape_ofList, length] at other
      exact absurd rfl other
  refused c e hc := (perform_of_refused hc now).symm
  load clock c kind := by
    rcases hc : g.loading? c with _ | e | program
    · cases c with
      | reload =>
          rw [isOk_of_told clock (g.perform_reload_eq now).2]
          exact ⟨iff_of_true rfl fun k => rfl, fun failed => absurd failed.symm Bool.false_ne_true⟩
      | load _ _ | loadFile _ _ => cases hc
      | _ => cases kind
    · obtain ⟨host, result⟩ := perform_of_refused hc now
      rw [result]
      refine ⟨iff_of_false Bool.false_ne_true fun up => ?_, fun _ => host⟩
      have first := up (Keypad.key 0)
      rw [keyed?, hc] at first
      cases first
    · rw [isOk_of_told clock (perform_of_accepted hc now).2]
      refine ⟨iff_of_true rfl fun k => ?_, fun failed => absurd failed.symm Bool.false_ne_true⟩
      rw [keyed?, hc]

/-- **A key is down just if that was the last thing made of it.** Let a host be created and asked
for anything, one thing after another. A key is down at the end just if some command pressed it, by
a number that leaves the key's when divided by sixteen or by the states of all sixteen, and none
after that made anything of it: released it, gave all states anew, or loaded a program. What runs,
ticks, is refused or fails leaves all keys as they were. -/
theorem key_down_iff_last_pressed {config : Config} {logger : Logger} {space : Space}
    {start : Seconds} {h : Host} (created : Host.create config logger space start = .ok h) :
    (∀ (es : List (Seconds × Command)) (k : Fin keyCount),
      (h.after es).state.keypad.get k = true ↔
        ∃ before now c later, es = before ++ (now, c) :: later ∧
          (h.after before).keyed? k c = some true ∧
          (h.after (before ++ [(now, c)])).keyings k later = []) ∧
    ∀ (es : List (Seconds × Command)) (now : Seconds), (h.after es).KeepsKeys now := by
  refine ⟨fun es k => ?_, fun es now => (h.after es).keepsKeys now⟩
  obtain ⟨state, hstate, hcreated⟩ := eq_of_create created
  have up : h.state.keypad.get k = false := by
    rw [hcreated, State.eq_fresh_of_create hstate]
    exact get_loadBytes (State.fresh (Random.Key.ofSeed config.seed) config.modern) [] k
  rw [← getLast?_keyings, key_after, up, List.getLastD_eq_getLast?]
  cases (h.keyings k es).getLast? with
  | none => exact iff_of_false Bool.false_ne_true nofun
  | some down => simp

/-- A key that is pressed by a negative number, and stays down while too few key states and an image
that is none are refused, a cycle and a tick pass, and another key is released. -/
theorem key_down_iff_last_pressed_below_zero :
    let config : Config := { reportInterval := .ok 0 }
    let logger : Logger := ⟨"chipax", "INFO", false, false, false, 0⟩
    let h : Host :=
      { config := config, logger := logger, space := .least, meter := RateMeter.start (.ok 0) 0
        state := State.fresh (Random.Key.ofSeed 0) true, program := [] }
    let later : List (Seconds × Command) :=
      [(2, .setKeys (.ofList [false])), (3, .load [0x100] "image"), (4, .step), (5, .tick),
        (6, .release 4)]
    Host.create config logger .least 0 = .ok h ∧
      (h.after ((1, .press (-13)) :: later)).state.keypad.get (Keypad.key 3) = true := by
  intro config logger h later
  have created : Host.create config logger .least 0 = .ok h := rfl
  refine ⟨created, ?_⟩
  obtain ⟨down, -⟩ := key_down_iff_last_pressed created
  have silent : (h.after [(1, .press (-13))]).keyings (Keypad.key 3) later = [] := by
    decide +kernel
  exact (down _ _).mpr ⟨[], 1, .press (-13), later, rfl, by decide +kernel, silent⟩

end Host

end Chip8
