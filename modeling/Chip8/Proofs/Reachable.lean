import Chip8.Event
import Chip8.Proofs.Effect
import Mathlib.Data.List.Induction

/-!
# Reachable states

A state is reachable if some history of events leads to it from the creation of a machine. Events
are made of five kinds of changes: a fresh machine, a fresh machine with a program, a cycle, a
tick, and a new keypad. A property that survives these (`State.Inductive`) holds of every
reachable state, which is the only induction over histories that invariants need.
-/

namespace Chip8.State

variable {s t : State}

/-- Does the state stand at the end of a history that begins with the creation of a machine? -/
def Reachable (s : State) : Prop :=
  ∃ (seed : Int) (modern : Bool) (start : State) (history : List Event),
    create seed modern = .ok start ∧ start.after history = s

/-! ## Events that are not refused -/

theorem eq_fresh_of_create {seed : Int} {modern : Bool} (h : create seed modern = .ok t) :
    t = fresh (Random.Key.ofSeed seed) modern := by
  rw [create] at h
  split at h
  · exact (Except.ok.inj h).symm
  · cases h

theorem eq_loadBytes_of_load {data : List Int} {strict : Bool} (h : s.load data strict = .ok t) :
    ∃ bytes, image? data = some bytes ∧ t = s.loadBytes bytes := by
  rw [load] at h
  split at h
  · cases h
  · rename_i bytes himage
    split at h
    · cases h
    · exact ⟨bytes, himage, (Except.ok.inj h).symm⟩

theorem eq_run_of_runGiven {n : Int} (h : s.runGiven n = .ok t) : t = s.run n.toNat := by
  rw [runGiven] at h
  cases hn : Loop.countable n with
  | error e => rw [hn] at h; cases h
  | ok _ => rw [hn] at h; exact (Except.ok.inj h).symm

theorem eq_frame_of_frameGiven {n : Int} (h : s.frameGiven n = .ok t) : t = s.frame n := by
  rw [frameGiven] at h
  cases hn : Loop.countable n with
  | error e => rw [hn] at h; cases h
  | ok _ => rw [hn] at h; exact (Except.ok.inj h).symm

theorem eq_keypad_of_setKeys {states : NestedArray Bool} (h : s.setKeys states = .ok t) :
    ∃ keypad, t = { s with keypad := keypad } := by
  simp only [setKeys, bind, Except.bind] at h
  cases hc : states.checked with
  | error e => rw [hc] at h; cases h
  | ok checked =>
      rw [hc] at h
      dsimp only at h
      cases hk : Keypad.ofStates? checked with
      | none => rw [hk] at h; cases h
      | some keypad => rw [hk] at h; exact ⟨keypad, (Except.ok.inj h).symm⟩

/-! ## Invariants -/

/-- Does a property hold of fresh machines, and survive loading, cycles, ticks and keys? -/
structure Inductive (P : State → Prop) : Prop where
  fresh : ∀ key modern, P (State.fresh key modern)
  load : ∀ s bytes, P s → P (loadBytes s bytes)
  step : ∀ s, P s → P s.step
  tick : ∀ s, P s → P s.tick
  keys : ∀ s keypad, P s → P { s with keypad := keypad }

namespace Inductive

variable {P : State → Prop}

theorem run (inv : Inductive P) (hs : P s) (n : Nat) : P (s.run n) := by
  induction n generalizing s with
  | zero => exact hs
  | succ n ih => exact ih (inv.step s hs)

theorem frame (inv : Inductive P) (hs : P s) (n : Int) : P (s.frame n) :=
  inv.tick _ (inv.run hs n.toNat)

theorem handle (inv : Inductive P) (hs : P s) {e : Event} (h : s.handle e = .ok t) : P t := by
  cases e with
  | create seed modern =>
      rw [eq_fresh_of_create h]
      exact inv.fresh _ _
  | load data strict =>
      obtain ⟨bytes, -, rfl⟩ := eq_loadBytes_of_load h
      exact inv.load s bytes hs
  | step => exact Except.ok.inj h ▸ inv.step s hs
  | run n =>
      rw [eq_run_of_runGiven h]
      exact inv.run hs n.toNat
  | frame n =>
      rw [eq_frame_of_frameGiven h]
      exact inv.frame hs n
  | tick => exact Except.ok.inj h ▸ inv.tick s hs
  | setKeys states =>
      obtain ⟨keypad, rfl⟩ := eq_keypad_of_setKeys h
      exact inv.keys s keypad hs
  | press k => exact Except.ok.inj h ▸ inv.keys s _ hs
  | release k => exact Except.ok.inj h ▸ inv.keys s _ hs

theorem afterEvent (inv : Inductive P) (hs : P s) (e : Event) : P (s.afterEvent e) := by
  rw [State.afterEvent]
  split
  · rename_i h
    exact inv.handle hs h
  · exact hs

theorem after (inv : Inductive P) (hs : P s) (history : List Event) : P (s.after history) := by
  induction history using List.reverseRecOn with
  | nil => exact hs
  | append_singleton es e ih =>
      rw [after_snoc]
      exact inv.afterEvent ih e

/-- **An inductive property holds of every reachable state.** -/
theorem of_reachable (inv : Inductive P) (reach : s.Reachable) : P s := by
  obtain ⟨seed, modern, start, history, created, rfl⟩ := reach
  rw [eq_fresh_of_create created]
  exact inv.after (inv.fresh _ _) history

end Inductive

theorem Reachable.after (reach : s.Reachable) (history : List Event) :
    (s.after history).Reachable := by
  obtain ⟨seed, modern, start, es, created, rfl⟩ := reach
  exact ⟨seed, modern, start, es ++ history, created, after_append start es history⟩

theorem Reachable.step (reach : s.Reachable) : s.step.Reachable := reach.after [.step]

end Chip8.State
