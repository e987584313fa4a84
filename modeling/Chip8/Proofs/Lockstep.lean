import Chip8.Proofs.Commuting
import Mathlib.Data.List.Forall2

/-!
# Two machines side by side

Two machines that differ in some of their fields are given the same events. A relation between their
states that survives everything that may happen to both (`Bisimulation`) holds throughout, as long
as the first of them meets only moments that are fine: each event gets the same answer from both,
and whatever happens within an event, cycle by cycle, happens to both and meets states that are
related (`Bisimulation.lockstep`).
-/

namespace Chip8

/-- Do two requests end alike, with states that are related or with one error? -/
inductive Alike (R : State → State → Prop) : Except Error State → Except Error State → Prop where
  | ok {s t : State} (related : R s t) : Alike R (.ok s) (.ok t)
  | error (e : Error) : Alike R (.error e) (.error e)

/-- Does the same happen in two moments, before and after which the states are related? -/
structure Moment.Matches (R : State → State → Prop) (m m' : Moment) : Prop where
  happening : m'.happening = m.happening
  before : R m.before m'.before
  after : R m.after m'.after

/-- Do two machines go through a history side by side? -/
structure Lockstep (R : State → State → Prop) (s t : State) (es : List Event) : Prop where
  after : ∀ earlier later, es = earlier ++ later → R (s.after earlier) (t.after earlier)
  answers : ∀ earlier e later, es = earlier ++ e :: later →
    Alike R ((s.after earlier).handle e) ((t.after earlier).handle e)
  past : List.Forall₂ (Moment.Matches R) (s.past es) (t.past es)

/-- Does a relation between states with the same keypad survive all that happens to both, as long as
the first of them meets moments that are fine? -/
structure Bisimulation (R : State → State → Prop) (fine : Moment → Prop) : Prop where
  keypad : ∀ s t, R s t → t.keypad = s.keypad
  undergo : ∀ s t x, R s t → fine ⟨s, x⟩ → R (s.undergo x) (t.undergo x)

namespace State

variable {s t : State} {e : Event}

/-! ## Events that two machines meet -/

/-- An event is refused by every machine, for the same reason, or by none. -/
theorem refused_or_accepted (e : Event) :
    (∃ error, ∀ s : State, s.handle e = .error error) ∨ ∀ s : State, ∃ t, s.handle e = .ok t := by
  cases e with
  | step | tick | press _ | release _ => exact .inr fun _ => ⟨_, rfl⟩
  | create seed modern =>
      simp only [handle, create]
      split
      · exact .inr fun _ => ⟨_, rfl⟩
      · exact .inl ⟨_, fun _ => rfl⟩
  | load data strict =>
      simp only [handle, load]
      cases image? data with
      | none => exact .inl ⟨_, fun _ => rfl⟩
      | some bytes =>
          dsimp only
          split
          · exact .inl ⟨_, fun _ => rfl⟩
          · exact .inr fun _ => ⟨_, rfl⟩
  | run n | frame n =>
      simp only [handle, runGiven, frameGiven]
      cases Loop.countable n with
      | error error => exact .inl ⟨error, fun _ => rfl⟩
      | ok _ => exact .inr fun _ => ⟨_, rfl⟩
  | setKeys states =>
      simp only [handle, setKeys, bind, Except.bind]
      cases states.checked with
      | error error => exact .inl ⟨error, fun _ => rfl⟩
      | ok checked =>
          dsimp only
          cases Keypad.ofStates? checked with
          | none => exact .inl ⟨_, fun _ => rfl⟩
          | some keypad => exact .inr fun _ => ⟨_, rfl⟩

theorem happenings_of_movesKeys (moves : e.movesKeys = true) (s : State) :
    s.happenings e = (e.keysAfter s.keypad).toOption.toList.map Happening.keys := by
  rw [happenings, handle_of_movesKeys moves]
  cases e.keysAfter s.keypad with
  | error _ => rfl
  | ok keypad =>
      cases e with
      | setKeys _ | press _ | release _ => rfl
      | _ => cases moves

/-- Two machines with one keypad undergo the same in an event. -/
theorem happenings_of_keypad_eq (same : t.keypad = s.keypad) (e : Event) :
    t.happenings e = s.happenings e := by
  cases moves : e.movesKeys with
  | true => rw [happenings_of_movesKeys moves, happenings_of_movesKeys moves, same]
  | false =>
      rw [happenings, happenings]
      rcases refused_or_accepted e with ⟨error, refused⟩ | accepted
      · rw [refused, refused]
      · obtain ⟨u, hs⟩ := accepted s
        obtain ⟨u', ht⟩ := accepted t
        rw [hs, ht]
        cases e with
        | setKeys _ | press _ | release _ => cases moves
        | _ => rfl

end State

namespace Bisimulation

open State

variable {R : State → State → Prop} {fine : Moment → Prop} {s t : State}

theorem moments (sim : Bisimulation R fine) (start : R s t) {xs : List Happening}
    (meets : ∀ m ∈ s.moments xs, fine m) :
    List.Forall₂ (Moment.Matches R) (s.moments xs) (t.moments xs) ∧
      R (xs.foldl State.undergo s) (xs.foldl State.undergo t) := by
  induction xs generalizing s t with
  | nil => exact ⟨.nil, start⟩
  | cons x xs ih =>
      have next : R (s.undergo x) (t.undergo x) :=
        sim.undergo s t x start (meets ⟨s, x⟩ List.mem_cons_self)
      obtain ⟨rest, last⟩ := ih next fun m hm => meets m (List.mem_cons_of_mem _ hm)
      exact ⟨.cons ⟨rfl, start, next⟩ rest, last⟩

theorem afterEvent (sim : Bisimulation R fine) (start : R s t) {e : Event}
    (lasting : e.creates = false) (meets : ∀ m ∈ s.moments (s.happenings e), fine m) :
    Alike R (s.handle e) (t.handle e) ∧ R (s.afterEvent e) (t.afterEvent e) := by
  have last := (sim.moments start meets).2
  have same := happenings_of_keypad_eq (sim.keypad s t start) e
  have related : R (s.afterEvent e) (t.afterEvent e) := by
    rwa [← foldl_happenings lasting, ← foldl_happenings (s := t) lasting, same]
  refine ⟨?_, related⟩
  rcases refused_or_accepted e with ⟨error, refused⟩ | accepted
  · rw [refused, refused]
    exact .error error
  · obtain ⟨u, hs⟩ := accepted s
    obtain ⟨u', ht⟩ := accepted t
    rw [State.afterEvent, State.afterEvent, hs, ht] at related
    rw [hs, ht]
    exact .ok related

/-- **Related machines go through a history side by side**, if the moments that the first of them
meets are fine. -/
theorem lockstep (sim : Bisimulation R fine) (start : R s t) {es : List Event}
    (lasting : ∀ e ∈ es, e.creates = false) (meets : ∀ m ∈ s.past es, fine m) :
    Lockstep R s t es := by
  induction es generalizing s t with
  | nil =>
      constructor
      case after =>
        intro earlier later h
        obtain ⟨rfl, -⟩ := List.append_eq_nil_iff.mp h.symm
        exact start
      case answers =>
        intro earlier e later h
        simp at h
      case past => exact .nil
  | cons e es ih =>
      have first : ∀ m ∈ s.moments (s.happenings e), fine m :=
        fun m hm => meets m (List.mem_append_left _ hm)
      have lastingFirst := lasting e List.mem_cons_self
      obtain ⟨alike, next⟩ := sim.afterEvent start lastingFirst first
      have rest : Lockstep R (s.afterEvent e) (t.afterEvent e) es :=
        ih next (fun e' he' => lasting e' (List.mem_cons_of_mem e he'))
          fun m hm => meets m (List.mem_append_right _ hm)
      -- a place in the history is its beginning, or a place in the rest of it
      constructor
      case after =>
        intro earlier later h
        rcases List.cons_eq_append_iff.mp h with ⟨rfl, -⟩ | ⟨between, rfl, hrest⟩
        · exact start
        · exact rest.after between later hrest
      case answers =>
        intro earlier e' later h
        rcases List.cons_eq_append_iff.mp h with ⟨rfl, hhead⟩ | ⟨between, rfl, hrest⟩
        · obtain ⟨rfl, -⟩ := List.cons.inj hhead
          exact alike
        · exact rest.answers between e' later hrest
      case past =>
        have same := happenings_of_keypad_eq (sim.keypad s t start) e
        rw [State.past, State.past, same]
        exact List.rel_append (sim.moments start first).1 rest.past

end Bisimulation

end Chip8
