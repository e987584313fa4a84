import Chip8.Proofs.Footprint
import Chip8.Proofs.HostEvents
import Chip8.Proofs.Reachable

/-!
# The past of a machine

What a machine shows now is often the outcome of what happened to it long ago: what was drawn, when
a timer was set, how many random bytes were drawn. To speak of this, events are taken apart into
happenings, each of which is a program that is loaded, a cycle, a word that a debugger executes, a
tick, or a new keypad, and the past of a machine lists them with the states that they met
(`State.past`). A `Chronicle` is the whole past of a machine since its creation, whether events
reach it directly or by way of a host, or a debugger makes one thing happen after another.

A statement about a past and the state at its end that survives every happening holds at the end of
every chronicle and at each moment of it (`Chronicle.throughout`).
-/

namespace Chip8

inductive Happening where
  | load (bytes : List UInt8)
  | cycle
  | word (w : Int)
  | tick
  | keys (keypad : Keypad)

structure Moment where
  before : State
  happening : Happening

namespace Happening

def frame (cycles : Int) : List Happening := List.replicate cycles.toNat .cycle ++ [.tick]

end Happening

namespace State

variable {s t : State}

/-! ## Happenings -/

def undergo (s : State) : Happening → State
  | .load bytes => s.loadBytes bytes
  | .cycle => s.step
  | .word w => s.execute w
  | .tick => s.tick
  | .keys keypad => { s with keypad := keypad }

/-- What an event makes happen, unless it is refused. That a new machine is created is the beginning
of a past and no part of it. -/
def happenings (s : State) (e : Event) : List Happening :=
  match s.handle e with
  | .error _ => []
  | .ok t =>
      match e with
      | .create _ _ => []
      | .load data _ => [.load ((image? data).getD [])]
      | .step => [.cycle]
      | .run cycles => List.replicate cycles.toNat .cycle
      | .frame cycles => Happening.frame cycles
      | .tick => [.tick]
      | .setKeys _ | .press _ | .release _ => [.keys t.keypad]

theorem foldl_cycles (s : State) (n : Nat) :
    (List.replicate n Happening.cycle).foldl undergo s = s.run n := by
  induction n generalizing s with
  | zero => rfl
  | succ n ih => exact ih s.step

theorem foldl_frame_happenings (s : State) (cycles : Int) :
    (Happening.frame cycles).foldl undergo s = s.frame cycles := by
  rw [Happening.frame, List.foldl_append, foldl_cycles]
  rfl

/-- An event does what it makes happen. -/
theorem foldl_happenings {e : Event} (lasting : e.creates = false) :
    (s.happenings e).foldl undergo s = s.afterEvent e := by
  rw [afterEvent, happenings]
  cases handled : s.handle e with
  | error _ => rfl
  | ok t =>
      cases e with
      | create _ _ => cases lasting
      | load data strict =>
          obtain ⟨bytes, hbytes, rfl⟩ := eq_loadBytes_of_load handled
          dsimp only
          rw [hbytes]
          rfl
      | step | tick | press _ | release _ =>
          obtain rfl := Except.ok.inj handled
          rfl
      | run cycles => exact (foldl_cycles s _).trans (eq_run_of_runGiven handled).symm
      | frame cycles =>
          exact (foldl_frame_happenings s _).trans (eq_frame_of_frameGiven handled).symm
      | setKeys states =>
          obtain ⟨keypad, rfl⟩ := eq_keypad_of_setKeys handled
          rfl

/-! ## The past -/

def moments (s : State) : List Happening → List Moment
  | [] => []
  | x :: xs => ⟨s, x⟩ :: (s.undergo x).moments xs

def past (s : State) : List Event → List Moment
  | [] => []
  | e :: es => s.moments (s.happenings e) ++ (s.afterEvent e).past es

theorem past_append (s : State) (es fs : List Event) :
    s.past (es ++ fs) = s.past es ++ (s.after es).past fs := by
  induction es generalizing s with
  | nil => rfl
  | cons e es ih =>
      rw [List.cons_append, past, ih, past, List.append_assoc]
      rfl

/-! ## Instructions that are executed -/

/-- The instruction that the next cycle executes. A machine that is halted executes none. -/
def instruction? (s : State) : Option Instruction :=
  if s.halted then none else Instruction.ofWord? s.fetch.toNat

/-- What becomes of a state that executes an instruction or, as it is halted or meets a word that is
no instruction, none. -/
inductive Executes (s : State) : Option Instruction → State → Prop where
  | instruction (i : Instruction) (opcode : UInt16) :
      Executes s (some i) ({ s with opcode := opcode }.perform i)
  | nothing (opcode : UInt16) (fault : UInt8) :
      Executes s none { s with opcode := opcode, fault := fault }

theorem executes_word (s : State) (w : Int) : s.Executes (Instruction.ofWord? w) (s.execute w) := by
  rw [execute]
  cases Instruction.ofWord? w with
  | none => exact .nothing _ _
  | some i => exact .instruction i _

theorem executes_step (s : State) : s.Executes s.instruction? s.step := by
  rw [instruction?, step]
  split
  · exact .nothing s.opcode s.fault
  · exact s.executes_word s.fetch.toNat

end State

namespace Moment

def after (m : Moment) : State := m.before.undergo m.happening

def instruction? (m : Moment) : Option Instruction :=
  match m.happening with
  | .cycle => m.before.instruction?
  | .word w => Instruction.ofWord? w
  | _ => none

theorem after_of_instruction {m : Moment} {i : Instruction} (h : m.instruction? = some i) :
    ∃ opcode, m.after = { m.before with opcode := opcode }.perform i := by
  obtain ⟨s, x⟩ := m
  have executes : s.Executes (some i) (s.undergo x) := by
    rw [← h]
    cases x with
    | cycle => exact s.executes_step
    | word w => exact s.executes_word w
    | _ => cases h
  generalize hafter : s.undergo x = t at executes
  cases executes with
  | instruction i opcode => exact ⟨opcode, hafter⟩

end Moment

/-! ## Chronicles -/

/-- The whole past of a machine since its creation with a seed, and the state at its end. A machine
may be driven by events, by the commands of a host, or by a debugger. -/
inductive Chronicle : Int → List Moment → State → Prop where
  | machine {seed : Int} {modern : Bool} {start : State}
      (created : State.create seed modern = .ok start) (es : List Event)
      (lasting : ∀ e ∈ es, e.creates = false) :
      Chronicle seed (start.past es) (start.after es)
  | host {config : Config} {logger : Logger} {space : Space} {now : Seconds} {h : Host}
      (created : Host.create config logger space now = .ok h) (es : List (Seconds × Command)) :
      Chronicle config.seed (h.state.past (h.allEvents es)) (h.after es).state
  | debugger {seed : Int} {modern : Bool} {start : State}
      (created : State.create seed modern = .ok start) (xs : List Happening) :
      Chronicle seed (start.moments xs) (xs.foldl State.undergo start)

namespace Chronicle

variable {P : List Moment → State → Prop}

theorem moments (next : ∀ past s x, P past s → P (past ++ [⟨s, x⟩]) (s.undergo x))
    {past : List Moment} {s : State} (h : P past s) (xs : List Happening) :
    P (past ++ s.moments xs) (xs.foldl State.undergo s) := by
  induction xs generalizing past s with
  | nil => rwa [State.moments, List.append_nil]
  | cons x xs ih =>
      -- the rest of the happenings meets the past that ends with the first of them
      rw [State.moments, List.append_cons]
      exact ih (next past s x h)

theorem events (next : ∀ past s x, P past s → P (past ++ [⟨s, x⟩]) (s.undergo x))
    {past : List Moment} {s : State} (h : P past s) {es : List Event}
    (lasting : ∀ e ∈ es, e.creates = false) : P (past ++ s.past es) (s.after es) := by
  induction es generalizing past s with
  | nil => rwa [State.past, List.append_nil]
  | cons e es ih =>
      have first := moments next h (s.happenings e)
      rw [State.foldl_happenings (lasting e List.mem_cons_self)] at first
      rw [State.past, ← List.append_assoc, State.after_cons]
      exact ih first fun e' he' => lasting e' (List.mem_cons_of_mem e he')

variable {seed : Int} {past : List Moment} {s : State}

/-- **The induction over the past of a machine.** -/
theorem holds (start : ∀ modern, P [] (State.fresh (Random.Key.ofSeed seed) modern))
    (next : ∀ past s x, P past s → P (past ++ [⟨s, x⟩]) (s.undergo x))
    (history : Chronicle seed past s) : P past s := by
  have initially {modern : Bool} {t : State} (created : State.create seed modern = .ok t) :
      P [] t := by
    rw [State.eq_fresh_of_create created]
    exact start modern
  cases history with
  | machine created es lasting => exact events next (initially created) lasting
  | host created es =>
      rw [Host.state_after]
      exact events next (initially (Host.create_state created)) fun _ =>
        Host.creates_of_mem_allEvents
  | debugger created xs => exact moments next (initially created) xs

/-- Does a statement about the past hold at the end of a past, and at each moment of it? -/
def Throughout (P : List Moment → State → Prop) (past : List Moment) (s : State) : Prop :=
  P past s ∧ ∀ before m later, past = before ++ m :: later → P before m.before

/-- **What survives every happening holds throughout.** -/
theorem throughout (start : ∀ modern, P [] (State.fresh (Random.Key.ofSeed seed) modern))
    (next : ∀ past s x, P past s → P (past ++ [⟨s, x⟩]) (s.undergo x))
    (history : Chronicle seed past s) : Throughout P past s := by
  refine holds (P := Throughout P) ?_ ?_ history
  · intro modern
    refine ⟨start modern, ?_⟩
    intro before m later hpast
    cases before <;> cases hpast
  · rintro past s x ⟨now, earlier⟩
    refine ⟨next past s x now, ?_⟩
    intro before m later hpast
    -- the moment is the last one, or it lies in the past before
    rcases List.eq_nil_or_concat later with rfl | ⟨later, last, rfl⟩
    · obtain ⟨rfl, hm⟩ := List.append_inj' hpast rfl
      obtain rfl := List.singleton_inj.mp hm
      exact now
    · rw [List.concat_eq_append, ← List.cons_append, ← List.append_assoc] at hpast
      exact earlier before m later (List.append_inj' hpast rfl).1

end Chronicle

end Chip8
