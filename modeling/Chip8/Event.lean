import Chip8.Cycle
import Chip8.Program

/-!
# Events

Everything that a host can do to a machine: start afresh, load a program, let it run, let time
pass, and move keys. An event that is refused leaves the machine as it was, so a history is any
list of events, and `State.after` is the state at its end.
-/

namespace Chip8

inductive Event where
  /-- Starts afresh, with the key of a seed. -/
  | create (seed : Int) (modern : Bool)
  | load (data : List Int) (strict : Bool)
  | step
  | run (cycles : Int)
  | frame (cycles : Int)
  | tick
  | setKeys (states : NestedArray Bool)
  | press (key : Int)
  | release (key : Int)

namespace State

def create (seed : Int) (modern : Bool) : Except Error State :=
  if Random.isSeed seed then .ok (fresh (Random.Key.ofSeed seed) modern) else .error .notASeed

def setKeys (s : State) (states : NestedArray Bool) : Except Error State := do
  let states ← states.checked
  match Keypad.ofStates? states with
  | some keypad => return { s with keypad := keypad }
  | none => throw (.keyShape states.shape)

def press (s : State) (k : Int) : State := { s with keypad := s.keypad.put k true }

def release (s : State) (k : Int) : State := { s with keypad := s.keypad.put k false }

/-- The effect of an event, or why it is refused. -/
def handle (s : State) : Event → Except Error State
  | .create seed modern => create seed modern
  | .load data strict => s.load data strict
  | .step => .ok s.step
  | .run cycles => s.runGiven cycles
  | .frame cycles => s.frameGiven cycles
  | .tick => .ok s.tick
  | .setKeys states => s.setKeys states
  | .press k => .ok (s.press k)
  | .release k => .ok (s.release k)

/-- The state after an event; a refused one changes nothing. -/
def afterEvent (s : State) (e : Event) : State :=
  match s.handle e with
  | .ok s' => s'
  | .error _ => s

def after (s : State) (history : List Event) : State := history.foldl afterEvent s

@[simp] theorem after_nil (s : State) : s.after [] = s := rfl

theorem after_cons (s : State) (e : Event) (es : List Event) :
    s.after (e :: es) = (s.afterEvent e).after es := rfl

theorem after_append (s : State) (es fs : List Event) :
    s.after (es ++ fs) = (s.after es).after fs := by
  simp [after]

theorem after_snoc (s : State) (es : List Event) (e : Event) :
    s.after (es ++ [e]) = (s.after es).afterEvent e := by
  simp [after]

end State

end Chip8
