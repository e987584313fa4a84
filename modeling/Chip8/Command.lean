import Chip8.Host

/-!
# Commands

Everything that can be asked of a host, as data, with the answer that each kind of request gets.
A history is a list of commands and the times at which they are given; `Host.after` is the host at
its end, whichever of them failed.
-/

namespace Chip8

inductive Command where
  | load (data : List Int) (source : String)
  /-- The contents are those of the file, if it can be read. -/
  | loadFile (path : String) (contents : Except Error (List UInt8))
  | reload
  | step
  | tick
  | runFrame
  | runFrames (n : Count) (progress : Bool)
  | setKeys (states : NestedArray Bool)
  | press (key : Int)
  | release (key : Int)
  | configure (setting : Setting)
  | currentInstruction
  | logRegisters
  | memoryWindow (start length : Int)
  | programDump
  | framebuffer
  | elapsed
  | rates
  | keys

/-- The answer to a command that succeeds. -/
inductive Reply where
  | done
  | text (s : String)
  | bytes (bs : List UInt8)
  | display (d : Display)
  | seconds (t : Float)
  | rates (r : Rates)
  | keypad (k : Keypad)

namespace Outcome

/-- The outcome of an operation without an answer of its own. -/
def done (o : Outcome Unit) : Outcome Reply := { o with result := o.result.map fun _ => .done }

end Outcome

namespace Host

def perform (h : Host) (now : Seconds) : Command → Outcome Reply
  | .load data source => (h.load now data source).done
  | .loadFile path contents => (h.loadFile now path contents).done
  | .reload => (h.reload now).done
  | .step => (h.step now).done
  | .tick => h.tick.done
  | .runFrame => (h.runFrame now).done
  | .runFrames n progress => (h.runFrames now n progress).done
  | .setKeys states => (h.attempt (h.state.setKeys states)).done
  | .press k => (h.became (h.state.press k)).done
  | .release k => (h.became (h.state.release k)).done
  | .configure setting => (h.configure setting).observed (.ok .done)
  | .currentInstruction => h.observed (.ok (.text h.currentInstruction))
  | .logRegisters => (h.logRegisters now).done
  | .memoryWindow start length => h.observed ((h.memoryWindow start length).map .bytes)
  | .programDump => h.observed (h.programDump.map .bytes)
  | .framebuffer => h.observed (.ok (.display h.state.display))
  | .elapsed => h.observed (h.elapsed.map .seconds)
  | .rates => h.observed ((h.meter.rates now).map .rates)
  | .keys => h.observed (.ok (.keypad h.state.keypad))

def after (h : Host) (history : List (Seconds × Command)) : Host :=
  history.foldl (fun h e => (h.perform e.1 e.2).host) h

@[simp] theorem after_nil (h : Host) : h.after [] = h := rfl

theorem after_append (h : Host) (es fs : List (Seconds × Command)) :
    h.after (es ++ fs) = (h.after es).after fs := by
  simp [after]

theorem after_snoc (h : Host) (es : List (Seconds × Command)) (now : Seconds) (c : Command) :
    h.after (es ++ [(now, c)]) = ((h.after es).perform now c).host := by
  simp [after]

end Host

end Chip8
