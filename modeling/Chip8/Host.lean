import Chip8.Config
import Chip8.Disassembly
import Chip8.Event
import Chip8.Progress
import Chip8.Report

/-!
# The host

A host owns a machine and drives it: it refuses to run a halted one, counts what runs, writes a
log, and remembers the program that was loaded last. Each operation takes the time at which it
happens and yields an `Outcome`: the host afterwards, the lines printed, what happened to the
progress bar, and a result or an error. An operation that fails may have changed the machine all
the same: the frame in which it halts has run, and so has one that only could not be reported.
-/

namespace Chip8

structure Host where
  config : Config
  logger : Logger
  /-- The memory of the computer that it runs on. -/
  space : Space
  meter : RateMeter Seconds
  state : State
  /-- The program that was loaded last, as far as it fits. -/
  program : List UInt8

structure Outcome (α : Type) where
  host : Host
  /-- The lines printed, the first one first. -/
  lines : List Line
  /-- What happened to the progress bar. -/
  bar : List Progress.Event
  result : Except Error α

/-- Goes on from the host that is left, unless something failed. -/
def Outcome.andThen {α β : Type} (o : Outcome α) (next : Host → α → Outcome β) : Outcome β :=
  match o.result with
  | .ok a =>
      let p := next o.host a
      { p with lines := o.lines ++ p.lines, bar := o.bar ++ p.bar }
  | .error e => { o with result := .error e }

namespace Host

/-- A host with nothing loaded. -/
def create (config : Config) (logger : Logger) (space : Space) (now : Seconds) :
    Except Error Host :=
  (State.create config.seed config.modern).map fun state =>
    { config, logger, space, state, meter := RateMeter.start config.reportInterval now
      program := [] }

/-! ## Outcomes -/

/-- Something was looked up, and nothing happened. -/
def observed {α : Type} (h : Host) (result : Except Error α) : Outcome α :=
  { host := h, lines := [], bar := [], result := result }

def became (h : Host) (s : State) : Outcome Unit := { h with state := s }.observed (.ok ())

/-- Only the machine changes, unless the change is refused. -/
def attempt (h : Host) (change : Except Error State) : Outcome Unit :=
  match change with
  | .ok s => h.became s
  | .error e => h.observed (.error e)

/-- Messages are logged, or it turns out that they cannot be. -/
def told (h : Host) (now : Seconds) (messages : List Message) : Outcome Unit :=
  match h.logger.print now messages with
  | .ok lines => { h.observed (.ok ()) with lines := lines }
  | .error e => h.observed (.error e)

/-! ## Loading -/

/-- Loads a program; `source` says where it comes from. -/
def load (h : Host) (now : Seconds) (data : List Int) (source : String) : Outcome Unit :=
  match h.state.load data h.config.strictLoad with
  | .ok s =>
      let program := ((image? data).getD []).take programCapacity
      { h with state := s, program := program }.told now
        [Report.loaded source (.whole data.length) (.whole programCapacity)]
  | .error e => h.observed (.error e)

def loadFile (h : Host) (now : Seconds) (path : String) (contents : Except Error (List UInt8)) :
    Outcome Unit :=
  (h.observed contents).andThen fun h bytes => h.load now (imageOf bytes) path

def reload (h : Host) (now : Seconds) : Outcome Unit :=
  { h with state := h.state.loadBytes h.program }.told now [Report.reloaded]

/-! ## Running -/

def reported (h : Host) (now : Seconds) (closed : Window Seconds) : Except Error (List Line) := do
  h.logger.print now [Report.rates (← closed.rates)]

/-- Counts, and logs the rates of a window that is closed by it. If that fails, what was counted
stays counted and the window stays open. -/
def count (h : Host) (now : Seconds) (t : Tally) : Outcome Unit :=
  let (meter, report) := h.meter.countReporting (h.reported now) now t
  ({ h with meter := meter }.observed report).andThen fun h lines =>
    { h.observed (.ok ()) with lines := lines.getD [] }

def countIf (h : Host) (now : Seconds) (t : Except Error Tally) : Outcome Unit :=
  (h.observed t).andThen fun h t => h.count now t

/-- Counts one thing after another, up to the first that fails. -/
def countAll (h : Host) (now : Seconds) : List (Except Error Tally) → Outcome Unit
  | [] => h.observed (.ok ())
  | t :: ts => (h.countIf now t).andThen fun h _ => h.countAll now ts

def refuse (h : Host) (now : Seconds) (e : Error) : Outcome Unit :=
  (h.told now [Report.halted e.message]).andThen fun h _ => h.observed (.error e)

/-- Lets the machine run. A halted machine is left as it is, and a run in which it halts is not
counted. -/
def drive (h : Host) (now : Seconds) (run : State → Except Error (State × List Progress.Event))
    (tallies : List (Except Error Tally)) : Outcome Unit :=
  match h.state.error? with
  | some e => h.refuse now e
  | none =>
      (h.observed (run h.state)).andThen fun h (s, bar) =>
        let h := { h with state := s }
        match s.error? with
        | some e => { h.refuse now e with bar := bar }
        | none => { h.countAll now tallies with bar := bar }

def step (h : Host) (now : Seconds) : Outcome Unit :=
  h.drive now (fun s => .ok (s.step, [])) [.ok (Tally.ofCycles 1)]

def tick (h : Host) : Outcome Unit := h.became h.state.tick

def runFrame (h : Host) (now : Seconds) : Outcome Unit :=
  let pace := h.config.cyclesPerFrame
  h.drive now (fun s => do return (← s.frameGiven (← pace.run), []))
    [pace.counted.map Tally.ofCycles, .ok (Tally.ofFrames 1)]

def framesWatched (s : State) (space : Space) (cycles : Int) (n : Count) :
    Except Error (State × List Progress.Event) := do
  let plan ← (Progress.Plan.make n none none).checked space
  State.countable cycles n.rounds
  let watched := plan.run (fun s => s.frame cycles) s
  return (watched.state, watched.events)

/-- Runs `n` frames. A part of a frame is run as a whole, and a negative number runs none, but what
is counted is what was asked for. -/
def runFrames (h : Host) (now : Seconds) (n : Count) (progress : Bool) : Outcome Unit :=
  let pace := h.config.cyclesPerFrame
  h.drive now
    (fun s => do
      let cycles ← pace.run
      if progress then framesWatched s h.space cycles n
      else return (← s.framesGiven h.space cycles n.rounds, []))
    [pace.counted.map fun cycles => Tally.ofCycles (n * cycles), .ok (Tally.ofFrames n)]

/-! ## Settings -/

/-- Changes a setting from now on. A setting that there is not makes no difference. -/
def configure (h : Host) (setting : Setting) : Host :=
  match h.config.assign setting with
  | .ok config => { h with config := config }
  | .error _ => h

/-! ## Looking at the machine -/

def elapsed (h : Host) : Except Error Float := (Seconds.whole frameRate).per h.meter.total.frames

def memoryWindow (h : Host) (start length : Int) : Except Error (List UInt8) :=
  if start < 0 || length < 0 || memorySize < start + length then
    .error (.outsideMemory start length)
  else .ok (h.state.memory.block start.toNat length.toNat)

def programDump (h : Host) : Except Error (List UInt8) :=
  h.memoryWindow programStart h.program.length

def currentInstruction (h : Host) : String := disassemble h.state.fetch.toNat

def registerFile (h : Host) : Report.RegisterFile where
  data := h.state.v.toList.map fun b => (b.toNat : Int)
  pc := h.state.pc.toNat
  index := h.state.index.toNat
  pointer := .whole h.state.stack.pointer.toNat
  delay := .whole h.state.delay.toNat
  sound := .whole h.state.sound.toNat

def logRegisters (h : Host) (now : Seconds) : Outcome Unit :=
  let (messages, error?) := Report.registers h.registerFile
  (h.told now messages).andThen fun h _ =>
    h.observed (match error? with
      | none => .ok ()
      | some e => .error e)

end Host

end Chip8
