import Chip8.Host
import Chip8.PictureFile

/-!
# Headless runs

A headless run loads a program from a file, runs it for a number of frames without a screen, says
where it got to, and saves the screen if asked to. It comes to its end, stops at an error, or ends
with a failure status because the machine halted on the way.
-/

namespace Chip8

/-- What a headless run is to do. What cannot be used stops the run when its turn comes. -/
structure Job where
  /-- Name of the program file. -/
  program : Except Error String := .error (.ofKind .program .null)
  frames : Except Error Count := .ok 600
  /-- Whether a progress bar is shown. -/
  progress : Bool := true
  /-- Name of the file that the screen is saved to, if it is not empty. -/
  screenshot : String := ""
  scheme : Except Error String := .ok "classic"
  scale : Except Error Int := .ok 8
  /-- Changes to the default settings of the host. -/
  settings : List Setting := []

structure Job.Times where
  /-- When the host is created. -/
  created : Seconds
  loaded : Seconds
  ran : Seconds
  /-- When it is said where the run got to, and the registers are shown. -/
  shown : Seconds
  saved : Seconds

/-- All at one time. -/
def Job.Times.still (now : Seconds) : Job.Times := ⟨now, now, now, now, now⟩

inductive Ending where
  | finished
  /-- The machine halted. -/
  | failed (status : Nat)
  /-- Something could not be done at all. -/
  | stopped (e : Error)
deriving DecidableEq

structure Job.Result where
  /-- The lines printed, the first one first. -/
  lines : List Line
  /-- What happened to the progress bar. -/
  bar : List Progress.Event
  /-- The saved screen. -/
  picture : Option Picture
  ending : Ending

namespace Job

def Result.stopped (e : Error) : Result :=
  { lines := [], bar := [], picture := none, ending := .stopped e }

def Result.ofOutcome (o : Outcome (Option Picture)) : Result where
  lines := o.lines
  bar := o.bar
  picture := o.result.toOption.join
  ending := match o.result with
    | .ok _ => .finished
    | .error e => .stopped e

def save (job : Job) (files : Files) (h : Host) (now : Seconds) : Outcome (Option Picture) :=
  if job.screenshot = "" then h.observed (.ok none)
  else
    let picture := do
      Picture.forFile h.space.bytes h.state.display files job.screenshot job.scale (← job.scheme)
    (h.observed picture).andThen fun h picture =>
      (h.told now [Level.info.message ("Framebuffer saved to " ++ job.screenshot)]).andThen
        fun h _ => h.observed (.ok (some picture))

def summary (h : Host) (frames : Count) : Except Error (List Message) :=
  h.elapsed.map fun elapsed =>
    let time := Text.fixed 1 elapsed
    let ran := frames.text
    [Level.info.message (s!"Ran {ran} frames ({time}s of machine time)"),
     Level.info.message ("Next instruction: " ++ h.currentInstruction)]

def conclude (job : Job) (files : Files) (h : Host) (times : Times) (frames : Count) :
    Outcome (Option Picture) :=
  (h.observed (summary h frames)).andThen fun h summary =>
    (h.told times.shown summary).andThen fun h _ =>
      (h.logRegisters times.shown).andThen fun h _ => job.save files h times.saved

/-- Runs the frames on a host that has the program in place. If the machine halts, the registers
are shown. -/
def runOn (job : Job) (files : Files) (h : Host) (times : Times) : Result :=
  match job.frames with
  | .error e => Result.stopped e
  | .ok frames =>
      let ran := h.runFrames times.ran frames job.progress
      match ran.result with
      | .ok () => Result.ofOutcome (ran.andThen fun h _ => job.conclude files h times frames)
      | .error e =>
          if e.isMachineError then
            let shown := ran.host.logRegisters times.shown
            { lines := ran.lines ++ shown.lines
              bar := ran.bar
              picture := none
              ending := match shown.result with
                | .ok () => .failed 1
                | .error e => .stopped e }
          else { Result.stopped e with lines := ran.lines, bar := ran.bar }

/-- Runs a job with the program and the screen in these files, its parts at these times. The
settings decide on the threshold of the logger. -/
def runAt (job : Job) (logger : Logger) (files : Files) (space : Space) (times : Times) : Result :=
  let host := do
    let config ← Config.ofSettings job.settings
    Host.create config (logger.withThreshold config.logLevel) space times.created
  match host, job.program with
  | .error e, _ | .ok _, .error e => Result.stopped e
  | .ok h, .ok program =>
      let loaded := h.loadFile times.loaded program (files.read program)
      match loaded.result with
      | .ok () =>
          let ran := job.runOn files loaded.host times
          { ran with lines := loaded.lines ++ ran.lines }
      | .error e => { Result.stopped e with lines := loaded.lines }

/-- Runs a job in no time. -/
def run (job : Job) (logger : Logger) (files : Files) (space : Space) (now : Seconds) : Result :=
  job.runAt logger files space (.still now)

end Job

end Chip8
