import Chip8.Headless

/-!
# Command-line arguments

Each argument of a headless run sets one thing: a name, an equals sign, and the value. Settings of
the host are named after the word `machine` and a dot.
-/

namespace Chip8.Job

/-! ## Values -/

def truth? (value : String) : Option Bool :=
  if value = "true" then some true else if value = "false" then some false else none

/-- A time in decimal notation with or without places. -/
def seconds? (value : String) : Option Seconds :=
  match value.splitOn "." with
  | [whole] => whole.toInt?.map .whole
  | [whole, places] =>
      (whole ++ places).toInt?.map fun n => .real (Binary.nearest n (Nat.pow 10 places.length))
  | _ => none

def setting? (name value : String) : Option Setting :=
  match name with
  | "cycles_per_frame" => value.toInt?.map fun n => .cyclesPerFrame (.ofInt n)
  | "modern_mode" => (truth? value).map .modern
  | "strict_load" => (truth? value).map .strictLoad
  | "seed" => value.toInt?.map .seed
  | "log_level" => some (.logLevel value)
  | "perf_interval" => (seconds? value).map fun t => .reportInterval (.ok t)
  | name => some (.other name)

/-! ## Arguments -/

def assign? (job : Job) (name value : String) : Option Job :=
  match name with
  | "rom" => some { job with program := .ok value }
  | "frames" => value.toInt?.map fun n => { job with frames := .ok (.whole n) }
  | "progress" => (truth? value).map fun yes => { job with progress := yes }
  | "screenshot" => some { job with screenshot := value }
  | "color_scheme" => some { job with scheme := .ok value }
  | "scale" => value.toInt?.map fun n => { job with scale := .ok n }
  | name =>
      match name.splitOn "." with
      | ["machine", name] =>
          (setting? name value).map fun s => { job with settings := job.settings ++ [s] }
      | _ => some { job with settings := job.settings ++ [.other name] }

def argument (job : Job) (text : String) : Except Error Job :=
  let name := String.ofList (text.toList.takeWhile (· != '='))
  let value := String.ofList ((text.toList.dropWhile (· != '=')).drop 1)
  match job.assign? name value with
  | some job => .ok job
  | none => .error (.settingMalformed name value)

/-- The job that some arguments ask for. -/
def ofArguments (texts : List String) : Except Error Job := texts.foldlM argument {}

end Chip8.Job
