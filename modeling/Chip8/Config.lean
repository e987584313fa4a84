import Chip8.Seconds

/-!
# Configuration

The settings of a host, each with a default, and how single settings are changed.
-/

namespace Chip8

/-- How many cycles there are in a frame. Not everything that can be used as a number of rounds can
also be counted, so the two are kept apart. -/
structure Pace where
  /-- How many cycles are run. -/
  run : Except Error Int
  /-- How many cycles are counted. -/
  counted : Except Error Count

def Pace.ofInt (n : Int) : Pace := ⟨.ok n, .ok (.whole n)⟩

structure Config where
  cyclesPerFrame : Pace := .ofInt 10
  /-- Whether shifts and block transfers work the modern way. -/
  modern : Bool := true
  /-- Whether a program that does not fit is refused. -/
  strictLoad : Bool := false
  /-- Seed of the random number generator. -/
  seed : Int := 0
  /-- Name of the lowest level that is logged. -/
  logLevel : String := "INFO"
  /-- Seconds between reports on the speed; without reports unless positive. -/
  reportInterval : Except Error Seconds := .ok (.real 3.0)

inductive Setting where
  | cyclesPerFrame (pace : Pace)
  | modern (yes : Bool)
  | strictLoad (yes : Bool)
  | seed (n : Int)
  | logLevel (name : String)
  | reportInterval (seconds : Except Error Seconds)
  /-- A setting that is refused at once. -/
  | refused (e : Error)
  /-- A setting that there is not. -/
  | other (name : String)

/-- The name of a setting that there is not. -/
def Setting.unknown? : Setting → Option String
  | other name => some name
  | _ => none

namespace Config

def assign (c : Config) : Setting → Except Error Config
  | .cyclesPerFrame pace => .ok { c with cyclesPerFrame := pace }
  | .modern yes => .ok { c with modern := yes }
  | .strictLoad yes => .ok { c with strictLoad := yes }
  | .seed n => .ok { c with seed := n }
  | .logLevel name => .ok { c with logLevel := name }
  | .reportInterval seconds => .ok { c with reportInterval := seconds }
  | .refused e => .error e
  | .other name => .error (.settingUnknown name)

/-- The defaults with some settings changed, one after another. The first thing that is looked at
is whether there are all these settings. -/
def ofSettings (settings : List Setting) : Except Error Config :=
  match settings.findSome? Setting.unknown? with
  | some name => .error (.settingUnknown name)
  | none => settings.foldlM assign {}

end Config

end Chip8
