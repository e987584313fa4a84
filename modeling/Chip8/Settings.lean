import Chip8.Headless
import Chip8.Value.Numeral
import Chip8.Value.Reference

/-!
# Settings of a run

A headless run can be described by a tree of settings. It is laid over the tree of the defaults,
in which only the name of the program is missing, and references are replaced by what they refer
to (`Job.described`, `Job.ofValue`).
-/

namespace Chip8

/-- The number of cycles in a frame that a value stands for. Places do not count for it, and a text
is read as a numeral, although it cannot be counted. -/
def Pace.ofValue (v : Value) : Pace where
  run := match v with
    | .null => .error (.ofKind .pace .null)
    | v => if v.isContainer then .error (.unhashable v.kind v.text) else v.whole
  counted := v.count .summand

def Config.interval (v : Value) : Except Error Seconds :=
  v.time fun kind => .incomparable "<=" kind .whole

def Setting.ofField (field : String × Value) : Setting :=
  match field with
  | ("cycles_per_frame", v) => .cyclesPerFrame (.ofValue v)
  | ("modern_mode", v) => .modern v.truth
  | ("strict_load", v) => .strictLoad v.truth
  | ("seed", v) =>
      match v.seed with
      | .ok n => .seed n
      | .error e => .refused e
  | ("log_level", .str level) => .logLevel level
  | ("log_level", v) => .refused (.ofKind .level v.kind)
  | ("perf_interval", v) => .reportInterval (Config.interval v)
  | (name, _) => .other name

/-- The plan of a progress bar that some values describe. The number of iterations is needed for the
title first, unless that is given, and for the stride then. -/
def Progress.Plan.ofValues (total : Value) (stride? title? : Option Value) :
    Except Error Progress.Plan := do
  if title?.isNone then
    let _ ← total.count .title
  let title := title?.map Value.text
  match stride? with
  | none => return .make (← total.count .dividend) none title
  | some stride =>
      match total.count .title, stride.count .title with
      | .ok n, .ok stride => return .make n (some stride) title
      | _, _ =>
          match total.kind, stride.kind with
          | .text, .text | .list, .list => throw (.incomparable ">" total.kind .whole)
          | n, stride => throw (.incomparable "<" n stride)

namespace Job

def defaults : Value :=
  .obj [("rom", .str "???"), ("frames", .num "600"), ("progress", .bool true),
    ("screenshot", .null), ("color_scheme", .str "classic"), ("scale", .num "8"),
    ("machine", .obj [("cycles_per_frame", .num "10"), ("modern_mode", .bool true),
      ("strict_load", .bool false), ("seed", .num "0"), ("log_level", .str "INFO"),
      ("perf_interval", .num "3.0")])]

/-- All settings of a run, of which some are given. Every text among those has to be a template. -/
def described (given : Value) : Except Error Value :=
  match given.refusal? [], Value.merge defaults given with
  | some e, _ => .error e
  | none, some settings => .ok settings
  | none, none => .error .listForRecord

/-- The name of a file, if it is not empty. A value that is no text is a name without a dot. -/
def fileName : Value → String
  | .str text => text
  | v => if v.truth then String.ofList (v.text.toList.filter (· ≠ '.')) else ""

/-- The name of a program file. A whole number of 32 bits is taken for that of an open file, but
there is none. -/
def programName : Value → Except Error String
  | .str text => .ok text
  | v =>
      if v.isWhole ∧ Bits.fits 32 v.toInt then
        .error (if v.toInt < 0 then .fileNumberNegative else .fileNumberUnknown)
      else .error (.ofKind .program v.kind)

/-- The name of a colour scheme. Containers have none. -/
def schemeName (v : Value) : Except Error String :=
  if v.isContainer then .error (.ofKind .scheme v.kind) else .ok v.text

/-- A number of frames. If it appears in the title of a progress bar, that is what it is needed for
first. -/
def frameCount (v : Value) (progress : Bool) : Except Error Count :=
  if progress then v.count .title
  else if v.isContainer then .error (.unhashable v.kind v.text)
  else v.count .frames

def ofValue (settings : Value) : Except Error Job := do
  let settings ← settings.resolved
  let setting (name : String) : Value := (settings.field? name).getD .null
  match setting "machine" with
  | .obj fields =>
      return { program := programName (setting "rom")
               frames := frameCount (setting "frames") (setting "progress").truth
               progress := (setting "progress").truth
               screenshot := fileName (setting "screenshot")
               scheme := schemeName (setting "color_scheme")
               scale := (setting "scale").scale
               settings := fields.map Setting.ofField }
  | v => throw (.ofKind .settings v.kind)

end Job

end Chip8
