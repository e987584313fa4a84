import Chip8.Arguments

/-!
# The headless runner

Runs a program file for a number of frames and reports where the machine got to. Of the picture
formats it writes the portable pixmap only. Time stands still while the run is computed, and the
room for arrays is all that can be addressed.
-/

open Chip8

def fileContents (path : String) : IO (Except Error (List UInt8)) := do
  try
    return .ok (← IO.FS.readBinFile path).toList
  catch _ => return .error (.fileMissing path)

def deliver (job : Job) (result : Job.Result) : IO UInt32 := do
  for line in result.lines do
    IO.println line.text
  if let some picture := result.picture then
    if Picture.extension job.screenshot = ".ppm" then
      try IO.FS.writeBinFile job.screenshot (ByteArray.mk picture.pixmap.toArray)
      catch _ =>
        IO.eprintln "the picture could not be written"
        return 1
    else IO.eprintln "no picture was written: use a name that ends in .ppm"
  match result.ending with
  | .finished => return 0
  | .failed status => return UInt32.ofNat status
  | .stopped e =>
      IO.eprintln e.message
      return 1

def main (args : List String) : IO UInt32 := do
  match Job.ofArguments args with
  | .error e =>
      IO.eprintln e.message
      return 1
  | .ok job =>
      let contents ← fileContents (job.program.toOption.getD "")
      let terminal ← (← IO.getStdout).isTty
      let now := Seconds.real (Binary.nearest (← IO.monoMsNow) 1000)
      let logger : Logger :=
        { name := "chip8", threshold := ({} : Config).logLevel, colours := true
          terminal := terminal, timestamps := true, start := now }
      let files : Files := { read := fun _ => contents, writable := fun _ => .ok () }
      let space : Space := ⟨0x7FFFFFFFFFFFFFFF, by decide⟩
      deliver job (job.run logger files space now)
