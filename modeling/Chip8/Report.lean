import Chip8.Log
import Chip8.RateMeter

/-!
# Reports

What is said about a machine: that a program was loaded, that the machine halted, how fast it
runs, and what its registers hold.
-/

namespace Chip8.Report

/-- A program of `size` bytes was loaded; one that is larger than the capacity was cut off. -/
def loaded (source : String) (size capacity : Count) : Message :=
  let bytes := size.text
  let limit := capacity.text
  if capacity < size then
    Level.warning.message (s!"Loaded {source}: {bytes} bytes, truncated to {limit}")
  else Level.info.message (s!"Loaded {source} ({bytes} bytes)")

def reloaded : Message := Level.debug.message "Reloaded program"

def halted (reason : String) : Message := Level.error.message ("Interpreter halted: " ++ reason)

def rates (r : Rates) : Message :=
  Level.info.message
    ("CPU = " ++ Text.fixed 0 r.cycles ++ "Hz, FPS = " ++ Text.fixed 1 r.frames ++ "Hz")

/-! ## Registers -/

structure RegisterFile where
  /-- The data registers, `V0` first. -/
  data : List Int
  pc : Int
  index : Int
  pointer : Count
  delay : Count
  sound : Count

def cell (number : Nat) (content : Int) : String :=
  "V" ++ Text.hex 1 number ++ ":" ++ Text.hex 2 content

/-- Rows of four data registers, the first of them with this number, and whether the last row is
complete. -/
def rows (number : Nat) : List Int → List String × Bool
  | a :: b :: c :: d :: rest =>
      let row := " ".intercalate
        [cell number a, cell (number + 1) b, cell (number + 2) c, cell (number + 3) d]
      let (below, complete) := rows (number + 4) rest
      (("  " ++ row) :: below, complete)
  | [] => ([], true)
  | _ => ([], false)

/-- The contents of the registers. An incomplete last row is not shown, and is an error. -/
def registers (file : RegisterFile) : List Message × Option Error :=
  let head := "PC: 0x" ++ Text.hex 3 file.pc ++ "  I: 0x" ++ Text.hex 3 file.index ++
    "  SP: " ++ file.pointer.text ++ "  DT: " ++ file.delay.text ++ "  ST: " ++ file.sound.text
  let (below, complete) := rows 0 file.data
  ((head :: below).map Level.info.message, if complete then none else some .shortRow)

theorem rows_complete (number : Nat) (data : List Int) :
    (rows number data).2 = true ↔ data.length % 4 = 0 := by
  fun_induction rows number data with
  | case1 number a b c d rest row below complete h ih =>
      rw [h] at ih
      simp only [ih, List.length_cons]
      omega
  | case2 => simp
  | case3 data number long short =>
      rcases data with _ | ⟨a, _ | ⟨b, _ | ⟨c, _ | ⟨d, rest⟩⟩⟩⟩
      · exact (short rfl).elim
      · simp
      · simp
      · simp
      · exact (long a b c d rest rfl).elim

end Chip8.Report
