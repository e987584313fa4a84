import Chip8.Error

/-!
# Files in a folder

A folder holds files, each under a name. A path leads to a file through parts between slashes, one
part after the other: the empty part and the single dot stay where they are, two dots lead outside,
and a name leads to the file that has it. Only from a folder does a part lead anywhere. Outside of
the folder no names are known. The first thing that is in the way of a path is the error that
reading (`Folder.read`) or writing (`Folder.write`) ends with.
-/

namespace Chip8

structure Files where
  /-- The contents of a file. -/
  read : String → Except Error (List UInt8)
  /-- Whether a file can be written. -/
  writable : String → Except Error Unit

/-- Files by their names; of two with one name the first counts. -/
structure Folder where
  files : List (String × List UInt8)

namespace Folder

def empty : Folder := ⟨[]⟩

/-! ## Paths -/

def split : List Char → List (List Char)
  | [] => [[]]
  | '/' :: rest => [] :: split rest
  | c :: rest =>
      match split rest with
      | part :: others => (c :: part) :: others
      | [] => [[c]]

def pathLimit : Nat := 4095

def nameLimit : Nat := 255

def parts (path : String) : Except Error (List String) :=
  if path.toList.contains '\x00' then .error .pathHoldsNull
  else if path = "" then .error (.fileMissing path)
  else if pathLimit < path.utf8ByteSize then .error (.nameTooLong path)
  else .ok ((split path.toList).map String.ofList)

inductive Place where
  /-- The folder itself. -/
  | inside
  /-- Some other folder. -/
  | outside
  /-- A file with these contents. -/
  | file (bytes : List UInt8)

/-- Where a path begins: with a slash in front it is somewhere else. -/
def start (path : String) : Place := if path.toList.head? = some '/' then .outside else .inside

def steps : List String := ["", ".", ".."]

def enter (f : Folder) (path : String) (place : Place) (part : String) : Except Error Place :=
  match place with
  | .file _ => .error (.notADirectory path)
  | place =>
      if part = ".." then .ok .outside
      else if steps.contains part then .ok place
      else if nameLimit < part.utf8ByteSize then .error (.nameTooLong path)
      else
        match place, f.files.lookup part with
        | .inside, some bytes => .ok (.file bytes)
        | _, _ => .error (.fileMissing path)

def walk (f : Folder) (path : String) (parts : List String) : Except Error Place :=
  parts.foldlM (f.enter path) (start path)

/-! ## Reading and writing -/

def read (f : Folder) (path : String) : Except Error (List UInt8) := do
  match ← f.walk path (← parts path) with
  | .file bytes => return bytes
  | _ => throw (.isADirectory path)

/-- The folder with a file put at the end of a path, in place of an earlier one. All parts but the
last have to lead to a folder, and the last one has to be a name without a slash behind it. A file
that is put outside is not seen any more. -/
def write (f : Folder) (path : String) (bytes : List UInt8) : Except Error Folder := do
  let parts ← parts path
  let slashes := parts.reverse.takeWhile (· = "")
  match parts.reverse.drop slashes.length with
  | [] => throw (.isADirectory path)
  | name :: before =>
      match ← f.walk path before.reverse with
      | .file _ => throw (.notADirectory path)
      | place =>
          if slashes ≠ [] ∨ steps.contains name then throw (.isADirectory path)
          else if nameLimit < name.utf8ByteSize then throw (.nameTooLong path)
          else if place matches .inside then return ⟨(name, bytes) :: f.files⟩
          else return f

def access (f : Folder) : Files where
  read := f.read
  writable path := (f.write path []).map fun _ => ()

example : (read ⟨[("a", [1, 2])]⟩ ".//./a").toOption = some [1, 2] := by decide +kernel
example : read ⟨[("a", [])]⟩ "a/../a" matches .error (.notADirectory _) := by decide +kernel
example : read ⟨[("a", [])]⟩ "b/../a" matches .error (.fileMissing _) := by decide +kernel
example : read empty ".././" matches .error (.isADirectory _) := by decide +kernel
example : read empty "a\x00" matches .error .pathHoldsNull := by decide +kernel
example : (empty.write "./c" [7] >>= fun f => f.read "c").toOption = some [7] := by decide +kernel

end Folder

end Chip8
