import Chip8.Text.Digit
import Chip8.Value.Flaw

/-!
# Looking up settings

A key leads to a setting by names: from the root, or from a container if it starts with a dot; each
further dot starts one container higher (`origin`). On the way down every text is replaced by what
it stands for, so a key can lead through references (`Found.descend`).
-/

namespace Chip8.Value

/-! ## Keys -/

/-- The rest of a key behind its first name: names behind dots and names in brackets. -/
def furtherNames : Nat → List Char → List String
  | rounds + 1, '.' :: rest =>
      let inName (c : Char) : Bool := c != '.' && c != '['
      String.ofList (rest.takeWhile inName) :: furtherNames rounds (rest.dropWhile inName)
  | rounds + 1, '[' :: rest =>
      if rest.contains ']' then
        String.ofList (rest.takeWhile (· != ']')) ::
          furtherNames rounds ((rest.dropWhile (· != ']')).drop 1)
      else furtherNames rounds rest
  | rounds + 1, _ :: rest => furtherNames rounds rest
  | _, _ => []

def names (key : String) : List String :=
  let inName (c : Char) : Bool := c != '.' && c != '['
  let first := key.toList.takeWhile inName
  let others := key.toList.dropWhile inName
  let further := furtherNames others.length others
  if key = "" ∨ first = [] ∧ others.head? = some '[' then further
  else String.ofList first :: further

example : names "a.b[c].d" = ["a", "b", "c", "d"] := by decide +kernel
example : names "[a].b" = ["a", "b"] ∧ names "a[b.c" = ["a", "c"] := by decide +kernel

def step (container : Value) (name : String) : Except Flaw Step :=
  match container, Text.whole? name with
  | arr items, some n => .ok (.index (if n < 0 then items.length else n.toNat))
  | arr _, none => .error (.notAnIndex name)
  | _, _ => .ok (.key name)

/-- Where a key starts, seen from a container, and the rest of the key: without a dot in front at
the root, else at the container, and for each further dot one container higher. There is nothing
above the root. -/
def origin? (container : Path) (key : String) : Option (Path × String) :=
  let dots := (key.toList.takeWhile (· = '.')).length
  let rest := (key.drop dots).toString
  if dots = 0 then some ([], key)
  else if container.length < dots - 1 then none
  else some (container.take (container.length - (dots - 1)), rest)

example : origin? [.key "a", .index 0] ".b" = some ([.key "a", .index 0], "b") := by decide +kernel
example : origin? [.key "a", .index 0] "...b" = some ([], "b") := by decide +kernel
example : origin? [] "..b" = none ∧ origin? [] ".b" = some ([], "b") := by decide +kernel

/-! ## The way down -/

structure Found where
  tree : Value
  place : Path
  value : Value
  /-- Is it one of the settings, or was it made by a function? -/
  setting : Bool

inductive LookUp where
  | found (found : Found)
  /-- There is nothing where the key leads. -/
  | nothing
  /-- What is there still has to be given. -/
  | unset (place : Path)
  /-- The value at the end of the first names has nothing below it. -/
  | blocked (upper lower : String)

/-- Goes down from a container, name by name. `follow` replaces a text by what it stands for. -/
def Found.descend (follow : Found → Except Flaw Found) (above : List String) (found : Found) :
    List String → Except Flaw LookUp
  | [] => .ok (.found found)
  | name :: names => do
      let step ← found.value.step name
      match found.value.child? step with
      | none => return .nothing
      | some v =>
          let place := found.place ++ [step]
          if v.isUnset then return .unset place
          let next ← follow { found with place := place, value := v, setting := true }
          match names with
          | lower :: _ =>
              if next.value.isContainer then next.descend follow (above ++ [name]) names
              else return .blocked (".".intercalate (above ++ [name])) lower
          | [] => return .found next

def lookUp (tree : Value) (follow : Found → Except Flaw Found) (start : Path) (key : String) :
    Except Flaw LookUp :=
  match tree.at? start with
  | some v => Found.descend follow [] ⟨tree, start, v, true⟩ (names key)
  | none => .ok .nothing

end Chip8.Value
