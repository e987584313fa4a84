import Chip8.Value.LookUp
import Chip8.Value.Outline

/-!
# References and calls

What a reference or a call stands for at a site, the place of the text that it is part of. Both
look for settings, seen from the container of that text; the container of a text cannot be referred
to from within. What a function makes takes the place of the text, so that keys in it can lead
upwards (`Site.made`).
-/

namespace Chip8.Value

/-- The place of a text and the tree that it is in. -/
structure Site where
  tree : Value
  place : Path

namespace Site

def made (s : Site) (setting : Bool) (v : Value) : Found :=
  ⟨s.tree.put s.place v, s.place, v, setting⟩

/-! ## References -/

def refer (s : Site) (follow : Found → Except Flaw Found) (key : String) : Except Flaw Found :=
  match origin? s.place.dropLast key with
  | none => .error (.outside key)
  | some (start, key) => do
      match ← lookUp s.tree follow start key with
      | .nothing => throw (.unknown key)
      | .unset place => throw (.unset place)
      | .blocked upper lower => throw (.notAContainer key upper lower)
      | .found found =>
          if found.place.isPrefixOf s.place.dropLast then throw .enclosing else return found

/-! ## Calls -/

def argument (s : Site) (follow : Found → Except Flaw Found) (key : String) : Except Flaw LookUp :=
  match origin? s.place.dropLast key with
  | none => .error (.argumentOutside key)
  | some (start, key) => lookUp s.tree follow start key

def wantText (f : Function) (found : Found) : Except Flaw String :=
  match found.value with
  | .str text => .ok text
  | v => .error (.argumentOfKind f v.text v.kind found.setting)

def recordFields (s : Site) (follow : Found → Except Flaw Found) (f : Function) (key : String) :
    Except Flaw (List (String × Value)) := do
  match ← s.argument follow key with
  | .nothing | .blocked _ _ => throw (.argumentUnknown key)
  | .unset place => throw (.argumentUnset place)
  | .found found =>
      match found.value with
      | .obj fields => return fields
      | v => throw (.notARecord f v.kind found.setting)

/-- A reference to a field of the record that a key leads to. It stands in a list, so a key that
starts with a dot needs one more. -/
def fieldReference (key name : String) : Except Flaw Value :=
  let dot := if key.toList.head? = some '.' then "." else ""
  let text := "$\x7b" ++ dot ++ key ++ "." ++ name ++ "\x7d"
  match Template.flaw? text with
  | none => .ok (.str text)
  | some flaw => .error (.nested flaw)

def apply (s : Site) (follow : Found → Except Flaw Found) (evaluate : Term → Except Flaw Found)
    (f : Function) (first : Found) (second : Option Found) : Except Flaw Found :=
  match f with
  | .select => do
      match ← s.argument follow (← wantText f first) with
      | .found found => return found
      | _ => return second.getD (s.made false .null)
  | .decode =>
      match first.value with
      | .null => return s.made false .null
      | _ => do
          match Template.parseArgument (← wantText f first) with
          | .ok term => evaluate term
          | .error flaw => throw (.nested flaw)
  | .create =>
      match first.value with
      | .null => return s.made false .null
      | .str text => return s.made true (.obj [(text, .null)])
      | .obj fields => return s.made true (.obj fields)
      | .arr items => return s.made true (.arr items)
      | v => .error (.contentsOfKind v.kind)
  | .environment => do
      let name ← wantText f first
      match second with
      | none => throw (.variableUnknown name)
      | some standard =>
          match standard.value with
          | .null => return s.made false .null
          | v => return s.made false (.str v.text)
  | .keys => do
      let fields ← s.recordFields follow f (← wantText f first)
      return s.made true (.arr (fields.map fun field => .str field.1))
  | .values => do
      let key ← wantText f first
      let fields ← s.recordFields follow f key
      return s.made true (.arr (← fields.mapM fun field => fieldReference key field.1))
  | .deprecated => do
      let key ← wantText f first
      if let some message := second then
        if message.value.kind ≠ .text then
          throw (.messageOfKind message.value.kind message.setting)
      match ← s.argument follow key with
      | .found found => return found
      | .unset place => throw (.argumentUnset place)
      | .nothing | .blocked _ _ => throw (.replacementUnknown s.place key)

def call (s : Site) (follow : Found → Except Flaw Found) (evaluate : Term → Except Flaw Found)
    (name : String) (arguments : List Found) : Except Flaw Found :=
  match Function.named? name with
  | none => .error (.functionUnknown name)
  | some f =>
      match arguments with
      | [] => .error (.tooFewArguments f)
      | first :: others =>
          if f.mostArguments < arguments.length then
            .error (.tooManyArguments f arguments.length)
          else s.apply follow evaluate f first others.head?

end Site

end Chip8.Value
