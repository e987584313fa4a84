import Chip8.Error
import Chip8.Value.Call

/-!
# References among settings

A text among the settings stands for what its template yields. A template that is a single
reference or a single call yields what that stands for, whatever it is; any other yields a text.

References may lead to texts with references of their own, and so on. Only references that go round
in a circle need more rounds than the tree has characters when it is written down, which bounds
them (`Value.yield`). `Value.resolved` puts values in place of all references.
-/

namespace Chip8.Value

/-! ## Terms -/

/-- The text that a term is read from, if it is a reference or a call. -/
def Term.source : Term → String
  | .reference source _ | .call source _ _ => source
  | _ => ""

/-- Fields of which each name has its last value. -/
def lastValues (fields : List (String × Value)) : List (String × Value) :=
  fields.foldl (fun kept field =>
    if kept.any fun f => f.1 = field.1 then
      kept.map fun f => if f.1 = field.1 then field else f
    else kept ++ [field]) []

section

variable (refer : String → Except Flaw Found) (call : String → List Found → Except Flaw Found)
  (made : Value → Found)

mutual

/-- What a term stands for: `refer` says it for a key, and `call` for the name of a function and its
arguments. All other values are made. -/
def Term.value : Term → Except Flaw Found
  | .constant v => .ok (made v)
  | .blanks => .error .blank
  | .joined parts => do return made (.str (← textOf parts))
  | .reference _ key => do refer (← keyOf key)
  | .call _ name arguments => do
      let name ← functionOf name
      call name (← valuesOf arguments)
  | .list items => do return made (.arr ((← valuesOf items).map (·.value)))
  | .record fields => do return made (.obj (lastValues (← fieldsOf fields)))

def textOf : List Term → Except Flaw String
  | [] => .ok ""
  | part :: parts => do
      let found ← part.value
      return found.value.text ++ (← textOf parts)

/-- The key that some parts add up to, which have to be texts. -/
def keyOf : List Term → Except Flaw String
  | [] => .ok ""
  | part :: parts => do
      let found ← part.value
      match found.value with
      | .str text => return text ++ (← keyOf parts)
      | v => throw (.notAName v.text v.kind found.setting part.source)

def functionOf : List Term → Except Flaw String
  | [] => .ok ""
  | part :: parts => do
      let found ← part.value
      match found.value with
      | .str text =>
          if parts.isEmpty then return text else return text ++ "." ++ (← functionOf parts)
      | v => throw (.notAFunctionName v.text v.kind found.setting part.source)

def valuesOf : List Term → Except Flaw (List Found)
  | [] => .ok []
  | term :: terms => do
      let found ← term.value
      return found :: (← valuesOf terms)

def fieldsOf : List (Term × Term) → Except Flaw (List (String × Value))
  | [] => .ok []
  | (name, term) :: fields => do
      let name ← name.value
      let found ← term.value
      return (name.value.text, found.value) :: (← fieldsOf fields)

end

end

/-! ## Following references -/

/-- What a term stands for at a site, with so many rounds to follow references. -/
def evaluate : Nat → Site → Term → Except Flaw Found
  | 0, _, _ => .error .circular
  | rounds + 1, site, term =>
      let follow (found : Found) : Except Flaw Found :=
        match found.value with
        | .str text =>
            match Template.isTemplate text, Template.parse text with
            | false, _ => .ok found
            | true, .ok term => evaluate rounds ⟨found.tree, found.place⟩ term
            | true, .error flaw => .error (.nested flaw)
        | _ => .ok found
      term.value (site.refer follow) (site.call follow (evaluate rounds site)) (site.made false)

def rounds (tree : Value) : Nat := tree.written.length + 1

/-- What a value stands for: a text for what its template yields, any other value for itself. -/
def yield (found : Found) : Except Flaw Found :=
  match found.value with
  | .str text =>
      if Template.isTemplate text then do
        evaluate found.tree.rounds ⟨found.tree, found.place⟩ (← Template.parse text)
      else .ok found
  | _ => .ok found

/-! ## Trees without references -/

def children : Value → List (Step × Value)
  | obj fields => fields.map fun f => (.key f.1, f.2)
  | arr items => items.mapIdx fun i item => (.index i, item)
  | _ => []

def rebuilt (v : Value) (children : List (Step × Value)) : Value :=
  match v with
  | obj _ => obj (children.map fun c => (c.1.label, c.2))
  | arr _ => arr (children.map (·.2))
  | v => v

/-- The value with values for all references. What still has to be given is an error, and so is a
reference without a value. -/
def contents : Nat → Found → Except Error Value
  | 0, found => .error (.reference found.place .circular)
  | rounds + 1, found => do
      if found.value.isUnset then throw (.settingMissing found.place)
      match yield found with
      | .error flaw =>
          throw (if flaw.isGrammatical then .template flaw else .reference found.place flaw)
      | .ok found =>
          let below ← found.value.children.mapM fun (step, child) =>
            (contents rounds { found with place := found.place ++ [step], value := child }).map
              fun child => (step, child)
          return found.value.rebuilt below

def resolved (tree : Value) : Except Error Value := contents tree.rounds ⟨tree, [], tree, true⟩

/-- The value that the setting at a place stands for; references below it stay. -/
def yieldedAt (tree : Value) (place : Path) : Except Error Value :=
  match tree.at? place with
  | none => .error (.settingMissing place)
  | some v =>
      if v.isUnset then .error (.settingMissing place)
      else
        match yield ⟨tree, place, v, true⟩ with
        | .ok found => .ok found.value
        | .error flaw => .error (.reference place flaw)

/-! ## Texts that are no templates -/

mutual

/-- Why a tree cannot become settings, if so: the first text that cannot. -/
def refusal? (place : Path) : Value → Option Error
  | str text => (Template.flaw? text).map (.reference place)
  | arr items => itemRefusal? place 0 items
  | obj fields => fieldRefusal? place fields
  | _ => none

def itemRefusal? (place : Path) (number : Nat) : List Value → Option Error
  | [] => none
  | item :: items =>
      (item.refusal? (place ++ [.index number])).or (itemRefusal? place (number + 1) items)

def fieldRefusal? (place : Path) : List (String × Value) → Option Error
  | [] => none
  | (name, value) :: fields =>
      (value.refusal? (place ++ [.key name])).or (fieldRefusal? place fields)

end

end Chip8.Value
