import Chip8.Text.Quoted

/-!
# Values

Settings come as trees: nothing, truth values, numerals, texts, lists, and records of named values.
A place in a tree is a path of names and numbers (`Value.at?`). Settings are laid over defaults
(`Value.merge`), where a text of three question marks stands for what still has to be given.
-/

namespace Chip8

/-- A tree of settings. Numerals are kept as they are written. -/
inductive Value where
  | null
  | bool (b : Bool)
  | num (numeral : String)
  | str (text : String)
  | arr (items : List Value)
  | obj (fields : List (String × Value))
deriving Inhabited

namespace Value

/-! ## Places -/

inductive Step where
  | key (name : String)
  | index (number : Nat)
deriving DecidableEq

abbrev Path := List Step

def Step.text : Step → String
  | key name => "." ++ name
  | index number => s!"[{number}]"

def Step.label : Step → String
  | key name => name
  | index number => toString number

/-- The names in a path with dots between them, and its numbers in brackets. -/
def Path.text : Path → String
  | [] => ""
  | .key name :: steps => name ++ String.join (steps.map Step.text)
  | steps => String.join (steps.map Step.text)

def child? : Value → Step → Option Value
  | obj fields, .key name => fields.lookup name
  | arr items, .index number => items[number]?
  | _, _ => none

def at? : Value → Path → Option Value
  | v, [] => some v
  | v, step :: steps => (v.child? step).bind fun w => w.at? steps

def replaced (items : List Value) (number : Nat) (item : Value) : List Value :=
  items.take number ++ item :: items.drop (number + 1)

def put : Value → Path → Value → Value
  | _, [], new => new
  | obj fields, .key name :: steps, new =>
      obj (fields.map fun f => if f.1 = name then (name, f.2.put steps new) else f)
  | arr items, .index number :: steps, new =>
      match items[number]? with
      | some item => arr (replaced items number (item.put steps new))
      | none => arr items
  | v, _, _ => v

def field? (v : Value) (name : String) : Option Value := v.child? (.key name)

/-- The fields of a record; there are none of any other value. -/
def fields : Value → List (String × Value)
  | obj fields => fields
  | _ => []

def items : Value → List Value
  | arr items => items
  | _ => []

def isContainer : Value → Bool
  | arr _ | obj _ => true
  | _ => false

/-! ## Kinds -/

/-- Is this a whole number? The truth values count as two of them. -/
def isWhole : Value → Bool
  | num numeral => numeral.toList.all fun c => c.isDigit || c = '-'
  | bool _ => true
  | _ => false

inductive Kind where
  | null
  | truth
  | whole
  | real
  | text
  | list
  | record
deriving DecidableEq

def Kind.name : Kind → String
  | null => "NoneType"
  | truth => "bool"
  | whole => "int"
  | real => "float"
  | text => "str"
  | list => "list"
  | record => "dict"

def kind (v : Value) : Kind :=
  match v with
  | null => .null
  | bool _ => .truth
  | num _ => if v.isWhole then .whole else .real
  | str _ => .text
  | arr _ => .list
  | obj _ => .record

/-! ## Texts -/

mutual

/-- The text of a value within another one. -/
def written : Value → String
  | null => "None"
  | bool b => if b then "True" else "False"
  | num numeral =>
      if numeral = "NaN" then "nan"
      else if numeral = "Infinity" then "inf"
      else if numeral = "-Infinity" then "-inf"
      else numeral
  | str text => Text.quoted text
  | arr items => "[" ++ ", ".intercalate (writtenItems items) ++ "]"
  | obj fields => "\x7b" ++ ", ".intercalate (writtenFields fields) ++ "\x7d"

def writtenItems : List Value → List String
  | [] => []
  | item :: items => item.written :: writtenItems items

def writtenFields : List (String × Value) → List String
  | [] => []
  | (name, value) :: fields => (Text.quoted name ++ ": " ++ value.written) :: writtenFields fields

end

def text : Value → String
  | str text => text
  | v => v.written

/-! ## Defaults -/

/-- Does this text stand for what still has to be given? -/
def isUnset : Value → Bool
  | str text => text = "???"
  | _ => false

mutual

/-- The settings in `given`, and the defaults where it has nothing to say. Records are merged field
by field; the fields without a default come last. There is no result if a list is given for a
record. -/
def merge (defaults given : Value) : Option Value :=
  match defaults, given with
  | obj fields, obj more =>
      (mergeFields fields more).map fun merged =>
        obj (merged ++ more.filter fun f => (fields.lookup f.1).isNone)
  | obj _, arr _ => none
  | _, _ => some (if given.isUnset then defaults else given)

def mergeFields (fields more : List (String × Value)) : Option (List (String × Value)) :=
  match fields with
  | [] => some []
  | (name, value) :: fields => do
      let value ←
        match more.lookup name with
        | some v => merge value v
        | none => some value
      return (name, value) :: (← mergeFields fields more)

end

example :
    (merge (obj [("a", .null), ("b", .bool true)]) (obj [("c", .null), ("b", .str "???")])).map text
      = some "\x7b'a': None, 'b': True, 'c': None\x7d" := by decide +kernel

end Value

end Chip8
