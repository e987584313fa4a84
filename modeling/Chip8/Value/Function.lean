import Chip8.Value

/-!
# Functions

The functions that a text among the settings can call, and how many arguments each of them takes.
-/

namespace Chip8.Value

inductive Function where
  /-- The setting at a place, or something else if there is none. -/
  | select
  /-- The value that a text stands for as an argument. -/
  | decode
  /-- A container with the given contents. -/
  | create
  /-- A variable of the environment. -/
  | environment
  /-- The names of the fields of a record. -/
  | keys
  /-- References to the fields of a record. -/
  | values
  /-- The setting at a place, in place of one that should not be used any more. -/
  | deprecated
deriving DecidableEq

namespace Function

def all : List Function := [select, decode, create, environment, keys, values, deprecated]

def name : Function → String
  | select => "oc.select"
  | decode => "oc.decode"
  | create => "oc.create"
  | environment => "oc.env"
  | keys => "oc.dict.keys"
  | values => "oc.dict.values"
  | deprecated => "oc.deprecated"

def shortName : Function → String
  | select => "select"
  | decode => "decode"
  | create => "create"
  | environment => "env"
  | keys => "keys"
  | values => "values"
  | deprecated => "deprecated"

def named? (name : String) : Option Function := all.find? fun f => f.name == name

/-- The largest number of arguments; there is one at least. -/
def mostArguments : Function → Nat
  | select | environment | deprecated => 2
  | decode | create | keys | values => 1

end Function

end Chip8.Value
