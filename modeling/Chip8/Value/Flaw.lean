import Chip8.Value.Function
import Chip8.Value.Token

/-!
# Flaws of references

A text among the settings may refer to other settings. Each way in which that can go wrong is a
flaw, either of the text itself (`Flaw.isGrammatical`), or of what it refers to.
-/

namespace Chip8.Value

/-- Why a text with references has no value. -/
inductive Flaw where
  /-- No reference begins like this. -/
  | unlikely (text : String)
  /-- Some characters are no token. -/
  | unreadable (text : String)
  /-- A brace is closed that was not opened. -/
  | unopened
  /-- A token should not be there; without it, one of these could follow. -/
  | extraneous (token : Token) (expected : List Token.Kind)
  /-- A token stands where only these could. -/
  | mismatched (token : Token) (expected : List Token.Kind)
  /-- A token is not there in front of another one. -/
  | missing (expected : Token.Kind) (token : Token)
  /-- The text that a reference leads to has a flaw itself. -/
  | nested (flaw : Flaw)
  /-- An argument consists of blanks. -/
  | blank
  /-- There is no setting at the end of a reference. -/
  | unknown (key : String)
  /-- A reference starts above the root. -/
  | outside (key : String)
  /-- A key that is an argument starts above the root. -/
  | argumentOutside (key : String)
  /-- A reference leads to what still has to be given. -/
  | unset (path : Path)
  /-- A key that is an argument leads to what still has to be given. -/
  | argumentUnset (path : Path)
  /-- References go round in a circle. -/
  | circular
  /-- A reference leads to something that it is a part of. -/
  | enclosing
  /-- A reference goes on below a value that has nothing below it. -/
  | notAContainer (key upper lower : String)
  /-- An item of a list is referred to by something that is no number. -/
  | notAnIndex (key : String)
  /-- A part of a reference, itself a reference, has a value that is no text. The value is a
  setting, or it was made by a function. -/
  | notAName (text : String) (kind : Kind) (setting : Bool) (source : String)
  /-- The name of a function, itself a reference, has a value that is no text. -/
  | notAFunctionName (text : String) (kind : Kind) (setting : Bool) (source : String)
  /-- There is no function of this name. -/
  | functionUnknown (name : String)
  /-- A function is called without an argument. -/
  | tooFewArguments (f : Function)
  /-- A function is called with too many arguments. -/
  | tooManyArguments (f : Function) (given : Nat)
  /-- An argument of a function should be a text. -/
  | argumentOfKind (f : Function) (text : String) (kind : Kind) (setting : Bool)
  /-- The message of a deprecated setting should be a text. -/
  | messageOfKind (kind : Kind) (setting : Bool)
  /-- A container cannot be made of a value of this kind. -/
  | contentsOfKind (kind : Kind)
  /-- There is no record at the place that is an argument. -/
  | argumentUnknown (key : String)
  /-- There is no setting that could be taken in place of a deprecated one. -/
  | replacementUnknown (path : Path) (key : String)
  /-- A function that needs a record gets a value of another kind. -/
  | notARecord (f : Function) (kind : Kind) (setting : Bool)
  /-- There is no variable of this name. -/
  | variableUnknown (name : String)
deriving DecidableEq

namespace Flaw

def isGrammatical : Flaw → Bool
  | unlikely _ | unreadable _ | unopened | extraneous _ _ | mismatched _ _ | missing _ _ => true
  | _ => false

/-- The name of a kind of values; a container among the settings has a name of its own. -/
def kindName (kind : Kind) (setting : Bool) : String :=
  match kind, setting with
  | .list, true => "ListConfig"
  | .record, true => "DictConfig"
  | kind, _ => kind.name

def arityText (f : Function) (given : Nat) : String :=
  match f, given with
  | .create, 0 => "missing 1 required positional argument: 'obj'"
  | .decode, 0 => "missing 1 required positional argument: 'expr'"
  | _, 0 => "missing 1 required positional argument: 'key'"
  | .values, 2 => "got multiple values for argument '_root_'"
  | .create, _ | .decode, _ | .keys, _ | .values, _ =>
      "got multiple values for argument '_parent_'"
  | .environment, _ => s!"takes from 1 to 2 positional arguments but {given} were given"
  | .select, _ =>
      s!"takes from 1 to 2 positional arguments but {given} positional arguments (and 1 " ++
        "keyword-only argument) were given"
  | .deprecated, _ =>
      s!"takes from 1 to 2 positional arguments but {given} positional arguments (and 2 " ++
        "keyword-only arguments) were given"

def argumentText (f : Function) (text name : String) : String :=
  match f with
  | .select => s!"'{name}' object has no attribute 'startswith'"
  | .decode => s!"`{f.name}` can only take strings or None as input, but `{text}` is of type {name}"
  | .environment => s!"str expected, not {name}"
  | .deprecated => s!"{f.name}: interpolation key type is not a string ({name})"
  | f => s!"`{f.name}` requires a string as input, but obtained `{text}` of type: {name}"

/-- The wording of a flaw, seen on its own. -/
def text : Flaw → String
  | unlikely text => "no viable alternative at input " ++ Token.shown text
  | unreadable text => "token recognition error at: " ++ Token.shown text
  | unopened => "Empty Stack"
  | extraneous token expected =>
      "extraneous input " ++ token.display ++ " expecting " ++ Token.Kind.choice expected
  | mismatched token expected =>
      "mismatched input " ++ token.display ++ " expecting " ++ Token.Kind.choice expected
  | missing expected token => "missing " ++ expected.label ++ " at " ++ token.display
  | nested flaw => flaw.text
  | blank => "WS should never be reached"
  | unknown key => s!"Interpolation key '{key}' not found"
  | outside key | argumentOutside key => s!"Error resolving key '{key}'"
  | unset path | argumentUnset path => "Missing mandatory value: " ++ path.text
  | circular => "Recursive interpolation detected"
  | enclosing => "Interpolation to parent node detected"
  | notAContainer key upper lower =>
      s!"Error trying to access {key}: node `{upper}` is not a container and thus cannot " ++
        s!"contain `{lower}`"
  | notAnIndex key => s!"Index '{key}' (str) is not an int"
  | notAName text _ _ source => s!"{source} should be a name and is {text}"
  | notAFunctionName text _ _ source => s!"{source} should be the name of a function and is {text}"
  | functionUnknown name => "Unsupported interpolation type " ++ name
  | tooFewArguments f => s!"{f.shortName}() " ++ arityText f 0
  | tooManyArguments f given => s!"{f.shortName}() " ++ arityText f given
  | argumentOfKind f text kind setting => argumentText f text (kindName kind setting)
  | messageOfKind kind setting =>
      let name := kindName kind setting
      s!"{Function.name .deprecated}: interpolation message type is not a string ({name})"
  | contentsOfKind kind =>
      s!"Object of unsupported type: '{kind.name}'\n    full_key: \n    object_type=None"
  | argumentUnknown key => s!"Key not found: '{key}'"
  | replacementUnknown path key =>
      let name := Function.name .deprecated
      s!"In {name} resolver at '{path.text}': Key not found: '{key}'"
  | notARecord f kind setting =>
      let name := kindName kind setting
      s!"`{f.name}` cannot be applied to objects of type: {name}"
  | variableUnknown name => Text.quoted s!"Environment variable '{name}' not found"

/-- The name under which a flaw is found before it turns out that a reference has no value. -/
def cause? : Flaw → Option String
  | nested _ => some "GrammarParseError raised"
  | blank => some "AssertionError raised"
  | outside _ => some "ConfigKeyError"
  | unset _ => some "MissingMandatoryValue"
  | argumentUnset _ => some "MissingMandatoryValue raised"
  | argumentUnknown _ | argumentOutside _ | replacementUnknown _ _ => some "ConfigKeyError raised"
  | notAContainer _ _ _ => some "ConfigTypeError raised"
  | argumentOfKind .select _ _ _ => some "AttributeError raised"
  | notAnIndex _ | tooFewArguments _ | tooManyArguments _ _ | argumentOfKind _ _ _ _
  | messageOfKind _ _ | notARecord _ _ _ => some "TypeError raised"
  | contentsOfKind _ => some "ValidationError raised"
  | variableUnknown _ => some "KeyError raised"
  | _ => none

def message (flaw : Flaw) : String :=
  match flaw.cause? with
  | some cause => cause ++ " while resolving interpolation: " ++ flaw.text
  | none => flaw.text

end Flaw

end Chip8.Value
