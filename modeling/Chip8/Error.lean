import Chip8.Bits
import Chip8.Text.BinarySize
import Chip8.Text.Placeholder
import Chip8.Value.Flaw

/-!
# Errors

Everything that can go wrong, as a cause. The four machine errors end a program or refuse one;
they form a small hierarchy (`Category`) by which a host may sort them. The others reject an
argument. `Error.message` is the only place that words them.
-/

namespace Chip8

inductive Purpose where
  /-- The name of a level. -/
  | level
  /-- Settings of a host. -/
  | settings
  /-- The name of a program file. -/
  | program
  /-- The contents of a program file. -/
  | contents
  /-- The name of a colour scheme. -/
  | scheme
  /-- Something that is added to a count. -/
  | summand
  /-- Something that is divided by a whole number. -/
  | dividend
  /-- A word, or the number of a key. -/
  | word
  /-- An end of a range, or a byte. -/
  | bound
  /-- A whole number. -/
  | whole
  /-- The number of cycles in a frame. -/
  | pace
  /-- The number of frames. -/
  | frames
  /-- The number of frames in the title of a progress bar. -/
  | title
  /-- A rate in a report. -/
  | rate
  /-- An end of a window of memory. -/
  | edge
  /-- A number that is written in hexadecimal. -/
  | hexadecimal
  /-- An address on the stack. -/
  | address
deriving DecidableEq

inductive Error where
  /-- The word at `pc` is no instruction. -/
  | unsupportedOpcode (opcode pc : Int)
  /-- The call at `pc` found no free stack slot. -/
  | stackOverflow (pc : Int)
  /-- The return at `pc` found no address on the stack. -/
  | stackUnderflow (pc : Int)
  /-- The program does not fit into memory. -/
  | programTooLarge (size capacity : Int)
  /-- A program holds a number that is no byte. -/
  | notAByte
  /-- A number stands for no fault. -/
  | unknownFault (code : Int)
  /-- A value, here as a text, is not the number of a fault. -/
  | notAFault (value : String)
  /-- Key states do not come as a row of sixteen. -/
  | keyShape (shape : List Nat)
  /-- A seed does not fit into 64 bits. -/
  | notASeed
  /-- An array of this shape is given in place of a seed. -/
  | seedShape (shape : List Nat)
  /-- A word does not fit into 32 bits. -/
  | notAWord (w : Int)
  /-- A number that takes part in arithmetic on words does not fit into 32 bits. -/
  | notAnOperand (n : Int)
  /-- A window reaches outside memory. -/
  | outsideMemory (start length : Int)
  /-- There is nothing where a path leads. -/
  | fileMissing (path : String)
  /-- A path that should lead to a file leads to a directory. -/
  | isADirectory (path : String)
  /-- A path leads through a file as if it were a directory. -/
  | notADirectory (path : String)
  /-- A path, or a name on it, is longer than it can be. -/
  | nameTooLong (path : String)
  /-- A path holds the character with the number zero. -/
  | pathHoldsNull
  /-- No open file has a negative number. -/
  | fileNumberNegative
  /-- There is no open file of this number. -/
  | fileNumberUnknown
  /-- There is no setting of this name. -/
  | settingUnknown (name : String)
  /-- A setting is given something that it cannot be. -/
  | settingMalformed (name value : String)
  /-- A setting without a default was not given. -/
  | settingMissing (place : Value.Path)
  /-- The text at a place among the settings has references without a value. -/
  | reference (place : Value.Path) (flaw : Value.Flaw)
  /-- A text among the settings cannot be read. -/
  | template (flaw : Value.Flaw)
  /-- A list is given in place of a record of settings. -/
  | listForRecord
  /-- A value of this kind cannot be what it is needed for. -/
  | ofKind (purpose : Purpose) (kind : Value.Kind)
  /-- Values of these kinds cannot be compared. -/
  | incomparable (relation : String) (left right : Value.Kind)
  /-- A value of this kind, here as a text, cannot be the length of a loop that is prepared. -/
  | unhashable (kind : Value.Kind) (value : String)
  /-- A whole number is needed, and the value is not a number. -/
  | notANumber
  /-- A whole number is needed, and the value is infinite. -/
  | infiniteNumber
  /-- A whole number is needed, and the text is no numeral. -/
  | notANumeral (text : String)
  /-- A register list ends within a row. -/
  | shortRow
  /-- A whole number is too large for a floating-point number. -/
  | numberTooLarge
  /-- A quotient of whole numbers is too large for a floating-point number. -/
  | quotientTooLarge
  /-- An array is nested more deeply than arrays can be. -/
  | tooManyDimensions (limit : Nat)
  /-- The rows of an array differ below these dimensions. -/
  | unevenArray (dimensions : List Nat)
  /-- A display is no table of pixels. -/
  | notATable (dimensions : Nat)
  /-- A picture cannot be magnified by a number of more than 63 bits. -/
  | scaleTooLarge
  /-- A side of a picture is so long that its length, in 64 bits, is taken for a negative number. -/
  | sideNegative
  /-- The size of a picture does not fit into 63 bits. -/
  | pictureTooLarge
  /-- A picture with these dimensions does not fit into memory. -/
  | memoryExhausted (dimensions : List Nat)
  /-- A side of a picture is longer than it can be in a file. -/
  | sideTooLong
  /-- A row of a picture is longer than it can be in a file. -/
  | rowTooLong
  /-- The numbers of a loop take up so many bytes that they do not fit into memory. -/
  | loopTooLong (bytes : Int)
  /-- A colour component is no byte. -/
  | colourComponent (value : Int)
  /-- Colours do not go with the number of pixels that are to have them. -/
  | colourShape (shape : List Nat) (selected : Nat)
  /-- There is no colour scheme of this name. -/
  | schemeUnknown (name : String) (available : List String)
  /-- No picture format has this extension. -/
  | extensionUnknown (extension : String)
  /-- A picture without a single pixel cannot be saved. -/
  | pictureEmpty
deriving DecidableEq

/-- What is said of a value of this kind that cannot be what it is needed for. -/
def Purpose.refusal (purpose : Purpose) (kind : Value.Kind) : String :=
  let name := kind.name
  match purpose, kind with
  | level, _ => s!"'{name}' object has no attribute 'upper'"
  | settings, _ => s!"settings must be a mapping, not {name}"
  | program, _ => s!"expected str, bytes or os.PathLike object, not {name}"
  | contents, _ => s!"a bytes-like object is required, not '{name}'"
  | scheme, _ => s!"unhashable type: '{name}'"
  | summand, _ => s!"unsupported operand type(s) for +=: 'int' and '{name}'"
  | dividend, _ => s!"unsupported operand type(s) for //: '{name}' and 'int'"
  | word, _ => s!"unsupported operand type(s) for &: '{name}' and 'int'"
  | bound, _ => s!"'{name}' object cannot be interpreted as an integer"
  | edge, _ => "slice indices must be integers or None or have an __index__ method"
  | whole, _ =>
      s!"int() argument must be a string, a bytes-like object or a real number, not '{name}'"
  | pace, _ => "scan got no values to scan over and `length` not provided."
  | frames, _ =>
      s!"arange requires ndarray or scalar arguments, got <class '{name}'> at position 0."
  | title, .text => "Cannot specify ',' with 's'."
  | address, _ =>
      s!"astype requires ndarray or scalar arguments, got <class '{name}'> at position 0."
  | rate, .text => s!"Unknown format code 'f' for object of type '{name}'"
  | hexadecimal, .text | hexadecimal, .real =>
      s!"Unknown format code 'X' for object of type '{name}'"
  | title, _ | rate, _ | hexadecimal, _ => s!"unsupported format string passed to {name}.__format__"

namespace Error

/-- A message about the setting at a place. Placeholders in it stand for what is known about the
place. -/
def placed (place : Value.Path) (message : String) : String :=
  let (holder, step) := match place.getLast? with
    | some (.index _) => ("list", Value.Kind.whole)
    | _ => ("dict", Value.Kind.text)
  let key := ((place.getLast?).map (·.label)).getD ""
  let meanings := [("KEY", key), ("KEY_TYPE", step.name), ("FULL_KEY", place.text),
    ("OBJECT_TYPE", holder), ("REF_TYPE", "Any"), ("VALUE", Value.null.text),
    ("VALUE_TYPE", Value.Kind.null.name)]
  Text.filled (fun name => meanings.lookup name) message ++
    s!"\n    full_key: {place.text}\n    object_type={holder}"

def message : Error → String
  | unsupportedOpcode opcode pc =>
      "Unsupported opcode 0x" ++ Text.hex 4 opcode ++ " at 0x" ++ Text.hex 3 pc
  | stackOverflow pc => "Call stack overflow at 0x" ++ Text.hex 3 pc
  | stackUnderflow pc => "Return with empty call stack at 0x" ++ Text.hex 3 pc
  | programTooLarge size capacity =>
      s!"ROM is {size} bytes, only {capacity} bytes available"
  | notAByte => "bytes must be in range(0, 256)"
  | unknownFault code => s!"{code} is not a valid Fault"
  | notAFault value => value ++ " is not a valid Fault"
  | keyShape shape =>
      "Expected 16 key states, got shape " ++ Text.tuple (shape.map fun n => toString n)
  | notASeed => "seed does not fit into 64 bits"
  | seedShape shape => "a seed has no shape " ++ Text.tuple (shape.map fun n => toString n)
  | notAWord w => s!"word {w} does not fit into 32 bits"
  | notAnOperand n => s!"operand {n} does not fit into 32 bits"
  | outsideMemory start length =>
      "Window 0x" ++ Text.hex 3 start ++ s!"+{length} is outside memory"
  | fileMissing path => "[Errno 2] No such file or directory: " ++ Text.quoted path
  | notADirectory path => "[Errno 20] Not a directory: " ++ Text.quoted path
  | isADirectory path => "[Errno 21] Is a directory: " ++ Text.quoted path
  | nameTooLong path => "[Errno 36] File name too long: " ++ Text.quoted path
  | pathHoldsNull => "embedded null byte"
  | fileNumberNegative => "negative file descriptor"
  | fileNumberUnknown => "[Errno 9] Bad file descriptor"
  | settingUnknown name => "unknown setting " ++ Text.quoted name
  | settingMalformed name value => Text.quoted name ++ " cannot be " ++ Text.quoted value
  | settingMissing place => placed place "Missing mandatory value: $KEY"
  | reference place flaw => placed place flaw.message
  | template flaw => flaw.message
  | listForRecord => placed [] "Cannot merge DictConfig with ListConfig"
  | ofKind purpose kind => purpose.refusal kind
  | incomparable relation left right =>
      s!"'{relation}' not supported between instances of '{left.name}' and '{right.name}'"
  | unhashable kind value =>
      "Non-hashable static arguments are not supported. An error occurred while trying to hash " ++
        s!"an object of type <class '{kind.name}'>, {value}. The error was:\n" ++
        s!"TypeError: unhashable type: '{kind.name}'\n"
  | notANumber => "cannot convert float NaN to integer"
  | infiniteNumber => "cannot convert float infinity to integer"
  | notANumeral text => "invalid literal for int() with base 10: " ++ Text.quoted text
  | shortRow => "list index out of range"
  | numberTooLarge => "int too large to convert to float"
  | quotientTooLarge => "integer division result too large for a float"
  | tooManyDimensions limit =>
      "setting an array element with a sequence. The requested array would exceed the maximum " ++
        s!"number of dimension of {limit}."
  | unevenArray dimensions =>
      "setting an array element with a sequence. The requested array has an inhomogeneous shape " ++
        s!"after {dimensions.length} dimensions. The detected shape was " ++
        Text.tuple (dimensions.map fun n => toString n) ++ " + inhomogeneous part."
  | notATable dimensions =>
      if dimensions < 2 then s!"not enough values to unpack (expected 2, got {dimensions})"
      else "too many values to unpack (expected 2)"
  | scaleTooLarge => "scale does not fit into 63 bits"
  | sideNegative => "negative dimensions are not allowed"
  | pictureTooLarge =>
      "array is too big; `arr.size * arr.dtype.itemsize` is larger than the maximum possible size."
  | memoryExhausted dimensions =>
      let size := Text.binarySize (dimensions.foldl (· * ·) 1)
      let shape := Text.tuple (dimensions.map fun n => toString n)
      s!"Unable to allocate {size} for an array with shape {shape} and data type uint8"
  | sideTooLong => "signed integer is greater than maximum"
  | rowTooLong => ""
  | loopTooLong bytes =>
      if Bits.fits 64 bytes then s!"RESOURCE_EXHAUSTED: Out of memory allocating {bytes} bytes."
      else s!"INVALID_ARGUMENT: Shape s32[{bytes / 4}] size may overflow int64_t."
  | colourComponent value => s!"colour component {value} is no byte"
  | colourShape shape selected =>
      let sides := ",".intercalate (shape.map fun n => toString n)
      let comma := if shape.length = 1 then "," else ""
      s!"shape mismatch: value array of shape ({sides}{comma}) could not be broadcast to " ++
        s!"indexing result of shape ({selected},3)"
  | schemeUnknown name available =>
      "Unknown color scheme '" ++ name ++ "'. Available: [" ++
        ", ".intercalate (available.map Text.quoted) ++ "]"
  | extensionUnknown extension => "unknown file extension: " ++ extension
  | pictureEmpty => "cannot write empty image"

/-! ## The machine errors -/

/-- The kinds of machine errors, from the general to the special. -/
inductive Category where
  | machine
  | unsupportedOpcode
  | resourceExhausted
  | stackOverflow
  | stackUnderflow
  | programTooLarge
deriving DecidableEq

/-- A kind and all more general ones, the special first. -/
def Category.lineage : Category → List Category
  | machine => [machine]
  | unsupportedOpcode => [unsupportedOpcode, machine]
  | resourceExhausted => [resourceExhausted, machine]
  | programTooLarge => [programTooLarge, machine]
  | stackOverflow => [stackOverflow, resourceExhausted, machine]
  | stackUnderflow => [stackUnderflow, resourceExhausted, machine]

def category? : Error → Option Category
  | unsupportedOpcode _ _ => some .unsupportedOpcode
  | stackOverflow _ => some .stackOverflow
  | stackUnderflow _ => some .stackUnderflow
  | programTooLarge _ _ => some .programTooLarge
  | _ => none

/-- Does the error end a program or refuse one? -/
def isMachineError (e : Error) : Bool := e.category?.isSome

end Error

/-! ## One step after another -/

theorem ok_bind {α β : Type} (a : α) (f : α → Except Error β) : (Except.ok a >>= f) = f a := rfl

theorem exists_of_bind_ok {α β : Type} {r : Except Error α} {f : α → Except Error β} {b : β}
    (h : (r >>= f) = .ok b) : ∃ a, r = .ok a ∧ f a = .ok b := by
  cases r with
  | ok a => exact ⟨a, rfl, h⟩
  | error e => cases h

theorem error_of_bind_error {α β : Type} {r : Except Error α} {f : α → Except Error β} {e : Error}
    (h : (r >>= f) = .error e) : r = .error e ∨ ∃ a, r = .ok a ∧ f a = .error e := by
  cases r with
  | ok a => exact .inr ⟨a, rfl, h⟩
  | error e =>
      obtain rfl := Except.error.inj h
      exact .inl rfl

end Chip8
