import Chip8.Text.Number
import Chip8.Text.Unprinted

/-!
# Quoted text

A name inside a message is quoted. Single quotes are used unless the name holds a single quote and
no double one; the chosen quote and the backslash are escaped, and so is every character that does
not print.
-/

namespace Chip8.Text

/-- The escape of a character by its number, as short as its size allows. -/
def numericEscape (c : Char) : String :=
  let digits (width : Nat) := padLeft '0' width (String.ofList (Nat.toDigits 16 c.toNat))
  if c.toNat < 0x100 then "\\x" ++ digits 2
  else if c.toNat < 0x10000 then "\\u" ++ digits 4
  else "\\U" ++ digits 8

def quotedChar (mark c : Char) : String :=
  if c = mark || c = '\\' then String.ofList ['\\', c]
  else if c = '\n' then "\\n"
  else if c = '\r' then "\\r"
  else if c = '\t' then "\\t"
  else if prints c then c.toString
  else numericEscape c

def quoted (s : String) : String :=
  let mark := if s.toList.contains '\'' && !s.toList.contains '"' then '"' else '\''
  mark.toString ++ String.join (s.toList.map (quotedChar mark)) ++ mark.toString

/-- A comma-separated list in parentheses; a single item is followed by a comma. -/
def tuple : List String → String
  | [] => "()"
  | [a] => "(" ++ a ++ ",)"
  | items => "(" ++ ", ".intercalate items ++ ")"

end Chip8.Text
