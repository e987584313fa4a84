/-!
# Placeholders

A text may have placeholders: a dollar sign in front of a name, which can stand in braces. Those
whose names have a meaning are replaced by it, and two dollar signs by one; everything else stays
as it is.
-/

namespace Chip8.Text

def startsName (c : Char) : Bool := c.isAlpha || c = '_'

def continuesName (c : Char) : Bool := c.isAlphanum || c = '_'

/-- The name at the front of a text, if there is one, and what stands behind it. -/
def frontName? (cs : List Char) : Option (String × List Char) :=
  if cs.head?.any startsName then
    some (String.ofList (cs.takeWhile continuesName), cs.dropWhile continuesName)
  else none

def replacement? (meaning : String → Option String) (cs : List Char) :
    Option (String × List Char) :=
  match cs with
  | '$' :: rest => some ("$", rest)
  | '\x7b' :: inner =>
      match frontName? inner with
      | some (name, '\x7d' :: rest) => (meaning name).map fun text => (text, rest)
      | _ => none
  | cs => (frontName? cs).bind fun (name, rest) => (meaning name).map fun text => (text, rest)

def fillIn (meaning : String → Option String) : Nat → List Char → String
  | rounds + 1, '$' :: rest =>
      match replacement? meaning rest with
      | some (text, rest) => text ++ fillIn meaning rounds rest
      | none => "$" ++ fillIn meaning rounds rest
  | rounds + 1, c :: rest => c.toString ++ fillIn meaning rounds rest
  | _, _ => ""

/-- The text with placeholders replaced by what their names mean. Each round uses up a character. -/
def filled (meaning : String → Option String) (text : String) : String :=
  fillIn meaning text.length text.toList

example : filled (fun name => if name = "K" then some "v" else none) "a$K $\x7bK\x7d$$K$L$" =
    "av v$K$L$" := by decide +kernel

end Chip8.Text
