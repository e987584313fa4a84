import Chip8.Value.Template

/-!
# Outlines of templates

Most texts can be seen to be templates without being read: their references consist of plain names,
or of the name of a function and plain arguments. Only a text with another outline is read when it
becomes a setting; one that is no template is refused then (`Template.flaw?`). Among the texts with
a plain outline there are some that are no templates either, which shows as soon as they are used.
-/

namespace Chip8.Value.Template

/-! ## Characters -/

def isSpace (c : Char) : Bool := c = ' ' || ('\t' ≤ c && c ≤ '\r')

def inPlainName (c : Char) : Bool := c.isAlphanum || c = '_' || c = '$'

def startsPlainWord (c : Char) : Bool := c.isAlpha || c = '_'

def inPlainWord (c : Char) : Bool := c.isAlphanum || c = '_' || c = '-'

def inPlainArgument (c : Char) : Bool :=
  c.isAlphanum ||
    ['_', '/', '-', '+', '.', '$', '%', '*', '@', '?', '|'].contains c

def behindSpace (cs : List Char) : List Char := cs.dropWhile isSpace

def withoutSpace (cs : List Char) : List Char :=
  ((behindSpace cs).reverse.dropWhile isSpace).reverse

/-! ## Plain references -/

/-- What stands behind a plain name, if there is one at the front. -/
def behindName? (cs : List Char) : Option (List Char) :=
  if cs.head?.any inPlainName then some (cs.dropWhile inPlainName) else none

def behindBrackets? (cs : List Char) : Option (List Char) :=
  match cs with
  | '[' :: cs =>
      match behindName? cs with
      | some (']' :: cs) => some cs
      | _ => none
  | _ => none

/-- Are these plain names behind dots or in brackets, in at most so many rounds? -/
def areFurtherNames : Nat → List Char → Bool
  | _, [] => true
  | rounds + 1, '.' :: cs => (behindName? cs).any (areFurtherNames rounds)
  | rounds + 1, cs => (behindBrackets? cs).any (areFurtherNames rounds)
  | _, _ => false

def isPlainKey (cs : List Char) : Bool :=
  let key := cs.dropWhile (· = '.')
  ((behindName? key).or (behindBrackets? key)).any (areFurtherNames key.length)

/-! ## Plain calls -/

/-- The parts of some characters between those that separate them. -/
def parts (separates : Char → Bool) : List Char → List (List Char)
  | [] => [[]]
  | c :: cs =>
      match separates c, parts separates cs with
      | true, parts => [] :: parts
      | false, part :: parts => (c :: part) :: parts
      | false, [] => [[c]]

def isPlainWord (cs : List Char) : Bool := cs.head?.any startsPlainWord && cs.all inPlainWord

def isPlainFunction (cs : List Char) : Bool := cs = [] || (parts (· = '.') cs).all isPlainWord

def isPlainArgument (cs : List Char) : Bool := cs ≠ [] && cs.all inPlainArgument

def isPlainCall (cs : List Char) : Bool :=
  let arguments := (cs.dropWhile (· ≠ ':')).drop 1
  cs.contains ':' && isPlainFunction (withoutSpace (cs.takeWhile (· ≠ ':'))) &&
    (parts (· = ',') arguments).all fun part => isPlainArgument (withoutSpace part)

/-! ## Plain texts -/

/-- Are all references among these characters plain ones, in at most so many rounds? -/
def isPlain : Nat → List Char → Bool
  | rounds + 1, '$' :: '\x7b' :: cs =>
      let body := cs.takeWhile (· ≠ '\x7d')
      (isPlainKey (withoutSpace body) || isPlainCall body) && body.length < cs.length &&
        isPlain rounds (cs.drop (body.length + 1))
  | rounds + 1, _ :: cs => isPlain rounds cs
  | _, _ => true

/-- Why a text cannot become a setting, if so. -/
def flaw? (text : String) : Option Flaw :=
  if isPlain text.length text.toList then none
  else
    match parse text with
    | .ok _ => none
    | .error flaw => some flaw

example : (flaw? "a$\x7b.b[c].d \x7d$\x7b e.f-g : 1 , h\x7d").isNone := by decide +kernel
example : (flaw? "$\x7b:1\x7d").isNone := by decide +kernel
example : (parse "$\x7b:1\x7d").toOption.isNone := by decide +kernel

end Chip8.Value.Template
