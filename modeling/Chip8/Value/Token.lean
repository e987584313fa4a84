import Chip8.Text.Quoted

/-!
# Tokens of templates

A text with references is cut into tokens. What a character means depends on where it stands: among
the words of the text, among the names of a reference, among the arguments of a call, or between
quotes (`Mode`). Modes are nested, and a token can begin or end one. Everywhere the longest token is
taken.

All tokens together are the text again (`scan`), unless some characters are no token: they come
last then, with a kind of their own.
-/

namespace Chip8.Value

/-! ## Kinds -/

namespace Token

/-- The kinds of tokens, in the order in which they are listed. -/
inductive Kind where
  /-- There are no more characters. -/
  | ending
  /-- Characters that stand for themselves. -/
  | words
  /-- The opening of a reference behind a backslash that makes words of it. -/
  | escapedOpening
  /-- Pairs of backslashes. -/
  | slashes
  /-- The opening of a reference. -/
  | opening
  | braceOpening
  | braceClosing
  | singleQuote
  | doubleQuote
  | comma
  | bracketOpening
  | bracketClosing
  | colon
  /-- A number with places or an exponent. -/
  | real
  | whole
  | truth
  | nothing
  /-- A character that can stand in an argument. -/
  | mark
  | name
  /-- Characters behind backslashes. -/
  | escape
  | blanks
  /-- The end of a reference. -/
  | closing
  | dot
  /-- A name with unusual characters. -/
  | key
  /-- The quote that ends a quotation. -/
  | quoteClosing
  /-- Pairs of backslashes between quotes. -/
  | quotedSlashes
  /-- Characters that are no token. -/
  | unreadable
  /-- A closing brace without an opening one. -/
  | unopened
deriving DecidableEq, Inhabited

def Kind.label : Kind → String
  | ending => "<EOF>"
  | words => "ANY_STR"
  | escapedOpening => "ESC_INTER"
  | slashes => "TOP_ESC"
  | opening => "INTER_OPEN"
  | braceOpening => "BRACE_OPEN"
  | braceClosing => "BRACE_CLOSE"
  | singleQuote => "QUOTE_OPEN_SINGLE"
  | doubleQuote => "QUOTE_OPEN_DOUBLE"
  | comma => "COMMA"
  | bracketOpening => "BRACKET_OPEN"
  | bracketClosing => "BRACKET_CLOSE"
  | colon => "COLON"
  | real => "FLOAT"
  | whole => "INT"
  | truth => "BOOL"
  | nothing => "NULL"
  | mark => "UNQUOTED_CHAR"
  | name => "ID"
  | escape => "ESC"
  | blanks => "WS"
  | closing => "INTER_CLOSE"
  | dot => "'.'"
  | key => "INTER_KEY"
  | quoteClosing => "MATCHING_QUOTE_CLOSE"
  | quotedSlashes => "QUOTED_ESC"
  | unreadable | unopened => ""

def Kind.choice : List Kind → String
  | [kind] => kind.label
  | kinds => "\x7b" ++ ", ".intercalate (kinds.map label) ++ "\x7d"

end Token

structure Token where
  kind : Token.Kind
  text : String
deriving DecidableEq, Inhabited

namespace Token

def shownChar (c : Char) : String :=
  if c = '\n' then "\\n" else if c = '\r' then "\\r" else if c = '\t' then "\\t" else c.toString

def shown (text : String) : String := "'" ++ String.join (text.toList.map shownChar) ++ "'"

def display (t : Token) : String :=
  if t.kind = .ending then "'<EOF>'" else shown t.text

def isFlawed (t : Token) : Bool := t.kind = .unreadable || t.kind = .unopened

/-! ## Numbers and names -/

def isBlank (c : Char) : Bool := c = ' ' || c = '\t'

/-- How many characters there are at the front that go on with digits, each of which can have a low
line in front. -/
def furtherDigits : List Char → Nat
  | '_' :: c :: cs => if c.isDigit then 2 + furtherDigits cs else 0
  | c :: cs => if c.isDigit then 1 + furtherDigits cs else 0
  | [] => 0

def digits : List Char → Nat
  | c :: cs => if c.isDigit then 1 + furtherDigits cs else 0
  | [] => 0

/-- How many characters of a whole number there are at the front; a zero comes alone. -/
def natural : List Char → Nat
  | '0' :: _ => 1
  | cs => digits cs

def sign (cs : List Char) : Nat :=
  if cs.head? = some '-' ∨ cs.head? = some '+' then 1 else 0

def exponent : List Char → Nat
  | c :: cs =>
      let places := digits (cs.drop (sign cs))
      if (c = 'e' ∨ c = 'E') ∧ 0 < places then 1 + sign cs + places else 0
  | [] => 0

def unsignedReal (cs : List Char) : Nat :=
  let before := natural cs
  let point :=
    match cs.drop before with
    | '.' :: rest => if 0 < before ∨ 0 < digits rest then 1 + digits rest else 0
    | _ => 0
  let power := if 0 < before + point then exponent (cs.drop (before + point)) else 0
  let word := String.ofList ((cs.take 3).map Char.toLower)
  if 0 < point + power then before + point + power
  else if word = "inf" ∨ word = "nan" then 3
  else 0

def startsName (c : Char) : Bool := c.isAlpha || c = '_'

def continuesName (c : Char) : Bool := c.isAlphanum || c = '_' || c = '-'

def nameLength (cs : List Char) : Nat :=
  if cs.head?.any startsName then (cs.takeWhile continuesName).length else 0

/-- The characters other than letters, digits and low lines that can stand in an argument without
quotes. -/
def marks : List Char := ['/', '-', '\\', '+', '.', '$', '%', '*', '@', '?', '|']

def escapable : List Char :=
  ['\\', '(', ')', '[', ']', '\x7b', '\x7d', ':', '=', ',', ' ', '\t']

/-- How many characters there are at the front that stand behind backslashes, the backslashes
included. -/
def escapes : List Char → Nat
  | '\\' :: c :: cs => if escapable.contains c then 2 + escapes cs else 0
  | _ => 0

/-! ## Tokens by mode -/

inductive Mode where
  /-- Among the words of the text. -/
  | outside
  /-- Among the names of a reference. -/
  | reference
  /-- Among the arguments of a call. -/
  | arguments
  /-- Between two of these quotes. -/
  | quoted (quote : Char)
deriving DecidableEq

/-- The opening of a reference, if it is at the front: how many characters it has with the blanks
behind it. -/
def opening? (cs : List Char) : Option Nat :=
  match cs with
  | '$' :: '\x7b' :: rest => some (2 + (rest.takeWhile isBlank).length)
  | _ => none

/-- The kind and the length of the token at the front of words, which end at this quote if there is
one. -/
def amongWords (quote : Option Char) (cs : List Char) : Kind × Nat :=
  let slashes := (cs.takeWhile (· = '\\')).length
  let rest := cs.drop slashes
  let plain (c : Char) : Bool := c != '\\' && c != '$' && some c != quote
  match opening? cs with
  | some length => (.opening, length)
  | none =>
      if 0 < slashes then
        if slashes % 2 = 1 ∧ (opening? rest).isSome then (.escapedOpening, slashes + 2)
        else if slashes % 2 = 1 ∧ quote.isSome ∧ rest.head? = quote then (.escape, slashes + 1)
        else if slashes % 2 = 1 then (.words, slashes)
        else (if quote.isSome then .quotedSlashes else .slashes, slashes)
      else if quote.isSome ∧ cs.head? = quote then (.quoteClosing, 1)
      else (.words, max 1 (cs.takeWhile plain).length)

def outsideKeys : List Char :=
  ['\\', '\x7b', '\x7d', '(', ')', '[', ']', ':', '.', ' ', '\t', '\'', '"']

/-- The kind and the length of the token at the front of what stands in a reference. Blanks can
only stand around a colon and before a closing brace. -/
def inReference (cs : List Char) : Kind × Nat :=
  let blanks := (cs.takeWhile isBlank).length
  let inKey (c : Char) : Bool := !outsideKeys.contains c
  match opening? cs, cs.drop blanks with
  | some length, _ => (.opening, length)
  | none, ':' :: rest => (.colon, blanks + 1 + (rest.takeWhile isBlank).length)
  | none, '\x7d' :: _ => (.closing, blanks + 1)
  | none, rest =>
      if 0 < blanks then (.unreadable, blanks + (rest.take 1).length)
      else
        match rest with
        | '.' :: _ => (.dot, 1)
        | '[' :: _ => (.bracketOpening, 1)
        | ']' :: _ => (.bracketClosing, 1)
        | cs =>
            let length := (cs.takeWhile inKey).length
            if length = 0 then (.unreadable, 1)
            else if nameLength cs = length then (.name, length)
            else (.key, length)

def longest : List (Kind × Nat) → Option (Kind × Nat)
  | [] => none
  | t :: ts =>
      match longest ts with
      | some u => if u.2 ≤ t.2 then some t else some u
      | none => if 0 < t.2 then some t else none

def amongValues (cs : List Char) : Kind × Nat :=
  let unsigned := cs.drop (sign cs)
  let signed (length : Nat) : Nat := if length = 0 then 0 else sign cs + length
  let word := String.ofList ((cs.take (nameLength cs)).map Char.toLower)
  let keyword (words : List String) : Nat := if words.contains word then nameLength cs else 0
  let tokens :=
    [(.real, signed (unsignedReal unsigned)), (.whole, signed (natural unsigned)),
     (.truth, keyword ["true", "false"]), (.nothing, keyword ["null"]),
     (.mark, if cs.head?.any marks.contains then 1 else 0), (.name, nameLength cs),
     (.escape, escapes cs)]
  (longest tokens).getD (.unreadable, 1)

/-- The kind and the length of the token at the front of what stands in a call. Blanks belong to
the brackets, commas and colons next to them. -/
def inArguments (cs : List Char) : Kind × Nat :=
  let blanks := (cs.takeWhile isBlank).length
  let behind (rest : List Char) : Nat := (rest.takeWhile isBlank).length
  match opening? cs, cs.drop blanks with
  | some length, _ => (.opening, length)
  | none, ':' :: rest => (.colon, blanks + 1 + behind rest)
  | none, ',' :: rest => (.comma, blanks + 1 + behind rest)
  | none, '\x7d' :: _ => (.braceClosing, blanks + 1)
  | none, ']' :: _ => (.bracketClosing, blanks + 1)
  | none, rest =>
      if 0 < blanks then (.blanks, blanks)
      else
        match rest with
        | '\'' :: _ => (.singleQuote, 1)
        | '"' :: _ => (.doubleQuote, 1)
        | '\x7b' :: rest => (.braceOpening, 1 + behind rest)
        | '[' :: rest => (.bracketOpening, 1 + behind rest)
        | cs => amongValues cs

def front : Mode → List Char → Kind × Nat
  | .outside, cs => amongWords none cs
  | .quoted quote, cs => amongWords (some quote) cs
  | .reference, cs => inReference cs
  | .arguments, cs => inArguments cs

/-- The modes behind a token, the innermost first; nothing is left behind a brace too many. -/
def modesBehind (modes : List Mode) (kind : Kind) : List Mode :=
  match kind, modes with
  | .opening, modes => .reference :: modes
  | .braceOpening, modes => .arguments :: modes
  | .singleQuote, modes => .quoted '\'' :: modes
  | .doubleQuote, modes => .quoted '"' :: modes
  | .closing, _ :: modes | .braceClosing, _ :: modes | .quoteClosing, _ :: modes => modes
  | .colon, .reference :: modes => .arguments :: modes
  | _, modes => modes

/-! ## Cutting a text -/

def tokens : Nat → List Mode → List Char → List Token
  | _, _, [] => [⟨.ending, ""⟩]
  | rounds + 1, mode :: modes, cs =>
      let (kind, length) := front mode cs
      let token : Token := ⟨kind, String.ofList (cs.take length)⟩
      match modesBehind (mode :: modes) kind with
      | [] => [⟨.unopened, token.text⟩]
      | modes =>
          if token.isFlawed then [token] else token :: tokens rounds modes (cs.drop length)
  | _, _, cs => [⟨.unreadable, String.ofList cs⟩]

/-- The tokens of a text that begins in this mode. Every token has a character at least. -/
def scan (mode : Mode) (text : String) : List Token :=
  tokens (text.length + 1) [mode] text.toList

def source (ts : List Token) : String := String.join (ts.map (·.text))

example : (scan .outside "a$\x7bb.c\x7d").map (·.kind) =
    [.words, .opening, .name, .dot, .name, .closing, .ending] := by decide +kernel
example : (scan .arguments "1e3 , tRue, -x").map (·.kind) =
    [.real, .comma, .truth, .comma, .mark, .name, .ending] := by decide +kernel
example : source (scan .outside "\\\\$\x7ba: 'b\\'' \x7d.") = "\\\\$\x7ba: 'b\\'' \x7d." := by
  decide +kernel

end Token

end Chip8.Value
