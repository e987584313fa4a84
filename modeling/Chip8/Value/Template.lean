import Chip8.Value.Decimal
import Chip8.Value.Flaw

/-!
# Templates

A text among the settings is a template: words, and references in braces after a dollar sign. A
reference consists of names with dots between them or in brackets around them, and in place of a
name there can be another reference; dots in front lead upwards. A name with a colon behind it
calls a function; its arguments are words, numbers, quotations, lists and records, and references
can stand in them too.

A template is read token by token (`Reader`). Where the tokens do not fit, it is said which one was
found and which ones could have stood there. Only a text in which a dollar sign comes before a brace
is a template at all; any other stands for itself (`Template.words_of_plain`).
-/

namespace Chip8.Value

inductive Term where
  | constant (value : Value)
  /-- Texts that are put together. -/
  | joined (parts : List Term)
  /-- The value at a place. The parts add up to the name of the place; the source is the text that
  all of this is read from. -/
  | reference (source : String) (key : List Term)
  /-- The result of a function. The parts are put together with dots between them. -/
  | call (source : String) (name : List Term) (arguments : List Term)
  | list (items : List Term)
  | record (fields : List (Term × Term))
  /-- An argument that consists of blanks. -/
  | blanks
deriving Inhabited

namespace Template

/-! ## Reading -/

/-- Why tokens cannot be read, and how many of them were left then. -/
structure Refusal where
  flaw : Flaw
  left : Nat

abbrev Reader := StateT (List Token) (Except Refusal)

def ending : Token := ⟨.ending, ""⟩

def flawOf (t : Token) : Flaw := if t.kind = .unopened then .unopened else .unreadable t.text

def front : Reader Token := return (← get).headD ending

def refuse {α : Type} (flaw : Flaw) : Reader α := do throw ⟨flaw, (← get).length⟩

def check : Reader Unit := do
  let t ← front
  if t.isFlawed then refuse (flawOf t)

/-- Takes the first token. The one behind it is looked at as soon as it comes to the front. -/
def advance : Reader Token := do
  let t ← front
  modify fun ts => ts.drop 1
  check
  return t

def second : Reader Token := do
  let ts ← get
  let t := (ts.drop 1).headD ending
  if t.isFlawed then throw ⟨flawOf t, ts.length - 1⟩
  return t

/-- Gives up because the first token is none of these. If the second one is, the first one is too
many. -/
def refuseFor {α : Type} (expected : List Token.Kind) : Reader α := do
  let t ← front
  let next ← second
  if expected.contains next.kind then refuse (.extraneous t expected)
  else refuse (.mismatched t expected)

/-- Gives up because there can be more of the same, but the first token is none of these. -/
def refuseMore {α : Type} (expected : List Token.Kind) : Reader α := do
  refuse (.extraneous (← front) expected)

/-- Takes a token of this kind. If there is none, the first token may be too many, or the one of
this kind is missing in front of it, if it is one of those that can follow. -/
def expect (kind : Token.Kind) (follow : List Token.Kind) : Reader Unit := do
  let t ← front
  if t.kind = kind then
    let _ ← advance
  else
    let next ← second
    if next.kind = kind then refuse (.extraneous t [kind])
    else if follow.contains t.kind then refuse (.missing kind t)
    else refuse (.mismatched t [kind])

/-- Gives up because no reference begins like the one that starts with these tokens, up to the
offending one, with which so many are left. All tokens are looked at for that. -/
def unlikely {α : Type} (start : List Token) (left : Nat) : Reader α :=
  match start.find? Token.isFlawed with
  | some t => throw ⟨flawOf t, left⟩
  | none => throw ⟨.unlikely (Token.source (start.take (start.length + 1 - left))), left⟩

def sourceSince (start : List Token) : Reader String := do
  return Token.source (start.take (start.length - (← get).length))

/-! ## Which tokens can stand where -/

def wordKinds : List Token.Kind :=
  [.words, .escapedOpening, .slashes, .opening, .escape, .quotedSlashes]

def fieldKinds : List Token.Kind :=
  [.real, .whole, .truth, .nothing, .mark, .name, .escape, .blanks]

def plainKinds : List Token.Kind := .opening :: .colon :: fieldKinds

def argumentKinds : List Token.Kind :=
  [.opening, .braceOpening, .singleQuote, .doubleQuote, .bracketOpening, .colon] ++ fieldKinds

def argumentsKinds : List Token.Kind :=
  [.opening, .braceOpening, .braceClosing, .singleQuote, .doubleQuote, .comma, .bracketOpening,
    .colon] ++ fieldKinds

def itemsKinds : List Token.Kind :=
  [.opening, .braceOpening, .singleQuote, .doubleQuote, .comma, .bracketOpening, .bracketClosing,
    .colon] ++ fieldKinds

def keyKinds : List Token.Kind := [.bracketOpening, .closing, .dot]

/-! ## Words -/

def word (text : String) : Term := .constant (.str text)

def everySecond : List Char → List Char
  | _ :: c :: cs => c :: everySecond cs
  | _ => []

def unescaped (text : String) : String := String.ofList (everySecond text.toList)

def single (t : Token) : Term :=
  match t.kind with
  | .nothing => .constant .null
  | .whole => .constant (ofWhole t.text)
  | .real => .constant (ofReal t.text)
  | .truth => .constant (.bool (t.text.length = 4))
  | .escape => word (unescaped t.text)
  | .blanks => .blanks
  | _ => word t.text

def among (t : Token) : Term := word (if t.kind = .escape then unescaped t.text else t.text)

/-- What the opening of a reference behind backslashes stands for: half of the backslashes are left,
and the one that makes words of the opening is not. -/
def escapedOpening (text : String) : String :=
  String.ofList (text.toList.drop (text.length - (text.length / 2 + 1)))

/-- Texts in a row: a reference on its own keeps the kind of its value. -/
def together : List Term → Term
  | [.reference source key] => .reference source key
  | [.call source name arguments] => .call source name arguments
  | parts => .joined parts

abbrev Piece := Token ⊕ Term

def ofPieces : List Piece → Term
  | [.inl t] => single t
  | [.inr term] => term
  | pieces => .joined (pieces.map fun
    | .inl t => among t
    | .inr term => term)

/-! ## The grammar

The functions read as far as they say, with this many steps at most. Every step takes a token, or
leads to a part that does. -/

def fieldTokens : Nat → Reader (List Piece)
  | 0 => return []
  | n + 1 => do
      if fieldKinds.contains (← front).kind then
        let t ← advance
        return .inl t :: (← fieldTokens n)
      else return []

def fieldName (n : Nat) : Reader Term := do
  if fieldKinds.contains (← front).kind then return ofPieces (← fieldTokens n)
  else refuseFor fieldKinds

def leadingDots : Nat → Reader (List Term)
  | 0 => return []
  | n + 1 => do
      let _ ← advance
      let kind := (← front).kind
      if kind = .dot then return word "." :: (← leadingDots n)
      else if [.opening, .bracketOpening, .name, .key].contains kind then return [word "."]
      else refuseMore [.opening, .bracketOpening, .name, .dot, .key]

mutual

/-- Reads a reference or a call, behind which these kinds can follow. As long as it can be either,
nothing but its beginning is said to be wrong. -/
def reference (n : Nat) (follow : List Token.Kind) : Reader Term :=
  match n with
  | 0 => refuse .circular
  | n + 1 => do
      let start ← get
      let _ ← advance
      match (← front).kind with
      | .name | .opening => undecided n start follow []
      | .dot => do
          let dots ← leadingDots n
          let key ← firstKey n
          return .reference (← sourceSince start) (dots ++ key)
      | .bracketOpening | .key => do
          let key ← firstKey n
          return .reference (← sourceSince start) key
      | _ => unlikely start (← get).length

/-- Reads a name of what can be a reference or a call, and goes on. The names so far are given, the
last one first. -/
def undecided (n : Nat) (start : List Token) (follow : List Token.Kind) (names : List Term) :
    Reader Term :=
  match n with
  | 0 => refuse .circular
  | n + 1 => do
      let name ←
        if (← front).kind = .opening then
          try reference n []
          catch r =>
            if start.any Token.isFlawed ∨ r.flaw.isGrammatical then unlikely start r.left
            else throw r
        else pure (word (← advance).text)
      let names := name :: names
      let key := names.reverse.intersperse (word ".")
      match (← front).kind with
      | .colon => do
          let _ ← advance
          let arguments ← arguments n follow
          return .call (← sourceSince start) names.reverse arguments
      | .bracketOpening | .closing => do
          let others ← keys n (names.length = 1)
          return .reference (← sourceSince start) (key ++ others)
      | .dot => do
          match (← second).kind with
          | .name | .opening => do
              let _ ← advance
              undecided n start follow names
          | .key => do
              let others ← keys n (names.length = 1)
              return .reference (← sourceSince start) (key ++ others)
          | _ => unlikely start ((← get).length - 1)
      | _ => unlikely start (← get).length

def firstKey (n : Nat) : Reader (List Term) :=
  match n with
  | 0 => refuse .circular
  | n + 1 => do
      let first ←
        if (← front).kind = .bracketOpening then bracketed n
        else pure [← name n keyKinds]
      return first ++ (← keys n true)

def bracketed (n : Nat) : Reader (List Term) :=
  match n with
  | 0 => refuse .circular
  | n + 1 => do
      let _ ← advance
      let name ← name n [.bracketClosing]
      expect .bracketClosing keyKinds
      return [word "[", name, word "]"]

def name (n : Nat) (follow : List Token.Kind) : Reader Term :=
  match n with
  | 0 => refuse .circular
  | n + 1 => do
      match (← front).kind with
      | .opening => reference n follow
      | .name | .key => return word (← advance).text
      | _ => refuseFor [.opening, .name, .key]

def keys (n : Nat) (first : Bool) : Reader (List Term) :=
  match n with
  | 0 => refuse .circular
  | n + 1 => do
      match (← front).kind with
      | .closing => do
          let _ ← advance
          return []
      | .dot => do
          let _ ← advance
          let name ← name n keyKinds
          return word "." :: name :: (← keys n false)
      | .bracketOpening => do
          let name ← bracketed n
          return name ++ (← keys n false)
      | _ => if first then refuseFor keyKinds else refuseMore keyKinds

def arguments (n : Nat) (follow : List Token.Kind) : Reader (List Term) :=
  match n with
  | 0 => refuse .circular
  | n + 1 => do
      let kind := (← front).kind
      let items ←
        if kind = .braceClosing then pure []
        else if argumentsKinds.contains kind then sequence n .braceClosing
        else refuseFor argumentsKinds
      expect .braceClosing follow
      return items

/-- Reads arguments with commas between them, up to this kind. What is not there is an empty
text. -/
def sequence (n : Nat) (close : Token.Kind) : Reader (List Term) :=
  match n with
  | 0 => refuse .circular
  | n + 1 => do
      let kind := (← front).kind
      if argumentKinds.contains kind then
        let item ← argument n [.comma, close]
        if (← front).kind = .comma then
          let _ ← advance
          return item :: (← sequence n close)
        else return [item]
      else if kind = .comma then
        let _ ← advance
        return word "" :: (← sequence n close)
      else return [word ""]

def argument (n : Nat) (follow : List Token.Kind) : Reader Term :=
  match n with
  | 0 => refuse .circular
  | n + 1 => do
      let kind := (← front).kind
      match kind with
      | .singleQuote | .doubleQuote => quotation n follow
      | .bracketOpening => list n follow
      | .braceOpening => record n follow
      | _ =>
          if plainKinds.contains kind then return ofPieces (← pieces n follow)
          else refuseFor argumentKinds

def pieces (n : Nat) (follow : List Token.Kind) : Reader (List Piece) :=
  match n with
  | 0 => refuse .circular
  | n + 1 => do
      let kind := (← front).kind
      if kind = .opening then
        let term ← reference n (plainKinds ++ follow)
        return .inr term :: (← pieces n follow)
      else if plainKinds.contains kind then
        let t ← advance
        return .inl t :: (← pieces n follow)
      else return []

/-- Reads words between quotes. They are a text, whatever references stand for. -/
def quotation (n : Nat) (follow : List Token.Kind) : Reader Term :=
  match n with
  | 0 => refuse .circular
  | n + 1 => do
      let _ ← advance
      let kind := (← front).kind
      let parts ←
        if kind = .quoteClosing then pure []
        else if wordKinds.contains kind then words n .quoteClosing
        else
          refuseFor [.words, .escapedOpening, .slashes, .opening, .escape, .quoteClosing,
            .quotedSlashes]
      expect .quoteClosing follow
      return .joined parts

/-- Reads words and references, up to this kind. Pairs of backslashes stand for one each where a
reference follows, or the end of a quotation. -/
def words (n : Nat) (close : Token.Kind) : Reader (List Term) :=
  match n with
  | 0 => refuse .circular
  | n + 1 => do
      let kind := (← front).kind
      if kind = .opening then
        let term ← reference n (wordKinds ++ [close])
        return term :: (← words n close)
      else if wordKinds.contains kind then
        let text := (← advance).text
        let next := (← front).kind
        let halved := next = .opening ∨ kind = .quotedSlashes ∧ next = close
        let meant :=
          match kind with
          | .escapedOpening => escapedOpening text
          | .escape => unescaped text
          | .slashes | .quotedSlashes => if halved then unescaped text else text
          | _ => text
        return word meant :: (← words n close)
      else return []

def list (n : Nat) (follow : List Token.Kind) : Reader Term :=
  match n with
  | 0 => refuse .circular
  | n + 1 => do
      let _ ← advance
      let kind := (← front).kind
      let items ←
        if kind = .bracketClosing then pure []
        else if itemsKinds.contains kind then sequence n .bracketClosing
        else refuseFor itemsKinds
      expect .bracketClosing follow
      return .list items

def record (n : Nat) (follow : List Token.Kind) : Reader Term :=
  match n with
  | 0 => refuse .circular
  | n + 1 => do
      let _ ← advance
      let kind := (← front).kind
      let fields ←
        if kind = .braceClosing then pure []
        else if fieldKinds.contains kind then
          let first ← field n
          pure (first :: (← fields n true))
        else refuseFor (.braceClosing :: fieldKinds)
      expect .braceClosing follow
      return .record fields

def field (n : Nat) : Reader (Term × Term) :=
  match n with
  | 0 => refuse .circular
  | n + 1 => do
      let name ← fieldName n
      expect .colon argumentKinds
      return (name, ← argument n [.braceClosing, .comma])

def fields (n : Nat) (first : Bool) : Reader (List (Term × Term)) :=
  match n with
  | 0 => refuse .circular
  | n + 1 => do
      match (← front).kind with
      | .comma => do
          let _ ← advance
          let next ← field n
          return next :: (← fields n false)
      | .braceClosing => return []
      | _ => if first then refuseFor [.braceClosing, .comma] else refuseMore [.braceClosing, .comma]

end

/-! ## Templates -/

/-- Reads all tokens with a reader that gets enough steps for them. -/
def readAll (tokens : List Token) (reader : Nat → Reader Term) : Except Flaw Term :=
  let whole : Reader Term := do
    check
    let term ← reader (8 * tokens.length)
    expect .ending []
    return term
  match whole.run tokens with
  | .ok (term, _) => .ok term
  | .error r => .error r.flaw

/-- Is there the opening of a reference among these characters, be it behind backslashes? -/
def opens : List Char → Bool
  | [] => false
  | c :: cs => (Token.opening? (c :: cs)).isSome || opens cs

def isTemplate (text : String) : Bool := opens text.toList

def parse (text : String) : Except Flaw Term :=
  if isTemplate text then
    readAll (Token.scan .outside text) fun n => together <$> words n .ending
  else .ok (word text)

def parseArgument (text : String) : Except Flaw Term :=
  readAll (Token.scan .arguments text) fun n => argument n [.ending]

theorem words_of_plain {text : String} (plain : isTemplate text = false) :
    parse text = .ok (.constant (.str text)) := by
  simp [parse, plain, word]

end Template

end Chip8.Value
