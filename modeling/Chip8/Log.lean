import Chip8.Seconds
import Chip8.Text.Decimal

/-!
# The log

Messages carry the name of a level, and a logger lets a message through if its level ranks at
least as high as the threshold. Names are free text: case does not matter, and a name that is no
level ranks as information. Every line that a logger prints keeps the level of its message, so the
output under a stricter threshold can be compared with that under a looser one
(`Logger.print_of_rank_le`).
-/

namespace Chip8

/-! ## Levels -/

inductive Level where
  | debug
  | info
  | warning
  | error
  | critical
deriving DecidableEq

namespace Level

/-- Every level, the least important first. -/
def all : List Level := [debug, info, warning, error, critical]

def name : Level → String
  | debug => "DEBUG"
  | info => "INFO"
  | warning => "WARNING"
  | error => "ERROR"
  | critical => "CRITICAL"

def rank : Level → Nat
  | debug => 0
  | info => 1
  | warning => 2
  | error => 3
  | critical => 4

/-- The number of a level's colour on a terminal. -/
def colour : Level → Nat
  | debug => 36
  | info => 32
  | warning => 33
  | error => 31
  | critical => 35

/-- The capital of a letter, as far as it is one from A to Z: those of the small letters from a to
z, of the i without a dot, and of the long s. -/
def capital (c : Char) : Char :=
  if c = 'ı' then 'I' else if c = 'ſ' then 'S' else c.toUpper

/-- Is this the name in any mixture of cases? The name is given in capitals. -/
def spells (name capitals : String) : Bool := name.toList.map capital == capitals.toList

def ofName? (name : String) : Option Level := all.find? fun l => spells name l.name

/-- The rank of a name; one that names no level ranks as information. -/
def rankOf (name : String) : Nat := ((ofName? name).getD info).rank

example : all.map (fun l => ofName? l.name) = all.map some := by decide +kernel
example : ofName? "wArnıng" = some warning := by decide +kernel
example : rankOf "notice" = rankOf "info" := by decide +kernel

/-- The colour that a name asks for: that of the level, or none at all by name. -/
def colourOf? (name : String) : Option Nat :=
  if spells name "RESET" then some 0 else (ofName? name).map colour

example : colourOf? "reſet" = some 0 ∧ colourOf? "resets" = none := by decide +kernel

end Level

/-! ## Messages and lines -/

/-- Something to be told, at the level with this name. -/
structure Message where
  level : String
  text : String
deriving DecidableEq

def Level.message (level : Level) (text : String) : Message := ⟨level.name, text⟩

/-- A line of output and the level that it was printed at. -/
structure Line where
  level : String
  text : String
deriving DecidableEq

/-! ## Loggers -/

structure Logger where
  /-- Who is speaking. -/
  name : String
  /-- Name of the lowest level that is printed. -/
  threshold : String
  /-- Whether colours are wanted. -/
  colours : Bool
  /-- Whether the output is a terminal; nothing else is ever coloured. -/
  terminal : Bool
  timestamps : Bool
  /-- When the logger was made; time stamps count from here. -/
  start : Seconds

namespace Logger

def admits (l : Logger) (level : String) : Bool := Level.rankOf l.threshold ≤ Level.rankOf level

/-- The terminal's command for a colour, zero for none. -/
def paint (colour : Nat) : String := "\x1b[" ++ toString colour ++ "m"

/-- The level in a column of brackets, coloured if that is wanted and possible. A level without a
colour of its own is followed by the return to none all the same. -/
def badge (l : Logger) (level : String) : String :=
  let plain := "[" ++ Text.padLeft ' ' 8 level ++ "]"
  if l.colours && l.terminal then
    ((Level.colourOf? level).map paint).getD "" ++ plain ++ paint 0
  else plain

def stamp (l : Logger) (now : Seconds) : Except Error String :=
  if l.timestamps then do
    let age ← (← now.since l.start).toFloat
    return "[" ++ Text.fixedColumn 8 2 age ++ "s]"
  else .ok ""

def format (l : Logger) (stamp : String) (m : Message) : Line :=
  ⟨m.level, stamp ++ l.badge m.level ++ "[" ++ l.name ++ "] " ++ m.text⟩

/-- The lines for those messages that are let through. Where there are any, they need a time
stamp; without one nothing is printed. -/
def print (l : Logger) (now : Seconds) (messages : List Message) : Except Error (List Line) :=
  match messages.filter fun m => l.admits m.level with
  | [] => .ok []
  | admitted => (l.stamp now).map fun stamp => admitted.map (l.format stamp)

/-! ## Comparing thresholds -/

def withThreshold (l : Logger) (threshold : String) : Logger := { l with threshold := threshold }

/-- Under a time stamp every admitted message becomes a line. -/
theorem print_of_stamp {l : Logger} {now : Seconds} {stamp : String}
    (h : l.stamp now = .ok stamp) (ms : List Message) :
    l.print now ms = .ok ((ms.filter fun m => l.admits m.level).map (l.format stamp)) := by
  unfold print
  split
  · simp_all
  · simp [h, Except.map]

/-- Without a time stamp only a list of which nothing is admitted can be printed. -/
theorem print_of_no_stamp {l : Logger} {now : Seconds} {e : Error} (h : l.stamp now = .error e)
    (ms : List Message) :
    l.print now ms = if (ms.filter fun m => l.admits m.level) = [] then .ok [] else .error e := by
  unfold print
  split
  · simp_all
  · simp_all [Except.map]

/-- Printing messages together is printing one part after the other. -/
theorem print_append (l : Logger) (now : Seconds) (ms ns : List Message) :
    l.print now (ms ++ ns) = do
      let first ← l.print now ms
      let second ← l.print now ns
      return first ++ second := by
  cases h : l.stamp now with
  | ok stamp => simp [print_of_stamp h, bind, Except.bind, pure, Except.pure]
  | error e =>
      simp only [print_of_no_stamp h, List.filter_append, List.append_eq_nil_iff]
      by_cases hm : (ms.filter fun m => l.admits m.level) = [] <;>
        by_cases hn : (ns.filter fun m => l.admits m.level) = [] <;>
        simp [hm, hn, bind, Except.bind, pure, Except.pure]

/-- A stricter logger prints exactly those lines of a looser one that it admits. -/
theorem print_of_rank_le (l : Logger) (strict : String) (now : Seconds) (ms : List Message)
    (lines : List Line) (h : Level.rankOf l.threshold ≤ Level.rankOf strict)
    (printed : l.print now ms = .ok lines) :
    (l.withThreshold strict).print now ms =
      .ok (lines.filter fun line => (l.withThreshold strict).admits line.level) := by
  have weaker (level : String) (strictly : (l.withThreshold strict).admits level = true) :
      l.admits level = true :=
    decide_eq_true (Nat.le_trans h (of_decide_eq_true strictly))
  have same : (l.withThreshold strict).stamp now = l.stamp now := rfl
  cases hs : l.stamp now with
  | ok stamp =>
      rw [print_of_stamp hs] at printed
      rw [print_of_stamp (same.trans hs), ← Except.ok.inj printed, List.filter_map,
        List.filter_filter]
      congr 2
      apply List.filter_congr
      intro m _
      by_cases strictly : (l.withThreshold strict).admits m.level = true
      · simp [format, strictly, weaker m.level strictly]
      · simp [format, strictly]
  | error e =>
      rw [print_of_no_stamp hs] at printed
      split at printed
      next none =>
        have none' : (ms.filter fun m => (l.withThreshold strict).admits m.level) = [] := by
          rw [List.filter_eq_nil_iff] at none ⊢
          exact fun m hm strictly => none m hm (weaker m.level strictly)
        rw [print_of_no_stamp (same.trans hs), if_pos none', ← Except.ok.inj printed]
        rfl
      next => exact nomatch printed

end Logger

end Chip8
