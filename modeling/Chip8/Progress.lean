import Chip8.Count
import Chip8.Loop

/-!
# Progress of a scan

A scan runs a body over the items of a list and passes a state along. A progress bar watches it:
the bar is opened at the first of `total` iterations, advanced once in every `stride` of them, and
brought to its end and closed at the last one. The iterations are recognised by their numbers, so
items come with one.

The last advance makes up for whatever the regular ones left out. They stop short of the last
iteration, which `Plan.regular` counts in advance. If the total is not a whole number, there is no
last iteration, and the bar is never brought to its end. A stride that is not whole is met where a
whole number of strides is a whole number of iterations; the bar is then advanced without the
places. Iterations and advances are numbers of 32 bits. A plan with a last iteration beyond them
cannot be run (`Plan.checked`), and an iteration at which the bar would have to be advanced by more
cannot be watched (`Plan.refusal?`).
-/

namespace Chip8

/-- Runs a body over a list, passing a state along and collecting what the body gives. -/
def scan {σ α β : Type} (body : σ → α → σ × β) (s : σ) : List α → σ × List β
  | [] => (s, [])
  | a :: as =>
      let (s, b) := body s a
      let (s, bs) := scan body s as
      (s, b :: bs)

namespace Progress

inductive Event where
  /-- A bar for so many iterations appears. -/
  | opened (total : Count) (title : String)
  /-- The bar advances. -/
  | advanced (amount : Int)
  /-- The bar is finished. -/
  | closed
deriving DecidableEq

/-- When a bar is to be advanced. -/
structure Plan where
  /-- Number of iterations; a part of one is run as a whole. -/
  total : Count
  /-- How many iterations one advance stands for. -/
  stride : Count
  title : String

namespace Plan

def defaultTitle (total : Count) : String := "Running (" ++ total.grouped ++ " frames)"

/-- A plan for so many iterations. The stride lies between one and the number of iterations;
unless it is given, it is a twentieth of them, but fifty at most. -/
def make (total : Count) (stride : Option Count) (title : Option String) : Plan where
  total := total
  stride := match stride with
    | none => max 1 (min (total.timesIn 20) 50)
    | some stride => max 1 (min stride total)
  title := title.getD (defaultTitle total)

def regular (p : Plan) : Count := max 0 ((p.total - 2).timesIn p.stride * p.stride)

def remainder (p : Plan) : Count := p.total - p.regular

/-- Is the bar advanced at this iteration, before the last one? -/
def advancesAt (p : Plan) (i : Int) : Bool :=
  Count.isMultiple i p.stride.narrow && 0 < i && Count.whole i < (p.total - 1).narrow

def endsAt (p : Plan) (i : Int) : Bool := Count.compare? i (p.total - 1).narrow == some .eq

/-- What happens to the bar at an iteration. A bar that was never opened is neither advanced nor
closed. -/
def eventsAt (p : Plan) (isOpen : Bool) (i : Int) : List Event :=
  let opening := if i = 0 then [.opened p.total p.title] else []
  let advances := if p.advancesAt i then [.advanced p.stride.narrow.truncated] else []
  let ending := if p.endsAt i then [.advanced p.remainder.narrow.truncated, .closed] else []
  if isOpen || i = 0 then opening ++ advances ++ ending else []

def amountAt? (p : Plan) (i : Int) : Option Count :=
  if p.advancesAt i then some p.stride else if p.endsAt i then some p.remainder else none

/-- Why not all of these iterations can be watched, if so: the bar would have to be advanced by too
large a whole number at one of them. -/
def refusal? (p : Plan) (iterations : List Int) : Option Error :=
  (iterations.filterMap p.amountAt?).findSome? fun
    | .whole n => if Bits.fits 32 n then none else some (.notAWord n)
    | .real _ => none

/-! ### Whole totals and strides -/

theorem stride_make (n : Int) (stride : Option Int) (title : Option String) :
    (make (.whole n) (stride.map .whole) title).stride =
      .whole (max 1 (min (stride.getD (n / 20)) (if stride.isSome then n else 50))) := by
  cases stride with
  | none =>
      exact (congrArg (max (.whole 1)) (Count.min_whole (n / 20) 50)).trans (Count.max_whole ..)
  | some s => exact (congrArg (max (.whole 1)) (Count.min_whole s n)).trans (Count.max_whole ..)

variable {p : Plan} {n s : Int}

theorem regular_of_whole (hn : p.total = .whole n) (hs : p.stride = .whole s) :
    p.regular = .whole (max 0 ((n - 2) / s * s)) := by
  rw [regular, hn, hs]
  exact Count.max_whole 0 ((n - 2) / s * s)

theorem remainder_of_whole (hn : p.total = .whole n) (hs : p.stride = .whole s) :
    p.remainder = .whole (n - max 0 ((n - 2) / s * s)) := by
  rw [remainder, regular_of_whole hn hs, hn]
  rfl

theorem advancesAt_of_whole (hn : p.total = .whole n) (hs : p.stride = .whole s) (i : Int) :
    p.advancesAt i = true ↔ i % s = 0 ∧ 0 < i ∧ i < n - 1 := by
  have narrow : (p.total - 1).narrow = .whole (n - 1) := by rw [hn]; rfl
  have multiple : Count.isMultiple i p.stride.narrow = (i % s == 0) := by rw [hs]; rfl
  simp only [advancesAt, narrow, multiple, Count.whole_lt, Bool.and_eq_true, beq_iff_eq,
    decide_eq_true_eq, and_assoc]

theorem endsAt_of_whole (hn : p.total = .whole n) (i : Int) :
    p.endsAt i = true ↔ i = n - 1 := by
  have narrow : (p.total - 1).narrow = .whole (n - 1) := by rw [hn]; rfl
  have order : Count.compare? i (.whole (n - 1)) = some (compare i (n - 1)) :=
    Count.compare?_whole i (n - 1)
  simp [endsAt, narrow, order]

end Plan

/-! ## Watching a body -/

structure Watched (σ : Type) where
  state : σ
  isOpen : Bool
  /-- What happened to the bar so far, the first event first. -/
  events : List Event

def Watched.start {σ : Type} (s : σ) : Watched σ := ⟨s, false, []⟩

def Plan.watch {σ α β : Type} (p : Plan) (number : α → Int) (body : σ → α → σ × β)
    (w : Watched σ) (a : α) : Watched σ × β :=
  let i := number a
  let (s, b) := body w.state a
  (⟨s, w.isOpen || i = 0, w.events ++ p.eventsAt w.isOpen i⟩, b)

/-- The plan, unless there is no loop for it: the iterations are numbered, the last one is told by
its number if that is whole, and unless there are none they are counted. -/
def Plan.checked (p : Plan) (space : Space) : Except Error Plan := do
  Loop.numberable space p.total.rounds
  if p.total.IsWhole then Loop.countable (p.total.rounds - 1)
  Loop.countable (max p.total.rounds 0)
  return p

def Plan.run {σ : Type} (p : Plan) (body : σ → σ) (s : σ) : Watched σ :=
  let watched := p.watch (fun i : Nat => (i : Int)) fun s _ => (body s, ())
  (scan watched (Watched.start s) (List.range p.total.rounds.toNat)).1

/-! ## Options of a bar -/

/-- Options that the plan decides on. -/
def planned : List String := ["total", "mininterval", "maxinterval", "miniters"]

def passedOn {α : Type} (options : List (String × α)) : List (String × α) :=
  options.filter fun option => !planned.contains option.1

end Progress

end Chip8
