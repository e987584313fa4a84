import Chip8.Seconds

/-!
# Counting cycles and frames

A rate meter counts cycles and frames, in total and within a window of time. The first count that
falls into a full window closes it: it is handed out, and a new one begins. A meter whose interval
is not positive never closes its window.

What is counted stays counted in the total, whether or not it closes the window
(`RateMeter.total_count`). This holds for any kind of clock, also for one that runs backwards. A
window whose length or rates cannot be told stays open, and what was counted in it is not lost
either (`RateMeter.total_countReporting`). The same goes for a meter that was given no proper
interval.
-/

namespace Chip8

/-! ## Tallies -/

structure Tally where
  cycles : Count
  frames : Count
deriving DecidableEq

namespace Tally

def zero : Tally := ⟨0, 0⟩

def add (a b : Tally) : Tally := ⟨a.cycles + b.cycles, a.frames + b.frames⟩

def ofCycles (n : Count) : Tally := ⟨n, 0⟩

def ofFrames (n : Count) : Tally := ⟨0, n⟩

def sum (ts : List Tally) : Tally := ts.foldr add zero

def IsWhole (t : Tally) : Prop := t.cycles.IsWhole ∧ t.frames.IsWhole

instance : DecidablePred IsWhole := fun _ => inferInstanceAs (Decidable (_ ∧ _))

theorem isWhole_zero : zero.IsWhole := ⟨trivial, trivial⟩

theorem isWhole_ofCycles (n : Int) : (ofCycles (.whole n)).IsWhole := ⟨trivial, trivial⟩

theorem isWhole_ofFrames (n : Int) : (ofFrames (.whole n)).IsWhole := ⟨trivial, trivial⟩

theorem IsWhole.add {a b : Tally} (ha : a.IsWhole) (hb : b.IsWhole) : (a.add b).IsWhole :=
  ⟨ha.1.add hb.1, ha.2.add hb.2⟩

theorem add_assoc {a b c : Tally} (ha : a.IsWhole) (hb : b.IsWhole) (hc : c.IsWhole) :
    (a.add b).add c = a.add (b.add c) := by
  simp [add, Count.add_assoc ha.1 hb.1 hc.1, Count.add_assoc ha.2 hb.2 hc.2]

theorem zero_add {a : Tally} (ha : a.IsWhole) : zero.add a = a := by
  simp [zero, add, Count.zero_add ha.1, Count.zero_add ha.2]

theorem add_zero {a : Tally} (ha : a.IsWhole) : a.add zero = a := by
  simp [zero, add, Count.add_zero ha.1, Count.add_zero ha.2]

@[simp] theorem sum_nil : sum [] = zero := rfl

@[simp] theorem sum_cons (t : Tally) (ts : List Tally) : sum (t :: ts) = t.add (sum ts) := rfl

theorem isWhole_sum {ts : List Tally} (h : ∀ t ∈ ts, t.IsWhole) : (sum ts).IsWhole := by
  induction ts with
  | nil => exact isWhole_zero
  | cons t ts ih =>
      exact (h t (by simp)).add (ih fun u hu => h u (by simp [hu]))

theorem sum_append {ts us : List Tally} (ht : ∀ t ∈ ts, t.IsWhole) (hu : ∀ u ∈ us, u.IsWhole) :
    sum (ts ++ us) = (sum ts).add (sum us) := by
  induction ts with
  | nil => simp [zero_add (isWhole_sum hu)]
  | cons t ts ih =>
      have rest : ∀ t ∈ ts, t.IsWhole := fun u h => ht u (by simp [h])
      simp [ih rest, add_assoc (ht t (by simp)) (isWhole_sum rest) (isWhole_sum hu)]

end Tally

/-! ## Meters -/

/-- A kind of time: how long it is from one reading of a clock to a later one, if that can be
told. -/
class Clock (τ : Type) where
  elapsed (later earlier : τ) : Except Error τ

instance : Clock Seconds := ⟨Seconds.since⟩

/-- A closed window: what was counted in it, and how long it was. -/
structure Window (τ : Type) where
  counted : Tally
  length : τ

/-- A meter for times of type `τ`. -/
structure RateMeter (τ : Type) where
  /-- How long a window is at least, if that is known. -/
  interval : Except Error τ
  /-- When the current window began. -/
  windowStart : τ
  /-- What was counted in the current window. -/
  window : Tally
  /-- What was counted altogether. -/
  total : Tally

namespace RateMeter

variable {τ : Type} [Clock τ] [OfNat τ 0] [LE τ] [LT τ] [DecidableLE τ] [DecidableLT τ]

def start (interval : Except Error τ) (now : τ) : RateMeter τ :=
  ⟨interval, now, Tally.zero, Tally.zero⟩

def full? (m : RateMeter τ) (now : τ) : Except Error (Option τ) :=
  match m.interval with
  | .error e => .error e
  | .ok interval =>
      if interval ≤ 0 then .ok none
      else
        (Clock.elapsed now m.windowStart).map fun length =>
          if length < interval then none else some length

def add (m : RateMeter τ) (t : Tally) : RateMeter τ :=
  { m with window := m.window.add t, total := m.total.add t }

def restart (m : RateMeter τ) (now : τ) : RateMeter τ :=
  { m with windowStart := now, window := Tally.zero }

def count (m : RateMeter τ) (now : τ) (t : Tally) :
    RateMeter τ × Except Error (Option (Window τ)) :=
  let m := m.add t
  match m.full? now with
  | .ok (some length) => (m.restart now, .ok (some ⟨m.window, length⟩))
  | .ok none => (m, .ok none)
  | .error e => (m, .error e)

/-- Counts, and closes the window if it is full and a report on it can be made. -/
def countReporting {ρ : Type} (report : Window τ → Except Error ρ) (m : RateMeter τ) (now : τ)
    (t : Tally) : RateMeter τ × Except Error (Option ρ) :=
  match m.count now t with
  | (next, .ok (some closed)) =>
      match report closed with
      | .ok r => (next, .ok (some r))
      | .error e => (m.add t, .error e)
  | (next, .ok none) => (next, .ok none)
  | (next, .error e) => (next, .error e)

/-! ## Nothing is lost -/

theorem total_count (m : RateMeter τ) (now : τ) (t : Tally) :
    (m.count now t).1.total = m.total.add t := by
  simp only [count]
  split <;> rfl

theorem total_countReporting {ρ : Type} (report : Window τ → Except Error ρ) (m : RateMeter τ)
    (now : τ) (t : Tally) :
    (m.countReporting report now t).1.total = m.total.add t := by
  rw [← total_count m now t, countReporting]
  split
  · split <;> simp_all [← total_count m now t, add]
  · simp_all
  · simp_all

end RateMeter

/-! ## Rates -/

structure Rates where
  cycles : Float
  frames : Float

/-- The rates over a time, which is taken to be a nanosecond at least. -/
def Tally.perSecond (t : Tally) (length : Seconds) : Except Error Rates := do
  let length := length.atLeast (.real 1e-9)
  return ⟨← length.per t.cycles, ← length.per t.frames⟩

def Window.rates (w : Window Seconds) : Except Error Rates := w.counted.perSecond w.length

def RateMeter.rates (m : RateMeter Seconds) (now : Seconds) : Except Error Rates := do
  m.window.perSecond (← now.since m.windowStart)

end Chip8
