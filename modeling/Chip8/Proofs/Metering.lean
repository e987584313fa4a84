import Chip8.Proofs.HostOutcome
import Mathlib.Algebra.Ring.Int.Defs
import Mathlib.Algebra.Ring.Nat

/-!
# Counting that succeeds

A count can only fail at the report that it may bring about, and a report fails only if the clock
or the counts have no place among the floating-point numbers. A host that has room for some more
cycles and frames (`Host.HasRoom`) counts so many of them without an error, and has as much less
room afterwards (`Host.count_of_hasRoom`).
-/

namespace Chip8

/-! ## Whole numbers that are not too large -/

theorem roundDiv_le {num den m : Nat} (hden : 0 < den) (h : num ≤ m * den) :
    roundDiv num den ≤ m := by
  have hnear := (roundDiv_near num den hden).2
  have hle : (2 * roundDiv num den) * den ≤ (2 * m + 1) * den := by
    rw [Nat.add_mul, Nat.one_mul, Nat.mul_assoc 2 m den]
    omega
  have := Nat.le_of_mul_le_mul_right hle hden
  omega

namespace Binary

/-- Every place less doubles a quotient at most. -/
theorem shifted_sub_lt {num den : Nat} {place : Int}
    (h : (shifted num den place).1 < 2 * (shifted num den place).2) (k : Nat) :
    (shifted num den (place - k)).1 < 2 ^ (k + 1) * (shifted num den (place - k)).2 := by
  induction k with
  | zero => simpa using h
  | succ k ih =>
      have step := shifted_pred num den (place - k)
      rw [show place - (k + 1 : Nat) = place - k - 1 by omega, Nat.pow_succ]
      rcases step with ⟨h1, h2⟩ | ⟨h1, h2⟩
      · rw [← h2] at ih
        rw [h1, Nat.mul_assoc]
        exact ih
      · rw [h1, h2, Nat.mul_comm _ 2, Nat.mul_assoc]
        exact Nat.mul_lt_mul_of_pos_left ih (by decide)

theorem leadingPlace_one (num : Nat) :
    -1 ≤ leadingPlace num 1 ∧ leadingPlace num 1 ≤ num.log2 := by
  have hone : Nat.log2 1 = 0 := by decide
  simp only [leadingPlace, hone]
  split <;> omega

theorem shifted_natCast (num p : Nat) : shifted num 1 p = (num, 2 ^ p) := by
  simp [shifted]

/-- 53 digits are kept, and rounding may turn them into the next power of two. -/
theorem roundDiv_shifted_le {num : Nat} (hnum : num ≠ 0) :
    roundDiv (shifted num 1 (leadingPlace num 1 - 52)).1
      (shifted num 1 (leadingPlace num 1 - 52)).2 ≤ 2 ^ 53 := by
  have hquotient := shifted_sub_lt (leadingPlace_bounds num 1 hnum (by decide)).2 52
  have hden : 0 < (shifted num 1 (leadingPlace num 1 - (52 : Nat))).2 := by
    refine Nat.pos_of_ne_zero fun hzero => ?_
    rw [hzero] at hquotient
    exact absurd hquotient (Nat.not_lt_zero _)
  exact roundDiv_le hden (Nat.le_of_lt hquotient)

/-- Halfway to the next power of two and below, rounding does not lead to it. -/
theorem roundDiv_two_pow_lt {num p : Nat} (h : num < (2 ^ 54 - 1) * 2 ^ p) :
    roundDiv num (2 ^ (p + 1)) < 2 ^ 53 := by
  have hnear := (roundDiv_near num (2 ^ (p + 1)) (Nat.two_pow_pos _)).2
  rw [Nat.pow_succ] at hnear ⊢
  have hlt : roundDiv num (2 ^ p * 2) * (4 * 2 ^ p) < 2 ^ 53 * (4 * 2 ^ p) := by
    generalize 2 ^ p = unit at *
    calc roundDiv num (unit * 2) * (4 * unit)
        = 2 * roundDiv num (unit * 2) * (unit * 2) := by
          rw [Nat.mul_comm 2 (roundDiv _ _), Nat.mul_assoc]
          congr 1
          omega
      _ ≤ 2 * num + unit * 2 := hnear
      _ < 2 ^ 53 * (4 * unit) := by omega
  exact Nat.lt_of_mul_lt_mul_right hlt

/-- The smallest whole number that is too large for a floating-point number: halfway from the
largest of them to the next power of two. -/
def tooLarge : Nat := (2 ^ 54 - 1) * 2 ^ 970

theorem log2_lt_of_lt {num p : Nat} (hnum : num ≠ 0) (h : num < (2 ^ 54 - 1) * 2 ^ p) :
    num.log2 < 54 + p := by
  rw [Nat.log2_lt hnum]
  calc num < (2 ^ 54 - 1) * 2 ^ p := h
    _ < 2 ^ 54 * 2 ^ p := Nat.mul_lt_mul_of_pos_right (by decide) (Nat.two_pow_pos p)
    _ = 2 ^ (54 + p) := (Nat.pow_add 2 54 p).symm

theorem nearestBits_lt {num : Nat} (h : num < tooLarge) : nearestBits num 1 < infinityBits := by
  rw [nearestBits]
  split
  · decide
  · rename_i hnum
    have hlog := log2_lt_of_lt hnum h
    obtain ⟨hlow, hhigh⟩ := leadingPlace_one num
    have hmax : max (leadingPlace num 1 - 52) (-1074) = leadingPlace num 1 - 52 := by omega
    have hround := roundDiv_shifted_le hnum
    simp only [hmax, infinityBits]
    -- only from the topmost place can rounding lead beyond the largest number
    by_cases htop : leadingPlace num 1 = 1023
    · have hplace : (1023 : Int) - 52 = (970 + 1 : Nat) := by decide
      rw [htop, hplace, shifted_natCast]
      have hround' := roundDiv_two_pow_lt h
      dsimp only
      omega
    · have hshift : (leadingPlace num 1 - 52 + 1074).toNat ≤ 2044 := by omega
      omega

end Binary

theorem Count.exists_toFloat? {n : Int} (h : n.natAbs < Binary.tooLarge) :
    ∃ x, (Count.whole n).toFloat? = some x :=
  ⟨_, if_pos (Binary.nearestBits_lt h)⟩

/-! ## Rates and reports -/

def Tally.whole (cycles frames : Int) : Tally := ⟨.whole cycles, .whole frames⟩

def Tally.series (ts : List (Nat × Nat)) : List (Except Error Tally) :=
  ts.map fun t => .ok (.whole t.1 t.2)

def Tally.need (ts : List (Nat × Nat)) : Nat := (ts.map fun t => t.1 + t.2).sum

theorem Tally.whole_add (a b c d : Int) :
    (whole a b).add (whole c d) = whole (a + c) (b + d) := rfl

theorem Tally.whole_inj {a b c d : Int} : whole a b = whole c d ↔ a = c ∧ b = d := by
  rw [whole, whole, Tally.mk.injEq, Count.whole.injEq, Count.whole.injEq]

theorem Tally.isWhole_whole (a b : Int) : (whole a b).IsWhole := ⟨trivial, trivial⟩

/-- Cycles and frames that were counted one after the other. -/
theorem Tally.sum_cycles_frames (a b : Int) : Tally.sum [.whole a 0, .whole 0 b] = .whole a b := by
  rw [sum_cons, sum_cons, sum_nil, add_zero (isWhole_whole 0 b), whole_add, Int.add_zero,
    Int.zero_add]

theorem Seconds.per_real (x : Float) {n : Int} (h : n.natAbs < Binary.tooLarge) :
    ∃ rate, (Seconds.real x).per (.whole n) = .ok rate := by
  obtain ⟨y, hy⟩ := Count.exists_toFloat? h
  refine ⟨y / x, ?_⟩
  simp only [per, toFloat, hy]
  rfl

theorem Tally.perSecond_real (x : Float) {cycles frames : Int}
    (hc : cycles.natAbs < Binary.tooLarge) (hf : frames.natAbs < Binary.tooLarge) :
    ∃ rates, (Tally.whole cycles frames).perSecond (.real x) = .ok rates := by
  have hreal : ∃ y, (Seconds.real x).atLeast (.real 1e-9) = .real y := by
    rw [Seconds.atLeast]
    split
    · exact ⟨_, rfl⟩
    · exact ⟨_, rfl⟩
  obtain ⟨y, hy⟩ := hreal
  obtain ⟨r, hr⟩ := Seconds.per_real y hc
  obtain ⟨q, hq⟩ := Seconds.per_real y hf
  refine ⟨⟨r, q⟩, ?_⟩
  simp only [perSecond, hy, whole, hr, hq]
  rfl

namespace Host

variable {h g k : Host} {room : Nat}

/-- Are there no reports on the speed at all? -/
def Silent (h : Host) : Prop := ∃ interval, h.meter.interval = .ok interval ∧ interval ≤ 0

/-- Do the numbers in the window, or in a new one, stay within the floating-point numbers while so
many more cycles and frames are counted? -/
structure WindowHasRoom (h : Host) (room : Nat) : Prop where
  room_lt : room < Binary.tooLarge
  window : ∃ cycles frames : Int, h.meter.window = .whole cycles frames ∧
    (-Binary.tooLarge < cycles ∧ cycles + room < Binary.tooLarge) ∧
    (-Binary.tooLarge < frames ∧ frames + room < Binary.tooLarge)

/-- Can the host count so many more cycles and frames, and report on them? The clocks of meter and
logger show floating-point numbers, what was counted is whole, and if there are reports, the window
has room. -/
structure HasRoom (h : Host) (room : Nat) : Prop where
  interval : ∃ interval, h.meter.interval = .ok interval
  windowStart : ∃ x, h.meter.windowStart = .real x
  start : ∃ x, h.logger.start = .real x
  total : h.meter.total.IsWhole
  reports : h.Silent ∨ h.WindowHasRoom room

/-- The host `g` is `h` with its machine in the state `s` and with so much more counted, and has
this much room left. -/
structure Reaches (h : Host) (s : State) (cycles frames room : Nat) (g : Host) : Prop where
  state : g.state = s
  config : g.config = h.config
  total : g.meter.total = h.meter.total.add (.whole cycles frames)
  room : g.HasRoom room

theorem HasRoom.canStamp (hr : h.HasRoom room) (x : Float) : h.logger.CanStamp (.real x) := by
  obtain ⟨y, hy⟩ := hr.start
  exact Logger.canStamp_real hy x

theorem reported_of_bounds (hr : h.HasRoom room) (now x : Float) {cycles frames : Int}
    (hc : cycles.natAbs < Binary.tooLarge) (hf : frames.natAbs < Binary.tooLarge) :
    ∃ lines, h.reported (.real now) ⟨.whole cycles frames, .real x⟩ = .ok lines := by
  obtain ⟨rates, hrates⟩ := Tally.perSecond_real x hc hf
  obtain ⟨stamp, hstamp⟩ := hr.canStamp now
  refine ⟨_, Eq.trans ?_ (Logger.print_of_stamp hstamp [Report.rates rates])⟩
  rw [reported, Window.rates, hrates]
  rfl

/-- The window is not full, or it is and its length is a floating-point number. -/
theorem full?_of_hasRoom (hr : h.HasRoom room) (now : Float) (t : Tally) :
    (h.meter.add t).full? (.real now) = .ok none ∨
      ∃ x, (h.meter.add t).full? (.real now) = .ok (some (.real x)) := by
  obtain ⟨interval, hinterval⟩ := hr.interval
  obtain ⟨start, hstart⟩ := hr.windowStart
  have elapsed : Clock.elapsed (Seconds.real now) h.meter.windowStart =
      .ok (.real (now - start)) := by
    rw [hstart]
    rfl
  simp only [RateMeter.full?, RateMeter.add, hinterval, elapsed, Except.map]
  split
  · exact .inl rfl
  · split
    · exact .inl rfl
    · exact .inr ⟨_, rfl⟩

theorem full?_of_silent (silent : h.Silent) (now : Seconds) (t : Tally) :
    (h.meter.add t).full? now = .ok none := by
  obtain ⟨interval, hinterval, off⟩ := silent
  simp only [RateMeter.full?, RateMeter.add, hinterval, if_pos off]

theorem WindowHasRoom.mono {r : Nat} (hr : h.WindowHasRoom room) (hle : r ≤ room) :
    h.WindowHasRoom r := by
  obtain ⟨a, b, hwindow, ha, hb⟩ := hr.window
  exact ⟨Nat.lt_of_le_of_lt hle hr.room_lt, a, b, hwindow, by omega, by omega⟩

theorem meter_of_hasRoom {cycles frames d : Nat} (hr : h.HasRoom (d + room)) (hc : cycles ≤ d)
    (hf : frames ≤ d) (now : Float) :
    (∃ lines, (h.meter.countReporting (h.reported (.real now)) (.real now)
      (.whole cycles frames)).2 = .ok lines) ∧
    { h with meter := (h.meter.countReporting (h.reported (.real now)) (.real now)
      (.whole cycles frames)).1 }.HasRoom room := by
  have hwhole := hr.total.add (Tally.isWhole_whole cycles frames)
  rw [RateMeter.countReporting, RateMeter.count]
  rcases hr.reports with silent | hwindow
  · rw [full?_of_silent silent]
    exact ⟨⟨none, rfl⟩, hr.interval, hr.windowStart, hr.start, hwhole, .inl silent⟩
  obtain ⟨a, b, hab, ha, hb⟩ := hwindow.window
  have hroom := hwindow.room_lt
  have hadded : (h.meter.add (.whole cycles frames)).window =
      .whole (a + cycles) (b + frames) := by
    rw [RateMeter.add, hab]
    rfl
  rcases full?_of_hasRoom hr now (.whole cycles frames) with hfull | ⟨x, hfull⟩
  · rw [hfull]
    refine ⟨⟨none, rfl⟩, hr.interval, hr.windowStart, hr.start, hwhole, .inr ⟨by omega, ?_⟩⟩
    exact ⟨_, _, hadded, by omega, by omega⟩
  · obtain ⟨lines, hlines⟩ := reported_of_bounds hr now x
      (show (a + cycles).natAbs < Binary.tooLarge by omega)
      (show (b + frames).natAbs < Binary.tooLarge by omega)
    -- what was counted is reported, and a new window begins
    rw [hfull]
    dsimp only
    rw [hadded, hlines]
    refine ⟨⟨some lines, rfl⟩, hr.interval, ⟨now, rfl⟩, hr.start, hwhole, .inr ⟨by omega, ?_⟩⟩
    exact ⟨0, 0, rfl, by omega, by omega⟩

theorem count_of_hasRoom {cycles frames d : Nat} (hr : h.HasRoom (d + room)) (hc : cycles ≤ d)
    (hf : frames ≤ d) (now : Float) :
    (h.count (.real now) (.whole cycles frames)).result = .ok () ∧
      Reaches h h.state cycles frames room
        (h.count (.real now) (.whole cycles frames)).host := by
  obtain ⟨⟨lines, hlines⟩, hroom⟩ := meter_of_hasRoom hr hc hf now
  refine ⟨?_, ?_⟩
  · rw [count]
    exact (Outcome.andThen_of_ok (o := Host.observed _ _) hlines _).2
  · rw [host_count]
    exact ⟨rfl, rfl, RateMeter.total_countReporting _ _ _ _, hroom⟩

/-! ## Several counts -/

variable {s s' : State} {a b c d r : Nat}

theorem HasRoom.set_state (hr : h.HasRoom room) (s : State) : { h with state := s }.HasRoom room :=
  ⟨hr.interval, hr.windowStart, hr.start, hr.total,
    hr.reports.imp_right fun w => ⟨w.room_lt, w.window⟩⟩

theorem HasRoom.mono (hr : h.HasRoom room) (hle : r ≤ room) : h.HasRoom r :=
  ⟨hr.interval, hr.windowStart, hr.start, hr.total, hr.reports.imp_right fun w => w.mono hle⟩

theorem Reaches.refl (hr : h.HasRoom room) : Reaches h h.state 0 0 room h :=
  ⟨rfl, rfl, (Tally.add_zero hr.total).symm, hr⟩

theorem Reaches.trans (whole : h.meter.total.IsWhole) (hg : Reaches h s a b r g)
    (gk : Reaches g s' c d room k) : Reaches h s' (a + c) (b + d) room k := by
  refine ⟨gk.state, gk.config.trans hg.config, ?_, gk.room⟩
  rw [gk.total, hg.total, Tally.add_assoc whole (Tally.isWhole_whole _ _)
    (Tally.isWhole_whole _ _), Tally.whole_add]
  norm_cast

theorem countAll_of_hasRoom {ts : List (Nat × Nat)}
    (hr : h.HasRoom (Tally.need ts + room)) (now : Float) :
    (h.countAll (.real now) (Tally.series ts)).result = .ok () ∧
      Reaches h h.state (ts.map (·.1)).sum (ts.map (·.2)).sum room
        (h.countAll (.real now) (Tally.series ts)).host := by
  induction ts generalizing h with
  | nil => exact ⟨rfl, Reaches.refl (hr.mono (Nat.le_add_left _ _))⟩
  | cons t ts ih =>
      rw [Tally.need, List.map_cons, List.sum_cons, ← Tally.need, Nat.add_assoc] at hr
      obtain ⟨hresult, hreach⟩ := count_of_hasRoom hr (Nat.le_add_right t.1 t.2)
        (Nat.le_add_left t.2 t.1) now
      obtain ⟨hhost, hrest⟩ := countAll_cons_of_ok hresult (Tally.series ts)
      obtain ⟨hresult', hreach'⟩ := ih hreach.room
      rw [Tally.series, List.map_cons, ← Tally.series, hhost, hrest]
      refine ⟨hresult', ?_⟩
      rw [hreach.state] at hreach'
      exact hreach.trans hr.total hreach'

end Host

end Chip8
