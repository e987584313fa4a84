import Chip8.Proofs.Ledger
import Chip8.Proofs.Metering

/-!
# Counts and times of moderate size

No report fails while the counts and the whole readings of the clocks stay far below the largest
floating-point number (`Host.count_of_moderate`). A window then holds less than twice what has been
counted altogether, as what was counted before it began is of moderate size too.
-/

namespace Chip8

namespace Binary

/-- Whole numbers below this are of moderate size. -/
def large : Nat := 2 ^ 1000

theorem large_lt_tooLarge : 2 * large < tooLarge := by decide +kernel

theorem large_le : 4 * large ≤ (2 ^ 54 - 1) * 2 ^ 949 := by decide +kernel

/-- A quotient gets no larger at a higher place. -/
theorem shifted_add_lt {num den M : Nat} {place : Int}
    (h : (shifted num den place).1 < M * (shifted num den place).2) (k : Nat) :
    (shifted num den (place + k)).1 < M * (shifted num den (place + k)).2 := by
  induction k with
  | zero => simpa using h
  | succ k ih =>
      have step := shifted_pred num den (place + (k + 1 : Nat))
      rw [show place + (k + 1 : Nat) - 1 = place + k by omega] at step
      rcases step with ⟨num_eq, den_eq⟩ | ⟨num_eq, den_eq⟩
      · rw [← num_eq, ← den_eq]
        exact Nat.lt_of_lt_of_le ih (Nat.mul_le_mul_left M (by omega))
      · rw [num_eq, den_eq] at ih
        omega

/-- The nearest floating-point number to a quotient of positive numbers exists, if the numerator is
not much more than moderate. -/
theorem nearestBits_lt_of_large {num den : Nat} (hnum : num < 4 * large) (hden : 0 < den) :
    nearestBits num den < infinityBits := by
  rw [nearestBits]
  split
  · decide
  · rename_i hpos
    have hlog := log2_lt_of_lt hpos (Nat.lt_of_lt_of_le hnum large_le)
    have hlead : leadingPlace num den ≤ 1002 := by
      simp only [leadingPlace]
      split <;> omega
    obtain ⟨k, hk⟩ := Int.eq_ofNat_of_zero_le
      (show 0 ≤ max (leadingPlace num den - 52) (-1074) - (leadingPlace num den - 52) by omega)
    have hplace : max (leadingPlace num den - 52) (-1074) =
        leadingPlace num den - (52 : Nat) + k := by
      omega
    have hquotient := shifted_add_lt
      (shifted_sub_lt (leadingPlace_bounds num den hpos (Nat.ne_of_gt hden)).2 52) k
    have hden' : 0 < (shifted num den (leadingPlace num den - (52 : Nat) + k)).2 := by
      refine Nat.pos_of_ne_zero fun hzero => ?_
      rw [hzero] at hquotient
      exact absurd hquotient (Nat.not_lt_zero _)
    have hround := roundDiv_le hden' (Nat.le_of_lt hquotient)
    simp only [hplace, infinityBits]
    omega

end Binary

namespace Seconds

/-- Is the reading a floating-point number, or whole and of moderate size? -/
def IsModerate : Seconds → Prop
  | .whole n => n.natAbs < Binary.large
  | .real _ => True

def IsShort : Seconds → Prop
  | .whole n => n.natAbs < 2 * Binary.large
  | .real _ => True

theorem IsShort.toFloat {t : Seconds} (short : t.IsShort) : ∃ x, t.toFloat = .ok x := by
  cases t with
  | real x => exact ⟨x, rfl⟩
  | whole n =>
      have small : n.natAbs < Binary.tooLarge := Nat.lt_trans short Binary.large_lt_tooLarge
      obtain ⟨x, hx⟩ := Count.exists_toFloat? small
      have nearest : Binary.nearest? n 1 = some x := hx
      exact ⟨x, by rw [Seconds.toFloat, nearest]⟩

theorem IsModerate.isShort {t : Seconds} (moderate : t.IsModerate) : t.IsShort := by
  cases t with
  | real _ => trivial
  | whole n =>
      have : n.natAbs < Binary.large := moderate
      change n.natAbs < 2 * Binary.large
      omega

theorem since_of_moderate {a b : Seconds} (ha : a.IsModerate) (hb : b.IsModerate) :
    ∃ t, a.since b = .ok t ∧ t.IsShort := by
  obtain ⟨x, hx⟩ := ha.isShort.toFloat
  obtain ⟨y, hy⟩ := hb.isShort.toFloat
  cases a with
  | whole m =>
      cases b with
      | whole n =>
          have hm : m.natAbs < Binary.large := ha
          have hn : n.natAbs < Binary.large := hb
          refine ⟨.whole (m - n), rfl, ?_⟩
          change (m - n).natAbs < 2 * Binary.large
          omega
      | real z => exact ⟨.real (x - y), by simp only [since, hx, hy]; rfl, trivial⟩
  | real z => exact ⟨.real (x - y), by simp only [since, hx, hy]; rfl, trivial⟩

/-- A whole number of seconds that is not less than a nanosecond is positive. -/
theorem pos_of_not_lt_nanosecond {n : Int} (h : ¬ whole n < real 1e-9) : 0 < n := by
  have nanosecond : Binary.ofFloat 1e-9 = .finite false 4835703278458517 (-82) := rfl
  refine Int.not_le.mp fun hn => h ?_
  change Binary.compare? (Binary.ofInt n) (Binary.ofFloat 1e-9) = some .lt
  have sign : (if n < 0 then (-1 : Int) else 1) * n.natAbs = n := by
    split <;> omega
  have below : n * (Nat.pow 2 82 : Nat) ≤ 0 := Int.mul_nonpos_of_nonpos_of_nonneg hn (by decide)
  simp only [nanosecond, Binary.ofInt, Binary.compare?, decide_eq_true_eq, sign, Option.some.injEq,
    Int.compare_eq_lt]
  exact Int.lt_of_le_of_lt below (by decide)

theorem per_of_short {t : Seconds} (short : t.IsShort) (positive : ∀ n, t = .whole n → 0 < n)
    {events : Int} (few : events.natAbs < 2 * Binary.large) :
    ∃ rate, t.per (.whole events) = .ok rate := by
  cases t with
  | real x => exact per_real x (Nat.lt_trans few Binary.large_lt_tooLarge)
  | whole n =>
      have hn := positive n rfl
      have nearest : Binary.nearest? events n.toNat = some (Binary.nearest events n.toNat) :=
        if_pos (Binary.nearestBits_lt_of_large (by omega) (by omega))
      exact ⟨_, by rw [per, nearest]⟩

end Seconds

def Tally.IsModerate (t : Tally) : Prop :=
  ∃ cycles frames : Int, t = .whole cycles frames ∧
    cycles.natAbs < Binary.large ∧ frames.natAbs < Binary.large

theorem Tally.isWhole_iff {t : Tally} :
    t.IsWhole ↔ ∃ cycles frames : Int, t = .whole cycles frames := by
  constructor
  · rintro ⟨hc, hf⟩
    obtain ⟨cycles, hc⟩ := Count.isWhole_iff.mp hc
    obtain ⟨frames, hf⟩ := Count.isWhole_iff.mp hf
    exact ⟨cycles, frames, congrArg₂ Tally.mk hc hf⟩
  · rintro ⟨cycles, frames, rfl⟩
    exact isWhole_whole cycles frames

theorem Tally.IsModerate.isWhole {t : Tally} (moderate : t.IsModerate) : t.IsWhole := by
  obtain ⟨cycles, frames, rfl, -⟩ := moderate
  exact isWhole_whole cycles frames

theorem Tally.isModerate_zero : Tally.zero.IsModerate :=
  ⟨0, 0, rfl, by decide +kernel, by decide +kernel⟩

/-- The cycles of a moderate sum may be counted before its frames. -/
theorem Tally.IsModerate.add_cycles {t : Tally} (moderate : t.IsModerate) {cycles frames : Int}
    (sum : (t.add (.whole cycles frames)).IsModerate) :
    (t.add (.whole cycles 0)).IsModerate := by
  obtain ⟨a, b, rfl, ha, hb⟩ := moderate
  rw [whole_add] at sum
  obtain ⟨a', b', same, ha', -⟩ := sum
  obtain ⟨rfl, rfl⟩ := whole_inj.mp same
  rw [whole_add, Int.add_zero]
  exact ⟨_, _, rfl, ha', hb⟩

theorem Tally.perSecond_of_short {t : Seconds} (short : t.IsShort) {cycles frames : Int}
    (hc : cycles.natAbs < 2 * Binary.large) (hf : frames.natAbs < 2 * Binary.large) :
    ∃ rates, (Tally.whole cycles frames).perSecond t = .ok rates := by
  have least : (t.atLeast (.real 1e-9)).IsShort ∧
      ∀ n, t.atLeast (.real 1e-9) = .whole n → 0 < n := by
    rw [Seconds.atLeast]
    split
    next =>
      refine ⟨trivial, ?_⟩
      intro n hn
      cases hn
    next long =>
      refine ⟨short, ?_⟩
      rintro n rfl
      exact Seconds.pos_of_not_lt_nanosecond long
  obtain ⟨r, hr⟩ := Seconds.per_of_short least.1 least.2 hc
  obtain ⟨q, hq⟩ := Seconds.per_of_short least.1 least.2 hf
  refine ⟨⟨r, q⟩, ?_⟩
  simp only [perSecond, whole, hr, hq]
  rfl

theorem Logger.canStamp_of_moderate {l : Logger} (start : l.start.IsModerate) {now : Seconds}
    (moderate : now.IsModerate) : l.CanStamp now := by
  obtain ⟨age, since, short⟩ := Seconds.since_of_moderate moderate start
  obtain ⟨x, hx⟩ := short.toFloat
  rw [CanStamp, stamp, since]
  split
  · refine ⟨"[" ++ Text.fixedColumn 8 2 x ++ "s]", ?_⟩
    change (age.toFloat >>= _) = _
    rw [hx]
    rfl
  · exact ⟨_, rfl⟩

namespace Host

variable {h : Host} {now : Seconds} {t : Tally}

/-- Are the counts of the host of moderate size, and the times that it knows? -/
structure InBounds (h : Host) : Prop where
  interval : ∃ interval, h.meter.interval = .ok interval
  windowStart : h.meter.windowStart.IsModerate
  start : h.logger.start.IsModerate
  total : h.meter.total.IsModerate
  window : h.meter.window.IsWhole
  /-- What was counted before the current window. -/
  closed : ∃ closed : Tally, closed.IsModerate ∧ h.meter.total = closed.add h.meter.window

theorem InBounds.congr {g : Host} (hb : h.InBounds) (meter : g.meter = h.meter)
    (logger : g.logger = h.logger) : g.InBounds := by
  refine ⟨?_, ?_, logger ▸ hb.start, ?_, ?_, ?_⟩
  · rw [meter]
    exact hb.interval
  · rw [meter]
    exact hb.windowStart
  · rw [meter]
    exact hb.total
  · rw [meter]
    exact hb.window
  · rw [meter]
    exact hb.closed

theorem InBounds.canStamp (hb : h.InBounds) (moderate : now.IsModerate) : h.logger.CanStamp now :=
  Logger.canStamp_of_moderate hb.start moderate

theorem full?_of_moderate (hb : h.InBounds) (moderate : now.IsModerate) :
    h.meter.full? now = .ok none ∨
      ∃ length, h.meter.full? now = .ok (some length) ∧ length.IsShort := by
  obtain ⟨interval, hinterval⟩ := hb.interval
  obtain ⟨length, since, short⟩ := Seconds.since_of_moderate moderate hb.windowStart
  have elapsed : Clock.elapsed now h.meter.windowStart = .ok length := since
  simp only [RateMeter.full?, hinterval, elapsed, Except.map]
  split
  · exact .inl rfl
  · split
    · exact .inl rfl
    · exact .inr ⟨length, rfl, short⟩

/-- What is in the window and what is counted next stay below twice a moderate size. -/
theorem window_of_moderate (hb : h.InBounds) (ht : t.IsWhole)
    (total : (h.meter.total.add t).IsModerate) :
    ∃ cycles frames : Int, h.meter.window.add t = .whole cycles frames ∧
      cycles.natAbs < 2 * Binary.large ∧ frames.natAbs < 2 * Binary.large := by
  obtain ⟨closed, ⟨c, f, rfl, hc, hf⟩, sum⟩ := hb.closed
  obtain ⟨cycles, frames, hsum, hcycles, hframes⟩ := total
  obtain ⟨a, b, hwindow⟩ := Tally.isWhole_iff.mp (hb.window.add ht)
  rw [sum, Tally.add_assoc (Tally.isWhole_whole c f) hb.window ht, hwindow, Tally.whole_add,
    Tally.whole_inj] at hsum
  exact ⟨a, b, hwindow, by omega, by omega⟩

theorem reported_of_moderate (hb : h.InBounds) (moderate : now.IsModerate) {length : Seconds}
    (short : length.IsShort) {cycles frames : Int} (hc : cycles.natAbs < 2 * Binary.large)
    (hf : frames.natAbs < 2 * Binary.large) :
    ∃ lines, h.reported now ⟨.whole cycles frames, length⟩ = .ok lines := by
  obtain ⟨rates, hrates⟩ := Tally.perSecond_of_short short hc hf
  obtain ⟨stamp, hstamp⟩ := hb.canStamp moderate
  refine ⟨_, Eq.trans ?_ (Logger.print_of_stamp hstamp [Report.rates rates])⟩
  rw [reported, Window.rates, hrates]
  rfl

/-- **A count whose total is of moderate size succeeds.** -/
theorem count_of_moderate (hb : h.InBounds) (moderate : now.IsModerate) (ht : t.IsWhole)
    (total : (h.meter.total.add t).IsModerate) :
    (h.count now t).result = .ok () ∧ (h.count now t).host.InBounds := by
  obtain ⟨closed, hclosed, sum⟩ := hb.closed
  rcases full?_of_moderate hb moderate with short | ⟨length, full, hlength⟩
  · rw [count_of_open short]
    refine ⟨rfl, hb.interval, hb.windowStart, hb.start, total, hb.window.add ht, closed, hclosed,
      ?_⟩
    change h.meter.total.add t = closed.add (h.meter.window.add t)
    rw [sum, Tally.add_assoc hclosed.isWhole hb.window ht]
  · obtain ⟨cycles, frames, hwindow, hc, hf⟩ := window_of_moderate hb ht total
    obtain ⟨lines, possible⟩ := reported_of_moderate hb moderate hlength hc hf
    rw [← hwindow] at possible
    rw [count_of_full full possible]
    exact ⟨rfl, hb.interval, moderate, hb.start, total, Tally.isWhole_zero, _, total,
      (Tally.add_zero total.isWhole).symm⟩

end Host

end Chip8
