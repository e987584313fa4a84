import Chip8.Bits
import Chip8.Text.Shortest

/-!
# Counts

How many cycles, frames or iterations there are. Mostly a count is a whole number, of any size, but
a host may also ask for parts of a frame, and then the count is a floating-point number. Whole
counts are added, subtracted and multiplied exactly; where a floating-point number takes part, the
result is one, and is rounded. Counts are compared by their exact values. Sums of whole counts obey
the laws of arithmetic (`Count.IsWhole`); sums of rounded ones do not.
-/

namespace Chip8

/-- A number of events. -/
inductive Count where
  | whole (n : Int)
  | real (x : Float)
deriving DecidableEq

namespace Count

instance : IntCast Count := ⟨whole⟩

instance (n : Nat) : OfNat Count n := ⟨whole n⟩

/-- The nearest floating-point number; beyond the largest one it is infinite. -/
def toFloat : Count → Float
  | whole n => Binary.nearest n 1
  | real x => x

def toFloat? : Count → Option Float
  | whole n => Binary.nearest? n 1
  | real x => some x

/-! ## Arithmetic -/

def combine (exact : Int → Int → Int) (rounded : Float → Float → Float) : Count → Count → Count
  | whole m, whole n => whole (exact m n)
  | a, b => real (rounded a.toFloat b.toFloat)

instance : Add Count := ⟨combine (· + ·) (· + ·)⟩

instance : Sub Count := ⟨combine (· - ·) (· - ·)⟩

instance : Mul Count := ⟨combine (· * ·) (· * ·)⟩

def finite? : Count → Option Rat
  | whole n => some n
  | real x => (Binary.ofFloat x).toRat?

/-- How often the second count goes into the first one, as a whole number of times. -/
def timesIn (a b : Count) : Count :=
  match a, b with
  | whole m, whole n => whole (m / n)
  | a, b =>
      match a.finite?, b.finite? with
      | some x, some y => real (Binary.nearest (x / y).floor 1)
      | _, _ => real (0 / 0)

def isMultiple (a b : Count) : Bool :=
  match a, b with
  | whole m, whole n => m % n == 0
  | a, b =>
      match a.finite?, b.finite? with
      | some x, some y => (x / y).isInt
      | _, _ => false

/-! ## Order -/

def value : Count → Binary
  | whole n => Binary.ofInt n
  | real x => Binary.ofFloat x

def compare? (a b : Count) : Option Ordering := Binary.compare? a.value b.value

instance : LT Count := ⟨fun a b => compare? a b = some .lt⟩

instance : DecidableLT Count := fun a b => inferInstanceAs (Decidable (compare? a b = some .lt))

/-- The smaller count; the first one, if they are not in order. -/
instance : Min Count := ⟨fun a b => if b < a then b else a⟩

instance : Max Count := ⟨fun a b => if a < b then b else a⟩

/-! ## Whole numbers out of counts -/

/-- The count with the precision of a floating-point number of 32 bits, unless it is whole. -/
def narrow : Count → Count
  | whole n => whole n
  | real x => real x.toFloat32.toFloat

def truncated (c : Count) : Int :=
  match c, c.finite? with
  | whole n, _ => n
  | real _, some v => if v < 0 then v.ceil else v.floor
  | real _, none => 0

/-- How many numbers from zero on there are below the count; a negative one has none, and neither
has a floating-point number that does not fit into 64 bits. -/
def rounds (c : Count) : Int :=
  match c, c.finite? with
  | whole n, _ => n
  | real _, some v => if Bits.fits 64 v.ceil then v.ceil else 0
  | real _, none => 0

/-! ## Texts -/

def text : Count → String
  | whole n => toString n
  | real x => Text.real x

def grouped : Count → String
  | whole n => Text.grouped n
  | real x => Text.groupedReal x

/-! ## Whole counts -/

/-- Is the count a whole number, and not a floating-point one? -/
def IsWhole : Count → Prop
  | whole _ => True
  | real _ => False

instance : DecidablePred IsWhole
  | whole _ => .isTrue trivial
  | real _ => .isFalse id

theorem isWhole_iff {c : Count} : c.IsWhole ↔ ∃ n, c = whole n := by
  cases c <;> simp [IsWhole]

@[simp] theorem isWhole_whole (n : Int) : (whole n).IsWhole := trivial

theorem zero_def : (0 : Count) = whole 0 := rfl

@[simp] theorem whole_add (m n : Int) : whole m + whole n = whole (m + n) := rfl

@[simp] theorem whole_mul (m n : Int) : whole m * whole n = whole (m * n) := rfl

@[simp] theorem rounds_whole (n : Int) : (whole n).rounds = n := rfl

@[simp] theorem compare?_whole (m n : Int) : compare? (whole m) (whole n) = some (compare m n) :=
  Binary.compare?_ofInt m n

@[simp] theorem whole_lt (m n : Int) : whole m < whole n ↔ m < n := by
  change compare? (whole m) (whole n) = some .lt ↔ _
  rw [compare?_whole]
  simp [Int.compare_eq_lt]

@[simp] theorem min_whole (m n : Int) : min (whole m) (whole n) = whole (min m n) := by
  change (if whole n < whole m then whole n else whole m) = _
  simp only [whole_lt, Int.min_def]
  grind

@[simp] theorem max_whole (m n : Int) : max (whole m) (whole n) = whole (max m n) := by
  change (if whole m < whole n then whole n else whole m) = _
  simp only [whole_lt, Int.max_def]
  grind

theorem IsWhole.add {a b : Count} (ha : a.IsWhole) (hb : b.IsWhole) : (a + b).IsWhole := by
  obtain ⟨m, rfl⟩ := isWhole_iff.1 ha
  obtain ⟨n, rfl⟩ := isWhole_iff.1 hb
  exact trivial

theorem add_assoc {a b c : Count} (ha : a.IsWhole) (hb : b.IsWhole) (hc : c.IsWhole) :
    a + b + c = a + (b + c) := by
  obtain ⟨l, rfl⟩ := isWhole_iff.1 ha
  obtain ⟨m, rfl⟩ := isWhole_iff.1 hb
  obtain ⟨n, rfl⟩ := isWhole_iff.1 hc
  simp [Int.add_assoc]

theorem zero_add {a : Count} (ha : a.IsWhole) : 0 + a = a := by
  obtain ⟨n, rfl⟩ := isWhole_iff.1 ha
  simp [zero_def]

theorem add_zero {a : Count} (ha : a.IsWhole) : a + 0 = a := by
  obtain ⟨n, rfl⟩ := isWhole_iff.1 ha
  simp [zero_def]

example : (real 2.5).rounds = 3 ∧ (real (-2.5)).truncated = -2 ∧ (real (0 / 0)).rounds = 0 := by
  decide +kernel
example : (real 2.5 + 5).text = "7.5" ∧ (real 2.5 * 2).text = "5.0" := by decide +kernel
example : (real 7).timesIn (real 2.5) = real 2 ∧ (whole 5).isMultiple (real 2.5) := by
  decide +kernel
example : min (real (0 / 0)) 5 = real (0 / 0) ∧ max 1 (real (0 / 0)) = 1 := by decide +kernel

end Count

end Chip8
