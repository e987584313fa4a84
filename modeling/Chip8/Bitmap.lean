/-!
# Bitmaps

A bitmap is a rectangle of lit and dark pixels, addressed by column and row from the top left
corner. `pixel` is the view: two bitmaps with the same pixels are equal (`Bitmap.ext`), and each
operation is described by its pixels.
-/

namespace Chip8

/-- A rectangle of pixels, stored by columns. -/
structure Bitmap (width height : Nat) where
  columns : Vector (Vector Bool height) width
deriving DecidableEq

namespace Bitmap

variable {w h : Nat}

def pixel (b : Bitmap w h) (x : Fin w) (y : Fin h) : Bool :=
  b.columns[x][y]

def ofFn (f : Fin w → Fin h → Bool) : Bitmap w h :=
  ⟨Vector.ofFn fun x => Vector.ofFn fun y => f x y⟩

@[ext] theorem ext {a b : Bitmap w h} (same : ∀ x y, a.pixel x y = b.pixel x y) : a = b := by
  obtain ⟨a⟩ := a
  obtain ⟨b⟩ := b
  congr 1
  apply Vector.ext
  intro x hx
  apply Vector.ext
  intro y hy
  exact same ⟨x, hx⟩ ⟨y, hy⟩

@[simp] theorem pixel_ofFn (f : Fin w → Fin h → Bool) (x : Fin w) (y : Fin h) :
    (ofFn f).pixel x y = f x y := by
  simp [pixel, ofFn]

def blank : Bitmap w h := ofFn fun _ _ => false

/-- Toggles the pixels of `a` that are lit in `b`. -/
def xor (a b : Bitmap w h) : Bitmap w h :=
  ofFn fun x y => a.pixel x y ^^ b.pixel x y

def meets (a b : Bitmap w h) : Bool :=
  (List.finRange w).any fun x => (List.finRange h).any fun y => a.pixel x y && b.pixel x y

def light (b : Bitmap w h) (x : Fin w) (y : Fin h) : Bitmap w h :=
  ⟨b.columns.set x (b.columns[x].set y true)⟩

/-- The pixels row by row, each row from left to right. -/
def rows (b : Bitmap w h) : List (List Bool) :=
  (List.finRange h).map fun y => (List.finRange w).map fun x => b.pixel x y

def litCount (b : Bitmap w h) : Nat :=
  b.rows.flatten.count true

@[simp] theorem pixel_blank (x : Fin w) (y : Fin h) : (blank : Bitmap w h).pixel x y = false := by
  simp [blank]

@[simp] theorem pixel_xor (a b : Bitmap w h) (x : Fin w) (y : Fin h) :
    (a.xor b).pixel x y = (a.pixel x y ^^ b.pixel x y) := by
  simp [xor]

theorem meets_eq_true_iff {a b : Bitmap w h} :
    a.meets b = true ↔ ∃ x y, a.pixel x y = true ∧ b.pixel x y = true := by
  simp [meets]

end Bitmap

end Chip8
