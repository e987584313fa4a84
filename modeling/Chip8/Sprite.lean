import Chip8.Bitmap
import Chip8.Bits
import Chip8.Error
import Chip8.Memory

/-!
# Sprites

A sprite is eight pixels wide. Its rows are consecutive bytes of memory, the high bit of a byte
being the leftmost pixel, and it is drawn with its top left corner anywhere: the corner is first
brought onto the screen, and what runs over an edge comes in again at the opposite one.

`Sprite.mask` says of every pixel of the screen whether the sprite lights it: it looks for the cell
of the sprite that covers the pixel.
-/

namespace Chip8

abbrev screenWidth : Nat := 64

abbrev screenHeight : Nat := 32

abbrev Display := Bitmap screenWidth screenHeight

/-- A sprite on the screen: the address of its first row, the position of its top left corner,
and the number of its rows. -/
structure Sprite where
  index : Int
  x : Int
  y : Int
  height : Int

namespace Sprite

/-- The bit of the sprite in `row` and `column`, counted from its top left corner. -/
def bit (sp : Sprite) (m : Memory) (row column : Nat) : Bool :=
  (m.read ((sp.index + row) % memorySize).toNat).toNat.testBit (7 - column)

/-- How far right of the sprite's left edge the screen's column `px` lies, going around. -/
def columnOf (sp : Sprite) (px : Fin screenWidth) : Nat :=
  ((px.val - sp.x % 64) % 64).toNat

/-- How far below the sprite's top edge the screen's row `py` lies, going around. -/
def rowOf (sp : Sprite) (py : Fin screenHeight) : Nat :=
  ((py.val - sp.y % 32) % 32).toNat

def mask (sp : Sprite) (m : Memory) : Display :=
  Bitmap.ofFn fun px py =>
    let column := sp.columnOf px
    let row := sp.rowOf py
    decide (column < 8) && decide ((row : Int) < sp.height) && sp.bit m row column

@[simp] theorem pixel_mask (sp : Sprite) (m : Memory) (px : Fin screenWidth)
    (py : Fin screenHeight) :
    (sp.mask m).pixel px py =
      (decide (sp.columnOf px < 8) && decide ((sp.rowOf py : Int) < sp.height) &&
        sp.bit m (sp.rowOf py) (sp.columnOf px)) := by
  simp [mask]

/-! ## Sprites of a host

Numbers that a host gives have to fit into 32 bits with their sign. -/

/-- The mask of a sprite that a host describes. Its place on the screen is looked at first, then the
number of its rows, and its address comes last. -/
def maskGiven (sp : Sprite) (m : Memory) : Except Error Display := do
  if !Bits.fits 32 sp.x then throw (.notAWord sp.x)
  if !Bits.fits 32 sp.y then throw (.notAWord sp.y)
  if !Bits.fits 32 sp.height then throw (.notAnOperand sp.height)
  if !Bits.fits 32 sp.index then throw (.notAWord sp.index)
  return sp.mask m

end Sprite

end Chip8
