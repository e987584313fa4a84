import Chip8.Bitmap
import Chip8.Error
import Chip8.NestedArray

/-!
# Pictures

A bitmap is shown in colours and magnified by a whole factor: each row of pixels becomes a row of
colours, each colour is repeated along the row, and each row is repeated downwards. Mostly there are
two colours, one for lit and one for dark pixels (`Picture.rows_ofBitmap_plain`), but each pixel can
have a colour of its own; then lit and dark ones are numbered from the top left corner, row by row.
-/

namespace Chip8

/-! ## Colours -/

structure Colour where
  red : UInt8
  green : UInt8
  blue : UInt8
deriving DecidableEq

/-- A component that a number stands for, which has to be a byte. -/
def componentOf (n : Int) : Except Error UInt8 :=
  if n < 0 || 255 < n then .error (.colourComponent n) else .ok (UInt8.ofNat n.toNat)

/-- The colours of some pixels, by their numbers. -/
abbrev Paint := Nat → Colour

def Paint.plain (c : Colour) : Paint := fun _ => c

/-- Colours as a host gives them: an array of components. A single one stands for red, green and
blue, and a row of three for each of them; a table has a row for each pixel. -/
abbrev ColourSpec := NestedArray (Except Error UInt8)

namespace ColourSpec

def withoutOnes : List Nat → List Nat
  | 1 :: dimensions =>
      if 2 ≤ dimensions.length then withoutOnes dimensions else 1 :: dimensions
  | dimensions => dimensions

def table? (shape : List Nat) : Option (Nat × Nat) :=
  match withoutOnes shape with
  | [] => some (1, 1)
  | [columns] => some (1, columns)
  | [rows, columns] => some (rows, columns)
  | _ => none

/-- Does a side of a table go with so many items? A single item stands for all of them. -/
def suits (side items : Nat) : Bool := side = 1 || side = items

/-- The component in a row and a column of a table, the rows of which come one after another. -/
def component (values : List UInt8) (rows columns row column : Nat) : UInt8 :=
  let row := if rows = 1 then 0 else row
  let column := if columns = 1 then 0 else column
  (values[row * columns + column]?).getD 0

/-- The colours, for a number of pixels that are to have them. Every component has to be one, and
the array has to go with the number of pixels. -/
def resolve (c : ColourSpec) (selected : Nat) : Except Error Paint := do
  let c ← c.checked
  let values ← c.values.mapM id
  match table? c.shape with
  | some (rows, columns) =>
      if suits rows selected && suits columns 3 then
        return fun pixel =>
          ⟨component values rows columns pixel 0, component values rows columns pixel 1,
            component values rows columns pixel 2⟩
      else throw (.colourShape c.shape selected)
  | none => throw (.colourShape c.shape selected)

def ofColour (c : Colour) : ColourSpec :=
  NestedArray.ofList [.ok c.red, .ok c.green, .ok c.blue]

end ColourSpec

/-! ## Pictures -/

/-- Rows of colours, from the top down. The width is kept for the sake of pictures without rows. -/
structure Picture where
  width : Nat
  rows : List (List Colour)
deriving DecidableEq

namespace Picture

def height (p : Picture) : Nat := p.rows.length

def repeatEach {α : Type} (n : Nat) (xs : List α) : List α := xs.flatMap (List.replicate n)

/-- The factor that a scale stands for: numbers below one do not shrink a picture. -/
def factor (scale : Int) : Nat := (max scale 1).toNat

/-- A row of pixels in colours, behind so many lit and so many dark ones. -/
def paintRow (on off : Paint) : Nat → Nat → List Bool → List Colour
  | _, _, [] => []
  | lit, dark, true :: pixels => on lit :: paintRow on off (lit + 1) dark pixels
  | lit, dark, false :: pixels => off dark :: paintRow on off lit (dark + 1) pixels

def paintRows (on off : Paint) : Nat → Nat → List (List Bool) → List (List Colour)
  | _, _, [] => []
  | lit, dark, row :: rows =>
      paintRow on off lit dark row ::
        paintRows on off (lit + row.count true) (dark + row.count false) rows

theorem paintRow_plain (on off : Colour) (lit dark : Nat) (row : List Bool) :
    paintRow (.plain on) (.plain off) lit dark row = row.map fun p => if p then on else off := by
  induction row generalizing lit dark with
  | nil => rfl
  | cons p row ih => cases p <;> simp [paintRow, ih, Paint.plain]

theorem paintRows_plain (on off : Colour) (lit dark : Nat) (rows : List (List Bool)) :
    paintRows (.plain on) (.plain off) lit dark rows =
      rows.map fun row => row.map fun p => if p then on else off := by
  induction rows generalizing lit dark with
  | nil => rfl
  | cons row rows ih => simp [paintRows, paintRow_plain, ih]

def ofBitmap {w h : Nat} (b : Bitmap w h) (scale : Int) (on off : Paint) : Picture where
  width := w * factor scale
  rows := repeatEach (factor scale) ((paintRows on off 0 0 b.rows).map (repeatEach (factor scale)))

/-- In two colours each row of pixels becomes a row of them. -/
theorem rows_ofBitmap_plain {w h : Nat} (b : Bitmap w h) (scale : Int) (on off : Colour) :
    (ofBitmap b scale (.plain on) (.plain off)).rows =
      repeatEach (factor scale) (b.rows.map fun row =>
        repeatEach (factor scale) (row.map fun p => if p then on else off)) := by
  simp [ofBitmap, paintRows_plain, Function.comp_def]

def scaleLimit : Int := 0x8000000000000000

/-- The length of a magnified side as a number of 64 bits with a sign, which is how lengths are
kept. A side that is too long for them gets a wrong length. -/
def side (n : Nat) (scale : Int) : Int := (n * factor scale : Int).bmod 0x10000000000000000

theorem side_eq {n : Nat} {scale : Int} (fits : (n * factor scale : Int) < 0x8000000000000000) :
    side n scale = n * factor scale := by
  have positive : (0 : Int) ≤ n * factor scale := by exact_mod_cast Nat.zero_le _
  exact Int.bmod_eq_of_le (by omega) (by omega)

/-- Can there be an array of bytes with these dimensions, where there is room for so many bytes?
None of them is negative, and the size is a number of 64 bits with a sign. Dimensions that are zero
do not count in it, although they leave nothing that needs memory. -/
def fitting (space : Int) (dimensions : List Int) : Except Error Unit :=
  if dimensions.any (· < 0) then .error .sideNegative
  else if 0x8000000000000000 ≤ (dimensions.filter (· ≠ 0)).foldl (· * ·) 1 then
    .error .pictureTooLarge
  else if space < dimensions.foldl (· * ·) 1 then
    .error (.memoryExhausted (dimensions.map Int.toNat))
  else .ok ()

/-- A bitmap in colours, unless the picture would be too large. It is magnified downwards
first, and then along the rows. Where there are no pixels, the width of the picture may be wrong;
pixels cannot be put into rows or columns of a wrong number. -/
def magnified (space : Int) {w h : Nat} (b : Bitmap w h) (scale : Int) (on off : Paint) :
    Except Error Picture := do
  if scaleLimit ≤ scale then throw .scaleTooLarge
  if scale ≤ 1 then return ofBitmap b scale on off
  fitting space [side h scale, w, 3]
  fitting space [side h scale, side w scale, 3]
  if side h scale ≠ h * factor scale ∨ (0 < h ∧ side w scale ≠ w * factor scale) then
    throw .pictureTooLarge
  return { ofBitmap b scale on off with width := (side w scale).toNat }

def render (space : Int) {w h : Nat} (b : Bitmap w h) (scale : Except Error Int)
    (on off : ColourSpec) : Except Error Picture := do
  let on ← on.resolve b.litCount
  let off ← off.resolve (w * h - b.litCount)
  magnified space b (← scale) on off

end Picture

/-! ## Bitmaps of any size -/

structure SizedBitmap where
  width : Nat
  height : Nat
  bitmap : Bitmap width height

def SizedBitmap.ofTable (table : NestedArray Bool) : Except Error SizedBitmap := do
  let table ← table.checked
  match table.table? with
  | some columns =>
      let pixel (x y : Nat) : Bool := (columns[x]?.bind fun column => column[y]?).getD false
      match table.shape with
      | [w, h] => return ⟨w, h, Bitmap.ofFn fun x y => pixel x.val y.val⟩
      | shape => throw (.notATable shape.length)
  | none => throw (.notATable table.shape.length)

end Chip8
