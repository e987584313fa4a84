import Chip8.ColourScheme
import Chip8.Folder
import Chip8.Text.LetterCase

/-!
# Picture files

The format of a picture file is picked from the extension of its name. `Picture.forFile` is the
picture that belongs into a file of a given name, in any of the formats; `Picture.pixmap` writes
one in the simplest of them, the portable pixmap.
-/

namespace Chip8.Picture

/-! ## Names of files -/

def extensions : List String := [".png", ".bmp", ".ppm"]

def baseName (path : List Char) : List Char := (path.reverse.takeWhile (· != '/')).reverse

/-- The extension of a path in small letters: the last dot of the base name and what follows it.
Dots at the front of a base name do not count. -/
def extension (path : String) : String :=
  let base := (baseName path.toList).dropWhile (· == '.')
  if base.contains '.' then
    let ending := (base.reverse.takeWhile (· != '.')).reverse
    Text.lower (String.ofList ('.' :: ending))
  else ""

/-! ## Pictures for files -/

def sideLimit : Nat := 0x7FFFFFFF

/-- The longest row: it takes up four bytes for each colour and a little more. -/
def rowLimit : Nat := 0x1FFFFFFE

def filed (p : Picture) : Except Error Unit :=
  if sideLimit < max p.width p.height then .error .sideTooLong
  else if rowLimit < p.width then .error .rowTooLong
  else .ok ()

/-- The bitmap in the colours of a scheme, to be written to a file at the end of this path. The
scale is checked first, then the size, the format, the path, and in the end whether there is
anything to be written. -/
def inScheme (space : Int) {w h : Nat} (b : Bitmap w h) (files : Files) (path : String)
    (scale : Except Error Int) (scheme : ColourScheme) : Except Error Picture := do
  let picture ← magnified space b (← scale) (.plain scheme.on) (.plain scheme.off)
  picture.filed
  if !extensions.contains (extension path) then throw (.extensionUnknown (extension path))
  files.writable path
  if picture.width = 0 ∨ picture.height = 0 then throw .pictureEmpty
  return picture

def forFile (space : Int) {w h : Nat} (b : Bitmap w h) (files : Files) (path : String)
    (scale : Except Error Int) (scheme : String) : Except Error Picture := do
  inScheme space b files path scale (← ColourScheme.named scheme)

/-- The picture of a table of pixels that is to be written to a file at the end of this path. An
unknown scheme is found before a table of the wrong shape. -/
def ofTableForFile (space : Int) (table : NestedArray Bool) (files : Files) (path : String)
    (scale : Except Error Int) (scheme : String) : Except Error Picture := do
  let scheme ← ColourScheme.named scheme
  let sized ← SizedBitmap.ofTable table
  inScheme space sized.bitmap files path scale scheme

example : extension "a.b/shot.tar.PNG" = ".png" := by decide +kernel
example : extension "a.b/.png" = "" := by decide +kernel
example : extension "..a.bmp" = ".bmp" := by decide +kernel
example : extension "end." = "." := by decide +kernel

/-! ## Portable pixmaps -/

def colourBytes (c : Colour) : List UInt8 := [c.red, c.green, c.blue]

/-- A portable pixmap: a line for the format, one for the size and one for the largest component,
then the colours row by row. -/
def pixmap (p : Picture) : List UInt8 :=
  (s!"P6\n{p.width} {p.height}\n255\n").toUTF8.toList ++
    p.rows.flatMap fun row => row.flatMap colourBytes

end Chip8.Picture
