import Chip8.PictureFile
import Chip8.Proofs.Magnification
import Chip8.State

/-!
# The picture of the screen in a file

A picture of the screen is refused for its size, for the name of its file, or because the file
cannot be written. Where none of these stands in the way, what is saved is the display, magnified
and in the colours of the scheme (`Picture.forFile_screen`).
-/

namespace Chip8

namespace Picture

variable {space scale : Int}

theorem forFile_screen (b : Display) {files : Files} {path : String} (scheme : ColourScheme)
    (fits : Fits space screenWidth screenHeight scale)
    (narrow : screenWidth * factor scale ≤ rowLimit) (known : extension path ∈ extensions)
    (writable : files.writable path = .ok ()) :
    forFile space b files path (.ok scale) scheme.name =
      .ok (ofBitmap b scale (.plain scheme.on) (.plain scheme.off)) := by
  let picture := ofBitmap b scale (.plain scheme.on) (.plain scheme.off)
  have positive := factor_pos scale
  have width : picture.width = 64 * factor scale := rfl
  have height : picture.height = factor scale * 32 := height_ofBitmap b scale scheme.on scheme.off
  have small : 64 * factor scale ≤ 0x1FFFFFFE := narrow
  have filed : picture.filed = .ok () := by
    rw [Picture.filed, width, height, if_neg (by simp only [sideLimit]; omega),
      if_neg (by simp only [rowLimit]; omega)]
  have shown : ¬ (picture.width = 0 ∨ picture.height = 0) := by
    rw [width, height]
    omega
  have contained : (!extensions.contains (extension path)) = false := by
    simpa using known
  rw [forFile, ColourScheme.named_name]
  change inScheme space b files path (.ok scale) scheme = .ok picture
  rw [inScheme]
  dsimp only [bind, Except.bind]
  rw [magnified_of_fits (by decide) (by decide) fits]
  dsimp only
  rw [filed, contained]
  dsimp only
  rw [if_neg Bool.false_ne_true, writable]
  dsimp only
  rw [if_neg shown]
  rfl

end Picture

end Chip8
