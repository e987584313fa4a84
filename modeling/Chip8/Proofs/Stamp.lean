import Chip8.Execute
import Mathlib.Data.List.Nodup

/-!
# Sprites cell by cell

A sprite can be thought of as a stamp: bytes of memory from an address on, eight cells to a byte,
and a place on the screen for each of them. That is an account of its own, which goes from memory to
the screen, while `Sprite.mask` goes from the screen to memory and asks of every pixel which cell
covers it. Going around the edges, no two cells of a stamp come to lie on one pixel
(`Stamp.eq_of_place_eq`), so the two accounts name the same pixels (`Sprite.mask_eq`).
-/

namespace Chip8

/-- What is drawn, and where: the rows are read from this memory from `index` on, and the top left
corner goes to column `x` and row `y`. -/
structure Stamp where
  memory : Memory
  index : Int
  x : Int
  y : Int

namespace Stamp

variable {st : Stamp} {rows : Nat} {order : List (Nat × Nat)} {cell cell' : Nat × Nat}

def address (st : Stamp) (row : Nat) : Address :=
  ⟨((st.index + row) % 4096).toNat, by show _ < 4096; omega⟩

/-- Is the cell in this row and column set? The highest bit of a byte comes first. -/
def isSet (st : Stamp) (cell : Nat × Nat) : Bool :=
  st.memory[st.address cell.1].toNat.testBit (7 - cell.2)

def place (st : Stamp) (cell : Nat × Nat) : Fin screenWidth × Fin screenHeight :=
  (⟨((st.x + cell.2) % 64).toNat, by show _ < 64; omega⟩,
    ⟨((st.y + cell.1) % 32).toNat, by show _ < 32; omega⟩)

def cells (rows : Nat) : List (Nat × Nat) :=
  (List.range rows).flatMap fun row => (List.range 8).map fun column => (row, column)

def touched (st : Stamp) (order : List (Nat × Nat)) : List (Fin screenWidth × Fin screenHeight) :=
  (order.filter st.isSet).map st.place

def mask (st : Stamp) (rows : Nat) : Display :=
  Bitmap.ofFn fun px py =>
    (cells rows).any fun cell => st.isSet cell && decide (st.place cell = (px, py))

/-! ## Cells and pixels -/

theorem mem_cells : cell ∈ cells rows ↔ cell.1 < rows ∧ cell.2 < 8 := by
  obtain ⟨row, column⟩ := cell
  simp only [cells, List.mem_flatMap, List.mem_map, List.mem_range, Prod.mk.injEq]
  constructor
  · rintro ⟨r, hr, c, hc, rfl, rfl⟩
    exact ⟨hr, hc⟩
  · rintro ⟨hr, hc⟩
    exact ⟨row, hr, column, hc, rfl, rfl⟩

theorem nodup_cells (rows : Nat) : (cells rows).Nodup := by
  rw [cells, List.nodup_flatMap]
  constructor
  · intro row _
    exact List.nodup_range.map fun c c' same => (Prod.mk.inj same).2
  · refine List.nodup_range.imp fun differ => ?_
    intro cell hcell hcell'
    obtain ⟨_, _, rfl⟩ := List.mem_map.mp hcell
    obtain ⟨_, _, same⟩ := List.mem_map.mp hcell'
    exact differ (Prod.mk.inj same).1.symm

theorem mem_touched {q : Fin screenWidth × Fin screenHeight} :
    q ∈ st.touched order ↔ ∃ cell ∈ order, st.isSet cell = true ∧ st.place cell = q := by
  simp only [touched, List.mem_map, List.mem_filter, and_assoc]

theorem pixel_mask_iff {px : Fin screenWidth} {py : Fin screenHeight} :
    (st.mask rows).pixel px py = true ↔ (px, py) ∈ st.touched (cells rows) := by
  simp only [mask, Bitmap.pixel_ofFn, List.any_eq_true, Bool.and_eq_true, decide_eq_true_eq,
    mem_touched]

/-- A stamp that is no taller than the screen does not overlap itself, not even where it goes around
the screen. -/
theorem eq_of_place_eq (short : rows ≤ 32) (hcell : cell ∈ cells rows) (hcell' : cell' ∈ cells rows)
    (same : st.place cell = st.place cell') : cell = cell' := by
  obtain ⟨row, column⟩ := mem_cells.mp hcell
  obtain ⟨row', column'⟩ := mem_cells.mp hcell'
  obtain ⟨right, down⟩ := Prod.mk.inj same
  have right := Fin.mk.inj right
  have down := Fin.mk.inj down
  apply Prod.ext <;> omega

theorem touched_perm (st : Stamp) {order' : List (Nat × Nat)} (h : order.Perm order') :
    (st.touched order).Perm (st.touched order') :=
  (h.filter _).map _

/-- Each pixel is touched once at most. -/
theorem nodup_touched (st : Stamp) (short : rows ≤ 32) (h : order.Perm (cells rows)) :
    (st.touched order).Nodup := by
  refine (st.touched_perm h).nodup_iff.mpr ?_
  refine List.Nodup.map_on ?_ ((nodup_cells rows).filter _)
  intro cell hcell cell' hcell' same
  exact eq_of_place_eq short (List.mem_of_mem_filter hcell) (List.mem_of_mem_filter hcell') same

end Stamp

/-! ## Masks -/

namespace Sprite

variable {sp : Sprite} {m : Memory}

def stamp (sp : Sprite) (m : Memory) : Stamp := ⟨m, sp.index, sp.x, sp.y⟩

/-- A sprite that is taller than the screen has as many rows as the screen. -/
def rows (sp : Sprite) : Nat := min sp.height.toNat 32

theorem isSet_stamp (sp : Sprite) (m : Memory) (row column : Nat) :
    (sp.stamp m).isSet (row, column) = sp.bit m row column := by
  have read : m[(sp.stamp m).address row] = m.read ((sp.index + row) % memorySize).toNat := by
    rw [Memory.read]
    congr 1
    apply Fin.ext
    simp only [Stamp.address, stamp, memorySize]
    omega
  rw [Stamp.isSet, bit, ← read]
  rfl

/-- Every pixel is the place of the cell that it is asked about. -/
theorem place_rowOf_columnOf (sp : Sprite) (m : Memory) (px : Fin screenWidth)
    (py : Fin screenHeight) : (sp.stamp m).place (sp.rowOf py, sp.columnOf px) = (px, py) := by
  have right : px.val < 64 := px.isLt
  have bottom : py.val < 32 := py.isLt
  apply Prod.ext <;> apply Fin.ext
  · simp only [Stamp.place, stamp, columnOf]
    omega
  · simp only [Stamp.place, stamp, rowOf]
    omega

/-- **From memory to the screen or from the screen to memory, the pixels of a sprite are the
same.** -/
theorem mask_eq (sp : Sprite) (m : Memory) : sp.mask m = (sp.stamp m).mask sp.rows := by
  ext px py
  have bottom : sp.rowOf py < 32 := by
    simp only [rowOf]
    omega
  have here := sp.place_rowOf_columnOf m px py
  rw [Bool.eq_iff_iff, Stamp.pixel_mask_iff, Stamp.mem_touched]
  simp only [pixel_mask, Bool.and_eq_true, decide_eq_true_eq]
  constructor
  · rintro ⟨⟨left, top⟩, bit⟩
    refine ⟨(sp.rowOf py, sp.columnOf px), Stamp.mem_cells.mpr ⟨?_, left⟩, ?_, here⟩
    · simp only [rows]
      omega
    · rwa [isSet_stamp]
  · rintro ⟨⟨row, column⟩, hcell, set, place⟩
    obtain ⟨top, left⟩ := Stamp.mem_cells.mp hcell
    simp only [rows] at top
    -- no other cell than the one asked about goes to the pixel
    have asked : (sp.rowOf py, sp.columnOf px) = (row, column) := by
      have across : sp.columnOf px < 64 := by
        simp only [columnOf]
        omega
      obtain ⟨right, down⟩ := Prod.mk.inj (here.trans place.symm)
      have right := Fin.mk.inj right
      have down := Fin.mk.inj down
      apply Prod.ext <;> omega
    obtain ⟨hrow, hcolumn⟩ := Prod.mk.inj asked
    rw [hrow, hcolumn, ← isSet_stamp]
    exact ⟨⟨left, by omega⟩, set⟩

end Sprite

/-! ## Sprites of a machine -/

namespace State

def stamp (s : State) (x y : Register) : Stamp where
  memory := s.memory
  index := s.index.toNat
  x := (s.getV x).toNat
  y := (s.getV y).toNat

theorem mask_sprite (s : State) (x y : Register) (n : Fin 16) :
    (s.sprite x y n.val).mask s.memory = (s.stamp x y).mask n.val := by
  have rows : (s.sprite x y n.val).rows = n.val := by
    simp only [Sprite.rows, sprite]
    omega
  rw [Sprite.mask_eq, rows]
  rfl

end State

end Chip8
