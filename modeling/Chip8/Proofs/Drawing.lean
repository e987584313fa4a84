import Chip8.Proofs.Footprint
import Chip8.Proofs.Stamp

/-!
# Drawing pixel by pixel

A sprite can be drawn one cell after another (`Stamp.draw`): a cell that is set toggles its pixel,
and there is a collision if the pixel was lit. As no two cells go to one pixel, every pixel is
toggled once at most, whatever the order of the cells: when its turn comes it still shows what it
showed before. So the cells come to the same screen and the same collisions as the mask of the
sprite, which is toggled as a whole (`Stamp.draw_eq`).
-/

namespace Chip8

namespace Stamp

variable {st : Stamp} {rows : Nat} {order : List (Nat × Nat)} {cell : Nat × Nat}

/-! ## Drawing cell by cell -/

/-- Toggles one pixel of the screen, and remembers a collision. -/
def toggle (screen : Display × Bool) (q : Fin screenWidth × Fin screenHeight) : Display × Bool :=
  (Bitmap.ofFn fun px py =>
      if (px, py) = q then !screen.1.pixel px py else screen.1.pixel px py,
    screen.2 || screen.1.pixel q.1 q.2)

/-- Draws the cells in this order, each that is set by toggling its pixel, and tells whether there
was a collision. -/
def draw (st : Stamp) (screen : Display) (order : List (Nat × Nat)) : Display × Bool :=
  order.foldl (fun screen cell => if st.isSet cell then toggle screen (st.place cell) else screen)
    (screen, false)

/-- Cells that are not set might as well be left out. -/
theorem draw_eq_foldl_toggle (st : Stamp) (screen : Display) (order : List (Nat × Nat)) :
    st.draw screen order = (st.touched order).foldl toggle (screen, false) := by
  rw [draw, touched, List.foldl_map, List.foldl_filter]

theorem pixel_toggle (screen : Display × Bool) (q : Fin screenWidth × Fin screenHeight)
    (px : Fin screenWidth) (py : Fin screenHeight) :
    (toggle screen q).1.pixel px py = true ↔
      (screen.1.pixel px py = true ↔ (px, py) ≠ q) := by
  rw [toggle, Bitmap.pixel_ofFn]
  by_cases here : (px, py) = q
  · rw [if_pos here]
    simp [here]
  · rw [if_neg here]
    simp [here]

/-- **Different pixels are toggled just as they are, in any order, and the collisions are with those
of them that were lit when the drawing began.** -/
theorem foldl_toggle {qs : List (Fin screenWidth × Fin screenHeight)} (different : qs.Nodup)
    (screen : Display × Bool) :
    (∀ px py, (qs.foldl toggle screen).1.pixel px py = true ↔
      (screen.1.pixel px py = true ↔ (px, py) ∉ qs)) ∧
    ((qs.foldl toggle screen).2 = true ↔
      screen.2 = true ∨ ∃ q ∈ qs, screen.1.pixel q.1 q.2 = true) := by
  induction qs generalizing screen with
  | nil => simp
  | cons q qs ih =>
      obtain ⟨fresh, different⟩ := List.nodup_cons.mp different
      obtain ⟨pixels, hit⟩ := ih different (toggle screen q)
      rw [List.foldl_cons]
      constructor
      · intro px py
        rw [pixels, pixel_toggle, List.mem_cons]
        by_cases here : (px, py) = q
        · simp [here, fresh]
        · simp [here]
      · -- no later pixel is the one that has just been toggled
        have later : ∀ r ∈ qs,
            ((toggle screen q).1.pixel r.1 r.2 = true ↔ screen.1.pixel r.1 r.2 = true) := by
          intro r hr
          have other : (r.1, r.2) ≠ q := fun same => fresh (same ▸ hr)
          rw [pixel_toggle, iff_true_right other]
        have first : (toggle screen q).2 = (screen.2 || screen.1.pixel q.1 q.2) := rfl
        rw [hit, first, Bool.or_eq_true, or_assoc, List.exists_mem_cons_iff]
        refine or_congr_right (or_congr_right (exists_congr fun r => ?_))
        exact and_congr_right fun hr => later r hr

/-- **Drawing cell by cell toggles the pixels under the stamp, and tells whether one of them was
lit.** -/
theorem draw_eq (short : rows ≤ 32) (h : order.Perm (cells rows)) (screen : Display) :
    st.draw screen order = (screen.xor (st.mask rows), screen.meets (st.mask rows)) := by
  have under (px : Fin screenWidth) (py : Fin screenHeight) :
      (st.mask rows).pixel px py = true ↔ (px, py) ∈ st.touched order := by
    rw [pixel_mask_iff, (st.touched_perm h).mem_iff]
  obtain ⟨pixels, hit⟩ := foldl_toggle (st.nodup_touched short h) (screen, false)
  rw [← draw_eq_foldl_toggle] at pixels hit
  have drawn : (st.draw screen order).1 = screen.xor (st.mask rows) := by
    ext px py
    rw [Bool.eq_iff_iff, pixels, Bitmap.pixel_xor, ← under]
    cases screen.pixel px py <;> cases (st.mask rows).pixel px py <;> decide
  have met : (st.draw screen order).2 = screen.meets (st.mask rows) := by
    rw [Bool.eq_iff_iff, hit, Bitmap.meets_eq_true_iff]
    constructor
    · rintro (none | ⟨⟨px, py⟩, hq, lit⟩)
      · exact absurd none Bool.false_ne_true
      · exact ⟨px, py, lit, (under px py).mpr hq⟩
    · rintro ⟨px, py, lit, inside⟩
      exact .inr ⟨(px, py), (under px py).mp inside, lit⟩
  exact Prod.ext drawn met

end Stamp

namespace Sprite

def IsGiven (sp : Sprite) : Prop :=
  ∀ n ∈ [sp.x, sp.y, sp.height, sp.index], -0x80000000 ≤ n ∧ n < 0x80000000

theorem maskGiven_of_isGiven {sp : Sprite} (given : sp.IsGiven) (m : Memory) :
    sp.maskGiven m = .ok (sp.mask m) := by
  have fits : ∀ n ∈ [sp.x, sp.y, sp.height, sp.index], Bits.fits 32 n = true :=
    fun n hn => Bits.fits_32_iff.mpr (given n hn)
  simp only [List.forall_mem_cons] at fits
  obtain ⟨x, y, height, index, -⟩ := fits
  simp only [maskGiven, x, y, height, index]
  rfl

/-- The first number that does not fit is what a host is told about. -/
theorem maskGiven_of_not_isGiven {sp : Sprite} (given : ¬ sp.IsGiven) (m : Memory) :
    ∃ n ∈ [sp.x, sp.y, sp.height, sp.index], ¬ (-0x80000000 ≤ n ∧ n < 0x80000000) ∧
      (sp.maskGiven m = .error (.notAWord n) ∨ sp.maskGiven m = .error (.notAnOperand n)) := by
  have outside {n : Int} (h : Bits.fits 32 n = false) :
      ¬ (-0x80000000 ≤ n ∧ n < 0x80000000) :=
    fun inside => Bool.false_ne_true (h.symm.trans (Bits.fits_32_iff.mpr inside))
  cases x : Bits.fits 32 sp.x with
  | false => exact ⟨sp.x, by simp, outside x, .inl (by simp only [maskGiven, x]; rfl)⟩
  | true =>
  cases y : Bits.fits 32 sp.y with
  | false => exact ⟨sp.y, by simp, outside y, .inl (by simp only [maskGiven, x, y]; rfl)⟩
  | true =>
  cases height : Bits.fits 32 sp.height with
  | false =>
      exact ⟨sp.height, by simp, outside height,
        .inr (by simp only [maskGiven, x, y, height]; rfl)⟩
  | true =>
  cases index : Bits.fits 32 sp.index with
  | false =>
      exact ⟨sp.index, by simp, outside index,
        .inl (by simp only [maskGiven, x, y, height, index]; rfl)⟩
  | true =>
      refine absurd ?_ given
      simp only [IsGiven, List.forall_mem_cons]
      exact ⟨Bits.fits_32_iff.mp x, Bits.fits_32_iff.mp y, Bits.fits_32_iff.mp height,
        Bits.fits_32_iff.mp index, List.forall_mem_nil _⟩

end Sprite

namespace State

/-! ## Drawing instructions -/

theorem execute_of_leading_D (s : State) {w : Int} (h : (Fields.ofWord w).leading.val = 0xD) :
    s.execute w = (s.recorded w).perform
      (.drw (Fields.ofWord w).x (Fields.ofWord w).y (Fields.ofWord w).n) :=
  execute_of_form (show Operation.drw.Form _ from h) nofun

theorem getV_flag_draw (s : State) (x y : Register) (n : Nat) :
    (s.draw x y n).getV flagRegister =
      if s.display.meets ((s.sprite x y n).mask s.memory) then 1 else 0 := by
  rw [draw, getV_setV, if_pos rfl]

end State

/-- **Drawing agrees with its pixel by pixel definition.** A word of the form DXYN leaves the screen
and the flag register as its cells do that are drawn one after another, in any order, with memory,
the index register, VX and VY taken from the state before, even where X or Y is the flag register.
Whatever numbers of 32 bits describe a sprite, its mask is the set of the pixels that its cells
touch, of which no more than the screen's rows are drawn, and they touch none of them twice. Numbers
that do not fit into 32 bits are refused. -/
theorem drawing_agrees_pixel_by_pixel :
    (∀ (s : State) (w : Int), (Fields.ofWord w).leading.val = 0xD →
      let f := Fields.ofWord w
      let st := s.stamp f.x f.y
      ∀ order : List (Nat × Nat), order.Perm (Stamp.cells f.n.val) →
        (s.execute w).display = (st.draw s.display order).1 ∧
        (s.execute w).getV flagRegister = if (st.draw s.display order).2 then 1 else 0) ∧
    (∀ rows : Nat, (Stamp.cells rows).Nodup ∧
      ∀ cell : Nat × Nat, cell ∈ Stamp.cells rows ↔ cell.1 < rows ∧ cell.2 < 8) ∧
    (∀ (sp : Sprite) (m : Memory), sp.IsGiven → ∃ mask, sp.maskGiven m = .ok mask ∧
      let st : Stamp := ⟨m, sp.index, sp.x, sp.y⟩
      ∀ order : List (Nat × Nat), order.Perm (Stamp.cells (min (max sp.height 0) 32).toNat) →
        (st.touched order).Nodup ∧
        (∀ px py, mask.pixel px py = true ↔ (px, py) ∈ st.touched order) ∧
        ∀ screen : Display, st.draw screen order = (screen.xor mask, screen.meets mask)) ∧
    ∀ (sp : Sprite) (m : Memory), ¬ sp.IsGiven →
      ∃ n ∈ [sp.x, sp.y, sp.height, sp.index], ¬ (-0x80000000 ≤ n ∧ n < 0x80000000) ∧
        (sp.maskGiven m = .error (.notAWord n) ∨ sp.maskGiven m = .error (.notAnOperand n)) := by
  refine ⟨?word, fun rows => ⟨Stamp.nodup_cells rows, fun _ => Stamp.mem_cells⟩, ?sprite,
    fun sp m given => sp.maskGiven_of_not_isGiven given m⟩
  case word =>
    intro s w leading f st order perm
    have short : f.n.val ≤ 32 := Nat.le_of_lt (Nat.lt_trans f.n.isLt (by decide))
    rw [s.execute_of_leading_D leading, st.draw_eq short perm, ← s.mask_sprite f.x f.y f.n]
    refine ⟨rfl, ?_⟩
    exact (s.recorded w).getV_flag_draw _ _ _
  case sprite =>
    intro sp m given
    refine ⟨sp.mask m, sp.maskGiven_of_isGiven given m, ?_⟩
    intro st order perm
    have rows : (min (max sp.height 0) 32).toNat = sp.rows := by
      simp only [Sprite.rows]
      omega
    have short : sp.rows ≤ 32 := Nat.min_le_right _ _
    rw [rows] at perm
    have mask : sp.mask m = st.mask sp.rows := sp.mask_eq m
    refine ⟨st.nodup_touched short perm, fun px py => ?_, fun screen => ?_⟩
    · rw [mask, Stamp.pixel_mask_iff, (st.touched_perm perm).mem_iff]
    · rw [mask, st.draw_eq short perm]

/-- Two rows that are drawn from their last cell to their first, around the corner of the screen and
the end of memory, with the flag register giving both coordinates; and a sprite that is too tall for
the screen. -/
theorem drawing_agrees_around_the_corner :
    let m := Memory.blank.store 0xFFF [0x81, 0x3C]
    let lit : Display := Bitmap.blank.light ⟨5, by decide⟩ ⟨30, by decide⟩
    let s := { State.fresh (Random.Key.ofSeed 7) true with
      memory := m, index := 0xFFF, display := lit }.setV flagRegister 62
    let st := s.stamp flagRegister flagRegister
    let order := (Stamp.cells 2).reverse
    let tall : Sprite := ⟨-1, -3, 0x7FFFFFFF, 40⟩
    ((Fields.ofWord 0xDFF2).leading.val = 0xD ∧ order.Perm (Stamp.cells 2) ∧ tall.IsGiven) ∧
    ((s.execute 0xDFF2).display = (st.draw lit order).1 ∧
      (s.execute 0xDFF2).getV flagRegister = 1) ∧
    ∃ mask, tall.maskGiven m = .ok mask ∧
      mask.pixel ⟨61, by decide⟩ ⟨31, by decide⟩ = true := by
  intro m lit s st order tall
  have perm : order.Perm (Stamp.cells 2) := List.reverse_perm _
  have given : tall.IsGiven := by
    rw [Sprite.IsGiven]
    decide
  have x : (Fields.ofWord 0xDFF2).x = flagRegister := by decide
  have y : (Fields.ofWord 0xDFF2).y = flagRegister := by decide
  have n : (Fields.ofWord 0xDFF2).n.val = 2 := by decide
  have hit : (st.draw lit order).2 = true := by decide +kernel
  have touched : (⟨61, by decide⟩, ⟨31, by decide⟩) ∈
      (⟨m, tall.index, tall.x, tall.y⟩ : Stamp).touched (Stamp.cells 32) :=
    Stamp.mem_touched.mpr ⟨(0, 0), Stamp.mem_cells.mpr ⟨by decide, by decide⟩, by decide +kernel,
      by decide +kernel⟩
  obtain ⟨word, -, sprite, -⟩ := drawing_agrees_pixel_by_pixel
  have drawn := word s 0xDFF2 rfl
  dsimp only at drawn
  rw [x, y, n] at drawn
  obtain ⟨screen, flag⟩ := drawn order perm
  obtain ⟨mask, made, agrees⟩ := sprite tall m given
  refine ⟨⟨rfl, perm, given⟩, ⟨screen, ?_⟩, mask, made, ?_⟩
  · exact flag.trans (if_pos hit)
  · exact ((agrees _ (.refl _)).2.1 _ _).mpr touched

/-- The glyph of a zero at a column that is no number of 32 bits: there is no mask, although going
around the screen its cells touch pixels. -/
theorem distant_sprite_refused :
    let m := Memory.blank.store 0 font
    Sprite.maskGiven ⟨0, 0x80000000, 0, 5⟩ m = .error (.notAWord 0x80000000) ∧
      (⟨0, by decide⟩, ⟨0, by decide⟩) ∈
        (⟨m, 0, 0x80000000, 0⟩ : Stamp).touched (Stamp.cells 5) := by
  intro m
  refine ⟨rfl, Stamp.mem_touched.mpr ⟨(0, 0), Stamp.mem_cells.mpr ⟨?_, ?_⟩, ?_, ?_⟩⟩ <;>
    decide +kernel

end Chip8
