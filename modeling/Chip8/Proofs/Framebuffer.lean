import Chip8.Proofs.Chronicle
import Chip8.Proofs.Stamp
import Mathlib.Algebra.Ring.Parity
import Mathlib.Data.List.DropRight

/-!
# What is on the screen

A sprite is drawn by toggling the pixels of its mask, and nothing else but clearing the screen and
loading a program touches the screen. So a pixel is lit just if it lies in an odd number of the
masks that were drawn since the screen was dark (`LitBy`), whatever else the machine did meanwhile.
The order in which masks are toggled does not matter; that of drawing instructions does, for a
sprite sets the flag register, which may give the place of the next one.
-/

namespace Chip8

namespace Bitmap

variable {w h : Nat}

theorem pixel_foldl_xor (b : Bitmap w h) (masks : List (Bitmap w h)) (x : Fin w) (y : Fin h) :
    (masks.foldl xor b).pixel x y =
      (b.pixel x y ^^ decide (Odd (masks.countP fun mask => mask.pixel x y))) := by
  induction masks generalizing b with
  | nil => simp
  | cons mask masks ih =>
      rw [List.foldl_cons, ih, pixel_xor, List.countP_cons]
      cases mask.pixel x y with
      | false => simp
      | true =>
          rw [if_pos rfl, Bool.xor_assoc, Bool.true_xor, ← decide_not]
          simp only [Nat.odd_add_one]

theorem pixel_foldl_xor_blank (masks : List (Bitmap w h)) (x : Fin w) (y : Fin h) :
    (masks.foldl xor blank).pixel x y = true ↔
      Odd (masks.countP fun mask => mask.pixel x y) := by
  rw [pixel_foldl_xor, pixel_blank, Bool.false_xor, decide_eq_true_iff]

theorem foldl_xor_perm {masks masks' : List (Bitmap w h)} (same : masks.Perm masks')
    (b : Bitmap w h) : masks.foldl xor b = masks'.foldl xor b := by
  ext x y
  rw [pixel_foldl_xor, pixel_foldl_xor, same.countP_eq]

theorem foldl_xor_twice (masks : List (Bitmap w h)) (b : Bitmap w h) :
    (masks ++ masks).foldl xor b = b := by
  ext x y
  have even : ¬ Odd ((masks ++ masks).countP fun mask => mask.pixel x y) := by
    rw [List.countP_append, Nat.not_odd_iff_even]
    exact ⟨_, rfl⟩
  rw [pixel_foldl_xor, decide_eq_false even, Bool.xor_false]

end Bitmap

/-! ## Masks in the past -/

def State.mask? (s : State) : Option Instruction → Option Display
  | some (.drw x y n) => some ((s.stamp x y).mask n.val)
  | _ => none

namespace Moment

def blanks (m : Moment) : Bool :=
  match m.happening with
  | .load _ => true
  | _ => m.instruction? == some .cls

/-- The mask that is drawn, taken from the state in which the instruction is met. -/
def mask? (m : Moment) : Option Display := m.before.mask? m.instruction?

end Moment

/-- The masks that were drawn since the screen was dark. -/
def masks (past : List Moment) : List Display :=
  (past.rtakeWhile fun m => !m.blanks).filterMap Moment.mask?

/-- Does the pixel lie in an odd number of them? -/
def LitBy (past : List Moment) (x : Fin screenWidth) (y : Fin screenHeight) : Prop :=
  Odd ((masks past).countP fun mask => mask.pixel x y)

theorem masks_snoc (past : List Moment) (m : Moment) :
    masks (past ++ [m]) = bif m.blanks then [] else masks past ++ m.mask?.toList := by
  rw [masks, List.rtakeWhile_concat]
  cases m.blanks with
  | true => rfl
  | false =>
      change List.filterMap Moment.mask? (_ ++ [m]) = masks past ++ m.mask?.toList
      rw [List.filterMap_append, masks]
      cases h : m.mask? <;> simp [h]

namespace State

variable {s t : State}

/-- A drawing instruction toggles its mask. -/
theorem display_draw (s : State) (x y : Register) (n : Fin 16) :
    (s.draw x y n.val).display = s.display.xor ((s.stamp x y).mask n.val) := by
  rw [← s.mask_sprite x y n]
  rfl

theorem display_of_executes {i? : Option Instruction} (h : s.Executes i? t) :
    t.display = bif i? == some .cls then Bitmap.blank
      else (s.mask? i?).toList.foldl Bitmap.xor s.display := by
  cases h with
  | nothing => rfl
  | instruction i opcode =>
      cases i with
      | cls => rfl
      | drw x y n => exact s.display_draw x y n
      | _ => exact (spared_perform _ _).display nofun nofun

/-- **Whatever happens leaves the screen dark, or toggles the mask that is drawn, if one is.** -/
theorem display_undergo (s : State) (x : Happening) :
    (s.undergo x).display =
      bif (Moment.mk s x).blanks then Bitmap.blank
      else (Moment.mk s x).mask?.toList.foldl Bitmap.xor s.display := by
  cases x with
  | load _ | tick | keys _ => rfl
  | cycle => exact display_of_executes s.executes_step
  | word w => exact display_of_executes (s.executes_word w)

end State

theorem Chronicle.display_eq {seed : Int} {past : List Moment} {s : State}
    (history : Chronicle seed past s) :
    Throughout (fun past s => s.display = (masks past).foldl Bitmap.xor Bitmap.blank) past s := by
  refine history.throughout ?_ ?_
  · intro modern
    rfl
  · intro past s x drawn
    rw [State.display_undergo, masks_snoc, drawn]
    cases (Moment.mk s x).blanks with
    | true => rfl
    | false => rw [cond_false, cond_false, List.foldl_append]

/-! ## Collisions -/

def Hits (past : List Moment) (mask : Display) : Prop :=
  ∃ x y, LitBy past x y ∧ mask.pixel x y = true

theorem Moment.flag_after {m : Moment} {mask : Display} (h : m.mask? = some mask) :
    m.after.getV flagRegister = if m.before.display.meets mask then 1 else 0 := by
  simp only [mask?, State.mask?] at h
  split at h
  · rename_i x y n hdrw
    obtain rfl := Option.some.inj h
    obtain ⟨opcode, hafter⟩ := after_of_instruction hdrw
    rw [hafter, State.perform, State.getV_next, State.draw, State.getV_setV, if_pos rfl,
      State.mask_sprite]
    rfl
  · cases h

/-! ## Words that draw -/

/-- Does the word draw a sprite at a place that is not taken from the flag register? -/
def DrawsApart (w : Int) : Prop :=
  ∃ x y n, Instruction.ofWord? w = some (.drw x y n) ∧ x ≠ flagRegister ∧ y ≠ flagRegister

namespace State

def maskOf (s : State) (w : Int) : Display := (s.mask? (Instruction.ofWord? w)).getD Bitmap.blank

variable {s : State} {w v : Int} {ws : List Int}

theorem display_execute (draws : DrawsApart w) :
    (s.execute w).display = s.display.xor (s.maskOf w) := by
  obtain ⟨x, y, n, hw, -, -⟩ := draws
  rw [execute, maskOf, hw]
  exact (s.recorded w).display_draw x y n

theorem maskOf_execute (first : DrawsApart w) (second : DrawsApart v) :
    (s.execute w).maskOf v = s.maskOf v := by
  obtain ⟨x, y, n, hw, -, -⟩ := first
  obtain ⟨x', y', n', hv, hx', hy'⟩ := second
  have hexecute : s.execute w = (s.recorded w).perform (.drw x y n) := by
    rw [execute, hw]
    rfl
  have spared : Spared (s.recorded w) .drw (s.execute w) := by
    rw [hexecute]
    exact spared_perform _ (.drw x y n)
  -- the second sprite is made of memory, the index register, and two registers that are no flag
  have memory : (s.execute w).memory = s.memory := spared.memory (by decide) (by decide)
  have index : (s.execute w).index = s.index :=
    spared.index (by decide) (by decide) (by decide) (.inr ⟨by decide, by decide⟩)
  have kept {k : Register} (hk : k ≠ flagRegister) : (s.execute w).getV k = s.getV k := by
    rw [hexecute, getV_perform_of_not_writes (i := .drw x y n) hk]
    rfl
  rw [maskOf, maskOf, hv]
  simp only [mask?, stamp, kept hx', kept hy', memory, index]

theorem display_foldl_execute (draws : ∀ w ∈ ws, DrawsApart w) :
    (ws.foldl execute s).display = (ws.map s.maskOf).foldl Bitmap.xor s.display := by
  induction ws generalizing s with
  | nil => rfl
  | cons w ws ih =>
      have first := draws w List.mem_cons_self
      have rest : ∀ v ∈ ws, DrawsApart v := fun v hv => draws v (List.mem_cons_of_mem w hv)
      have same : ws.map (s.execute w).maskOf = ws.map s.maskOf :=
        List.map_congr_left fun v hv => maskOf_execute first (rest v hv)
      rw [List.foldl_cons, ih rest, same, display_execute first, List.map_cons, List.foldl_cons]

end State

/-- **The screen is what its history has drawn.** At each moment of the past of a machine, a pixel
is lit just if it lies in an odd number of the masks that were drawn since the screen was dark, and
a sprite that is drawn sets the flag register to one if it meets such a pixel and to zero if not.
Words that draw may therefore change places, and drawing twice is as good as not drawing, as long as
no place is taken from the flag register. -/
theorem framebuffer_history {seed : Int} {past : List Moment} {s : State}
    (history : Chronicle seed past s) :
    Chronicle.Throughout (fun past s => ∀ x y, s.display.pixel x y = true ↔ LitBy past x y) past s ∧
    (∀ before m later mask, past = before ++ m :: later → m.mask? = some mask →
      m.after.getV flagRegister = 1 ∧ Hits before mask ∨
        m.after.getV flagRegister = 0 ∧ ¬ Hits before mask) ∧
    ∀ (t : State) (ws vs : List Int), (∀ w ∈ ws, DrawsApart w) → ws.Perm vs →
      (ws.foldl State.execute t).display = (vs.foldl State.execute t).display ∧
        ((ws ++ ws).foldl State.execute t).display = t.display := by
  have lit {past : List Moment} {s : State}
      (drawn : s.display = (masks past).foldl Bitmap.xor Bitmap.blank) (x : Fin screenWidth)
      (y : Fin screenHeight) : s.display.pixel x y = true ↔ LitBy past x y := by
    rw [drawn]
    exact Bitmap.pixel_foldl_xor_blank _ x y
  obtain ⟨now, earlier⟩ := history.display_eq
  refine ⟨⟨lit now, fun before m later hpast => lit (earlier before m later hpast)⟩, ?_, ?_⟩
  · intro before m later mask hpast hmask
    -- the instruction meets the screen of the past before it
    have meets : m.before.display.meets mask = true ↔ Hits before mask := by
      rw [Bitmap.meets_eq_true_iff]
      simp only [lit (earlier before m later hpast), Hits]
    rw [m.flag_after hmask]
    by_cases hit : m.before.display.meets mask = true
    · exact .inl ⟨if_pos hit, meets.mp hit⟩
    · exact .inr ⟨if_neg hit, fun hits => hit (meets.mpr hits)⟩
  · intro t ws vs draws same
    have draws' : ∀ v ∈ vs, DrawsApart v := fun v hv => draws v (same.mem_iff.mpr hv)
    have twice : ∀ w ∈ ws ++ ws, DrawsApart w := by
      intro w hw
      rcases List.mem_append.mp hw with hw | hw <;> exact draws w hw
    constructor
    · rw [State.display_foldl_execute draws, State.display_foldl_execute draws']
      exact Bitmap.foldl_xor_perm (same.map _) _
    · rw [State.display_foldl_execute twice, List.map_append]
      exact Bitmap.foldl_xor_twice _ _

/-- The glyph of a zero is drawn, and its first row once more. -/
theorem framebuffer_history_overdrawn :
    let start := State.fresh (Random.Key.ofSeed 7) true
    let es : List Event := [.load [0xA0, 0x50, 0xD0, 0x05, 0xD0, 0x01] true, .frame 2]
    let m : Moment := ⟨start.after es, .cycle⟩
    let mask := (m.before.stamp 0 0).mask 1
    let past := start.past (es ++ [.step])
    (Chronicle 7 past (start.after (es ++ [.step])) ∧ past = start.past es ++ [m] ∧
      m.mask? = some mask ∧ ∀ w ∈ [0xD015, 0xD123], DrawsApart w) ∧
    LitBy past 0 1 ∧ ¬ LitBy past 0 0 ∧ Hits (start.past es) mask ∧
      ([0xD015, 0xD123].foldl State.execute start).display =
        ([0xD123, 0xD015].foldl State.execute start).display := by
  intro start es m mask past
  have history : Chronicle 7 past (start.after (es ++ [.step])) := .machine rfl _ (by decide)
  have hpast : past = start.past es ++ [m] := start.past_append es [.step]
  have hmask : m.mask? = some mask := by
    have h : m.instruction? = some (.drw 0 0 1) := by decide +kernel
    rw [Moment.mask?, h]
    rfl
  have draws : ∀ w ∈ [0xD015, 0xD123], DrawsApart w := by
    simp only [List.forall_mem_cons]
    exact ⟨⟨0, 1, 5, by decide, by decide, by decide⟩, ⟨1, 2, 3, by decide, by decide, by decide⟩,
      nofun⟩
  have shown : (start.after (es ++ [.step])).display.pixel 0 1 = true ∧
      (start.after (es ++ [.step])).display.pixel 0 0 = false ∧
      m.after.getV flagRegister ≠ 0 := by decide +kernel
  clear_value mask m past start
  obtain ⟨below, first, flag⟩ := shown
  obtain ⟨⟨lit, -⟩, collides, reorder⟩ := framebuffer_history history
  refine ⟨⟨history, hpast, hmask, draws⟩, (lit 0 1).mp below, ?_, ?_, ?_⟩
  · intro drawn
    rw [(lit 0 0).mpr drawn] at first
    cases first
  · rcases collides _ m [] mask hpast hmask with ⟨-, hits⟩ | ⟨zero, -⟩
    · exact hits
    · exact absurd zero flag
  · exact (reorder start _ _ draws (.swap _ _ _)).1

end Chip8
