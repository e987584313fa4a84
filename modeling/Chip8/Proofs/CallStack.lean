import Chip8.CallStack
import Mathlib.Data.List.Basic

/-!
# Laws of the call stack

The list `CallStack.live` is what a stack stands for. On a tidy stack a push appends to it, a pop
takes its last address off, and nothing of the stack is hidden from it: free slots are zero, so
slots and pointer can be recovered from the live addresses (`CallStack.Tidy.ext`).

The pointer is a byte. It counts pushes and pops without wrapping around because a push needs a
free slot and a pop needs one in use.
-/

namespace Chip8.CallStack

variable {s t : CallStack}

/-! ## The pointer -/

theorem isFull_iff : s.isFull = true ↔ 16 ≤ s.pointer.toNat := by
  rw [isFull, decide_eq_true_iff, UInt8.le_iff_toNat_le]
  rfl

theorem isEmpty_iff : s.isEmpty = true ↔ s.pointer.toNat = 0 := by
  rw [isEmpty, decide_eq_true_iff, ← UInt8.toNat_inj]
  rfl

theorem isFull_eq_false_iff : s.isFull = false ↔ s.pointer.toNat < 16 := by
  rw [← Bool.not_eq_true, isFull_iff, Nat.not_le]

theorem isEmpty_eq_false_iff : s.isEmpty = false ↔ 0 < s.pointer.toNat := by
  rw [← Bool.not_eq_true, isEmpty_iff, Nat.pos_iff_ne_zero]

theorem Tidy.toNat_pointer_le (h : s.Tidy) : s.pointer.toNat ≤ 16 :=
  UInt8.le_iff_toNat_le.mp h.pointer_le

theorem toNat_pointer_push (free : s.isFull = false) (a : UInt16) :
    (s.push a).pointer.toNat = s.pointer.toNat + 1 := by
  have h := isFull_eq_false_iff.mp free
  simp only [push, UInt8.toNat_add, UInt8.toNat_one]
  omega

theorem toNat_pointer_pop (used : s.isEmpty = false) :
    s.pop.1.pointer.toNat = s.pointer.toNat - 1 := by
  have h := isEmpty_eq_false_iff.mp used
  have hlt := s.pointer.toNat_lt
  simp only [pop, UInt8.toNat_sub, UInt8.toNat_one]
  omega

/-! ## Tidiness is kept -/

theorem Tidy.push (h : s.Tidy) (free : s.isFull = false) (a : UInt16) : (s.push a).Tidy := by
  have hp := toNat_pointer_push free a
  have hlt := isFull_eq_false_iff.mp free
  constructor
  · rw [UInt8.le_iff_toNat_le, hp]
    exact hlt
  · intro k hk
    simp only [CallStack.push, Vector.getElem_setIfInBounds]
    split
    · rw [UInt16.lt_iff_toNat_lt]
      exact toNat_wrap_lt _
    · exact h.slot_lt k hk
  · intro k hk hle
    rw [hp] at hle
    simp only [CallStack.push, Vector.getElem_setIfInBounds]
    rw [if_neg (by omega)]
    exact h.free_eq_zero k hk (by omega)

theorem Tidy.pop (h : s.Tidy) (used : s.isEmpty = false) : s.pop.1.Tidy := by
  have hp := toNat_pointer_pop used
  have hle := h.toNat_pointer_le
  constructor
  · rw [UInt8.le_iff_toNat_le, hp]
    exact Nat.le_trans (Nat.sub_le _ _) hle
  · intro k hk
    simp only [CallStack.pop, Vector.getElem_setIfInBounds]
    split
    · decide
    · exact h.slot_lt k hk
  · intro k hk hfree
    -- the slot that the pop leaves is free from now on, and was cleared by it
    by_cases htop : s.pop.1.pointer.toNat = k
    · simp only [CallStack.pop, Vector.getElem_setIfInBounds] at htop ⊢
      rw [if_pos htop]
    · have hne : (s.pointer - 1).toNat ≠ k := htop
      simp only [CallStack.pop, Vector.getElem_setIfInBounds, if_neg hne]
      exact h.free_eq_zero k hk (by omega)

/-! ## The live addresses -/

theorem Tidy.length_live (h : s.Tidy) : s.live.length = s.pointer.toNat := by
  rw [live, List.length_take, Vector.length_toList]
  exact Nat.min_eq_left h.toNat_pointer_le

theorem live_push (free : s.isFull = false) (a : UInt16) :
    (s.push a).live = s.live ++ [wrap a.toNat] := by
  have hlt := isFull_eq_false_iff.mp free
  rw [live, toNat_pointer_push free a, List.take_add_one]
  simp only [push, Vector.toList_setIfInBounds]
  rw [List.take_set_of_le (Nat.le_refl _)]
  simp [live, hlt]

theorem Tidy.live_pop (h : s.Tidy) (used : s.isEmpty = false) :
    s.live = s.pop.1.live ++ [s.pop.2] := by
  have hpos := isEmpty_eq_false_iff.mp used
  have hle := h.toNat_pointer_le
  have htop : s.pointer.toNat = (s.pointer - 1).toNat + 1 := by
    have hp : (s.pointer - 1).toNat = s.pointer.toNat - 1 := toNat_pointer_pop used
    omega
  rw [live, htop, List.take_add_one]
  simp only [live, CallStack.pop, Vector.toList_setIfInBounds]
  rw [List.take_set_of_le (Nat.le_refl _)]
  have hin : (s.pointer - 1).toNat < 16 := by omega
  simp [hin]

/-- A pop finds the newest live address, also on a stack that is not tidy. -/
theorem getLast?_live (used : s.isEmpty = false) (hp : s.pointer.toNat ≤ 16) :
    s.live.getLast? = some s.pop.2 := by
  have hpos := isEmpty_eq_false_iff.mp used
  have htop : (s.pointer - 1).toNat = s.pointer.toNat - 1 := toNat_pointer_pop used
  have hin : s.pointer.toNat - 1 < 16 := by omega
  rw [live, List.getLast?_take, if_neg (Nat.ne_of_gt hpos)]
  simp only [pop, htop]
  simp [hin]

/-- **A tidy stack is what its live addresses say.** -/
theorem Tidy.ext (hs : s.Tidy) (ht : t.Tidy) (same : s.live = t.live) : s = t := by
  have hp : s.pointer.toNat = t.pointer.toNat := by
    rw [← hs.length_live, ← ht.length_live, same]
  have hslots : s.slots = t.slots := by
    apply Vector.ext
    intro k hk
    by_cases hused : k < s.pointer.toNat
    · have hget : s.live[k]? = t.live[k]? := by rw [same]
      simpa [live, List.getElem?_take, hused, ← hp, hk] using hget
    · rw [hs.free_eq_zero k hk (by omega), ht.free_eq_zero k hk (by omega)]
  obtain ⟨slots, pointer⟩ := s
  obtain ⟨slots', pointer'⟩ := t
  rw [show slots = slots' from hslots, show pointer = pointer' from UInt8.toNat_inj.mp hp]

/-- A pop takes the newest address off and leaves the stack of all older ones. -/
theorem Tidy.pop_eq {a : UInt16} (hs : s.Tidy) (ht : t.Tidy) (h : t.live = s.live ++ [a]) :
    t.pop = (s, a) := by
  have used : t.isEmpty = false := by
    rw [isEmpty_eq_false_iff, ← ht.length_live, h, List.length_append]
    exact Nat.succ_pos _
  have hpop := ht.live_pop used
  rw [h] at hpop
  obtain ⟨hbelow, htop⟩ := List.append_inj' hpop rfl
  have hstack : t.pop.1 = s := (ht.pop used).ext hs hbelow.symm
  have haddress : t.pop.2 = a := (List.singleton_inj.mp htop).symm
  rw [← hstack, ← haddress]

end Chip8.CallStack
