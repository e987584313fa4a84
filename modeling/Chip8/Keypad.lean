import Chip8.NestedArray

/-!
# The keypad

Sixteen keys, numbered 0 to F, each pressed or not. Key numbers of any size are taken modulo
sixteen, so pressing and releasing are total.
-/

namespace Chip8

abbrev keyCount : Nat := 16

abbrev Keypad := Vector Bool keyCount

namespace Keypad

def released : Keypad := Vector.replicate keyCount false

def key (k : Int) : Fin keyCount := ⟨(k % 16).toNat, by show _ < 16; omega⟩

def put (p : Keypad) (k : Int) (down : Bool) : Keypad := p.set (key k) down

def lowest? (p : Keypad) : Option (Fin keyCount) := (List.finRange keyCount).find? fun k => p[k]

/-- Sixteen key states in a row, key 0 first; no other shape will do. -/
def ofStates? (states : NestedArray Bool) : Option Keypad :=
  match states.values? with
  | some down => if h : down.toArray.size = keyCount then some ⟨down.toArray, h⟩ else none
  | none => none

/-! ## What a later look finds -/

theorem getElem_put (p : Keypad) (k : Int) (down : Bool) (j : Fin keyCount) :
    (p.put k down)[j] = if key k = j then down else p[j] := by
  simp only [put, Fin.getElem_fin, Vector.getElem_set, Fin.ext_iff]

theorem lowest?_eq_none_iff {p : Keypad} : p.lowest? = none ↔ ∀ k : Fin keyCount, p[k] = false := by
  simp [lowest?, List.find?_eq_none]

theorem lowest?_eq_some_iff {p : Keypad} {k : Fin keyCount} :
    p.lowest? = some k ↔ p.get k = true ∧ ∀ j < k, p.get j = false := by
  rw [lowest?, List.find?_eq_some_iff_getElem]
  simp only [List.getElem_finRange, Bool.not_eq_true']
  refine and_congr_right fun _ => ?_
  constructor
  · rintro ⟨i, hi, rfl, before⟩ j hj
    exact before j.val hj
  · intro before
    refine ⟨k.val, by simp, rfl, ?_⟩
    intro j hj
    exact before ⟨j, Nat.lt_trans hj k.isLt⟩ hj

end Keypad

end Chip8
