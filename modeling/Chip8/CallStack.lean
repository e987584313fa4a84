import Chip8.Memory

/-!
# The call stack

Sixteen slots of return addresses and a pointer to the first free one. A slot that is popped is
cleared, so slots from the pointer on are zero in every stack that grew from the empty one
(`CallStack.Tidy`). `live` is the view: the pushed addresses, oldest first.
-/

namespace Chip8

abbrev stackSize : Nat := 16

/-- Return addresses and the index of the first free slot. -/
structure CallStack where
  slots : Vector UInt16 stackSize
  pointer : UInt8
deriving DecidableEq

namespace CallStack

def empty : CallStack := ⟨Vector.replicate stackSize 0, 0⟩

def isFull (s : CallStack) : Bool := 16 ≤ s.pointer

def isEmpty (s : CallStack) : Bool := s.pointer = 0

/-- Puts a return address, reduced to twelve bits, into the first free slot. Callers make sure
that there is one. -/
def push (s : CallStack) (a : UInt16) : CallStack :=
  ⟨s.slots.setIfInBounds s.pointer.toNat (wrap a.toNat), s.pointer + 1⟩

/-- Takes the newest address off and clears its slot. Callers make sure that there is one. -/
def pop (s : CallStack) : CallStack × UInt16 :=
  let top := s.pointer - 1
  (⟨s.slots.setIfInBounds top.toNat 0, top⟩, s.slots[top.toNat]?.getD 0)

/-- The addresses that returns will use, oldest first. -/
def live (s : CallStack) : List UInt16 := s.slots.toList.take s.pointer.toNat

/-- At most sixteen addresses, each of twelve bits, and zero in every free slot. -/
structure Tidy (s : CallStack) : Prop where
  pointer_le : s.pointer ≤ 16
  slot_lt : ∀ k (h : k < stackSize), s.slots[k] < 4096
  free_eq_zero : ∀ k (h : k < stackSize), s.pointer.toNat ≤ k → s.slots[k] = 0

theorem tidy_empty : empty.Tidy where
  pointer_le := by decide
  slot_lt := by simp [empty]
  free_eq_zero := by simp [empty]

end CallStack

end Chip8
