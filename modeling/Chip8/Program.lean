import Chip8.State

/-!
# Loading programs

A program image is a list of numbers, each of which has to be a byte. Loading starts from a fresh
state, of which only the key of the random number generator and the mode come from the state
before. An image that is too long is refused in strict loading and cut off otherwise.
-/

namespace Chip8

def byte? (n : Int) : Option UInt8 :=
  if 0 ≤ n && n < 256 then some (UInt8.ofNat n.toNat) else none

def image? (data : List Int) : Option (List UInt8) := data.mapM byte?

def imageOf (bytes : List UInt8) : List Int := bytes.map fun b => (b.toNat : Int)

namespace State

/-- A fresh machine with the program in place. -/
def loadBytes (s : State) (bytes : List UInt8) : State :=
  let s := fresh s.key s.modern
  { s with memory := s.memory.store programStart (bytes.take programCapacity) }

def load (s : State) (data : List Int) (strict : Bool) : Except Error State :=
  match image? data with
  | none => .error .notAByte
  | some bytes =>
      if strict && programCapacity < bytes.length then
        .error (.programTooLarge bytes.length programCapacity)
      else .ok (s.loadBytes bytes)

end State

/-! ## Images -/

theorem byte?_eq_none_iff {n : Int} : byte? n = none ↔ n < 0 ∨ 255 < n := by
  simp only [byte?]
  split <;> simp_all <;> omega

theorem image?_imageOf (bytes : List UInt8) : image? (imageOf bytes) = some bytes := by
  induction bytes with
  | nil => rfl
  | cons b bs ih =>
      have hb := b.toNat_lt
      have h : byte? b.toNat = some b := by
        simp [byte?]
        omega
      simp only [image?, imageOf] at ih
      simp [image?, imageOf, h, ih]

theorem image?_eq_none_iff {data : List Int} :
    image? data = none ↔ ∃ n ∈ data, n < 0 ∨ 255 < n := by
  induction data with
  | nil => simp [image?]
  | cons n data ih =>
      simp only [image?] at ih ⊢
      cases h : byte? n with
      | none =>
          have := byte?_eq_none_iff.mp h
          simp [h, this]
      | some b =>
          have : ¬(n < 0 ∨ 255 < n) := fun e => by simp [byte?_eq_none_iff.mpr e] at h
          cases h' : data.mapM byte? with
          | none => simp_all
          | some bs => simp_all

end Chip8
