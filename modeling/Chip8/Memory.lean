/-!
# Memory

Memory is 4096 bytes, and every address is taken modulo that size, so reads and writes are total
and a block may run past the last byte and go on at the first. `Memory.read` is the view: each
operation is described by what a later read returns (`read_write`, `read_store`).

The layout is fixed: glyphs of the hexadecimal digits from `fontStart`, the program from
`programStart` to the end.
-/

namespace Chip8

/-! ## Addresses -/

/-- Number of bytes of memory, and of addresses. -/
abbrev memorySize : Nat := 4096

abbrev Address := Fin memorySize

abbrev programStart : Nat := 0x200

/-- Bytes between `programStart` and the end of memory. -/
abbrev programCapacity : Nat := memorySize - programStart

/-- The sixteen-bit register content that names address `a` reduced to twelve bits. -/
def wrap (a : Int) : UInt16 :=
  UInt16.ofNat (a % memorySize).toNat

@[simp] theorem toNat_wrap (a : Int) : (wrap a).toNat = (a % 4096).toNat := by
  simp only [wrap, memorySize, UInt16.toNat_ofNat']
  omega

theorem toNat_wrap_lt (a : Int) : (wrap a).toNat < 4096 := by
  rw [toNat_wrap]
  omega

/-! ## Reading and writing -/

abbrev Memory := Vector UInt8 memorySize

namespace Memory

def blank : Memory := Vector.replicate memorySize 0

/-- The byte at `a`, modulo the size of memory. -/
def read (m : Memory) (a : Nat) : UInt8 :=
  m[(⟨a % memorySize, Nat.mod_lt a (by decide)⟩ : Address)]

def write (m : Memory) (a : Nat) (b : UInt8) : Memory :=
  m.set (a % memorySize) b (Nat.mod_lt a (by decide))

/-- Writes consecutive bytes from `a` on, the first one first. -/
def store (m : Memory) (a : Nat) : List UInt8 → Memory
  | [] => m
  | b :: bs => (m.write a b).store (a + 1) bs

def block (m : Memory) (a n : Nat) : List UInt8 :=
  (List.range n).map fun k => m.read (a + k)

/-! ## What a later read returns -/

theorem ext_read {m m' : Memory} (h : ∀ a < 4096, m.read a = m'.read a) : m = m' := by
  apply Vector.ext
  intro i hi
  have := h i hi
  simpa [read, Nat.mod_eq_of_lt hi] using this

theorem read_mod (m : Memory) (a : Nat) : m.read (a % 4096) = m.read a := by
  simp [read]

@[simp] theorem read_blank (a : Nat) : blank.read a = 0 := by
  simp [read, blank]

theorem read_write (m : Memory) (a q : Nat) (b : UInt8) :
    (m.write a b).read q = if a % 4096 = q % 4096 then b else m.read q := by
  simp only [read, write, Fin.getElem_fin, Vector.getElem_set]

@[simp] theorem length_block (m : Memory) (a n : Nat) : (m.block a n).length = n := by
  simp [block]

/-- A stored block leaves an address alone that none of its bytes reaches. -/
theorem read_store_of_ne (m : Memory) (a q : Nat) (bs : List UInt8)
    (h : ∀ k < bs.length, (a + k) % 4096 ≠ q % 4096) :
    (m.store a bs).read q = m.read q := by
  induction bs generalizing m a with
  | nil => rfl
  | cons b bs ih =>
      rw [store, ih, read_write, if_neg]
      · exact h 0 (by simp)
      · intro k hk
        have := h (k + 1) (by simpa using hk)
        rwa [show a + 1 + k = a + (k + 1) by omega]

/-- A stored block of at most `memorySize` bytes is read back as it was written. -/
theorem read_store (m : Memory) (a : Nat) (bs : List UInt8) (k : Nat) (hk : k < bs.length)
    (hlen : bs.length ≤ 4096) : (m.store a bs).read (a + k) = bs[k] := by
  induction bs generalizing m a k with
  | nil => simp at hk
  | cons b bs ih =>
      simp only [List.length_cons] at hlen
      cases k with
      | zero =>
          rw [store, read_store_of_ne, Nat.add_zero, read_write, if_pos rfl,
            List.getElem_cons_zero]
          intro k hk
          omega
      | succ k =>
          rw [store, show a + (k + 1) = a + 1 + k by omega]
          simpa using ih (m.write a b) (a + 1) k (by simpa using hk) (by omega)

end Memory

/-! ## The built-in font -/

abbrev fontStart : Nat := 0x50

abbrev glyphSize : Nat := 5

/-- The glyphs of the digits 0 to F, four pixels wide in the high half of each byte. -/
def font : List UInt8 :=
  [0xF0, 0x90, 0x90, 0x90, 0xF0,
   0x20, 0x60, 0x20, 0x20, 0x70,
   0xF0, 0x10, 0xF0, 0x80, 0xF0,
   0xF0, 0x10, 0xF0, 0x10, 0xF0,
   0x90, 0x90, 0xF0, 0x10, 0x10,
   0xF0, 0x80, 0xF0, 0x10, 0xF0,
   0xF0, 0x80, 0xF0, 0x90, 0xF0,
   0xF0, 0x10, 0x20, 0x40, 0x40,
   0xF0, 0x90, 0xF0, 0x90, 0xF0,
   0xF0, 0x90, 0xF0, 0x10, 0xF0,
   0xF0, 0x90, 0xF0, 0x90, 0x90,
   0xE0, 0x90, 0xE0, 0x90, 0xE0,
   0xF0, 0x80, 0x80, 0x80, 0xF0,
   0xE0, 0x90, 0x90, 0x90, 0xE0,
   0xF0, 0x80, 0xF0, 0x80, 0xF0,
   0xF0, 0x80, 0xF0, 0x80, 0x80]

theorem length_font : font.length = 16 * glyphSize := rfl

end Chip8
