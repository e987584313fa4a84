import Chip8.Proofs.Footprint

/-!
# Block transfers

FX55 writes the registers V0 to VX to memory, one byte each from the index register on, and FX65
reads them from there. Where memory ends the block goes on at its beginning, but sixteen addresses
in a row are never so many that two of them are the same. Each register therefore has a byte of its
own: it makes no difference whether FX55 writes just the bytes of its block or all sixteen of them,
the others with what they hold already (`State.store_window`), and each of the two transfers undoes
the other (`State.block_transfers_inverse`).
-/

namespace Chip8

/-- Memories are the same if they are on a block of bytes and outside it. -/
theorem Memory.ext_block {m m' : Memory} {a : Nat} {x : Register}
    (inside : ∀ k ≤ x, m.read (a + k.val) = m'.read (a + k.val))
    (outside : ∀ q, (∀ k ≤ x, q % 4096 ≠ (a + k.val) % 4096) → m.read q = m'.read q) : m = m' := by
  apply ext_read
  intro q _
  by_cases reached : ∃ k ≤ x, q % 4096 = (a + k.val) % 4096
  · obtain ⟨k, hk, same⟩ := reached
    rw [← m.read_mod q, ← m'.read_mod q, same, read_mod, read_mod]
    exact inside k hk
  · refine outside q ?_
    intro k hk same
    exact reached ⟨k, hk, same⟩

namespace State

variable {s s' t t' : State} {x k : Register} {w w' : Int}

/-! ## The bytes of a block -/

def block (s : State) (x : Register) : List UInt8 := s.v.toList.take (x.val + 1)

theorem length_block (s : State) (x : Register) : (s.block x).length = x.val + 1 := by
  have hx : x.val < 16 := x.isLt
  rw [block, List.length_take, Vector.length_toList]
  omega

theorem read_storeBlock (hk : k ≤ x) :
    (s.storeBlock x).memory.read (s.index.toNat + k.val) = s.getV k := by
  have inside : k.val < (s.block x).length := by
    rw [length_block]
    exact Nat.lt_succ_of_le hk
  have short : (s.block x).length ≤ 4096 := by
    rw [length_block]
    omega
  refine (Memory.read_store _ _ _ _ inside short).trans ?_
  simp only [block, List.getElem_take, Vector.getElem_toList, getV, Fin.getElem_fin]

theorem read_storeBlock_of_ne {a : Nat}
    (outside : ∀ k ≤ x, a % 4096 ≠ (s.index.toNat + k.val) % 4096) :
    (s.storeBlock x).memory.read a = s.memory.read a := by
  refine Memory.read_store_of_ne _ _ _ _ ?_
  intro k hk same
  have hx : x.val < 16 := x.isLt
  rw [← block, length_block] at hk
  exact outside ⟨k, by omega⟩ (Nat.le_of_lt_succ hk) same.symm

/-- What sixteen bytes in a row hold after a block of registers is written to the first of them. -/
def window (s : State) (x : Register) : List UInt8 :=
  List.ofFn fun k : Register =>
    if k ≤ x then s.getV k else s.memory.read (s.index.toNat + k.val)

theorem read_window (s : State) (x k : Register) :
    (s.memory.store s.index.toNat (s.window x)).read (s.index.toNat + k.val) =
      if k ≤ x then s.getV k else s.memory.read (s.index.toNat + k.val) := by
  have length : (s.window x).length = 16 := List.length_ofFn
  have inside : k.val < (s.window x).length := by
    rw [length]
    exact k.isLt
  rw [Memory.read_store _ _ _ _ inside (by omega)]
  exact List.getElem_ofFn inside

/-- **To write the whole window is to write the block.** -/
theorem store_window (s : State) (x : Register) :
    s.memory.store s.index.toNat (s.window x) = (s.storeBlock x).memory := by
  apply Memory.ext_block (x := Fin.last 15)
  · intro k _
    rw [read_window]
    by_cases hk : k ≤ x
    · rw [if_pos hk, read_storeBlock hk]
    · -- a byte above the block is written with what it holds, and no byte of the block lies there
      rw [if_neg hk, read_storeBlock_of_ne]
      intro j hj overlap
      have hk' : k.val < 16 := k.isLt
      have hj' : j.val < 16 := j.isLt
      obtain rfl : k = j := Fin.ext (by omega)
      exact hk hj
  · intro a outside
    rw [read_storeBlock_of_ne fun k _ => outside k (Fin.le_last k), Memory.read_store_of_ne]
    intro k hk same
    rw [window, List.length_ofFn] at hk
    exact outside ⟨k, hk⟩ (Fin.le_last _) same.symm

/-! ## The two instructions -/

/-- Where the index register points after a block transfer: where it did before in the modern mode,
and behind the block in the old one. -/
structure IndexMoved (s : State) (x : Register) (t : State) : Prop where
  modern : s.modern = true → t.index = s.index
  old : s.modern = false → t.index.toNat = (s.index.toNat + x.val + 1) % 4096

structure BlockStored (s : State) (x : Register) (t : State) : Prop where
  inside : ∀ k ≤ x, t.memory.read (s.index.toNat + k.val) = s.getV k
  outside : ∀ a, (∀ k ≤ x, a % 4096 ≠ (s.index.toNat + k.val) % 4096) →
    t.memory.read a = s.memory.read a
  window : t.memory = s.memory.store s.index.toNat (s.window x)
  index : s.IndexMoved x t
  rest : t = { s with memory := t.memory, index := t.index, pc := t.pc, opcode := t.opcode }

structure BlockLoaded (s : State) (x : Register) (t : State) : Prop where
  inside : ∀ k ≤ x, t.getV k = s.memory.read (s.index.toNat + k.val)
  outside : ∀ k, x < k → t.getV k = s.getV k
  index : s.IndexMoved x t
  rest : t = { s with v := t.v, index := t.index, pc := t.pc, opcode := t.opcode }

theorem indexMoved_of_eq (h : t.index = s.indexAfterBlock x) : s.IndexMoved x t := by
  constructor
  · intro modern
    rw [h, indexAfterBlock_of_modern modern]
  · intro old
    rw [h, indexAfterBlock, old, if_neg Bool.false_ne_true, toNat_wrap]
    omega

theorem blockStored (s : State) (x : Register) : s.BlockStored x (s.storeBlock x) where
  inside _ hk := read_storeBlock hk
  outside _ outside := read_storeBlock_of_ne outside
  window := (s.store_window x).symm
  index := indexMoved_of_eq rfl
  rest := rfl

theorem blockLoaded (s : State) (x : Register) : s.BlockLoaded x (s.loadBlock x) where
  inside k hk := (getV_loadBlock s x k).trans (if_pos hk)
  outside k hk := (getV_loadBlock s x k).trans (if_neg (Fin.not_le.mpr hk))
  index := indexMoved_of_eq rfl
  rest := by rw [loadBlock]

/-- What is said of a transfer leaves the program counter and the record aside. -/
theorem BlockStored.goesOn (h : s.BlockStored x t) (w : Int) :
    s.BlockStored x (t.recorded w).next where
  inside := h.inside
  outside := h.outside
  window := h.window
  index := ⟨h.index.modern, h.index.old⟩
  rest := congrArg (fun u => (u.recorded w).next) h.rest

theorem BlockLoaded.goesOn (h : s.BlockLoaded x t) (w : Int) :
    s.BlockLoaded x (t.recorded w).next where
  inside := h.inside
  outside := h.outside
  index := ⟨h.index.modern, h.index.old⟩
  rest := congrArg (fun u => (u.recorded w).next) h.rest

theorem blockStored_execute (store : Operation.storeRegs.Form (Fields.ofWord w)) (s : State) :
    s.BlockStored (Fields.ofWord w).x (s.execute w) := by
  rw [execute_of_form store nofun]
  exact (blockStored s _).goesOn w

theorem blockLoaded_execute (load : Operation.loadRegs.Form (Fields.ofWord w)) (s : State) :
    s.BlockLoaded (Fields.ofWord w).x (s.execute w) := by
  rw [execute_of_form load nofun]
  exact (blockLoaded s _).goesOn w

/-! ## One after the other -/

theorem BlockLoaded.getV_of_stored (loaded : t.BlockLoaded x t') (stored : s.BlockStored x s')
    (memory : t.memory = s'.memory) (index : t.index = s.index) (hk : k ≤ x) :
    t'.getV k = s.getV k := by
  rw [loaded.inside k hk, memory, index, stored.inside k hk]

theorem BlockLoaded.memory (loaded : s.BlockLoaded x t) : t.memory = s.memory := by
  rw [loaded.rest]

theorem BlockStored.memory_of_loaded (stored : t.BlockStored x t') (loaded : s.BlockLoaded x s')
    (memory : t.memory = s'.memory) (index : t.index = s.index)
    (registers : ∀ k ≤ x, t.getV k = s'.getV k) : t'.memory = s.memory := by
  apply Memory.ext_block (a := t.index.toNat) (x := x)
  · intro k hk
    rw [stored.inside k hk, registers k hk, loaded.inside k hk, index]
  · intro a outside
    rw [stored.outside a outside, memory, loaded.memory]

/-- **Storing and loading a block undo each other.** FX55 writes V0 to VX to the bytes from the
index register on, around the end of memory if need be, and FX65 reads them from there; neither
changes anything else but the index register, and that in the old mode only. After a block is
stored, whatever becomes of the registers, it is loaded back from where it was stored; and a block
that was loaded is stored back without a trace. -/
theorem block_transfers_inverse {w w' : Int} (store : Operation.storeRegs.Form (Fields.ofWord w))
    (load : Operation.loadRegs.Form (Fields.ofWord w')) (s : State) :
    s.BlockStored (Fields.ofWord w).x (s.execute w) ∧
    s.BlockLoaded (Fields.ofWord w').x (s.execute w') ∧
    ((Fields.ofWord w').x = (Fields.ofWord w).x → ∀ t : State, t.index = s.index →
      (t.memory = (s.execute w).memory →
        ∀ k ≤ (Fields.ofWord w).x, (t.execute w').getV k = s.getV k) ∧
      (t.memory = (s.execute w').memory →
        (∀ k ≤ (Fields.ofWord w).x, t.getV k = (s.execute w').getV k) →
          (t.execute w).memory = s.memory)) := by
  have stored := blockStored_execute store
  have loaded := blockLoaded_execute load
  refine ⟨stored s, loaded s, ?_⟩
  intro same t index
  rw [same] at loaded
  refine ⟨?_, ?_⟩
  · intro memory k hk
    exact (loaded t).getV_of_stored (stored s) memory index hk
  · intro memory registers
    exact (stored t).memory_of_loaded (loaded s) memory index registers

/-- All sixteen registers, across the end of memory and in the old mode. -/
theorem block_transfers_inverse_across_the_end :
    let s := { fresh (Random.Key.ofSeed 7) false with
      index := 0xFFA, v := Vector.ofFn fun k : Fin 16 => UInt8.ofNat (k.val + 1) }
    let t := { s.execute 0xFF55 with index := 0xFFA, v := Vector.replicate 16 0 }
    let u := { s.execute 0xFF65 with index := 0xFFA }
    ((Operation.storeRegs.Form (Fields.ofWord 0xFF55) ∧
      Operation.loadRegs.Form (Fields.ofWord 0xFF65)) ∧
        (Fields.ofWord 0xFF65).x = (Fields.ofWord 0xFF55).x) ∧
    (s.execute 0xFF55).memory.read 0x009 = 16 ∧ (s.execute 0xFF55).index = 0x00A ∧
      (t.execute 0xFF65).getV flagRegister = 16 ∧ (u.execute 0xFF55).memory = s.memory := by
  intro s t u
  have store : Operation.storeRegs.Form (Fields.ofWord 0xFF55) := ⟨rfl, rfl⟩
  have load : Operation.loadRegs.Form (Fields.ofWord 0xFF65) := ⟨rfl, rfl⟩
  have x : (Fields.ofWord 0xFF55).x = flagRegister := rfl
  have old : s.modern = false := rfl
  have index : s.index = 0xFFA := rfl
  have last : s.getV flagRegister = 16 := by decide
  obtain ⟨stored, -, again⟩ := block_transfers_inverse store load s
  rw [x] at stored again
  refine ⟨⟨⟨store, load⟩, rfl⟩, ?_, ?_, ?_, (again rfl u index.symm).2 rfl fun _ _ => rfl⟩
  · rw [← last, ← stored.inside flagRegister (Fin.le_refl _), index]
    exact Memory.read_mod _ (0xFFA + 15)
  · refine UInt16.toNat_inj.mp ?_
    rw [stored.index.old old, index]
    rfl
  · rw [← last]
    exact (again rfl t index.symm).1 rfl flagRegister (Fin.le_refl _)

end State

end Chip8
