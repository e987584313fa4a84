import Chip8.Proofs.BlockTransfer

/-!
# Decimal digits

FX33 writes the decimal digits of VX to three bytes of memory, the hundreds first, and F265 reads
three bytes into V0, V1 and V2. Both count the bytes from the index register on and around the end
of memory, so that the digits arrive in their order and stand for what VX held before, even where
VX is one of the registers that they are read into (`State.decimal_read_back`).
-/

namespace Chip8.State

variable {s t u : State} {x : Register} {w : Int}

/-! ## The digits of a byte -/

theorem one_lt_registers : 1 < 16 := by decide

theorem two_lt_registers : 2 < 16 := by decide

/-- The register that the tens are read into; the hundreds go to the first one. -/
abbrev secondRegister : Register := ⟨1, one_lt_registers⟩

abbrev thirdRegister : Register := ⟨2, two_lt_registers⟩

theorem length_decimalDigits (b : UInt8) : (decimalDigits b).length = 3 := rfl

theorem toNat_hundreds (b : UInt8) : (b / 100).toNat = b.toNat / 100 := UInt8.toNat_div b 100

theorem toNat_tens (b : UInt8) : (b / 10 % 10).toNat = b.toNat / 10 % 10 :=
  (UInt8.toNat_mod (b / 10) 10).trans (congrArg (· % 10) (UInt8.toNat_div b 10))

theorem toNat_ones (b : UInt8) : (b % 10).toNat = b.toNat % 10 := UInt8.toNat_mod b 10

/-- Every digit is one: the hundreds of a byte are two at most, the others are remainders. -/
theorem le_nine_of_mem_decimalDigits {b d : UInt8} (h : d ∈ decimalDigits b) : d.toNat ≤ 9 := by
  have small := b.toNat_lt
  simp only [decimalDigits, List.mem_cons, List.not_mem_nil, or_false] at h
  rcases h with rfl | rfl | rfl
  · rw [toNat_hundreds]
    omega
  · rw [toNat_tens]
    omega
  · rw [toNat_ones]
    omega

def decimalValue (hundreds tens ones : UInt8) : Nat :=
  100 * hundreds.toNat + 10 * tens.toNat + ones.toNat

theorem decimalValue_digits (b : UInt8) :
    decimalValue (b / 100) (b / 10 % 10) (b % 10) = b.toNat := by
  rw [decimalValue, toNat_hundreds, toNat_tens, toNat_ones]
  omega

/-! ## Storing the digits -/

structure DecimalStored (s : State) (x : Register) (t : State) : Prop where
  inside : ∀ k (hk : k < 3), t.memory.read (s.index.toNat + k) = (decimalDigits (s.getV x))[k]
  outside : ∀ a, (∀ k < 3, a % 4096 ≠ (s.index.toNat + k) % 4096) →
    t.memory.read a = s.memory.read a
  rest : t = { s with memory := t.memory, pc := t.pc, opcode := t.opcode }

theorem decimalStored_execute (convert : Operation.ldDecimal.Form (Fields.ofWord w)) (s : State) :
    s.DecimalStored (Fields.ofWord w).x (s.execute w) := by
  rw [execute_of_form convert nofun]
  refine ⟨?inside, ?outside, rfl⟩
  case inside =>
    intro k hk
    exact Memory.read_store _ _ (decimalDigits _) k hk (by rw [length_decimalDigits]; decide)
  case outside =>
    intro a outside
    refine Memory.read_store_of_ne _ _ _ _ ?_
    intro k hk same
    exact outside k hk same.symm

/-! ## Reading them back -/

/-- What the digits of VX in V0, V1 and V2 make of a state, by way of memory. -/
structure DecimalRead (s : State) (x : Register) (t : State) : Prop where
  digit : ∀ k ≤ thirdRegister, (t.getV k).toNat ≤ 9
  value : decimalValue (t.getV firstRegister) (t.getV secondRegister) (t.getV thirdRegister) =
    (s.getV x).toNat
  others : ∀ k, thirdRegister < k → t.getV k = s.getV k
  /-- The digits stay in memory. -/
  inside : ∀ k ≤ thirdRegister, t.memory.read (s.index.toNat + k.val) = t.getV k
  outside : ∀ a, (∀ k < 3, a % 4096 ≠ (s.index.toNat + k) % 4096) →
    t.memory.read a = s.memory.read a
  index : s.IndexMoved thirdRegister t
  rest : t = { s with
    memory := t.memory, v := t.v, index := t.index, pc := t.pc, opcode := t.opcode }

theorem DecimalStored.index (stored : s.DecimalStored x t) : t.index = s.index := by
  rw [stored.rest]

theorem DecimalStored.read (stored : s.DecimalStored x t) (loaded : t.BlockLoaded thirdRegister u) :
    s.DecimalRead x u := by
  have modern : t.modern = s.modern := by rw [stored.rest]
  have memory : u.memory = t.memory := loaded.memory
  have digit (k : Register) (hk : k ≤ thirdRegister) :
      u.getV k = (decimalDigits (s.getV x)).get ⟨k.val, Nat.lt_succ_of_le hk⟩ := by
    rw [loaded.inside k hk, stored.index, stored.inside k (Nat.lt_succ_of_le hk)]
    rfl
  refine ⟨?digit, ?value, ?others, ?inside, ?outside, ?index, ?rest⟩
  case digit =>
    intro k hk
    rw [digit k hk]
    exact le_nine_of_mem_decimalDigits (List.get_mem _ _)
  case value =>
    rw [digit firstRegister (by decide), digit secondRegister (by decide),
      digit thirdRegister (by decide)]
    exact decimalValue_digits _
  case others =>
    intro k hk
    rw [loaded.outside k hk, stored.rest]
    rfl
  case inside =>
    intro k hk
    rw [loaded.inside k hk, stored.index, memory]
  case outside =>
    intro a outside
    rw [memory, stored.outside a outside]
  case index =>
    constructor
    · intro h
      rw [loaded.index.modern (modern.trans h), stored.index]
    · intro h
      rw [loaded.index.old (modern.trans h), stored.index]
  case rest =>
    rw [loaded.rest, stored.rest]

/-- **A byte survives its decimal digits.** FX33 and then F265 leave three digits in V0, V1 and V2
that stand for what VX held before, and in memory as well, at the three bytes from the index
register on, around the end of memory if need be. Nothing else changes but the index register, and
that in the old mode only. -/
theorem decimal_read_back (convert : Operation.ldDecimal.Form (Fields.ofWord w)) (s : State) :
    s.DecimalRead (Fields.ofWord w).x ((s.execute w).execute 0xF265) := by
  have load : Operation.loadRegs.Form (Fields.ofWord 0xF265) := ⟨rfl, rfl⟩
  have loaded := blockLoaded_execute load (s.execute w)
  exact (decimalStored_execute convert s).read loaded

/-- Two bytes before the end of memory, in the old mode, and from a register that takes a digit. -/
theorem decimal_read_back_across_the_end :
    let s := { fresh (Random.Key.ofSeed 7) false with
      index := 0xFFE, v := Vector.replicate 16 0xEA }
    let t := (s.execute 0xF133).execute 0xF265
    Operation.ldDecimal.Form (Fields.ofWord 0xF133) ∧
      decimalValue (t.getV firstRegister) (t.getV secondRegister) (t.getV thirdRegister) = 234 ∧
      t.memory.read 0x000 = t.getV thirdRegister ∧ t.getV flagRegister = 0xEA ∧
      t.index = 0x001 := by
  intro s t
  have convert : Operation.ldDecimal.Form (Fields.ofWord 0xF133) := ⟨rfl, rfl⟩
  have read := decimal_read_back convert s
  have old : s.modern = false := rfl
  have index : s.index = 0xFFE := rfl
  refine ⟨convert, ?_, ?_, ?_, ?_⟩
  · rw [read.value]
    decide
  · rw [← read.inside thirdRegister (Fin.le_refl _), index]
    exact (Memory.read_mod _ (0xFFE + 2)).symm
  · rw [read.others flagRegister (by decide)]
    decide
  · refine UInt16.toNat_inj.mp ?_
    rw [read.index.old old, index]
    rfl

end Chip8.State
