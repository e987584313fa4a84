import Chip8.Proofs.Footprint

/-!
# Arithmetic that reports to the flag register

The five operations 8XY4 to 8XY7 and 8XYE have results that do not fit into a byte, or leave a bit
over, and the flag register takes up what is missing. The result and the flag together satisfy an
equation between plain numbers, so that nothing is lost (`State.flag_arithmetic_exact`). Both are
computed from the registers before the instruction, whichever of these are the same, and the flag is
written last: where VX is the flag register itself, the flag stays and the result is given up.
-/

namespace Chip8.State

variable {s t : State} {x : Register}

theorem getV_flag_setFlagged (s : State) (x : Register) (r : Flagged) :
    (s.setFlagged x r).getV flagRegister = r.flagByte := by
  rw [setFlagged, getV_setV, if_pos rfl]

theorem getV_setFlagged_self (h : x ≠ flagRegister) (r : Flagged) :
    (s.setFlagged x r).getV x = r.result := by
  rw [setFlagged, getV_setV_of_ne h, getV_setV, if_pos rfl]

theorem toNat_shiftOperand (s : State) (x y : Register) :
    (s.shiftOperand x y).toNat = if s.modern then (s.getV x).toNat else (s.getV y).toNat := by
  rw [shiftOperand]
  split <;> rfl

/-- Do VX and the flag register show a result, which is a byte, and a flag, which is a bit, with
everything else as it was? A result for the flag register itself does not show; the program counter
and the record are left aside. -/
structure Shows (s : State) (x : Register) (result flag : Nat) (t : State) : Prop where
  result_lt : result < 256
  flag_le : flag ≤ 1
  flag : (t.getV flagRegister).toNat = flag
  result : x ≠ flagRegister → (t.getV x).toNat = result
  others : ∀ k, k ≠ x → k ≠ flagRegister → t.getV k = s.getV k
  rest : t = { s with v := t.v, pc := t.pc, opcode := t.opcode }

theorem shows_setFlagged (s : State) (x : Register) (r : Flagged) :
    s.Shows x r.result.toNat r.flag.toNat (s.setFlagged x r) where
  result_lt := r.result.toNat_lt
  flag_le := r.flag.toNat_le
  flag := by rw [getV_flag_setFlagged, Flagged.toNat_flagByte]
  result h := by rw [getV_setFlagged_self h]
  others k other same := getV_setFlagged_of_ne (not_or.mpr ⟨other, same⟩) r
  rest := rfl

theorem Shows.goesOn {result flag : Nat} (h : s.Shows x result flag t) (w : Int) :
    s.Shows x result flag (t.recorded w).next where
  result_lt := h.result_lt
  flag_le := h.flag_le
  flag := h.flag
  result := h.result
  others := h.others
  rest := congrArg (fun u => (u.recorded w).next) h.rest

theorem shows_execute {w : Int} {op : Operation} {r : Flagged}
    (form : op.Form (Fields.ofWord w)) (exact : op ≠ .sys)
    (performs : (s.recorded w).perform (op.instruction (Fields.ofWord w)) =
      ((s.setFlagged (Fields.ofWord w).x r).recorded w).next) :
    s.Shows (Fields.ofWord w).x r.result.toNat r.flag.toNat (s.execute w) := by
  rw [execute_of_form form exact, performs]
  exact (shows_setFlagged s _ r).goesOn w

/-- **Arithmetic with a flag loses nothing.** The equation between the result, the flag and the
registers before the instruction holds for all of these, and under any aliasing: in a difference the
flag says that nothing was borrowed, and the operand of a shift is VX or VY, as the mode has it. -/
theorem flag_arithmetic_exact (s : State) (w : Int) :
    let f := Fields.ofWord w
    let a := (s.getV f.x).toNat
    let b := (s.getV f.y).toNat
    let operand := if s.modern then a else b
    (Operation.addReg.Form f →
      ∃ r c, r + 256 * c = a + b ∧ s.Shows f.x r c (s.execute w)) ∧
    (Operation.subReg.Form f →
      ∃ r c, r + b = a + 256 * (1 - c) ∧ s.Shows f.x r c (s.execute w)) ∧
    (Operation.subnReg.Form f →
      ∃ r c, r + a = b + 256 * (1 - c) ∧ s.Shows f.x r c (s.execute w)) ∧
    (Operation.shr.Form f →
      ∃ r c, 2 * r + c = operand ∧ s.Shows f.x r c (s.execute w)) ∧
    (Operation.shl.Form f →
      ∃ r c, r + 256 * c = 2 * operand ∧ s.Shows f.x r c (s.execute w)) := by
  intro f a b operand
  have shifted : (s.shiftOperand f.x f.y).toNat = operand := toNat_shiftOperand s f.x f.y
  refine ⟨?sum, ?difference, ?reversed, ?right, ?left⟩
  case sum =>
    intro form
    exact ⟨_, _, Flagged.add_exact _ _, shows_execute form nofun rfl⟩
  case difference =>
    intro form
    exact ⟨_, _, Flagged.sub_exact _ _, shows_execute form nofun rfl⟩
  case reversed =>
    intro form
    exact ⟨_, _, Flagged.sub_exact _ _, shows_execute form nofun rfl⟩
  case right =>
    intro form
    exact ⟨_, _, (Flagged.shiftRight_exact _).trans shifted, shows_execute form nofun rfl⟩
  case left =>
    intro form
    have doubled : 2 * (s.shiftOperand f.x f.y).toNat = 2 * operand := congrArg (2 * ·) shifted
    exact ⟨_, _, (Flagged.shiftLeft_exact _).trans doubled, shows_execute form nofun rfl⟩

/-- The flag register is added to itself and shows the carry only; a register is taken from the flag
register and shows the difference to what was in there before. -/
theorem flag_arithmetic_exact_aliased :
    let s := { fresh (Random.Key.ofSeed 7) true with
      v := Vector.replicate 16 0x0A }.setV flagRegister 0xC8
    (Operation.addReg.Form (Fields.ofWord 0x8FF4) ∧
      Operation.subnReg.Form (Fields.ofWord 0x80F7)) ∧
    (s.execute 0x8FF4).getV flagRegister = 1 ∧
      (s.execute 0x80F7).getV firstRegister = 0xBE ∧ (s.execute 0x80F7).getV flagRegister = 1 := by
  intro s
  have add : Operation.addReg.Form (Fields.ofWord 0x8FF4) := ⟨rfl, rfl⟩
  have subn : Operation.subnReg.Form (Fields.ofWord 0x80F7) := ⟨rfl, rfl⟩
  have flag : (s.getV flagRegister).toNat = 0xC8 := by decide
  have first : (s.getV firstRegister).toNat = 0x0A := by decide
  obtain ⟨r, c, sum, added⟩ := (flag_arithmetic_exact s 0x8FF4).1 add
  obtain ⟨r', c', difference, taken⟩ := (flag_arithmetic_exact s 0x80F7).2.2.1 subn
  rw [show (Fields.ofWord 0x8FF4).x = flagRegister from rfl,
    show (Fields.ofWord 0x8FF4).y = flagRegister from rfl, flag] at sum
  rw [show (Fields.ofWord 0x80F7).x = firstRegister from rfl,
    show (Fields.ofWord 0x80F7).y = flagRegister from rfl, flag, first] at difference
  have := added.result_lt
  have := taken.result_lt
  have := taken.flag_le
  refine ⟨⟨add, subn⟩, UInt8.toNat_inj.mp ?_, UInt8.toNat_inj.mp ?_, UInt8.toNat_inj.mp ?_⟩
  · rw [added.flag]
    change c = 1
    omega
  · rw [show firstRegister = (Fields.ofWord 0x80F7).x from rfl, taken.result (by decide)]
    change r' = 0xBE
    omega
  · rw [taken.flag]
    change c' = 1
    omega

end Chip8.State
