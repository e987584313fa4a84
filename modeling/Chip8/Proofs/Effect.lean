import Chip8.Cycle
import Chip8.Proofs.CallStack
import Mathlib.Logic.Function.Basic

/-!
# What a cycle can do

`State.trap` says which fault a word raises, and `State.Effect` lists the four ways in which the
execution of a word may end: it traps, it calls, it returns, or it does something that touches
neither stack nor fault register. What is to be shown of every cycle is shown of these four
(`State.effect_execute`, `State.effect_step`); no later proof takes the instruction set apart
again to follow the stack, the fault register or the addresses.
-/

namespace Chip8

namespace Instruction

/-- Decoding and looking up in the table agree about the operation. -/
theorem operation_ofWord? (w : Int) :
    (ofWord? w).map (·.operation) = Pattern.lookup decodeTable w := by
  rw [ofWord?, Option.map_map, ← Pattern.classify_eq_lookup]
  cases Pattern.classify decodeTable w with
  | none => rfl
  | some op => exact congrArg some (operation_instruction op _)

end Instruction

theorem Fault.code_injective : Function.Injective Fault.code := by
  intro f g h
  have := congrArg (fun c : UInt8 => Fault.ofCode? c.toNat) h
  simpa using this

theorem Fault.code_le (f : Fault) : f.code ≤ 3 := by
  cases f <;> decide

namespace State

variable {s t u : State}

/-! ## Words and faults -/

def pending (s : State) : Option Operation := Pattern.lookup decodeTable s.fetch.toNat

def recorded (s : State) (w : Int) : State := { s with opcode := UInt16.ofNat (w % 65536).toNat }

/-- The fault that a word raises, given the operation that it stands for. -/
def trap (s : State) : Option Operation → Fault
  | none => .unsupportedOpcode
  | some .call => if s.stack.isFull then .stackOverflow else .clear
  | some .ret => if s.stack.isEmpty then .stackUnderflow else .clear
  | some _ => .clear

theorem recorded_fetch (s : State) : s.recorded s.fetch.toNat = { s with opcode := s.fetch } := by
  have hlt := s.fetch.toNat_lt
  have hword : UInt16.ofNat ((s.fetch.toNat : Int) % 65536).toNat = s.fetch := by
    rw [show ((s.fetch.toNat : Int) % 65536).toNat = s.fetch.toNat by omega, UInt16.ofNat_toNat]
  rw [recorded, hword]

theorem trap_eq_unsupportedOpcode_iff {op : Option Operation} :
    s.trap op = .unsupportedOpcode ↔ op = none := by
  cases op with
  | none => simp [trap]
  | some op =>
      cases op with
      | call | ret => rw [trap]; split <;> simp
      | _ => simp [trap]

theorem trap_eq_stackOverflow_iff {op : Option Operation} :
    s.trap op = .stackOverflow ↔ op = some .call ∧ s.stack.isFull = true := by
  cases op with
  | none => simp [trap]
  | some op =>
      cases op with
      | ret => rw [trap]; split <;> simp
      | _ => simp [trap]

theorem trap_eq_stackUnderflow_iff {op : Option Operation} :
    s.trap op = .stackUnderflow ↔ op = some .ret ∧ s.stack.isEmpty = true := by
  cases op with
  | none => simp [trap]
  | some op =>
      cases op with
      | call => rw [trap]; split <;> simp
      | _ => simp [trap]

theorem trap_call_iff : s.trap (some .call) = .clear ↔ s.stack.isFull = false := by
  rw [trap]
  split <;> simp_all

theorem trap_ret_iff : s.trap (some .ret) = .clear ↔ s.stack.isEmpty = false := by
  rw [trap]
  split <;> simp_all

theorem trap_of_ne {op : Operation} (noCall : op ≠ .call) (noRet : op ≠ .ret) :
    s.trap (some op) = .clear := by
  cases op with
  | call => exact absurd rfl noCall
  | ret => exact absurd rfl noRet
  | _ => rfl

/-! ## Instructions that neither call nor return -/

/-- What such an instruction keeps: the stack, the fault register and the recorded word. An
address register of twelve bits stays one. -/
structure Keeps (s t : State) : Prop where
  stack : t.stack = s.stack
  fault : t.fault = s.fault
  opcode : t.opcode = s.opcode
  pc_lt : s.pc < 4096 → t.pc < 4096
  index_lt : s.index < 4096 → t.index < 4096

theorem Keeps.refl (s : State) : Keeps s s := ⟨rfl, rfl, rfl, id, id⟩

theorem Keeps.trans (h : Keeps s t) (h' : Keeps t u) : Keeps s u where
  stack := h'.stack.trans h.stack
  fault := h'.fault.trans h.fault
  opcode := h'.opcode.trans h.opcode
  pc_lt hlt := h'.pc_lt (h.pc_lt hlt)
  index_lt hlt := h'.index_lt (h.index_lt hlt)

theorem wrap_lt (a : Int) : wrap a < 4096 := UInt16.lt_iff_toNat_lt.mpr (toNat_wrap_lt a)

theorem ofNat_lt {n : Nat} (h : n < 4096) : UInt16.ofNat n < 4096 := by
  rw [UInt16.lt_iff_toNat_lt, UInt16.toNat_ofNat', Nat.mod_eq_of_lt (by omega)]
  exact h

theorem keeps_pc {a : UInt16} (h : a < 4096) : Keeps s { s with pc := a } :=
  ⟨rfl, rfl, rfl, fun _ => h, id⟩

theorem keeps_advance (s : State) (n : Int) : Keeps s (s.advance n) := keeps_pc (wrap_lt _)

theorem keeps_next (s : State) : Keeps s s.next := keeps_advance s 2

theorem keeps_skipIf (s : State) (c : Bool) : Keeps s (s.skipIf c) := keeps_advance s _

theorem keeps_jump (s : State) (a : Address) : Keeps s (s.jump a) := keeps_pc (ofNat_lt a.isLt)

theorem indexAfterBlock_lt (h : s.index < 4096) (x : Register) : s.indexAfterBlock x < 4096 := by
  rw [indexAfterBlock]
  split
  · exact h
  · exact wrap_lt _

theorem glyph_lt (n : Nat) : fontStart + n % 16 * glyphSize < 4096 := by
  simp only [fontStart, glyphSize]
  omega

/-- Data may be written freely, the index register within its bound. -/
theorem keeps_write {key : Random.Key} {memory : Memory} {display : Display} {delay sound : UInt8}
    {v : Registers} {index : UInt16} (bound : s.index < 4096 → index < 4096) :
    Keeps s { s with
      key := key, memory := memory, display := display, delay := delay, sound := sound, v := v,
      index := index } :=
  ⟨rfl, rfl, rfl, id, bound⟩

theorem keeps_awaitKey (s : State) (x : Register) : Keeps s (s.awaitKey x) := by
  rw [awaitKey]
  split
  · exact (keeps_write id).trans (keeps_next _)
  · exact Keeps.refl s

/-- **Nothing but calls and returns touches the stack, and nothing but traps the fault
register.** -/
theorem keeps_perform {i : Instruction} (noCall : i.operation ≠ .call)
    (noRet : i.operation ≠ .ret) : Keeps s (s.perform i) := by
  cases i with
  | call a => exact absurd rfl noCall
  | ret => exact absurd rfl noRet
  | sys _ => exact keeps_next s
  | jp a => exact keeps_jump s a
  | jpOffset _ => exact keeps_pc (wrap_lt _)
  | seByte _ _ | sneByte _ _ | seReg _ _ | sneReg _ _ | skp _ | sknp _ => exact keeps_skipIf s _
  | ldKey x => exact keeps_awaitKey s x
  | ldIndex a => exact (keeps_write fun _ => ofNat_lt a.isLt).trans (keeps_next _)
  | addIndex _ => exact (keeps_write fun _ => wrap_lt _).trans (keeps_next _)
  | ldGlyph x => exact (keeps_write fun _ => ofNat_lt (glyph_lt _)).trans (keeps_next _)
  | storeRegs x | loadRegs x => exact (keeps_write (indexAfterBlock_lt · x)).trans (keeps_next _)
  -- all others write data and go on
  | _ => exact (keeps_write id).trans (keeps_next _)

/-! ## The four ways in which a cycle may end -/

inductive Effect (s : State) : Option Operation → State → Prop where
  /-- The word traps and nothing else happens. -/
  | trap {op : Option Operation} (trapped : s.trap op ≠ .clear) : Effect s op (s.raise (s.trap op))
  | call (free : s.stack.isFull = false) (a : Address) :
      Effect s (some .call) ({ s with stack := s.stack.push s.pc }.jump a)
  | ret (used : s.stack.isEmpty = false) :
      Effect s (some .ret) { s with stack := s.stack.pop.1, pc := s.stack.pop.2 }.next
  | other {op : Operation} {t : State} (noCall : op ≠ .call) (noRet : op ≠ .ret)
      (keeps : Keeps s t) : Effect s (some op) t

theorem effect_call (s : State) (a : Address) : Effect s (some .call) (s.call a) := by
  rw [call]
  cases full : s.stack.isFull with
  | true =>
      have htrap : s.trap (some .call) = .stackOverflow :=
        trap_eq_stackOverflow_iff.mpr ⟨rfl, full⟩
      have h : Effect s (some .call) _ := .trap (by rw [htrap]; decide)
      rwa [htrap] at h
  | false => exact .call full a

theorem effect_ret (s : State) : Effect s (some .ret) s.ret := by
  rw [ret]
  cases empty : s.stack.isEmpty with
  | true =>
      have htrap : s.trap (some .ret) = .stackUnderflow :=
        trap_eq_stackUnderflow_iff.mpr ⟨rfl, empty⟩
      have h : Effect s (some .ret) _ := .trap (by rw [htrap]; decide)
      rwa [htrap] at h
  | false => exact .ret empty

theorem effect_perform (s : State) (i : Instruction) :
    Effect s (some i.operation) (s.perform i) := by
  cases i with
  | call a => exact effect_call s a
  | ret => exact effect_ret s
  | _ => exact .other nofun nofun (keeps_perform nofun nofun)

/-- **Executing a word traps, calls, returns, or keeps stack and fault register.** -/
theorem effect_execute (s : State) (w : Int) :
    Effect (s.recorded w) (Pattern.lookup decodeTable w) (s.execute w) := by
  rw [← Instruction.operation_ofWord?, execute]
  cases Instruction.ofWord? w with
  | none => exact .trap (by simp [trap])
  | some i => exact effect_perform (s.recorded w) i

theorem effect_step (healthy : s.halted = false) :
    Effect { s with opcode := s.fetch } s.pending s.step := by
  rw [← recorded_fetch, step, healthy]
  exact effect_execute s s.fetch.toNat

/-! ## The fault register after a cycle -/

theorem Effect.fault {op : Option Operation} (h : Effect s op t) :
    t.fault = if s.trap op = .clear then s.fault else (s.trap op).code := by
  cases h with
  | trap trapped => rw [if_neg trapped]; rfl
  | call free a => rw [if_pos (trap_call_iff.mpr free)]; rfl
  | ret used => rw [if_pos (trap_ret_iff.mpr used)]; rfl
  | other noCall noRet keeps => rw [if_pos (trap_of_ne noCall noRet), keeps.fault]

theorem fault_eq_zero_of_healthy (healthy : s.halted = false) : s.fault = 0 := by
  rwa [halted, bne_eq_false_iff_eq] at healthy

/-- **A cycle of a running machine leaves the code of its trap in the fault register.** -/
theorem fault_step (healthy : s.halted = false) : s.step.fault = (s.trap s.pending).code := by
  have h := (effect_step healthy).fault
  change s.step.fault = if s.trap s.pending = .clear then s.fault else (s.trap s.pending).code at h
  rw [h, fault_eq_zero_of_healthy healthy]
  split
  · rename_i hclear
    rw [hclear]
    rfl
  · rfl

theorem halted_step_iff (healthy : s.halted = false) :
    s.step.halted = true ↔ s.trap s.pending ≠ .clear := by
  rw [halted, fault_step healthy, bne_iff_ne, Ne, Ne, show (0 : UInt8) = Fault.clear.code from rfl,
    Fault.code_injective.eq_iff]

/-- **A trap changes nothing but the record and the fault register.** -/
theorem step_of_trap (healthy : s.halted = false) (trapped : s.trap s.pending ≠ .clear) :
    s.step = { s with opcode := s.fetch, fault := (s.trap s.pending).code } := by
  have h := effect_step healthy
  generalize s.pending = op, s.step = t at h trapped ⊢
  -- the other three ways need a clear trap
  cases h with
  | trap _ => rfl
  | call free a => exact absurd (trap_call_iff.mpr free) trapped
  | ret used => exact absurd (trap_ret_iff.mpr used) trapped
  | other noCall noRet _ => exact absurd (trap_of_ne noCall noRet) trapped

theorem halted_step_eq_false_iff :
    s.step.halted = false ↔ s.halted = false ∧ s.trap s.pending = .clear := by
  cases healthy : s.halted with
  | true => simp [step_of_halted healthy, healthy]
  | false =>
      rw [← Bool.not_eq_true, halted_step_iff healthy, not_not]
      simp

/-! ## The stack after a cycle -/

theorem step_of_call (healthy : s.halted = false) (word : s.pending = some .call)
    (free : s.stack.isFull = false) :
    ∃ a, s.step = { s with opcode := s.fetch, stack := s.stack.push s.pc }.jump a := by
  have h := effect_step healthy
  rw [word] at h
  generalize s.step = t at h ⊢
  cases h with
  | trap trapped => exact absurd (trap_call_iff.mpr free) trapped
  | call _ a => exact ⟨a, rfl⟩
  | other noCall _ _ => exact absurd rfl noCall

theorem step_of_ret (healthy : s.halted = false) (word : s.pending = some .ret)
    (used : s.stack.isEmpty = false) :
    s.step = { s with
      opcode := s.fetch, stack := s.stack.pop.1, pc := s.stack.pop.2 }.next := by
  have h := effect_step healthy
  rw [word] at h
  generalize s.step = t at h ⊢
  cases h with
  | trap trapped => exact absurd (trap_ret_iff.mpr used) trapped
  | ret _ => rfl
  | other _ noRet _ => exact absurd rfl noRet

theorem stack_step_of_halted (halts : s.step.halted = true) : s.step.stack = s.stack := by
  cases healthy : s.halted with
  | true => rw [step_of_halted healthy]
  | false => rw [step_of_trap healthy ((halted_step_iff healthy).mp halts)]

theorem stack_step_of_ne (noCall : s.pending ≠ some .call) (noRet : s.pending ≠ some .ret) :
    s.step.stack = s.stack := by
  cases healthy : s.halted with
  | true => rw [step_of_halted healthy]
  | false =>
      have h := effect_step healthy
      generalize s.pending = op, s.step = t at h noCall noRet ⊢
      cases h with
      | trap _ => rfl
      | call _ _ => exact absurd rfl noCall
      | ret _ => exact absurd rfl noRet
      | other _ _ keeps => exact keeps.stack

theorem stack_step_of_call (runs : s.step.halted = false) (word : s.pending = some .call) :
    s.stack.isFull = false ∧ s.step.stack = s.stack.push s.pc := by
  obtain ⟨healthy, hclear⟩ := halted_step_eq_false_iff.mp runs
  rw [word] at hclear
  have free := trap_call_iff.mp hclear
  obtain ⟨a, hstep⟩ := step_of_call healthy word free
  rw [hstep]
  exact ⟨free, rfl⟩

theorem stack_step_of_ret (runs : s.step.halted = false) (word : s.pending = some .ret) :
    s.stack.isEmpty = false ∧ s.step.stack = s.stack.pop.1 := by
  obtain ⟨healthy, hclear⟩ := halted_step_eq_false_iff.mp runs
  rw [word] at hclear
  have used := trap_ret_iff.mp hclear
  rw [step_of_ret healthy word used]
  exact ⟨used, rfl⟩

end State

end Chip8
