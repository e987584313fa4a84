import Chip8.Proofs.Decoding
import Chip8.Proofs.Effect

/-!
# What a word may change

`State.Spared` lists, field by field, the operations that leave it alone, and
`Instruction.Writes` tells the data registers that an instruction may write to. From the two, and
from the forms of the instruction words, follows the footprint of every word
(`State.execute_footprint`): whatever differs between the states before and after it is one of the
few things that words of its form change.
-/

namespace Chip8

def Instruction.Writes (s : State) : Instruction → Register → Prop
  | .ldByte x _, k | .addByte x _, k | .ldReg x _, k | .orReg x _, k | .andReg x _, k
  | .xorReg x _, k | .rnd x _, k | .ldFromDelay x, k => k = x
  | .addReg x _, k | .subReg x _, k | .shr x _, k | .subnReg x _, k | .shl x _, k =>
      k = x ∨ k = flagRegister
  | .ldKey x, k => k = x ∧ ∃ key : Fin keyCount, s.keypad.get key = true
  | .drw _ _ _, k => k = flagRegister
  | .loadRegs x, k => k ≤ x
  | _, _ => False

namespace State

variable {s t u : State} {i : Instruction}

/-! ## Words and their instructions -/

theorem execute_of_lookup {w : Int} {op : Operation}
    (h : Pattern.lookup decodeTable w = some op) :
    s.execute w = (s.recorded w).perform (op.instruction (Fields.ofWord w)) := by
  rw [execute, Instruction.ofWord?, Pattern.classify_eq_lookup, h]
  rfl

theorem execute_of_form {w : Int} {op : Operation} (form : op.Form (Fields.ofWord w))
    (exact : op ≠ .sys) :
    s.execute w = (s.recorded w).perform (op.instruction (Fields.ofWord w)) :=
  execute_of_lookup (Pattern.lookup_of_form form exact)

theorem step_of_form {op : Operation} (healthy : s.halted = false)
    (form : op.Form (Fields.ofWord s.fetch.toNat)) (exact : op ≠ .sys) :
    s.step = { s with opcode := s.fetch }.perform
      (op.instruction (Fields.ofWord s.fetch.toNat)) := by
  rw [step, healthy, if_neg Bool.false_ne_true, execute_of_form form exact, recorded_fetch]

theorem execute_of_lookup_none {w : Int} (h : Pattern.lookup decodeTable w = none) :
    s.execute w = (s.recorded w).raise .unsupportedOpcode := by
  rw [execute, Instruction.ofWord?, Pattern.classify_eq_lookup, h]
  rfl

theorem opcode_recorded (s : State) (w : UInt16) : (s.recorded w.toNat).opcode = w := by
  have hw := w.toNat_lt
  have hword : ((w.toNat : Int) % 65536).toNat = w.toNat := by omega
  rw [recorded, hword, UInt16.ofNat_toNat]

/-! ## All fields but the program counter and the data registers -/

/-- What the instructions of an operation leave alone: the keypad, the mode and the recorded word
always, everything else unless it is theirs to change. -/
structure Spared (s : State) (op : Operation) (t : State) : Prop where
  opcode : t.opcode = s.opcode
  keypad : t.keypad = s.keypad
  modern : t.modern = s.modern
  memory : op ≠ .ldDecimal → op ≠ .storeRegs → t.memory = s.memory
  display : op ≠ .cls → op ≠ .drw → t.display = s.display
  stack : op ≠ .call → op ≠ .ret → t.stack = s.stack
  fault : op ≠ .call → op ≠ .ret → t.fault = s.fault
  delay : op ≠ .ldDelay → t.delay = s.delay
  sound : op ≠ .ldSound → t.sound = s.sound
  key : op ≠ .rnd → t.key = s.key
  index : op ≠ .ldIndex → op ≠ .addIndex → op ≠ .ldGlyph →
    s.modern = true ∨ op ≠ .storeRegs ∧ op ≠ .loadRegs → t.index = s.index

/-- Data may be written as far as it is the operation's to change; the program counter and the data
registers are always. -/
theorem spared_write {op : Operation} {key : Random.Key} {memory : Memory} {display : Display}
    {delay sound : UInt8} {v : Registers} {index pc : UInt16}
    (hmemory : op ≠ .ldDecimal → op ≠ .storeRegs → memory = s.memory)
    (hdisplay : op ≠ .cls → op ≠ .drw → display = s.display)
    (hdelay : op ≠ .ldDelay → delay = s.delay)
    (hsound : op ≠ .ldSound → sound = s.sound)
    (hkey : op ≠ .rnd → key = s.key)
    (hindex : op ≠ .ldIndex → op ≠ .addIndex → op ≠ .ldGlyph →
      s.modern = true ∨ op ≠ .storeRegs ∧ op ≠ .loadRegs → index = s.index) :
    Spared s op { s with
      key := key, memory := memory, pc := pc, display := display, delay := delay, sound := sound,
      v := v, index := index } :=
  ⟨rfl, rfl, rfl, hmemory, hdisplay, fun _ _ => rfl, fun _ _ => rfl, hdelay, hsound, hkey, hindex⟩

theorem Spared.advance {op : Operation} (h : Spared s op t) (n : Int) : Spared s op (t.advance n) :=
  ⟨h.opcode, h.keypad, h.modern, h.memory, h.display, h.stack, h.fault, h.delay, h.sound, h.key,
    h.index⟩

theorem spared_refl (s : State) (op : Operation) : Spared s op s := by
  constructor <;> intros <;> rfl

theorem spared_call (s : State) (a : Address) : Spared s .call (s.call a) := by
  rw [call]
  split <;> constructor <;> intros <;> first | contradiction | rfl

theorem spared_ret (s : State) : Spared s .ret s.ret := by
  rw [ret]
  split <;> constructor <;> intros <;> first | contradiction | rfl

theorem spared_awaitKey (s : State) (x : Register) : Spared s .ldKey (s.awaitKey x) := by
  rw [awaitKey]
  split
  · apply Spared.advance
    apply spared_write <;> intros <;> rfl
  · exact spared_refl s _

theorem indexAfterBlock_of_modern (h : s.modern = true) (x : Register) :
    s.indexAfterBlock x = s.index := by
  rw [indexAfterBlock, if_pos h]

theorem spared_storeBlock (s : State) (x : Register) : Spared s .storeRegs (s.storeBlock x) := by
  apply spared_write
  case hmemory => exact fun _ h => absurd rfl h
  case hindex =>
    rintro - - - (h | h)
    · exact indexAfterBlock_of_modern h x
    · exact absurd rfl h.1
  all_goals intros; rfl

theorem spared_loadBlock (s : State) (x : Register) : Spared s .loadRegs (s.loadBlock x) := by
  apply spared_write
  case hindex =>
    rintro - - - (h | h)
    · exact indexAfterBlock_of_modern h x
    · exact absurd rfl h.2
  all_goals intros; rfl

/-- **Each instruction spares all that is not its own to change.** -/
theorem spared_perform (s : State) (i : Instruction) : Spared s i.operation (s.perform i) := by
  cases i with
  | call a => exact spared_call s a
  | ret => exact spared_ret s
  | ldKey x => exact spared_awaitKey s x
  | storeRegs x => exact (spared_storeBlock s x).advance 2
  | loadRegs x => exact (spared_loadBlock s x).advance 2
  | sys _ | seByte _ _ | sneByte _ _ | seReg _ _ | sneReg _ _ | skp _ | sknp _ =>
      exact (spared_refl s _).advance _
  | jp _ | jpOffset _ => apply spared_write <;> intros <;> rfl
  -- all others write data of their own and go on
  | _ =>
      apply Spared.advance
      apply spared_write <;> intros <;> first | contradiction | rfl

/-! ## The data registers -/

theorem getV_next (s : State) (k : Register) : s.next.getV k = s.getV k := rfl

theorem getV_setV (s : State) (x k : Register) (b : UInt8) :
    (s.setV x b).getV k = if x = k then b else s.getV k := by
  simp only [getV, setV, Fin.getElem_fin, Vector.getElem_set, Fin.ext_iff]

theorem getV_setV_of_ne {x k : Register} (h : k ≠ x) (b : UInt8) :
    (s.setV x b).getV k = s.getV k := by
  rw [getV_setV, if_neg h.symm]

theorem getV_setFlagged_of_ne {x k : Register} (h : ¬ (k = x ∨ k = flagRegister)) (r : Flagged) :
    (s.setFlagged x r).getV k = s.getV k := by
  rw [not_or] at h
  rw [setFlagged, getV_setV_of_ne h.2, getV_setV_of_ne h.1]

theorem getV_random_of_ne {x k : Register} (h : k ≠ x) (mask : UInt8) :
    (s.random x mask).getV k = s.getV k :=
  getV_setV_of_ne h _

theorem getV_draw_of_ne {k : Register} (h : k ≠ flagRegister) (x y : Register) (n : Nat) :
    (s.draw x y n).getV k = s.getV k := by
  rw [draw, getV_setV_of_ne h]
  simp only [getV]

theorem getV_loadBlock (s : State) (x k : Register) :
    (s.loadBlock x).getV k =
      if k ≤ x then s.memory.read (s.index.toNat + k.val) else s.getV k := by
  simp [loadBlock, getV]

theorem getV_awaitKey_of_not_writes {x k : Register} (h : ¬ (Instruction.ldKey x).Writes s k) :
    (s.awaitKey x).getV k = s.getV k := by
  rw [awaitKey]
  split
  · rename_i key hkey
    have pressed := (Keypad.lowest?_eq_some_iff.mp hkey).1
    exact getV_setV_of_ne (fun hk => h ⟨hk, key, pressed⟩) _
  · rfl

/-- **No instruction writes to a data register but those that are its own.** -/
theorem getV_perform_of_not_writes {k : Register} (h : ¬ i.Writes s k) :
    (s.perform i).getV k = s.getV k := by
  cases i with
  | ldByte _ _ | addByte _ _ | ldReg _ _ | orReg _ _ | andReg _ _ | xorReg _ _
  | ldFromDelay _ => exact (getV_next _ k).trans (getV_setV_of_ne h _)
  | rnd _ _ => exact (getV_next _ k).trans (getV_random_of_ne h _)
  | drw _ _ _ => exact (getV_next _ k).trans (getV_draw_of_ne h _ _ _)
  | addReg _ _ | subReg _ _ | shr _ _ | subnReg _ _ | shl _ _ =>
      exact (getV_next _ k).trans (getV_setFlagged_of_ne h _)
  | ldKey x => exact getV_awaitKey_of_not_writes h
  | loadRegs x => exact (getV_next _ k).trans ((getV_loadBlock s x k).trans (if_neg h))
  | call a => rw [perform, call]; split <;> rfl
  | ret => rw [perform, ret]; split <;> rfl
  | _ => rfl

/-! ## The footprint of a word -/

/-- May a word with the digits `f` store a byte at this address? FX33 stores three bytes, FX55 one
for each of the registers V0 to VX. -/
def Stores (s : State) (f : Fields) (a : Nat) : Prop :=
  f.leading.val = 0xF ∧
    (f.nn = 0x33 ∧ (∃ k < 3, a % 4096 = (s.index.toNat + k) % 4096) ∨
      f.nn = 0x55 ∧ ∃ k ≤ f.x.val, a % 4096 = (s.index.toNat + k) % 4096)

/-- May a word with the digits `f` write to this data register? It is the target VX, the flag
register, or one of the block V0 to VX that FX65 loads. -/
def Loads (s : State) (f : Fields) (k : Register) : Prop :=
  k = f.x ∧ (f.leading.val = 0x6 ∨ f.leading.val = 0x7 ∨
    f.leading.val = 0x8 ∧ (f.n.val ≤ 0x7 ∨ f.n.val = 0xE) ∨ f.leading.val = 0xC ∨
    f.leading.val = 0xF ∧ (f.nn = 0x07 ∨
      f.nn = 0x0A ∧ ∃ key : Fin keyCount, s.keypad.get key = true)) ∨
  k = flagRegister ∧ (f.leading.val = 0x8 ∧ (0x4 ≤ f.n.val ∧ f.n.val ≤ 0x7 ∨ f.n.val = 0xE) ∨
    f.leading.val = 0xD) ∨
  k ≤ f.x ∧ f.leading.val = 0xF ∧ f.nn = 0x65

/-- What may differ between the states `s` and `t` before and after a word with the digits `f`. The
recorded word and the program counter are left aside. -/
structure Footprint (s : State) (f : Fields) (t : State) : Prop where
  keypad : t.keypad = s.keypad
  modern : t.modern = s.modern
  memory : ∀ a, t.memory.read a ≠ s.memory.read a → s.Stores f a
  /-- 00E0 and DXYN draw. -/
  display : t.display ≠ s.display →
    f.leading.val = 0x0 ∧ f.x.val = 0x0 ∧ f.nn = 0xE0 ∨ f.leading.val = 0xD
  /-- 2NNN pushes and 00EE pops. -/
  stack : t.stack ≠ s.stack →
    f.leading.val = 0x2 ∧ s.stack.pointer < 16 ∨
      (f.leading.val = 0x0 ∧ f.x.val = 0x0 ∧ f.nn = 0xEE) ∧ s.stack.pointer ≠ 0
  /-- No form fits, or the stack is full for 2NNN or empty for 00EE. -/
  fault : t.fault ≠ s.fault →
    (∀ op : Operation, ¬ op.Form f) ∨ f.leading.val = 0x2 ∧ 16 ≤ s.stack.pointer ∨
      (f.leading.val = 0x0 ∧ f.x.val = 0x0 ∧ f.nn = 0xEE) ∧ s.stack.pointer = 0
  delay : t.delay ≠ s.delay → f.leading.val = 0xF ∧ f.nn = 0x15
  sound : t.sound ≠ s.sound → f.leading.val = 0xF ∧ f.nn = 0x18
  key : t.key ≠ s.key → f.leading.val = 0xC
  /-- ANNN, FX1E and FX29 set the index register, block transfers move it in the old mode only. -/
  index : t.index ≠ s.index → f.leading.val = 0xA ∨ f.leading.val = 0xF ∧
    (f.nn = 0x1E ∨ f.nn = 0x29 ∨ s.modern = false ∧ (f.nn = 0x55 ∨ f.nn = 0x65))
  v : ∀ k, t.getV k ≠ s.getV k → s.Loads f k

variable {op : Operation} {f : Fields}

theorem memory_footprint (form : op.Form f) {a : Nat}
    (changed : (s.perform (op.instruction f)).memory.read a ≠ s.memory.read a) : s.Stores f a := by
  have spared := spared_perform s (op.instruction f)
  rw [Instruction.operation_instruction] at spared
  -- an address that no byte of a stored block reaches reads as before
  have reached {bs : List UInt8} (h : (s.memory.store s.index.toNat bs).read a ≠ s.memory.read a) :
      ∃ k < bs.length, a % 4096 = (s.index.toNat + k) % 4096 := by
    by_contra none
    refine h (Memory.read_store_of_ne _ _ _ _ ?_)
    intro k hk hread
    exact none ⟨k, hk, hread.symm⟩
  by_cases hdecimal : op = .ldDecimal
  · subst hdecimal
    exact ⟨form.1, .inl ⟨form.2, reached changed⟩⟩
  · by_cases hstore : op = .storeRegs
    · subst hstore
      obtain ⟨k, hk, ha⟩ := reached changed
      rw [List.length_take, Vector.length_toList] at hk
      exact ⟨form.1, .inr ⟨form.2, k, by omega, ha⟩⟩
    · rw [spared.memory hdecimal hstore] at changed
      exact absurd rfl changed

theorem v_footprint (form : op.Form f) {k : Register}
    (writes : (op.instruction f).Writes s k) : s.Loads f k := by
  cases op with
  | ldByte => exact .inl ⟨writes, .inl form⟩
  | addByte => exact .inl ⟨writes, .inr (.inl form)⟩
  | ldReg | orReg | andReg | xorReg =>
      exact .inl ⟨writes, .inr (.inr (.inl ⟨form.1, .inl (by rw [form.2]; decide)⟩))⟩
  | addReg | subReg | shr | subnReg =>
      rcases writes with target | flag
      · exact .inl ⟨target, .inr (.inr (.inl ⟨form.1, .inl (le_of_eq_of_le form.2 (by decide))⟩))⟩
      · exact .inr (.inl ⟨flag, .inl ⟨form.1, .inl (by rw [form.2]; decide)⟩⟩)
  | shl =>
      rcases writes with target | flag
      · exact .inl ⟨target, .inr (.inr (.inl ⟨form.1, .inr form.2⟩))⟩
      · exact .inr (.inl ⟨flag, .inl ⟨form.1, .inr form.2⟩⟩)
  | rnd => exact .inl ⟨writes, .inr (.inr (.inr (.inl form)))⟩
  | ldFromDelay => exact .inl ⟨writes, .inr (.inr (.inr (.inr ⟨form.1, .inl form.2⟩)))⟩
  | ldKey =>
      exact .inl ⟨writes.1, .inr (.inr (.inr (.inr ⟨form.1, .inr ⟨form.2, writes.2⟩⟩)))⟩
  | drw => exact .inr (.inl ⟨writes, .inr form⟩)
  | loadRegs => exact .inr (.inr ⟨writes, form⟩)
  | _ => exact writes.elim

theorem operation_of_stack_ne (changed : (s.perform i).stack ≠ s.stack) :
    i.operation = .call ∧ s.stack.pointer < 16 ∨ i.operation = .ret ∧ s.stack.pointer ≠ 0 := by
  have effect := effect_perform s i
  generalize s.perform i = t, i.operation = op at effect changed
  cases effect with
  | trap _ => exact absurd rfl changed
  | call free _ => exact .inl ⟨rfl, by simpa [CallStack.isFull] using free⟩
  | ret used => exact .inr ⟨rfl, by simpa [CallStack.isEmpty] using used⟩
  | other _ _ keeps => exact absurd keeps.stack changed

theorem operation_of_fault_ne (changed : (s.perform i).fault ≠ s.fault) :
    i.operation = .call ∧ 16 ≤ s.stack.pointer ∨ i.operation = .ret ∧ s.stack.pointer = 0 := by
  have trapped : s.trap (some i.operation) ≠ .clear := by
    intro hclear
    have h := (effect_perform s i).fault
    rw [if_pos hclear] at h
    exact changed h
  by_cases hcall : i.operation = .call
  · rw [hcall, Ne, trap_call_iff, Bool.not_eq_false] at trapped
    exact .inl ⟨hcall, by simpa [CallStack.isFull] using trapped⟩
  · by_cases hret : i.operation = .ret
    · rw [hret, Ne, trap_ret_iff, Bool.not_eq_false] at trapped
      exact .inr ⟨hret, by simpa [CallStack.isEmpty] using trapped⟩
    · exact absurd (trap_of_ne hcall hret) trapped

theorem index_footprint (form : op.Form f)
    (changed : (s.perform (op.instruction f)).index ≠ s.index) :
    f.leading.val = 0xA ∨ f.leading.val = 0xF ∧
      (f.nn = 0x1E ∨ f.nn = 0x29 ∨ s.modern = false ∧ (f.nn = 0x55 ∨ f.nn = 0x65)) := by
  have spared := spared_perform s (op.instruction f)
  rw [Instruction.operation_instruction] at spared
  have old (block : op = .storeRegs ∨ op = .loadRegs) : s.modern = false := by
    by_contra modern
    rw [Bool.not_eq_false] at modern
    refine changed (spared.index ?_ ?_ ?_ (.inl modern)) <;> rintro rfl <;> simp at block
  by_contra none
  refine changed (spared.index ?_ ?_ ?_ (.inr ⟨?_, ?_⟩)) <;> rintro rfl
  · exact none (.inl form)
  · exact none (.inr ⟨form.1, .inl form.2⟩)
  · exact none (.inr ⟨form.1, .inr (.inl form.2)⟩)
  · exact none (.inr ⟨form.1, .inr (.inr ⟨old (.inl rfl), .inl form.2⟩)⟩)
  · exact none (.inr ⟨form.1, .inr (.inr ⟨old (.inr rfl), .inr form.2⟩)⟩)

theorem footprint_perform (form : op.Form f) : Footprint s f (s.perform (op.instruction f)) := by
  have spared := spared_perform s (op.instruction f)
  rw [Instruction.operation_instruction] at spared
  constructor
  case keypad => exact spared.keypad
  case modern => exact spared.modern
  case memory => exact fun a => memory_footprint form
  case display =>
    intro changed
    by_contra none
    refine changed (spared.display ?_ ?_) <;> rintro rfl
    · exact none (.inl form)
    · exact none (.inr form)
  case stack =>
    intro changed
    rcases operation_of_stack_ne changed with ⟨hop, free⟩ | ⟨hop, used⟩
    · obtain rfl := (Instruction.operation_instruction op f).symm.trans hop
      exact .inl ⟨form, free⟩
    · obtain rfl := (Instruction.operation_instruction op f).symm.trans hop
      exact .inr ⟨form, used⟩
  case fault =>
    intro changed
    rcases operation_of_fault_ne changed with ⟨hop, full⟩ | ⟨hop, empty⟩
    · obtain rfl := (Instruction.operation_instruction op f).symm.trans hop
      exact .inr (.inl ⟨form, full⟩)
    · obtain rfl := (Instruction.operation_instruction op f).symm.trans hop
      exact .inr (.inr ⟨form, empty⟩)
  case delay =>
    intro changed
    by_contra none
    exact changed (spared.delay (by rintro rfl; exact none form))
  case sound =>
    intro changed
    by_contra none
    exact changed (spared.sound (by rintro rfl; exact none form))
  case key =>
    intro changed
    by_contra none
    exact changed (spared.key (by rintro rfl; exact none form))
  case index => exact index_footprint form
  case v =>
    intro k changed
    by_contra none
    exact changed (getV_perform_of_not_writes fun writes => none (v_footprint form writes))

theorem footprint_raise (none : ∀ op : Operation, ¬ op.Form f) (c : Fault) :
    Footprint s f (s.raise c) := by
  constructor
  case fault => exact fun _ => .inl none
  case keypad | modern => rfl
  all_goals intros; exact absurd rfl ‹_›

/-- **The footprint of every instruction.** Executing a word puts it on record, and changes of the
rest of the state no more than the words of its form may change. -/
theorem execute_footprint (s : State) (w : UInt16) :
    (s.execute w.toNat).opcode = w ∧ Footprint s (Fields.ofWord w.toNat) (s.execute w.toNat) := by
  cases hword : Pattern.lookup decodeTable (w.toNat : Int) with
  | none =>
      have h := footprint_raise (s := s.recorded w.toNat) (Pattern.lookup_eq_none_iff.mp hword)
        .unsupportedOpcode
      rw [execute_of_lookup_none hword]
      exact ⟨opcode_recorded s w, h.keypad, h.modern, h.memory, h.display, h.stack, h.fault,
        h.delay, h.sound, h.key, h.index, h.v⟩
  | some op =>
      have h := footprint_perform (s := s.recorded w.toNat) (Pattern.form_of_lookup hword)
      rw [execute_of_lookup hword]
      exact ⟨(spared_perform _ _).opcode.trans (opcode_recorded s w), h.keypad, h.modern, h.memory,
        h.display, h.stack, h.fault, h.delay, h.sound, h.key, h.index, h.v⟩

end State

end Chip8
