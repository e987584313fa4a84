import Chip8.Proofs.Lockstep

/-!
# What the mode changes

Machines of the two kinds do the same with every word but four: 8XY6 and 8XYE shift another register
on the old machine, which shows in VX and VF only, and FX55 and FX65 move its index register, which
shows nowhere else (`State.ModeSplit`). A program that does without block transfers, and shifts
registers that are equal, cannot tell the two kinds apart (`State.mode_isolation`).
-/

namespace Chip8

def Exchange.old : Exchange where
  modern _ := false

theorem Exchange.hidden_old {s : State} {i : Instruction} (free : i.ModeFree s) :
    old.Hidden s i where
  modern := .inr free

/-- Does the instruction that the moment executes, if any, do the same on machines of both kinds? -/
def Moment.ModeFree (m : Moment) : Prop := ∀ i ∈ m.instruction?, i.ModeFree m.before

namespace Fields

variable {f : Fields} {op : Operation}

def IsShift (f : Fields) : Prop := f.leading.val = 0x8 ∧ (f.n.val = 0x6 ∨ f.n.val = 0xE)

def IsBlock (f : Fields) : Prop := f.leading.val = 0xF ∧ (f.nn = 0x55 ∨ f.nn = 0x65)

/-- The operand shifted to the right by a word 8XY6, and to the left by 8XYE. -/
def shifted (f : Fields) (operand : UInt8) : Flagged :=
  if f.n.val = 0x6 then .shiftRight operand else .shiftLeft operand

theorem operation_of_isShift (form : op.Form f) (shift : f.IsShift) : op = .shr ∨ op = .shl := by
  obtain ⟨h, hn⟩ := shift
  cases op with
  | shr => exact .inl rfl
  | shl => exact .inr rfl
  | ldReg | orReg | andReg | xorReg | addReg | subReg | subnReg =>
      have := form.2
      omega
  | _ => simp [Operation.Form, h] at form

theorem operation_of_isBlock (form : op.Form f) (block : f.IsBlock) :
    op = .storeRegs ∨ op = .loadRegs := by
  obtain ⟨h, hnn⟩ := block
  cases op with
  | storeRegs => exact .inl rfl
  | loadRegs => exact .inr rfl
  | _ => rcases hnn with hnn | hnn <;> simp [Operation.Form, h, hnn] at form

theorem modeFree_of_form {s : State} (form : op.Form f)
    (equal : f.IsShift → s.getV f.x = s.getV f.y) (noBlock : ¬ f.IsBlock) :
    (op.instruction f).ModeFree s := by
  cases op with
  | shr => exact equal ⟨form.1, .inl form.2⟩
  | shl => exact equal ⟨form.1, .inr form.2⟩
  | storeRegs => exact noBlock ⟨form.1, .inl form.2⟩
  | loadRegs => exact noBlock ⟨form.1, .inr form.2⟩
  | _ => trivial

end Fields

namespace State

variable {s t t' : State} {f : Fields} {op : Operation}

def inMode (s : State) (modern : Bool) : State := { s with modern := modern }

theorem exchange_old (s : State) : s.exchange .old = s.inMode false := rfl

theorem inMode_inMode (s : State) (m m' : Bool) : (s.inMode m).inMode m' = s.inMode m' := rfl

/-- Are the data registers those of `s` after a shift of this operand? -/
structure Shifts (s : State) (f : Fields) (operand : UInt8) (t : State) : Prop where
  flag : t.getV flagRegister = (f.shifted operand).flagByte
  result : f.x ≠ flagRegister → t.getV f.x = (f.shifted operand).result
  rest : ∀ k, k ≠ f.x → k ≠ flagRegister → t.getV k = s.getV k

/-- How the states `t` and `t'` of a modern and an old machine after a word with the digits `f` may
differ, if both were like `s` before. -/
structure ModeSplit (s : State) (f : Fields) (t t' : State) : Prop where
  same : (f.IsShift → s.getV f.x = s.getV f.y) → ¬ f.IsBlock → t' = t.inMode false
  /-- The modern machine shifts VX and the old one VY. -/
  shift : f.IsShift → Shifts s f (s.getV f.x) t ∧ Shifts s f (s.getV f.y) t' ∧
    t' = { t with modern := false, v := t'.v }
  /-- The modern machine keeps the index register and the old one moves it behind the block. -/
  block : f.IsBlock → t.index = s.index ∧
    t'.index.toNat = (s.index.toNat + f.x.val + 1) % 4096 ∧
    t' = { t with modern := false, index := t'.index }

theorem shifts_setFlagged (s : State) (modern : Bool) (f : Fields) (operand : UInt8) :
    Shifts s f operand ((s.inMode modern).setFlagged f.x (f.shifted operand)).next where
  flag := by rw [getV_next, setFlagged, getV_setV, if_pos rfl]
  result h := by rw [getV_next, setFlagged, getV_setV_of_ne h, getV_setV, if_pos rfl]
  rest k hx hf := by
    rw [getV_next, getV_setFlagged_of_ne (not_or.mpr ⟨hx, hf⟩)]
    rfl

theorem perform_of_shift (form : op.Form f) (shift : f.IsShift) (s : State) :
    s.perform (op.instruction f) =
      (s.setFlagged f.x (f.shifted (s.shiftOperand f.x f.y))).next := by
  rcases Fields.operation_of_isShift form shift with rfl | rfl
  · have right : f.n.val = 0x6 := form.2
    rw [Fields.shifted, if_pos right]
    rfl
  · have left : f.n.val = 0xE := form.2
    rw [Fields.shifted, if_neg (by omega)]
    rfl

theorem index_perform_of_block (form : op.Form f) (block : f.IsBlock) (s : State) :
    (s.perform (op.instruction f)).index = s.indexAfterBlock f.x := by
  rcases Fields.operation_of_isBlock form block with rfl | rfl <;> rfl

theorem modeSplit_perform (form : op.Form f) :
    ModeSplit s f ((s.inMode true).perform (op.instruction f))
      ((s.inMode false).perform (op.instruction f)) := by
  constructor
  case same =>
    intro equal noBlock
    have free : (op.instruction f).ModeFree (s.inMode true) :=
      Fields.modeFree_of_form form equal noBlock
    have h := perform_exchange (Exchange.hidden_old free)
    rwa [exchange_old, exchange_old, inMode_inMode] at h
  case shift =>
    intro isShift
    -- each kind shifts the operand that is its own
    rw [perform_of_shift form isShift, perform_of_shift form isShift]
    exact ⟨shifts_setFlagged s true f _, shifts_setFlagged s false f _, rfl⟩
  case block =>
    intro isBlock
    rw [index_perform_of_block form isBlock, index_perform_of_block form isBlock]
    refine ⟨if_pos rfl, ?_, ?_⟩
    · have moved : (s.inMode false).indexAfterBlock f.x = wrap (s.index.toNat + f.x.val + 1) := rfl
      rw [moved, toNat_wrap]
      omega
    · rcases Fields.operation_of_isBlock form isBlock with rfl | rfl <;> rfl

/-! ## Words -/

theorem Shifts.of_recorded {w : Int} {operand : UInt8} (h : Shifts (s.recorded w) f operand t) :
    Shifts s f operand t :=
  ⟨h.flag, h.result, h.rest⟩

theorem ModeSplit.of_recorded {w : Int} (h : ModeSplit (s.recorded w) f t t') :
    ModeSplit s f t t' := by
  refine ⟨h.same, ?_, h.block⟩
  intro isShift
  obtain ⟨modern, old, rest⟩ := h.shift isShift
  exact ⟨modern.of_recorded, old.of_recorded, rest⟩

theorem modeSplit_raise (unknown : ∀ op : Operation, ¬ op.Form f) (s : State) :
    ModeSplit s f ((s.inMode true).raise .unsupportedOpcode)
      ((s.inMode false).raise .unsupportedOpcode) := by
  constructor
  case same =>
    intro _ _
    rfl
  case shift =>
    rintro ⟨h, hn | hn⟩
    · exact absurd ⟨h, hn⟩ (unknown .shr)
    · exact absurd ⟨h, hn⟩ (unknown .shl)
  case block =>
    rintro ⟨h, hnn | hnn⟩
    · exact absurd ⟨h, hnn⟩ (unknown .storeRegs)
    · exact absurd ⟨h, hnn⟩ (unknown .loadRegs)

theorem modeSplit_execute (s : State) (w : UInt16) :
    ModeSplit s (Fields.ofWord w.toNat) ((s.inMode true).execute w.toNat)
      ((s.inMode false).execute w.toNat) := by
  have before (modern : Bool) :
      (s.inMode modern).recorded w.toNat = (s.recorded w.toNat).inMode modern := rfl
  cases hword : Pattern.lookup decodeTable w.toNat with
  | none =>
      have unknown := Pattern.lookup_eq_none_iff.mp hword
      rw [execute_of_lookup_none hword, execute_of_lookup_none hword, before, before]
      exact (modeSplit_raise unknown _).of_recorded
  | some op =>
      rw [execute_of_lookup hword, execute_of_lookup hword, before, before]
      exact (modeSplit_perform (Pattern.form_of_lookup hword)).of_recorded

/-! ## Runs -/

theorem bisimulation_old : Bisimulation (fun t t' => t' = t.inMode false) Moment.ModeFree where
  keypad s t h := by rw [h]; rfl
  undergo s t x h free := by
    subst h
    have hidden : ∀ i ∈ (⟨s, x⟩ : Moment).instruction?, Exchange.old.Hidden s i :=
      fun i hi => Exchange.hidden_old (free i hi)
    cases x with
    | cycle => exact step_exchange rfl hidden
    | word w => exact execute_exchange rfl hidden
    | load _ | tick | keys _ => rfl

/-- **The mode shows in shifts and block transfers only.** From one state, machines of the two kinds
execute every word alike but for what `ModeSplit` allows, and they go through a history side by side
if the modern one shifts registers that are equal only and transfers no block. -/
theorem mode_isolation (s : State) :
    (∀ w : UInt16, ModeSplit s (Fields.ofWord w.toNat) ((s.inMode true).execute w.toNat)
      ((s.inMode false).execute w.toNat)) ∧
    ∀ es : List Event, (∀ e ∈ es, e.creates = false) →
      (∀ m ∈ (s.inMode true).past es, m.ModeFree) →
      Lockstep (fun t t' => t' = t.inMode false) (s.inMode true) (s.inMode false) es := by
  refine ⟨modeSplit_execute s, ?_⟩
  intro es lasting free
  exact bisimulation_old.lockstep (inMode_inMode s true false).symm lasting free

/-- A program shifts a register that is equal to another one. Shifting one that is empty instead
would have set the two kinds of machines apart. -/
theorem mode_isolation_shift :
    let s := fresh (Random.Key.ofSeed 7) true
    let es : List Event := [.load [0x60, 0x05, 0x61, 0x05, 0x80, 0x16] true, .press 9, .frame 3]
    let t := (s.inMode true).after es
    ((∀ e ∈ es, e.creates = false) ∧ ∀ m ∈ (s.inMode true).past es, m.ModeFree) ∧
    (s.inMode false).after es = t.inMode false ∧ t.getV 0 = 2 ∧
      ((t.inMode true).execute 0x8026).getV 0 = 1 ∧
      ((t.inMode false).execute 0x8026).getV 0 = 0 := by
  intro s es t
  have lasting : ∀ e ∈ es, e.creates = false := by decide
  have shown : (∀ m ∈ (s.inMode true).past es, ∀ i ∈ m.instruction?,
        i = .shr 0 1 ∧ m.before.getV 0 = m.before.getV 1 ∨
          i = .ldByte 0 5 ∨ i = .ldByte 1 5) ∧ t.getV 0 = 2 ∧ t.getV 2 = 0 := by decide +kernel
  clear_value s es
  obtain ⟨executed, result, empty⟩ := shown
  have free : ∀ m ∈ (s.inMode true).past es, m.ModeFree := by
    intro m hm i hi
    rcases executed m hm i hi with ⟨rfl, equal⟩ | rfl | rfl
    · exact equal
    · trivial
    · trivial
  have alike := ((mode_isolation s).2 es lasting free).after es [] (List.append_nil es).symm
  obtain ⟨modern, old, -⟩ := ((mode_isolation t).1 0x8026).shift ⟨rfl, .inl rfl⟩
  refine ⟨⟨lasting, free⟩, alike, result, ?_, ?_⟩
  · refine (modern.result (by decide)).trans ?_
    change (Flagged.shiftRight (t.getV 0)).result = 1
    rw [result]
    rfl
  · refine (old.result (by decide)).trans ?_
    change (Flagged.shiftRight (t.getV 2)).result = 0
    rw [empty]
    rfl

end State

end Chip8
