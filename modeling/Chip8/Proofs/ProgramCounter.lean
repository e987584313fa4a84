import Chip8.Proofs.CallStack
import Chip8.Proofs.Footprint

/-!
# Where the program counter goes

Every instruction moves the program counter itself. `State.Lands` is the law that they obey
together, told by the digits of the word: jumps and calls go to their target, a return goes behind
its call, a skip whose condition holds leaves an instruction out, a word that cannot be carried out
yet or not at all stays where it is, and all others go on with the next instruction
(`State.pc_execute`).
-/

namespace Chip8.State

variable {s : State} {f : Fields} {pc : UInt16}

/-! ## The law -/

/-- Is the key down that a data register names by its lowest four bits? -/
def KeyHeld (s : State) (x : Register) : Prop :=
  ∃ k : Fin keyCount, k.val = (s.getV x).toNat % 16 ∧ s.keypad.get k = true

def Skips (s : State) (f : Fields) : Prop :=
  f.leading.val = 0x3 ∧ s.getV f.x = f.nn ∨
  f.leading.val = 0x4 ∧ s.getV f.x ≠ f.nn ∨
  f.leading.val = 0x5 ∧ s.getV f.x = s.getV f.y ∨
  f.leading.val = 0x9 ∧ s.getV f.x ≠ s.getV f.y ∨
  (f.leading.val = 0xE ∧ f.nn = 0x9E) ∧ s.KeyHeld f.x ∨
  (f.leading.val = 0xE ∧ f.nn = 0xA1) ∧ ¬ s.KeyHeld f.x

/-- Is the word FX0A without a key, a word of no form, 2NNN on a full stack or 00EE on an empty
one? -/
def Stays (s : State) (f : Fields) : Prop :=
  (f.leading.val = 0xF ∧ f.nn = 0x0A) ∧ (∀ k : Fin keyCount, s.keypad.get k = false) ∨
  (∀ op : Operation, ¬ op.Form f) ∨
  f.leading.val = 0x2 ∧ s.stack.pointer = 16 ∨
  (f.leading.val = 0x0 ∧ f.x.val = 0x0 ∧ f.nn = 0xEE) ∧ s.stack.pointer = 0

/-- Is the word 1NNN or BNNN, 2NNN with a free slot, or 00EE with an address to return to? -/
def Departs (s : State) (f : Fields) : Prop :=
  f.leading.val = 0x1 ∨ f.leading.val = 0xB ∨
  f.leading.val = 0x2 ∧ s.stack.pointer < 16 ∨
  (f.leading.val = 0x0 ∧ f.x.val = 0x0 ∧ f.nn = 0xEE) ∧ s.stack.pointer ≠ 0

/-- The law of the program counter: after a word with the digits `f`, it is `pc`. -/
structure Lands (s : State) (f : Fields) (pc : UInt16) : Prop where
  jump : f.leading.val = 0x1 ∨ f.leading.val = 0x2 ∧ s.stack.pointer < 16 → pc.toNat = f.nnn.val
  /-- The register is V0, whatever the second digit and the mode. -/
  offset : f.leading.val = 0xB → pc.toNat = (f.nnn.val + (s.getV firstRegister).toNat) % 4096
  ret : (f.leading.val = 0x0 ∧ f.x.val = 0x0 ∧ f.nn = 0xEE) ∧ s.stack.pointer ≠ 0 →
    ∃ a, s.stack.live.getLast? = some a ∧ pc.toNat = (a.toNat + 2) % 4096
  skip : s.Skips f → pc.toNat = (s.pc.toNat + 4) % 4096
  stay : s.Stays f → pc = s.pc
  next : ¬ s.Departs f → ¬ s.Skips f → ¬ s.Stays f → pc.toNat = (s.pc.toNat + 2) % 4096

/-- Do two words ask opposite questions about the same operands? -/
def Opposite (f g : Fields) : Prop :=
  (f.leading.val = 0x3 ∧ g.leading.val = 0x4) ∧ g.x = f.x ∧ g.nn = f.nn ∨
  (f.leading.val = 0x5 ∧ g.leading.val = 0x9) ∧ g.x = f.x ∧ g.y = f.y ∨
  (f.leading.val = 0xE ∧ f.nn = 0x9E ∧ g.leading.val = 0xE ∧ g.nn = 0xA1) ∧ g.x = f.x

/-! ## Addresses -/

theorem toNat_pc_next (s : State) : s.next.pc.toNat = (s.pc.toNat + 2) % 4096 := by
  change (wrap (s.pc.toNat + 2)).toNat = _
  rw [toNat_wrap]
  omega

/-- Data may be written before going on. -/
theorem toNat_pc_next_write {key : Random.Key} {memory : Memory} {display : Display}
    {delay sound : UInt8} {v : Registers} {index : UInt16} :
    { s with
      key := key, memory := memory, display := display, delay := delay, sound := sound, v := v,
      index := index }.next.pc.toNat = (s.pc.toNat + 2) % 4096 :=
  toNat_pc_next _

theorem toNat_pc_skipIf (s : State) (c : Bool) :
    (s.skipIf c).pc.toNat = (s.pc.toNat + if c then 4 else 2) % 4096 := by
  change (wrap (s.pc.toNat + (if c then 4 else 2 : Int))).toNat = _
  rw [toNat_wrap]
  split <;> omega

theorem toNat_pc_jump (s : State) (a : Address) : (s.jump a).pc.toNat = a.val := by
  have ha : a.val < 4096 := a.isLt
  rw [jump, UInt16.toNat_ofNat', Nat.mod_eq_of_lt (by omega)]

theorem keyDown_iff {x : Register} : s.keyDown x = true ↔ s.KeyHeld x := by
  have hkey : (Keypad.key (s.getV x).toNat).val = (s.getV x).toNat % 16 := by
    simp only [Keypad.key]
    omega
  constructor
  · intro down
    exact ⟨_, hkey, down⟩
  · rintro ⟨k, hk, down⟩
    obtain rfl : Keypad.key (s.getV x).toNat = k := Fin.ext (hkey.trans hk.symm)
    exact down

/-! ## The law, case by case

A word falls under one case only, so that what the law says elsewhere does not concern it. -/

variable {op : Operation}

theorem stays_iff_of_form (form : op.Form f) : s.Stays f ↔
    (f.leading.val = 0xF ∧ f.nn = 0x0A) ∧ (∀ k : Fin keyCount, s.keypad.get k = false) ∨
    f.leading.val = 0x2 ∧ s.stack.pointer = 16 ∨
    (f.leading.val = 0x0 ∧ f.x.val = 0x0 ∧ f.nn = 0xEE) ∧ s.stack.pointer = 0 := by
  have decodes : ¬ ∀ op : Operation, ¬ op.Form f := fun h => h op form
  simp only [Stays, decodes, false_or]

theorem lands_jump (form : Operation.jp.Form f) (hpc : pc.toNat = f.nnn.val) : Lands s f pc := by
  have h : f.leading.val = 0x1 := form
  constructor <;> simp [Skips, stays_iff_of_form form, Departs, h, hpc]

theorem lands_call (form : Operation.call.Form f) (free : s.stack.pointer < 16)
    (hpc : pc.toNat = f.nnn.val) : Lands s f pc := by
  have h : f.leading.val = 0x2 := form
  have hne : s.stack.pointer ≠ 16 := UInt8.ne_of_lt free
  constructor <;> simp [Skips, stays_iff_of_form form, Departs, h, hpc, free, hne]

theorem lands_offset (form : Operation.jpOffset.Form f)
    (hpc : pc.toNat = (f.nnn.val + (s.getV firstRegister).toNat) % 4096) : Lands s f pc := by
  have h : f.leading.val = 0xB := form
  constructor <;> simp [Skips, stays_iff_of_form form, Departs, h, hpc]

theorem lands_ret (form : Operation.ret.Form f) (used : s.stack.pointer ≠ 0) {a : UInt16}
    (top : s.stack.live.getLast? = some a) (hpc : pc.toNat = (a.toNat + 2) % 4096) :
    Lands s f pc := by
  have stays := stays_iff_of_form (s := s) form
  obtain ⟨h, hx, hnn⟩ := form
  constructor <;> simp [Skips, stays, Departs, h, hx, hnn, hpc, used, top]

theorem lands_wait (form : Operation.ldKey.Form f)
    (released : ∀ k : Fin keyCount, s.keypad.get k = false) : Lands s f s.pc := by
  have stays := stays_iff_of_form (s := s) form
  obtain ⟨h, hnn⟩ := form
  constructor <;> simp [Skips, stays, Departs, h, hnn, released]

theorem lands_trap_call (form : Operation.call.Form f) (full : s.stack.pointer = 16) :
    Lands s f s.pc := by
  have h : f.leading.val = 0x2 := form
  constructor <;> simp [Skips, stays_iff_of_form form, Departs, h, full]

theorem lands_trap_ret (form : Operation.ret.Form f) (empty : s.stack.pointer = 0) :
    Lands s f s.pc := by
  have stays := stays_iff_of_form (s := s) form
  obtain ⟨h, hx, hnn⟩ := form
  constructor <;> simp [Skips, stays, Departs, h, hx, hnn, empty]

theorem lands_unknown (none : ∀ op : Operation, ¬ op.Form f) : Lands s f s.pc where
  jump := by
    rintro (h | ⟨h, -⟩)
    · exact absurd h (none .jp)
    · exact absurd h (none .call)
  offset h := absurd h (none .jpOffset)
  ret h := absurd h.1 (none .ret)
  skip := by
    rintro (⟨h, -⟩ | ⟨h, -⟩ | ⟨h, -⟩ | ⟨h, -⟩ | ⟨h, -⟩ | ⟨h, -⟩)
    · exact absurd h (none .seByte)
    · exact absurd h (none .sneByte)
    · exact absurd h (none .seReg)
    · exact absurd h (none .sneReg)
    · exact absurd h (none .skp)
    · exact absurd h (none .sknp)
  stay _ := rfl
  next _ _ moves := absurd (.inr (.inl none)) moves

/-- A skip goes two instructions on if its condition holds, and one if not. -/
theorem lands_skip (form : op.Form f)
    (asks : f.leading.val = 0x3 ∨ f.leading.val = 0x4 ∨ f.leading.val = 0x5 ∨ f.leading.val = 0x9 ∨
      f.leading.val = 0xE) {c : Bool} (hc : c = true ↔ s.Skips f)
    (hpc : pc.toNat = (s.pc.toNat + if c then 4 else 2) % 4096) : Lands s f pc := by
  have stays := stays_iff_of_form (s := s) form
  rcases asks with h | h | h | h | h <;>
    constructor <;> simp +contextual [stays, Departs, h, hpc, ← hc]

theorem lands_next (form : op.Form f)
    (plain : f.leading.val = 0x6 ∨ f.leading.val = 0x7 ∨ f.leading.val = 0x8 ∨ f.leading.val = 0xA ∨
      f.leading.val = 0xC ∨ f.leading.val = 0xD)
    (hpc : pc.toNat = (s.pc.toNat + 2) % 4096) : Lands s f pc := by
  have stays := stays_iff_of_form (s := s) form
  rcases plain with h | h | h | h | h | h <;>
    constructor <;> simp [Skips, stays, Departs, h, hpc]

/-- A word FX__ goes on, FX0A if there is a key. -/
theorem lands_next_of_device (form : op.Form f) (h : f.leading.val = 0xF)
    (key : f.nn = 0x0A → ∃ k : Fin keyCount, s.keypad.get k = true)
    (hpc : pc.toNat = (s.pc.toNat + 2) % 4096) : Lands s f pc := by
  have moves : ¬ s.Stays f := by
    simpa [stays_iff_of_form form, h] using key
  constructor <;> simp [Skips, moves, Departs, h, hpc]

/-- A word 0NNN goes on unless it returns. -/
theorem lands_next_of_system (form : op.Form f) (h : f.leading.val = 0x0)
    (noRet : ¬ (f.leading.val = 0x0 ∧ f.x.val = 0x0 ∧ f.nn = 0xEE))
    (hpc : pc.toNat = (s.pc.toNat + 2) % 4096) : Lands s f pc where
  jump := by simp [h]
  offset := by simp [h]
  ret hret := absurd hret.1 noRet
  skip := by simp [Skips, h]
  stay := by
    simp only [stays_iff_of_form form, noRet]
    simp [h]
  next _ _ _ := hpc

/-! ## Every word -/

theorem lands_perform_call (hp : s.stack.pointer ≤ 16) (form : Operation.call.Form f) :
    Lands s f (s.call f.nnn).pc := by
  rw [call]
  cases full : s.stack.isFull with
  | true =>
      have hle : 16 ≤ s.stack.pointer := of_decide_eq_true full
      exact lands_trap_call form (UInt8.le_antisymm hp hle)
  | false =>
      have hlt : s.stack.pointer < 16 := UInt8.not_le.mp (of_decide_eq_false full)
      exact lands_call form hlt (toNat_pc_jump _ _)

theorem lands_perform_ret (hp : s.stack.pointer ≤ 16) (form : Operation.ret.Form f) :
    Lands s f s.ret.pc := by
  rw [ret]
  cases empty : s.stack.isEmpty with
  | true => exact lands_trap_ret form (of_decide_eq_true empty)
  | false =>
      have top := CallStack.getLast?_live empty (UInt8.le_iff_toNat_le.mp hp)
      exact lands_ret form (of_decide_eq_false empty) top (toNat_pc_next _)

theorem lands_perform_ldKey (form : Operation.ldKey.Form f) : Lands s f (s.awaitKey f.x).pc := by
  rw [awaitKey]
  split
  · rename_i key hkey
    have pressed := (Keypad.lowest?_eq_some_iff.mp hkey).1
    exact lands_next_of_device form form.1 (fun _ => ⟨key, pressed⟩) toNat_pc_next_write
  · rename_i released
    exact lands_wait form (Keypad.lowest?_eq_none_iff.mp released)

theorem lands_perform (hp : s.stack.pointer ≤ 16) (form : op.Form f)
    (noRet : op = .sys → ¬ Operation.ret.Form f) :
    Lands s f (s.perform (op.instruction f)).pc := by
  cases op with
  | jp => exact lands_jump form (toNat_pc_jump s _)
  | call => exact lands_perform_call hp form
  | ret => exact lands_perform_ret hp form
  | jpOffset =>
      refine lands_offset form ?_
      change (wrap (f.nnn.val + (s.getV firstRegister).toNat)).toNat = _
      rw [toNat_wrap]
      omega
  | seByte | sneByte | seReg | sneReg =>
      have h : f.leading.val = _ := form
      exact lands_skip form (by simp [h]) (by simp [Skips, h]) (toNat_pc_skipIf s _)
  | skp =>
      have ⟨h, hnn⟩ := form
      exact lands_skip form (by simp [h]) (by simp [Skips, h, hnn, keyDown_iff])
        (toNat_pc_skipIf s _)
  | sknp =>
      have ⟨h, hnn⟩ := form
      exact lands_skip form (by simp [h]) (by simp [Skips, h, hnn, ← keyDown_iff])
        (toNat_pc_skipIf s _)
  | ldKey => exact lands_perform_ldKey form
  | sys => exact lands_next_of_system form form (noRet rfl) (toNat_pc_next _)
  | cls =>
      refine lands_next_of_system form form.1 ?_ toNat_pc_next_write
      simp [form.2.2]
  | ldByte | addByte | ldIndex | rnd | drw =>
      exact lands_next form (by simp [show f.leading.val = _ from form]) toNat_pc_next_write
  | ldReg | orReg | andReg | xorReg | addReg | subReg | shr | subnReg | shl =>
      exact lands_next form (by simp [form.1]) toNat_pc_next_write
  | _ => exact lands_next_of_device form form.1 (by simp [form.2]) toNat_pc_next_write

/-- The one word that returns decodes to the return, although it has the form 0NNN as well. -/
theorem lookup_of_form_ret {w : UInt16} (form : Operation.ret.Form (Fields.ofWord w.toNat)) :
    Pattern.lookup decodeTable (w.toNat : Int) = some .ret := by
  obtain ⟨hleading, hx, hnn⟩ := form
  have hw := w.toNat_lt
  have h0 : w.toNat / 4096 % 16 = 0 := by rw [← Fields.leading_ofWord, hleading]
  have h1 : w.toNat / 256 % 16 = 0 := by rw [← Fields.x_ofWord, hx]
  have h2 : w.toNat % 256 = 0xEE := by rw [← Fields.nn_ofWord, hnn]; rfl
  have hword : w.toNat = 0x00EE := by omega
  rw [hword]
  decide

/-- Of two opposite questions, one is answered with yes. -/
theorem skips_iff_of_opposite {g : Fields} (h : Opposite f g) : s.Skips f ↔ ¬ s.Skips g := by
  rcases h with ⟨⟨hf, hg⟩, hx, hnn⟩ | ⟨⟨hf, hg⟩, hx, hy⟩ | ⟨⟨hf, hnnf, hg, hnng⟩, hx⟩
  · simp [Skips, hf, hg, hx, hnn]
  · simp [Skips, hf, hg, hx, hy]
  · simp [Skips, hf, hnnf, hg, hnng, hx]

/-- **The program counter after every instruction.** Words are told by their digits, and of two
words that ask opposite questions one skips in every state. -/
theorem pc_execute (hp : s.stack.pointer ≤ 16) (w : UInt16) :
    Lands s (Fields.ofWord w.toNat) (s.execute w.toNat).pc ∧
      ∀ w' : UInt16, Opposite (Fields.ofWord w.toNat) (Fields.ofWord w'.toNat) →
        (s.Skips (Fields.ofWord w.toNat) ↔ ¬ s.Skips (Fields.ofWord w'.toNat)) := by
  refine ⟨?_, fun _ => skips_iff_of_opposite⟩
  cases hword : Pattern.lookup decodeTable (w.toNat : Int) with
  | none =>
      rw [execute_of_lookup_none hword]
      exact lands_unknown (Pattern.lookup_eq_none_iff.mp hword)
  | some op =>
      have noRet : op = .sys → ¬ Operation.ret.Form (Fields.ofWord w.toNat) := by
        rintro rfl form
        rw [lookup_of_form_ret form] at hword
        cases hword
      have h := lands_perform (s := s.recorded w.toNat) hp (Pattern.form_of_lookup hword) noRet
      rw [execute_of_lookup hword]
      exact ⟨h.jump, h.offset, h.ret, h.skip, h.stay, h.next⟩

/-- A return from sixteen calls deep goes on at the first address, behind a call at the last one;
of two questions about equal registers, one is answered with yes. -/
theorem pc_execute_wraps :
    let s := { fresh (Random.Key.ofSeed 7) false with stack := ⟨Vector.replicate 16 0xFFE, 16⟩ }
    let ret : UInt16 := 0x00EE
    let same : UInt16 := 0x5120
    let differ : UInt16 := 0x9120
    (s.stack.pointer ≤ 16 ∧
      Opposite (Fields.ofWord same.toNat) (Fields.ofWord differ.toNat)) ∧
    (s.execute ret.toNat).pc = 0 ∧
      (s.Skips (Fields.ofWord same.toNat) ↔ ¬ s.Skips (Fields.ofWord differ.toNat)) := by
  intro s ret same differ
  have hp : s.stack.pointer ≤ 16 := by decide
  have opposite : Opposite (Fields.ofWord same.toNat) (Fields.ofWord differ.toNat) :=
    .inr (.inl (by decide))
  have top : s.stack.live.getLast? = some 0xFFE := by decide
  obtain ⟨a, ha, hpc⟩ := (pc_execute hp ret).1.ret (by decide)
  obtain rfl : 0xFFE = a := Option.some.inj (top.symm.trans ha)
  exact ⟨⟨hp, opposite⟩, UInt16.toNat_inj.mp hpc, (pc_execute hp same).2 differ opposite⟩

end Chip8.State
