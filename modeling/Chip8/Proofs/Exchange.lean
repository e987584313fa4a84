import Chip8.Proofs.Chronicle

/-!
# What instructions do not look at

The key of the random number generator, the keypad, the timers and the mode surround a program that
runs: a host or the kind of the machine decides them, and only few instructions look at them. No
instruction looks at the word that is recorded as the last one. An `Exchange` puts other contents in
their place. An instruction that does without what is exchanged does the same with the new contents
as with the old ones (`State.perform_exchange`), so it is all one whether the exchange comes before
it or behind it. The same holds of cycles and of runs, which record words of their own, if the
recorded word is not exchanged (`State.step_exchange`, `State.run_exchange`).
-/

namespace Chip8

namespace Operation

def usesTimers : Operation → Bool
  | ldFromDelay | ldDelay | ldSound => true
  | _ => false

def usesKeypad : Operation → Bool
  | skp | sknp | ldKey => true
  | _ => false

end Operation

/-- Does the instruction do the same on machines of both kinds? Block transfers never do, and shifts
do if their registers are equal. -/
def Instruction.ModeFree (s : State) : Instruction → Prop
  | .shr x y | .shl x y => s.getV x = s.getV y
  | .storeRegs _ | .loadRegs _ => False
  | _ => True

/-- Other contents for what surrounds a program, each computed from the old ones. -/
structure Exchange where
  key : Random.Key → Random.Key := id
  keypad : Keypad → Keypad := id
  delay : UInt8 → UInt8 := id
  sound : UInt8 → UInt8 := id
  modern : Bool → Bool := id
  opcode : UInt16 → UInt16 := id

/-- Does an instruction that meets the state `s` do without what is exchanged? -/
structure Exchange.Hidden (e : Exchange) (s : State) (i : Instruction) : Prop where
  key : i.operation = .rnd → e.key = id := by exact fun _ => rfl
  keypad : i.operation.usesKeypad = true → e.keypad = id := by exact fun _ => rfl
  delay : i.operation.usesTimers = true → e.delay = id := by exact fun _ => rfl
  sound : i.operation.usesTimers = true → e.sound = id := by exact fun _ => rfl
  modern : e.modern = id ∨ i.ModeFree s := by exact .inl rfl

namespace State

variable {s : State} {e : Exchange} {i : Instruction}

def exchange (s : State) (e : Exchange) : State :=
  { s with
    key := e.key s.key, keypad := e.keypad s.keypad, delay := e.delay s.delay,
    sound := e.sound s.sound, modern := e.modern s.modern, opcode := e.opcode s.opcode }

/-! ## Instructions -/

theorem call_exchange (s : State) (e : Exchange) (a : Address) :
    (s.exchange e).call a = (s.call a).exchange e := by
  have hfull : (s.exchange e).stack.isFull = s.stack.isFull := rfl
  rw [call, call, hfull]
  split <;> rfl

theorem ret_exchange (s : State) (e : Exchange) : (s.exchange e).ret = s.ret.exchange e := by
  have hempty : (s.exchange e).stack.isEmpty = s.stack.isEmpty := rfl
  rw [ret, ret, hempty]
  split <;> rfl

theorem awaitKey_exchange (x : Register) (unseen : e.keypad = id) :
    (s.exchange e).awaitKey x = (s.awaitKey x).exchange e := by
  have hkeypad : (s.exchange e).keypad = s.keypad := congrFun unseen s.keypad
  rw [awaitKey, awaitKey, hkeypad]
  split <;> rfl

theorem shiftOperand_of_eq {x y : Register} (h : s.getV x = s.getV y) :
    s.shiftOperand x y = s.getV x := by
  rw [shiftOperand, h, ite_self]

theorem shiftOperand_exchange {x y : Register} (unseen : e.modern = id ∨ s.getV x = s.getV y) :
    (s.exchange e).shiftOperand x y = s.shiftOperand x y := by
  rcases unseen with same | equal
  · have hmodern : (s.exchange e).modern = s.modern := congrFun same s.modern
    rw [shiftOperand, shiftOperand, hmodern]
    rfl
  · rw [shiftOperand_of_eq equal]
    exact shiftOperand_of_eq equal

theorem indexAfterBlock_exchange (x : Register) (unseen : e.modern = id) :
    (s.exchange e).indexAfterBlock x = s.indexAfterBlock x := by
  have hmodern : (s.exchange e).modern = s.modern := congrFun unseen s.modern
  rw [indexAfterBlock, indexAfterBlock, hmodern]
  rfl

theorem draw_exchange (s : State) (e : Exchange) (x y : Register) (n : Nat) :
    (s.exchange e).draw x y n = (s.draw x y n).exchange e := by
  have hmask : ((s.exchange e).sprite x y n).mask (s.exchange e).memory =
    (s.sprite x y n).mask s.memory := rfl
  have hdisplay : (s.exchange e).display = s.display := rfl
  simp only [draw, hmask, hdisplay]
  -- the picture is the same on both sides and need not be computed
  generalize s.display.xor ((s.sprite x y n).mask s.memory) = picture
  rfl

/-- **An instruction does the same before an exchange and behind it**, if it does without what is
exchanged. -/
theorem perform_exchange (hidden : e.Hidden s i) :
    (s.exchange e).perform i = (s.perform i).exchange e := by
  obtain ⟨hkey, hkeypad, hdelay, hsound, hmodern⟩ := hidden
  cases i with
  | call a => exact call_exchange s e a
  | ret => exact ret_exchange s e
  | drw x y n => exact congrArg next (draw_exchange s e x y n.val)
  | ldKey x => exact awaitKey_exchange x (hkeypad rfl)
  | shr x y | shl x y =>
      rw [perform, shiftOperand_exchange hmodern]
      rfl
  | storeRegs x | loadRegs x =>
      have unseen : e.modern = id := hmodern.resolve_right id
      simp only [perform, storeBlock, loadBlock, indexAfterBlock_exchange x unseen]
      rfl
  | rnd _ _ =>
      obtain ⟨key, keypad, delay, sound, modern, opcode⟩ := e
      obtain rfl : key = id := hkey rfl
      rfl
  | skp _ | sknp _ =>
      obtain ⟨key, keypad, delay, sound, modern, opcode⟩ := e
      obtain rfl : keypad = id := hkeypad rfl
      rfl
  | ldFromDelay _ | ldDelay _ =>
      obtain ⟨key, keypad, delay, sound, modern, opcode⟩ := e
      obtain rfl : delay = id := hdelay rfl
      rfl
  | ldSound _ =>
      obtain ⟨key, keypad, delay, sound, modern, opcode⟩ := e
      obtain rfl : sound = id := hsound rfl
      rfl
  | _ => rfl

/-! ## Words, cycles and runs -/

theorem modeFree_recorded (s : State) (w : Int) (i : Instruction) :
    i.ModeFree (s.recorded w) ↔ i.ModeFree s := by
  cases i <;> rfl

theorem execute_exchange {w : Int} (kept : e.opcode = id)
    (hidden : ∀ i ∈ Instruction.ofWord? w, e.Hidden s i) :
    (s.exchange e).execute w = (s.execute w).exchange e := by
  obtain ⟨key, keypad, delay, sound, modern, opcode⟩ := e
  obtain rfl : opcode = id := kept
  rw [execute, execute]
  cases hword : Instruction.ofWord? w with
  | none => rfl
  | some i =>
      obtain ⟨hkey, hkeypad, hdelay, hsound, hmodern⟩ := hidden i hword
      refine perform_exchange (s := s.recorded w) ⟨hkey, hkeypad, hdelay, hsound, ?_⟩
      exact hmodern.imp_right (modeFree_recorded s w i).mpr

theorem step_exchange (kept : e.opcode = id) (hidden : ∀ i ∈ s.instruction?, e.Hidden s i) :
    (s.exchange e).step = s.step.exchange e := by
  have hhalted : (s.exchange e).halted = s.halted := rfl
  rw [instruction?] at hidden
  rw [step, step, hhalted]
  cases halted : s.halted with
  | true => rfl
  | false =>
      rw [halted] at hidden
      exact execute_exchange kept hidden

/-- **Runs commute with an exchange that none of their cycles sees.** -/
theorem run_exchange {n : Nat} (kept : e.opcode = id)
    (hidden : ∀ k < n, ∀ i ∈ (s.run k).instruction?, e.Hidden (s.run k) i) :
    (s.exchange e).run n = (s.run n).exchange e := by
  induction n with
  | zero => rfl
  | succ n ih =>
      rw [run_succ, run_succ, ih fun k hk => hidden k (Nat.lt_succ_of_lt hk)]
      exact step_exchange kept (hidden n (Nat.lt_succ_self n))

end State

end Chip8
