import Chip8.Proofs.Lockstep

/-!
# What the seed may change

The seed of a machine lives on in the key of its random number generator only, and a program sees
the key through one instruction only, which stores the bits of a random byte that its mask keeps.
Two machines that differ in their keys therefore go through one history side by side, and fault in
the same cycle, until a bit is kept (`State.lockstep_of_blind`). Bytes of which no bit is kept are
drawn all the same, so the keys themselves go on to differ.
-/

namespace Chip8

def Exchange.rekey (key : Random.Key) : Exchange where
  key _ := key

theorem Exchange.hidden_rekey {s : State} {i : Instruction} {key : Random.Key}
    (h : i.operation ≠ .rnd) : (rekey key).Hidden s i where
  key draws := absurd draws h

/-- Does the moment show no bit of a random byte? -/
def Moment.Blind (m : Moment) : Prop :=
  ∀ x nn, m.instruction? = some (.rnd x nn) → nn = 0

namespace State

variable {s t : State}

def AgreesButKey (s t : State) : Prop := t = { s with key := t.key }

theorem AgreesButKey.exists_rekey (agree : AgreesButKey s t) :
    ∃ key, t = s.exchange (.rekey key) :=
  ⟨t.key, agree⟩

theorem agreesButKey_exchange (s : State) (key : Random.Key) :
    AgreesButKey s (s.exchange (.rekey key)) :=
  rfl

theorem agreesButKey_perform {i : Instruction} (blind : ∀ x nn, i = .rnd x nn → nn = 0)
    (key : Random.Key) : AgreesButKey (s.perform i) ((s.exchange (.rekey key)).perform i) := by
  by_cases draws : i.operation = .rnd
  · cases i with
    | rnd x nn =>
        obtain rfl := blind x nn rfl
        -- the two random bytes may differ, but the mask leaves nothing of either
        simp only [perform, random, UInt8.and_zero]
        rfl
    | _ => cases draws
  · rw [perform_exchange (Exchange.hidden_rekey draws)]
    exact agreesButKey_exchange _ key

theorem AgreesButKey.execute (agree : AgreesButKey s t) {w : Int}
    (blind : ∀ x nn, Instruction.ofWord? w = some (.rnd x nn) → nn = 0) :
    AgreesButKey (s.execute w) (t.execute w) := by
  obtain ⟨key, rfl⟩ := agree.exists_rekey
  rw [State.execute, State.execute]
  cases hword : Instruction.ofWord? w with
  | none => exact agreesButKey_exchange _ key
  | some i => exact agreesButKey_perform (fun x nn hi => blind x nn (hi ▸ hword)) key

theorem AgreesButKey.step (agree : AgreesButKey s t)
    (blind : ∀ x nn, s.instruction? = some (.rnd x nn) → nn = 0) :
    AgreesButKey s.step t.step := by
  have hhalted : t.halted = s.halted := by rw [agree]; rfl
  have hfetch : t.fetch = s.fetch := by rw [agree]; rfl
  rw [instruction?] at blind
  rw [State.step, State.step, hhalted, hfetch]
  cases halted : s.halted with
  | true => exact agree
  | false =>
      rw [halted] at blind
      exact agree.execute blind

/-- **What happens without showing a random bit keeps two machines alike but for their keys.** -/
theorem bisimulation_agreesButKey : Bisimulation AgreesButKey Moment.Blind where
  keypad s t agree := by rw [agree]
  undergo s t x agree blind := by
    cases x with
    | cycle => exact agree.step blind
    | word w => exact agree.execute blind
    | load _ | tick | keys _ =>
        obtain ⟨key, rfl⟩ := agree.exists_rekey
        exact agreesButKey_exchange _ key

/-- **The seed shows only where bits of a random byte are kept.** Two machines that differ in their
keys only stay alike in every other field through any history, after each event and in each cycle,
faults included, as long as the first of them masks every random byte that it draws with zero. -/
theorem lockstep_of_blind (agree : AgreesButKey s t) {es : List Event}
    (lasting : ∀ e ∈ es, e.creates = false) (blind : ∀ m ∈ s.past es, m.Blind) :
    Lockstep AgreesButKey s t es :=
  bisimulation_agreesButKey.lockstep agree lasting blind

/-- Machines of two seeds draw a byte and keep nothing of it; then both return without a call. -/
theorem lockstep_of_blind_underflow :
    let s := fresh (Random.Key.ofSeed 7) true
    let t := fresh (Random.Key.ofSeed 8) true
    let es : List Event := [.load [0xC0, 0x00, 0x00, 0xEE] true, .press 3, .frame 3, .tick]
    (AgreesButKey s t ∧ (∀ e ∈ es, e.creates = false) ∧ ∀ m ∈ s.past es, m.Blind) ∧
    (t.after es).key ≠ (s.after es).key ∧ (t.after es).fault = (s.after es).fault ∧
      (s.after es).error? = some (.stackUnderflow 0x202) := by
  intro s t es
  have agree : AgreesButKey s t := rfl
  have lasting : ∀ e ∈ es, e.creates = false := by decide
  have shown : (s.past es).map Moment.instruction? =
        [none, none, some (.rnd 0 0), some .ret, none, none, none] ∧
      (t.after es).key ≠ (s.after es).key ∧
      (s.after es).error? = some (.stackUnderflow 0x202) := by decide +kernel
  clear_value s t es
  obtain ⟨executed, keys, error⟩ := shown
  have blind : ∀ m ∈ s.past es, m.Blind := by
    intro m hm x nn hrnd
    have h := List.mem_map_of_mem (f := Moment.instruction?) hm
    rw [executed, hrnd] at h
    simp at h
    exact h.2
  have alike := (lockstep_of_blind agree lasting blind).after es [] (List.append_nil es).symm
  refine ⟨⟨agree, lasting, blind⟩, keys, ?_, error⟩
  rw [alike]

end State

end Chip8
