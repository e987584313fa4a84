import Chip8.Proofs.Chronicle

/-!
# The stream of random bytes

An instruction that draws a random byte takes the byte of the key and moves the key on; nothing else
touches the key, not even a program that is loaded. So the bytes that a machine draws are the first
ones of a stream that its seed alone decides (`Random.stream`), and whatever two machines with one
seed went through, the bytes of one of them continue those of the other.
-/

namespace Chip8

namespace Random

theorem Key.after_add (k : Key) (m n : Nat) : k.after (m + n) = (k.after m).after n := by
  induction n with
  | zero => rfl
  | succ n ih => rw [← Nat.add_assoc, Key.after, ih, Key.after]

def stream (seed : Int) (j : Nat) : UInt8 := ((Key.ofSeed seed).after j).byte

def streamed (seed : Int) (n : Nat) : List UInt8 := (List.range n).map (stream seed)

theorem streamed_succ (seed : Int) (n : Nat) :
    streamed seed (n + 1) = streamed seed n ++ [stream seed n] := by
  rw [streamed, List.range_succ, List.map_append]
  rfl

theorem streamed_prefix_of_le (seed : Int) {m n : Nat} (h : m ≤ n) :
    streamed seed m <+: streamed seed n := by
  obtain ⟨k, rfl⟩ := Nat.exists_eq_add_of_le h
  rw [streamed, streamed, List.range_add, List.map_append]
  exact List.prefix_append _ _

end Random

/-! ## Draws in the past -/

/-- The byte that an instruction draws, if it does, before any of its bits are masked. -/
def State.drawn? (s : State) : Option Instruction → Option UInt8
  | some (.rnd _ _) => some s.key.byte
  | _ => none

def Moment.drawn? (m : Moment) : Option UInt8 := m.before.drawn? m.instruction?

def drawn (past : List Moment) : List UInt8 := past.filterMap Moment.drawn?

theorem drawn_snoc (past : List Moment) (m : Moment) :
    drawn (past ++ [m]) = drawn past ++ m.drawn?.toList := by
  rw [drawn, List.filterMap_append]
  cases h : m.drawn? <;> simp [drawn, h]

namespace State

variable {s t : State}

theorem key_of_executes {i? : Option Instruction} (h : s.Executes i? t) :
    t.key = s.key.after (s.drawn? i?).toList.length := by
  cases h with
  | nothing => rfl
  | instruction i opcode =>
      cases i with
      | rnd _ _ => rfl
      | _ => exact (spared_perform _ _).key nofun

/-- **Whatever happens moves the key on by the byte that is drawn, if one is.** -/
theorem key_undergo (s : State) (x : Happening) :
    (s.undergo x).key = s.key.after (Moment.mk s x).drawn?.toList.length := by
  cases x with
  | load _ | tick | keys _ => rfl
  | cycle => exact key_of_executes s.executes_step
  | word w => exact key_of_executes (s.executes_word w)

end State

theorem Moment.byte_of_drawn {m : Moment} {b : UInt8} (h : m.drawn? = some b) :
    b = m.before.key.byte := by
  simp only [drawn?, State.drawn?] at h
  split at h
  · exact (Option.some.inj h).symm
  · cases h

theorem Moment.after_of_rnd {m : Moment} {x : Register} {nn : UInt8}
    (h : m.instruction? = some (.rnd x nn)) :
    m.after.getV x = m.before.key.byte &&& nn ∧ m.after.key = m.before.key.next := by
  obtain ⟨opcode, hafter⟩ := after_of_instruction h
  rw [hafter, State.perform]
  refine ⟨?_, rfl⟩
  rw [State.getV_next, State.random]
  exact (State.getV_setV _ x x _).trans (if_pos rfl)

/-! ## One stream -/

/-- Has the machine drawn the first bytes of the stream, and is its key the next one? -/
structure DrawnFrom (seed : Int) (past : List Moment) (s : State) : Prop where
  key : s.key = (Random.Key.ofSeed seed).after (drawn past).length
  bytes : drawn past = Random.streamed seed (drawn past).length

theorem DrawnFrom.byte {seed : Int} {past : List Moment} {s : State} (h : DrawnFrom seed past s) :
    s.key.byte = Random.stream seed (drawn past).length := by
  rw [h.key, Random.stream]

theorem Chronicle.drawnFrom {seed : Int} {past : List Moment} {s : State}
    (history : Chronicle seed past s) : Throughout (DrawnFrom seed) past s := by
  refine history.throughout ?_ ?_
  · intro modern
    exact ⟨rfl, rfl⟩
  · intro past s x earlier
    constructor
    · rw [State.key_undergo, drawn_snoc, List.length_append, Random.Key.after_add, ← earlier.key]
    · rw [drawn_snoc, List.length_append]
      cases h : (Moment.mk s x).drawn? with
      | none =>
          rw [Option.toList_none, List.append_nil]
          exact earlier.bytes
      | some b =>
          -- the byte comes from the key of the moment, which as many draws have moved on
          have hb : b = Random.stream seed (drawn past).length :=
            (Moment.byte_of_drawn h).trans earlier.byte
          rw [Option.toList_some, List.length_singleton, Random.streamed_succ, ← earlier.bytes, hb]

/-- **The seed alone decides what is drawn.** At each moment of the past of a machine, its key is
that of its seed moved on by as many draws as there were, and each draw stores the next byte of the
stream under its mask, even if no bit is left of it. So of two machines with one seed, one has drawn
what the other has, and perhaps more, whatever they went through. -/
theorem random_stream {seed : Int} {past : List Moment} {s : State}
    (history : Chronicle seed past s) :
    Chronicle.Throughout (DrawnFrom seed) past s ∧
    (∀ before m later x nn j, past = before ++ m :: later → m.instruction? = some (.rnd x nn) →
      (drawn before).length = j →
        m.after.getV x = Random.stream seed j &&& nn ∧ (drawn (before ++ [m])).length = j + 1 ∧
          m.after.key = (Random.Key.ofSeed seed).after (j + 1)) ∧
    ∀ (past' : List Moment) (s' : State), Chronicle seed past' s' →
      drawn past <+: drawn past' ∨ drawn past' <+: drawn past := by
  refine ⟨history.drawnFrom, ?_, ?_⟩
  · rintro before m later x nn j hpast hrnd rfl
    have earlier : DrawnFrom seed before m.before := history.drawnFrom.2 before m later hpast
    obtain ⟨stored, moved⟩ := m.after_of_rnd hrnd
    refine ⟨?_, ?_, ?_⟩
    · rw [stored, earlier.byte]
    · rw [drawn_snoc, List.length_append, Moment.drawn?, hrnd]
      rfl
    · rw [moved, earlier.key, Random.Key.after]
  · intro past' s' history'
    obtain ⟨⟨-, bytes⟩, -⟩ := history.drawnFrom
    obtain ⟨⟨-, bytes'⟩, -⟩ := history'.drawnFrom
    rw [bytes, bytes']
    rcases Nat.le_total (drawn past).length (drawn past').length with h | h
    · exact .inl (Random.streamed_prefix_of_le seed h)
    · exact .inr (Random.streamed_prefix_of_le seed h)

/-- A byte of which no bit is kept is drawn, another program is loaded, and a second byte is drawn;
a machine of the other kind has drawn one byte for a debugger. -/
theorem random_stream_across_programs :
    let start := State.fresh (Random.Key.ofSeed 7) true
    let other := State.fresh (Random.Key.ofSeed 7) false
    let es : List Event := [.load [0xC0, 0x00] true, .step, .load [0xC1, 0xFF] true, .tick]
    let m : Moment := ⟨start.after es, .cycle⟩
    let past := start.past (es ++ [.step])
    let past' := other.moments [.word 0xC20F]
    (Chronicle 7 past (start.after (es ++ [.step])) ∧ past = start.past es ++ [m] ∧
      m.instruction? = some (.rnd 1 0xFF) ∧ (drawn (start.past es)).length = 1 ∧
      Chronicle 7 past' (other.undergo (.word 0xC20F))) ∧
    m.after.getV 1 = Random.stream 7 1 &&& 0xFF ∧ (drawn past).length = 2 ∧
      (drawn past <+: drawn past' ∨ drawn past' <+: drawn past) := by
  intro start other es m past past'
  have history : Chronicle 7 past (start.after (es ++ [.step])) := .machine rfl _ (by decide)
  have hpast : past = start.past es ++ [m] := start.past_append es [.step]
  have history' : Chronicle 7 past' (other.undergo (.word 0xC20F)) := .debugger rfl [.word 0xC20F]
  have shown : m.instruction? = some (.rnd 1 0xFF) ∧ (drawn (start.past es)).length = 1 := by
    decide +kernel
  clear_value m past past' start other
  obtain ⟨hrnd, before⟩ := shown
  obtain ⟨-, draws, continues⟩ := random_stream history
  obtain ⟨stored, counted, -⟩ := draws _ m [] 1 0xFF 1 hpast hrnd before
  refine ⟨⟨history, hpast, hrnd, before, history'⟩, stored, ?_, continues past' _ history'⟩
  rw [hpast, counted]

end Chip8
