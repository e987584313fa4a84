import Chip8.Proofs.Reachable

/-!
# Loading erases the past

An image is refused if it holds a number that is no byte, and else if it is too long and loading is
strict. Any other image makes a state of which every field is known (`State.Loaded`): the font and
the program in an otherwise blank memory, and nothing of the state before but the key of the random
number generator and the mode. Two machines that agree on these are therefore the same machine from
the load on (`State.load_erases_the_past`).
-/

namespace Chip8

/-! ## Images -/

theorem byte?_eq_some_iff {n : Int} {b : UInt8} : byte? n = some b ↔ n = b.toNat := by
  have hb := b.toNat_lt
  rw [byte?]
  constructor
  · intro h
    split at h
    · rename_i small
      rw [Bool.and_eq_true, decide_eq_true_iff, decide_eq_true_iff] at small
      rw [← Option.some.inj h, UInt8.toNat_ofNat']
      omega
    · cases h
  · rintro rfl
    rw [if_pos (by simp; omega), Int.toNat_natCast, UInt8.ofNat_toNat]

theorem image?_eq_some_iff {data : List Int} {bytes : List UInt8} :
    image? data = some bytes ↔ data = imageOf bytes := by
  constructor
  · intro h
    induction data generalizing bytes with
    | nil =>
        obtain rfl := Option.some.inj h
        rfl
    | cons n data ih =>
        rw [image?, List.mapM_cons] at h
        obtain ⟨b, hb, h⟩ := Option.bind_eq_some_iff.mp h
        obtain ⟨bs, hbs, h⟩ := Option.bind_eq_some_iff.mp h
        obtain rfl := Option.some.inj h
        rw [byte?_eq_some_iff.mp hb, ih hbs]
        rfl
  · rintro rfl
    exact image?_imageOf bytes

/-- Some number is no byte, or all of them are. -/
theorem exists_foreign_iff {data : List Int} :
    (∃ n ∈ data, n < 0 ∨ 255 < n) ↔ ¬ ∀ n ∈ data, 0 ≤ n ∧ n ≤ 255 := by
  constructor
  · rintro ⟨n, hn, foreign⟩ bytes
    have := bytes n hn
    omega
  · intro foreign
    by_contra none
    refine foreign fun n hn => ?_
    by_contra out
    exact none ⟨n, hn, by omega⟩

/-! ## A block that does not reach the end of memory -/

namespace Memory

variable {m : Memory} {a q : Nat} {bs : List UInt8}

theorem read_store_outside (fits : a + bs.length ≤ 4096) (hq : q < 4096)
    (outside : ¬ (a ≤ q ∧ q < a + bs.length)) : (m.store a bs).read q = m.read q := by
  refine read_store_of_ne _ _ _ _ ?_
  intro k hk same
  rw [Nat.mod_eq_of_lt (by omega), Nat.mod_eq_of_lt hq] at same
  omega

end Memory

namespace State

variable {s t : State} {data : List Int} {strict : Bool}

/-- What loading an image makes of a state, field by field. -/
structure Loaded (s : State) (data : List Int) (t : State) : Prop where
  /-- What does not fit into memory is left out. -/
  program : ∀ k (hk : k < data.length), k < 3584 →
    ((t.memory.read (0x200 + k)).toNat : Int) = data[k]
  font : ∀ k (hk : k < font.length), t.memory.read (0x50 + k) = font[k]
  blank : ∀ a < 4096, ¬ (0x50 ≤ a ∧ a < 0xA0) → ¬ (0x200 ≤ a ∧ a < 0x200 + min data.length 3584) →
    t.memory.read a = 0
  rest : t = {
    key := s.key, memory := t.memory, pc := 0x200, display := Bitmap.blank
    stack := CallStack.empty, delay := 0, sound := 0, keypad := Keypad.released
    v := Vector.replicate 16 0, index := 0, opcode := 0, fault := 0, modern := s.modern }

theorem memory_loadBytes (s : State) (bytes : List UInt8) :
    (s.loadBytes bytes).memory =
      (Memory.blank.store 0x50 font).store 0x200 (bytes.take 3584) := by
  simp only [loadBytes, fresh, programStart, programCapacity, memorySize, fontStart, Nat.reduceSub]

theorem loaded_loadBytes (s : State) (bytes : List UInt8) :
    s.Loaded (imageOf bytes) (s.loadBytes bytes) := by
  have length : (imageOf bytes).length = bytes.length := List.length_map _
  have taken : (bytes.take 3584).length = min 3584 bytes.length := List.length_take
  have glyphs : font.length = 80 := length_font
  constructor
  case program =>
    intro k hk fits
    rw [length] at hk
    rw [memory_loadBytes, Memory.read_store _ _ _ k (by omega) (by omega)]
    simp only [imageOf, List.getElem_take, List.getElem_map]
  case font =>
    intro k hk
    rw [memory_loadBytes, Memory.read_store_outside (by omega) (by omega) (by omega)]
    exact Memory.read_store _ _ _ k hk (by omega)
  case blank =>
    intro a ha noFont noProgram
    rw [length] at noProgram
    rw [memory_loadBytes, Memory.read_store_outside (by omega) ha (by omega),
      Memory.read_store_outside (by omega) ha (by omega), Memory.read_blank]
  case rest => rfl

inductive LoadOutcome (s : State) (data : List Int) (strict : Bool) :
    Except Error State → Prop where
  | notAByte (foreign : ∃ n ∈ data, n < 0 ∨ 255 < n) : LoadOutcome s data strict (.error .notAByte)
  | tooLarge (bytes : ∀ n ∈ data, 0 ≤ n ∧ n ≤ 255) (strictly : strict = true)
      (large : 3584 < data.length) :
      LoadOutcome s data strict (.error (.programTooLarge data.length 3584))
  | loaded (bytes : ∀ n ∈ data, 0 ≤ n ∧ n ≤ 255) (fits : strict = true → data.length ≤ 3584)
      {t : State} (loaded : s.Loaded data t) : LoadOutcome s data strict (.ok t)

theorem loadOutcome (s : State) (data : List Int) (strict : Bool) :
    s.LoadOutcome data strict (s.load data strict) := by
  rw [load]
  cases himage : image? data with
  | none => exact .notAByte (image?_eq_none_iff.mp himage)
  | some bytes =>
      have inRange : ∀ n ∈ data, 0 ≤ n ∧ n ≤ 255 := by
        by_contra foreign
        have none := image?_eq_none_iff.mpr (exists_foreign_iff.mpr foreign)
        rw [himage] at none
        cases none
      obtain rfl := image?_eq_some_iff.mp himage
      have length : (imageOf bytes).length = bytes.length := List.length_map _
      dsimp only
      split
      · rename_i large
        rw [Bool.and_eq_true, decide_eq_true_iff] at large
        rw [← length] at large ⊢
        exact .tooLarge inRange large.1 large.2
      · rename_i small
        rw [Bool.and_eq_true, decide_eq_true_iff, ← length] at small
        exact .loaded inRange (fun strictly => Nat.le_of_not_lt fun h => small ⟨strictly, h⟩)
          (loaded_loadBytes s bytes)

namespace LoadOutcome

variable {r : Except Error State}

theorem notAByte_iff (outcome : s.LoadOutcome data strict r) :
    r = .error .notAByte ↔ ∃ n ∈ data, n < 0 ∨ 255 < n := by
  cases outcome with
  | notAByte foreign => exact iff_of_true rfl foreign
  | tooLarge bytes _ _ | loaded bytes _ _ =>
      exact iff_of_false nofun fun foreign => exists_foreign_iff.mp foreign bytes

theorem tooLarge_iff (outcome : s.LoadOutcome data strict r) :
    r = .error (.programTooLarge data.length 3584) ↔
      (∀ n ∈ data, 0 ≤ n ∧ n ≤ 255) ∧ strict = true ∧ 3584 < data.length := by
  cases outcome with
  | tooLarge bytes strictly large => exact iff_of_true rfl ⟨bytes, strictly, large⟩
  | notAByte foreign =>
      exact iff_of_false nofun fun h => exists_foreign_iff.mp foreign h.1
  | loaded _ fits _ =>
      refine iff_of_false nofun ?_
      rintro ⟨-, strictly, large⟩
      exact absurd (fits strictly) (Nat.not_le_of_lt large)

theorem loaded_iff (outcome : s.LoadOutcome data strict r) :
    (∃ t, r = .ok t ∧ s.Loaded data t) ↔
      (∀ n ∈ data, 0 ≤ n ∧ n ≤ 255) ∧ (strict = true → data.length ≤ 3584) := by
  cases outcome with
  | loaded bytes fits loaded => exact iff_of_true ⟨_, rfl, loaded⟩ ⟨bytes, fits⟩
  | notAByte foreign =>
      exact iff_of_false nofun fun h => exists_foreign_iff.mp foreign h.1
  | tooLarge _ strictly large =>
      refine iff_of_false nofun ?_
      rintro ⟨-, fits⟩
      exact absurd (fits strictly) (Nat.not_le_of_lt large)

end LoadOutcome

theorem load_congr {s' : State} (key : s'.key = s.key) (modern : s'.modern = s.modern)
    (data : List Int) (strict : Bool) : s'.load data strict = s.load data strict := by
  simp only [load, loadBytes, key, modern]

theorem after_load (h : s.load data strict = .ok t) (es : List Event) :
    s.after (.load data strict :: es) = t.after es := by
  have first : s.afterEvent (.load data strict) = t := by
    rw [afterEvent, handle, h]
  rw [after_cons, first]

/-- **Loading erases the past.** An image with a number that is no byte is refused as such, an image
of bytes only if loading is strict and it is too long, and any other one is loaded into a fresh
machine. What happens to a machine after that, whatever happened to it before, depends on the key
and the mode that it had. -/
theorem load_erases_the_past (s : State) (data : List Int) (strict : Bool) :
    (s.load data strict = .error .notAByte ↔ ∃ n ∈ data, n < 0 ∨ 255 < n) ∧
    (s.load data strict = .error (.programTooLarge data.length 3584) ↔
      (∀ n ∈ data, 0 ≤ n ∧ n ≤ 255) ∧ strict = true ∧ 3584 < data.length) ∧
    ((∃ t, s.load data strict = .ok t ∧ s.Loaded data t) ↔
      (∀ n ∈ data, 0 ≤ n ∧ n ≤ 255) ∧ (strict = true → data.length ≤ 3584)) ∧
    ∀ s' : State, s'.key = s.key → s'.modern = s.modern →
      s'.load data strict = s.load data strict ∧
      ∀ t, s.load data strict = .ok t → ∀ es : List Event,
        s.after (.load data strict :: es) = t.after es ∧
        s'.after (.load data strict :: es) = t.after es := by
  have outcome := loadOutcome s data strict
  refine ⟨outcome.notAByte_iff, outcome.tooLarge_iff, outcome.loaded_iff, ?_⟩
  intro s' key modern
  have same := load_congr key modern data strict
  refine ⟨same, ?_⟩
  intro t accepted es
  exact ⟨after_load accepted es, after_load (same.trans accepted) es⟩

/-- A machine that has run into a fault with a key held down, and a fresh one. -/
theorem load_erases_the_past_after_a_fault :
    let s := fresh (Random.Key.ofSeed 7) true
    let s' := s.after [.load [0xA3, 0x00, 0xF3, 0x55, 0x00, 0xEE] true, .press 5, .frame 9]
    let bytes : List UInt8 := [0x60, 0x2A, 0x00, 0xE0]
    (s'.key = s.key ∧ s'.modern = s.modern ∧
      s.load (imageOf bytes) true = .ok (s.loadBytes bytes)) ∧
    s'.error? = some (.stackUnderflow 0x204) ∧
      ∀ es : List Event, s'.after (.load (imageOf bytes) true :: es) =
        s.after (.load (imageOf bytes) true :: es) := by
  intro s s' bytes
  have shown : s'.key = s.key ∧ s'.modern = s.modern ∧
      s'.error? = some (.stackUnderflow 0x204) := by decide +kernel
  have accepted : s.load (imageOf bytes) true = .ok (s.loadBytes bytes) := by
    rw [load, image?_imageOf]
    exact if_neg (by decide)
  clear_value s'
  obtain ⟨key, modern, error⟩ := shown
  obtain ⟨-, -, -, forgets⟩ := load_erases_the_past s (imageOf bytes) true
  refine ⟨⟨key, modern, accepted⟩, error, ?_⟩
  intro es
  obtain ⟨first, second⟩ := (forgets s' key modern).2 _ accepted es
  rw [first, second]

end State

end Chip8
