import Chip8.Instruction

/-!
# The forms of instruction words

Seen digit by digit, the words of an operation are those of one form: 1NNN, 8XY4, FX33 and so on
(`Operation.Form`). The decode table compares digits under a mask, so that an entry of it accepts
just the words of one form (`Pattern.accepts_iff_form`). A word that decodes therefore has the form
of its operation, and a word that does not decode has none of the forms
(`Pattern.lookup_eq_none_iff`).
-/

namespace Chip8

namespace Operation

/-- Do the digits of a word fit the operation? An exact word is also one of the form 0NNN. -/
def Form (f : Fields) : Operation → Prop
  | sys => f.leading.val = 0x0
  | cls => f.leading.val = 0x0 ∧ f.x.val = 0x0 ∧ f.nn = 0xE0
  | ret => f.leading.val = 0x0 ∧ f.x.val = 0x0 ∧ f.nn = 0xEE
  | jp => f.leading.val = 0x1
  | call => f.leading.val = 0x2
  | seByte => f.leading.val = 0x3
  | sneByte => f.leading.val = 0x4
  | seReg => f.leading.val = 0x5
  | ldByte => f.leading.val = 0x6
  | addByte => f.leading.val = 0x7
  | ldReg => f.leading.val = 0x8 ∧ f.n.val = 0x0
  | orReg => f.leading.val = 0x8 ∧ f.n.val = 0x1
  | andReg => f.leading.val = 0x8 ∧ f.n.val = 0x2
  | xorReg => f.leading.val = 0x8 ∧ f.n.val = 0x3
  | addReg => f.leading.val = 0x8 ∧ f.n.val = 0x4
  | subReg => f.leading.val = 0x8 ∧ f.n.val = 0x5
  | shr => f.leading.val = 0x8 ∧ f.n.val = 0x6
  | subnReg => f.leading.val = 0x8 ∧ f.n.val = 0x7
  | shl => f.leading.val = 0x8 ∧ f.n.val = 0xE
  | sneReg => f.leading.val = 0x9
  | ldIndex => f.leading.val = 0xA
  | jpOffset => f.leading.val = 0xB
  | rnd => f.leading.val = 0xC
  | drw => f.leading.val = 0xD
  | skp => f.leading.val = 0xE ∧ f.nn = 0x9E
  | sknp => f.leading.val = 0xE ∧ f.nn = 0xA1
  | ldFromDelay => f.leading.val = 0xF ∧ f.nn = 0x07
  | ldKey => f.leading.val = 0xF ∧ f.nn = 0x0A
  | ldDelay => f.leading.val = 0xF ∧ f.nn = 0x15
  | ldSound => f.leading.val = 0xF ∧ f.nn = 0x18
  | addIndex => f.leading.val = 0xF ∧ f.nn = 0x1E
  | ldGlyph => f.leading.val = 0xF ∧ f.nn = 0x29
  | ldDecimal => f.leading.val = 0xF ∧ f.nn = 0x33
  | storeRegs => f.leading.val = 0xF ∧ f.nn = 0x55
  | loadRegs => f.leading.val = 0xF ∧ f.nn = 0x65

end Operation

namespace Fields

theorem leading_ofWord (n : Nat) : (ofWord n).leading.val = n / 4096 % 16 := by
  simp only [ofWord, Bits.digit, Nat.pow_eq]
  omega

theorem x_ofWord (n : Nat) : (ofWord n).x.val = n / 256 % 16 := by
  simp only [ofWord, Bits.digit, Nat.pow_eq]
  omega

theorem n_ofWord (n : Nat) : (ofWord n).n.val = n % 16 := by
  simp only [ofWord, Bits.digit, Nat.pow_eq]
  omega

theorem nn_ofWord (n : Nat) : (ofWord n).nn.toNat = n % 256 := by
  simp only [ofWord, UInt8.toNat_ofNat']
  omega

end Fields

/-! ## Digits under a mask -/

namespace Bits

theorem and_fifteen (n : Nat) : n &&& 15 = n % 16 := Nat.and_two_pow_sub_one_eq_mod n 4

theorem and_eq_digits (n m : Nat) :
    n &&& m = (n / 4096 &&& m / 4096) * 4096 + (n / 256 % 16 &&& m / 256 % 16) * 256 +
      (n / 16 % 16 &&& m / 16 % 16) * 16 + (n % 16 &&& m % 16) := by
  have high : (n &&& m) / 4096 = n / 4096 &&& m / 4096 := Nat.and_div_two_pow (n := 12)
  have third : (n &&& m) / 256 = n / 256 &&& m / 256 := Nat.and_div_two_pow (n := 8)
  have second : (n &&& m) / 16 = n / 16 &&& m / 16 := Nat.and_div_two_pow (n := 4)
  have digit (a b : Nat) : (a &&& b) % 16 = a % 16 &&& b % 16 := Nat.and_mod_two_pow (n := 4)
  rw [← high, ← digit, ← digit, ← digit, ← third, ← second]
  omega

end Bits

namespace Pattern

variable (n : Nat) (op : Operation)

theorem accepts_natCast_iff (m b : Nat) :
    (⟨m, b, op⟩ : Pattern).accepts n = true ↔
      (n / 4096 &&& m / 4096) * 4096 + (n / 256 % 16 &&& m / 256 % 16) * 256 +
        (n / 16 % 16 &&& m / 16 % 16) * 16 + (n % 16 &&& m % 16) = b := by
  rw [← Bits.and_eq_digits]
  change (((n &&& m : Nat) : Int) == (b : Int)) = true ↔ _
  rw [beq_iff_eq, Int.natCast_inj]

theorem accepts_word_iff (d e : Fin 16) (b : UInt8) :
    (⟨0xFFFF, (d.val * 4096 + e.val * 256 + b.toNat : Nat), op⟩ : Pattern).accepts n = true ↔
      (Fields.ofWord n).leading.val = d.val ∧ (Fields.ofWord n).x.val = e.val ∧
        (Fields.ofWord n).nn = b := by
  have hb := b.toNat_lt
  refine (accepts_natCast_iff n op 0xFFFF _).trans ?_
  simp only [Nat.reduceDiv, Nat.reduceMod, Bits.and_fifteen, Fields.leading_ofWord, Fields.x_ofWord,
    ← UInt8.toNat_inj, Fields.nn_ofWord]
  omega

theorem accepts_leading_iff (d : Fin 16) :
    (⟨0xF000, (d.val * 4096 : Nat), op⟩ : Pattern).accepts n = true ↔
      (Fields.ofWord n).leading.val = d.val := by
  refine (accepts_natCast_iff n op 0xF000 _).trans ?_
  simp only [Nat.reduceDiv, Nat.reduceMod, Nat.and_zero, Bits.and_fifteen, Fields.leading_ofWord]
  omega

theorem accepts_leading_n_iff (d e : Fin 16) :
    (⟨0xF00F, (d.val * 4096 + e.val : Nat), op⟩ : Pattern).accepts n = true ↔
      (Fields.ofWord n).leading.val = d.val ∧ (Fields.ofWord n).n.val = e.val := by
  refine (accepts_natCast_iff n op 0xF00F _).trans ?_
  simp only [Nat.reduceDiv, Nat.reduceMod, Nat.and_zero, Bits.and_fifteen, Fields.leading_ofWord,
    Fields.n_ofWord]
  omega

theorem accepts_leading_nn_iff (d : Fin 16) (b : UInt8) :
    (⟨0xF0FF, (d.val * 4096 + b.toNat : Nat), op⟩ : Pattern).accepts n = true ↔
      (Fields.ofWord n).leading.val = d.val ∧ (Fields.ofWord n).nn = b := by
  have hb := b.toNat_lt
  refine (accepts_natCast_iff n op 0xF0FF _).trans ?_
  simp only [Nat.reduceDiv, Nat.reduceMod, Nat.and_zero, Bits.and_fifteen, Fields.leading_ofWord,
    ← UInt8.toNat_inj, Fields.nn_ofWord]
  omega

/-- **Every entry of the table accepts just the words of its operation's form.** -/
theorem accepts_iff_form :
    ∀ p ∈ decodeTable, p.accepts n = true ↔ p.operation.Form (Fields.ofWord n) := by
  simp only [decodeTable, List.forall_mem_cons]
  exact ⟨accepts_word_iff n _ 0x0 0x0 0xE0, accepts_word_iff n _ 0x0 0x0 0xEE,
    accepts_leading_iff n _ 0x0, accepts_leading_iff n _ 0x1, accepts_leading_iff n _ 0x2,
    accepts_leading_iff n _ 0x3, accepts_leading_iff n _ 0x4, accepts_leading_iff n _ 0x5,
    accepts_leading_iff n _ 0x6, accepts_leading_iff n _ 0x7, accepts_leading_iff n _ 0x9,
    accepts_leading_iff n _ 0xA, accepts_leading_iff n _ 0xB, accepts_leading_iff n _ 0xC,
    accepts_leading_iff n _ 0xD,
    accepts_leading_n_iff n _ 0x8 0x0, accepts_leading_n_iff n _ 0x8 0x1,
    accepts_leading_n_iff n _ 0x8 0x2, accepts_leading_n_iff n _ 0x8 0x3,
    accepts_leading_n_iff n _ 0x8 0x4, accepts_leading_n_iff n _ 0x8 0x5,
    accepts_leading_n_iff n _ 0x8 0x6, accepts_leading_n_iff n _ 0x8 0x7,
    accepts_leading_n_iff n _ 0x8 0xE,
    accepts_leading_nn_iff n _ 0xE 0x9E, accepts_leading_nn_iff n _ 0xE 0xA1,
    accepts_leading_nn_iff n _ 0xF 0x07, accepts_leading_nn_iff n _ 0xF 0x0A,
    accepts_leading_nn_iff n _ 0xF 0x15, accepts_leading_nn_iff n _ 0xF 0x18,
    accepts_leading_nn_iff n _ 0xF 0x1E, accepts_leading_nn_iff n _ 0xF 0x29,
    accepts_leading_nn_iff n _ 0xF 0x33, accepts_leading_nn_iff n _ 0xF 0x55,
    accepts_leading_nn_iff n _ 0xF 0x65, nofun⟩

/-! ## Words that decode, and words that do not -/

variable {n op}

theorem form_of_lookup (h : lookup decodeTable n = some op) : op.Form (Fields.ofWord n) := by
  obtain ⟨p, hfind, rfl⟩ := Option.map_eq_some_iff.mp h
  have haccepts : p.accepts n = true := List.find?_some (p := fun p : Pattern => p.accepts n) hfind
  exact (accepts_iff_form n p (List.mem_of_find?_eq_some hfind)).mp haccepts

theorem exists_entry (op : Operation) : ∃ p ∈ decodeTable, p.operation = op := by
  have h : op ∈ decodeTable.map (·.operation) := by cases op <;> decide
  exact List.mem_map.mp h

/-- A word decodes to nothing just if it has none of the forms. -/
theorem lookup_eq_none_iff :
    lookup decodeTable n = none ↔ ∀ op : Operation, ¬ op.Form (Fields.ofWord n) := by
  rw [lookup, Option.map_eq_none_iff, List.find?_eq_none]
  constructor
  · intro h op hform
    obtain ⟨p, hp, rfl⟩ := exists_entry op
    exact h p hp ((accepts_iff_form n p hp).mpr hform)
  · intro h p hp haccepts
    exact h p.operation ((accepts_iff_form n p hp).mp haccepts)

end Pattern

end Chip8
