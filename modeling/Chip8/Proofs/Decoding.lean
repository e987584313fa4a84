import Chip8.Execute
import Chip8.Proofs.WordForm

/-!
# Two decoders, and words of any size

The first entry of a table that accepts a word decides what it is, whether the table is searched
from the front or folded from the back (`Pattern.lookup_eq_some_iff`). The masks of the instruction
set have sixteen bits, so that whatever a word shows above them, a negative one included, makes no
difference to either decoder, to the operands, or to what is executed. Two entries that accept one
word agree on the bits that both of them look at (`Pattern.bits_and_mask_comm`), which singles out
the exact words among those of the form 0NNN.
-/

namespace Chip8

namespace Bits

/-! ## Junk above sixteen bits -/

theorem digit_and_complement : ∀ d < 16, ∀ e < 16, (15 - d &&& e) + (d &&& e) = e := by
  decide

/-- Every bit of a mask is one of a word or one of those that the word lacks. -/
theorem and_complement {a m : Nat} (ha : a < 65536) (hm : m < 65536) :
    (65535 - a &&& m) + (a &&& m) = m := by
  have digit (d e : Nat) (hd : d < 16) (he : e < 16) := digit_and_complement d hd e he
  have first := digit (a / 4096) (m / 4096) (by omega) (by omega)
  have second := digit (a / 256 % 16) (m / 256 % 16) (by omega) (by omega)
  have third := digit (a / 16 % 16) (m / 16 % 16) (by omega) (by omega)
  have last := digit (a % 16) (m % 16) (by omega) (by omega)
  have h₁ : (65535 - a) / 4096 = 15 - a / 4096 := by omega
  have h₂ : (65535 - a) / 256 % 16 = 15 - a / 256 % 16 := by omega
  have h₃ : (65535 - a) / 16 % 16 = 15 - a / 16 % 16 := by omega
  have h₄ : (65535 - a) % 16 = 15 - a % 16 := by omega
  rw [and_eq_digits a, and_eq_digits (65535 - a), h₁, h₂, h₃, h₄]
  omega

theorem mod_and {m : Nat} (hm : m < 65536) (a : Nat) : a % 65536 &&& m = a &&& m := by
  have same : (a &&& m) % 65536 = a % 65536 &&& m % 65536 := Nat.and_mod_two_pow (n := 16)
  rw [Nat.mod_eq_of_lt hm, Nat.mod_eq_of_lt (Nat.lt_of_le_of_lt Nat.and_le_right hm)] at same
  exact same.symm

/-- A mask of sixteen bits does not see what is above them, nor a sign. -/
theorem and_emod (w : Int) {m : Nat} (hm : m < 65536) : and (w % 65536) m = and w m := by
  cases w with
  | ofNat a => exact congrArg Int.ofNat (mod_and hm a)
  | negSucc a =>
      have residue : Int.negSucc a % 65536 = ((65535 - a % 65536 : Nat) : Int) := by omega
      have bits := and_complement (Nat.mod_lt a (by decide)) hm
      rw [mod_and hm] at bits
      rw [residue]
      refine congrArg Int.ofNat ?_
      omega

end Bits

namespace Fields

/-- The operands are digits of the low sixteen bits. -/
theorem ofWord_emod (w : Int) : ofWord (w % 65536) = ofWord w := by
  have byte : w % 65536 % 256 = w % 256 := by omega
  have address : w % 65536 % 4096 = w % 4096 := by omega
  simp only [ofWord, Bits.digit_emod w (show 0 < 4 by decide),
    Bits.digit_emod w (show 1 < 4 by decide), Bits.digit_emod w (show 2 < 4 by decide),
    Bits.digit_emod w (show 3 < 4 by decide), byte, address]

end Fields

namespace Pattern

variable {table before after : List Pattern} {p q : Pattern} {op : Operation} {w w' : Int}

/-! ## The first entry that accepts -/

/-- **The first entry that accepts a word decides what it is.** -/
theorem lookup_eq_some_iff : lookup table w = some op ↔
    ∃ before p after, table = before ++ p :: after ∧ (∀ q ∈ before, q.accepts w = false) ∧
      p.accepts w = true ∧ p.operation = op := by
  rw [lookup, Option.map_eq_some_iff]
  constructor
  · rintro ⟨p, found, rfl⟩
    obtain ⟨accepts, before, after, rfl, earlier⟩ := List.find?_eq_some_iff_append.mp found
    refine ⟨before, p, after, rfl, ?_, accepts, rfl⟩
    intro q hq
    exact (Bool.not_eq_true' _).mp (earlier q hq)
  · rintro ⟨before, p, after, rfl, earlier, accepts, rfl⟩
    refine ⟨p, List.find?_eq_some_iff_append.mpr ⟨accepts, before, after, rfl, ?_⟩, rfl⟩
    intro q hq
    exact (Bool.not_eq_true' _).mpr (earlier q hq)

theorem lookup_eq_none_iff_accepts :
    lookup table w = none ↔ ∀ p ∈ table, p.accepts w = false := by
  simp only [lookup, Option.map_eq_none_iff, List.find?_eq_none, Bool.not_eq_true]

/-- A table does not tell words apart that each of its entries takes for the same. -/
theorem lookup_congr (same : ∀ p ∈ table, p.accepts w = p.accepts w') :
    lookup table w = lookup table w' := by
  induction table with
  | nil => rfl
  | cons p rest ih =>
      obtain ⟨first, later⟩ := List.forall_mem_cons.mp same
      have ih := ih later
      rw [lookup, lookup] at ih
      rw [lookup, lookup, List.find?_cons, List.find?_cons, first]
      cases p.accepts w' with
      | true => rfl
      | false => exact ih

/-! ## Words of any size -/

theorem mask_of_mem : ∀ p ∈ decodeTable, ∃ m : Nat, p.mask = m ∧ m < 65536 := by
  intro p hp
  have short : ∀ p ∈ decodeTable, 0 ≤ p.mask ∧ p.mask < 65536 := by decide
  obtain ⟨nonneg, lt⟩ := short p hp
  exact ⟨p.mask.toNat, by omega, by omega⟩

theorem accepts_emod (hp : p ∈ decodeTable) (w : Int) : p.accepts (w % 65536) = p.accepts w := by
  obtain ⟨m, hmask, hm⟩ := mask_of_mem p hp
  rw [accepts, accepts, hmask, Bits.and_emod w hm]

theorem lookup_emod (w : Int) : lookup decodeTable (w % 65536) = lookup decodeTable w :=
  lookup_congr fun _ hp => accepts_emod hp w

/-! ## Entries that accept one word -/

/-- Of two entries that accept one word, each has the bits of the other where both look. -/
theorem bits_and_mask_comm (hp : p ∈ decodeTable) (hq : q ∈ decodeTable)
    (acceptsp : p.accepts w = true) (acceptsq : q.accepts w = true) :
    Bits.and p.bits q.mask = Bits.and q.bits p.mask := by
  obtain ⟨m, hm, -⟩ := mask_of_mem p hp
  obtain ⟨k, hk, -⟩ := mask_of_mem q hq
  obtain ⟨n, hn⟩ := Int.eq_ofNat_of_zero_le (Int.emod_nonneg w (by decide : (65536 : Int) ≠ 0))
  rw [← accepts_emod hp, hn, accepts, hm, beq_iff_eq] at acceptsp
  rw [← accepts_emod hq, hn, accepts, hk, beq_iff_eq] at acceptsq
  rw [← acceptsp, ← acceptsq, hm, hk]
  change (((n &&& m) &&& k : Nat) : Int) = ((n &&& k) &&& m : Nat)
  rw [Nat.and_assoc, Nat.and_comm m k, ← Nat.and_assoc]

theorem operations_of_comm : decodeTable.Pairwise fun p q =>
    Bits.and p.bits q.mask = Bits.and q.bits p.mask →
      (p.operation = .cls ∨ p.operation = .ret) ∧ q.operation = .sys := by
  decide +kernel

/-- Only an exact word is accepted by two entries: by its own and by that of the form 0NNN. -/
theorem operations_of_overlap : decodeTable.Pairwise fun p q =>
    ∀ w : Int, p.accepts w = true → q.accepts w = true →
      (p.operation = .cls ∨ p.operation = .ret) ∧ q.operation = .sys := by
  refine operations_of_comm.imp_of_mem fun hp hq operations w acceptsp acceptsq => ?_
  exact operations (bits_and_mask_comm hp hq acceptsp acceptsq)

/-- An entry that no earlier one overlaps decides on all the words that it accepts. -/
theorem lookup_of_ne_sys (hp : p ∈ decodeTable) (exact : p.operation ≠ .sys)
    (accepts : p.accepts w = true) : lookup decodeTable w = some p.operation := by
  obtain ⟨before, after, htable⟩ := List.append_of_mem hp
  have pairs := operations_of_overlap
  rw [htable, List.pairwise_append] at pairs
  refine lookup_eq_some_iff.mpr ⟨before, p, after, htable, ?_, accepts, rfl⟩
  intro q hq
  rw [← Bool.not_eq_true]
  intro acceptsq
  exact exact (pairs.2.2 q hq p List.mem_cons_self w acceptsq accepts).2

/-- A word of any size decodes to the operation whose form it has. The form 0NNN is left out, for it
has exact words in it that mean something else. -/
theorem lookup_of_form (form : op.Form (Fields.ofWord w)) (exact : op ≠ .sys) :
    lookup decodeTable w = some op := by
  obtain ⟨p, hp, rfl⟩ := exists_entry op
  obtain ⟨n, hn⟩ := Int.eq_ofNat_of_zero_le (Int.emod_nonneg w (by decide : (65536 : Int) ≠ 0))
  refine lookup_of_ne_sys hp exact ?_
  rwa [← accepts_emod hp, hn, accepts_iff_form n p hp, ← hn, Fields.ofWord_emod]

end Pattern

/-! ## The operands, put together again -/

/-- Are these the operands of the word, so that they can be put together to its low sixteen bits? -/
structure Fields.Recombine (f : Fields) (w : Int) : Prop where
  word : (4096 * f.leading.val + f.nnn.val : Nat) = w % 65536
  address : f.nnn.val = 256 * f.x.val + f.nn.toNat
  byte : f.nn.toNat = 16 * f.y.val + f.n.val

theorem Fields.recombine_ofWord (w : Int) : (ofWord w).Recombine w := by
  have nn : (ofWord w).nn.toNat = (w % 256).toNat := by
    rw [ofWord, UInt8.toNat_ofNat']
    omega
  constructor
  case word =>
    simp only [ofWord, Bits.digit, Nat.pow_eq]
    omega
  case address | byte =>
    rw [nn]
    simp only [ofWord, Bits.digit, Nat.pow_eq]
    omega

namespace State

theorem execute_emod (s : State) (w : Int) : s.execute (w % 65536) = s.execute w := by
  have word : w % 65536 % 65536 = w % 65536 := by omega
  have instruction : Instruction.ofWord? (w % 65536) = Instruction.ofWord? w := by
    simp only [Instruction.ofWord?, Pattern.classify_eq_lookup, Pattern.lookup_emod,
      Fields.ofWord_emod]
  rw [execute, execute, word, instruction]

end State

/-- **The two decoders agree.** On every table and for every word both find the first entry that
accepts the word, or nothing. Of the instruction set and the operands they see the low sixteen bits
of a word only, to which the operands can be put together again, and so does the machine that
executes it. The only entries that overlap are an exact word and the form 0NNN, of which the exact
word wins. -/
theorem decoders_agree :
    (∀ (table : List Pattern) (w : Int),
      Pattern.classify table w = Pattern.lookup table w ∧
      (∀ op, Pattern.classify table w = some op ↔
        ∃ before p after, table = before ++ p :: after ∧ (∀ q ∈ before, q.accepts w = false) ∧
          p.accepts w = true ∧ p.operation = op) ∧
      (Pattern.classify table w = none ↔ ∀ p ∈ table, p.accepts w = false)) ∧
    (∀ w w' : Int, w % 65536 = w' % 65536 →
      Pattern.classify decodeTable w = Pattern.classify decodeTable w' ∧
      Pattern.lookup decodeTable w = Pattern.lookup decodeTable w' ∧
      Fields.ofWord w = Fields.ofWord w') ∧
    (∀ w : Int, (Fields.ofWord w).Recombine w) ∧
    (∀ (s : State) (w : Int), s.execute w = s.execute (w % 65536) ∧
      (Bits.fits 32 w = true → s.executeGiven w = .ok (s.execute (w % 65536)))) ∧
    (decodeTable.Pairwise fun p q => ∀ w : Int, p.accepts w = true → q.accepts w = true →
      (p.operation = .cls ∨ p.operation = .ret) ∧ q.operation = .sys ∧
        Pattern.lookup decodeTable w = some p.operation) ∧
    ∀ op, op = .cls ∨ op = .ret → ∃ p ∈ decodeTable, ∃ q ∈ decodeTable,
      p.operation = op ∧ q.operation = .sys ∧
        ∃ w : Int, p.accepts w = true ∧ q.accepts w = true := by
  refine ⟨?_, ?_, Fields.recombine_ofWord, ?_, ?_, ?_⟩
  · intro table w
    rw [Pattern.classify_eq_lookup]
    exact ⟨rfl, fun op => Pattern.lookup_eq_some_iff, Pattern.lookup_eq_none_iff_accepts⟩
  · intro w w' same
    rw [Pattern.classify_eq_lookup, Pattern.classify_eq_lookup]
    have lookup : Pattern.lookup decodeTable w = Pattern.lookup decodeTable w' := by
      rw [← Pattern.lookup_emod, same, Pattern.lookup_emod]
    refine ⟨lookup, lookup, ?_⟩
    rw [← Fields.ofWord_emod, same, Fields.ofWord_emod]
  · intro s w
    refine ⟨(s.execute_emod w).symm, ?_⟩
    intro fits
    rw [State.executeGiven, if_pos fits, State.execute_emod]
  · refine Pattern.operations_of_overlap.imp_of_mem ?_
    intro p q hp _ operations w acceptsp acceptsq
    obtain ⟨exact, sys⟩ := operations w acceptsp acceptsq
    have other : p.operation ≠ .sys := by
      rcases exact with h | h <;> rw [h] <;> nofun
    exact ⟨exact, sys, Pattern.lookup_of_ne_sys hp other acceptsp⟩
  · intro op hop
    rcases hop with rfl | rfl
    · exact ⟨_, .head _, _, .tail _ (.tail _ (.head _)), rfl, rfl, 0x00E0, rfl, rfl⟩
    · exact ⟨_, .tail _ (.head _), _, .tail _ (.tail _ (.head _)), rfl, rfl, 0x00EE, rfl, rfl⟩

/-- A negative word that clears the screen, although it is also of the form 0NNN. -/
theorem decoders_agree_below_zero :
    let w : Int := 0x00E0 - 0x10000
    let sys : Pattern := ⟨0xF000, 0x0000, .sys⟩
    let s := State.fresh (Random.Key.ofSeed 7) true
    (w % 65536 = 0x00E0 % 65536 ∧ Bits.fits 32 w = true ∧ sys ∈ decodeTable ∧
      sys.accepts w = true) ∧
    Pattern.classify decodeTable w = some .cls ∧ Pattern.lookup decodeTable w = some .cls ∧
      s.executeGiven w = .ok (s.execute 0x00E0) := by
  intro w sys s
  obtain ⟨-, words, -, execution, pairs, -⟩ := decoders_agree
  have same : w % 65536 = 0x00E0 % 65536 := rfl
  have accepts : sys.accepts w = true := rfl
  obtain ⟨first, -⟩ := List.pairwise_cons.mp pairs
  obtain ⟨-, -, exact⟩ := first sys (.tail _ (.head _)) w rfl accepts
  refine ⟨⟨same, rfl, .tail _ (.tail _ (.head _)), accepts⟩, ?_, exact, (execution s w).2 rfl⟩
  rw [(words w 0x00E0 same).1]
  rfl

end Chip8
