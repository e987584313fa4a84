import Chip8.Disassembly
import Chip8.Proofs.Exchange

/-!
# Reading disassembly back

The text of a word hides the digits of it that its instruction does not read, and shows all those
that it reads: an assembler reads the instruction back (`Instruction.read?_disassemble`). Words with
one text therefore stand for one instruction, or for none, and no machine tells them apart but by
the word that it records (`State.execute_eq_of_disassemble_eq`).
-/

namespace Chip8

namespace Text

/-! ## Hexadecimal digits -/

def hexValue (c : Char) : Nat := "0123456789ABCDEF".toList.idxOf c

def ofHex (cs : List Char) : Nat := cs.foldl (fun n c => 16 * n + hexValue c) 0

theorem hexValue_digit : ∀ d < 16, hexValue (Nat.digitChar d).toUpper = d := by decide

theorem ofHex_concat (cs : List Char) (c : Char) :
    ofHex (cs ++ [c]) = 16 * ofHex cs + hexValue c := by
  rw [ofHex, List.foldl_append]
  rfl

theorem ofHex_toDigits (n : Nat) : ofHex ((Nat.toDigits 16 n).map Char.toUpper) = n := by
  induction n using Nat.strongRecOn with
  | ind n ih =>
      rw [Nat.toDigits_eq_if (by decide)]
      split
      case isTrue small => exact (Nat.zero_add _).trans (hexValue_digit n small)
      case isFalse large =>
        rw [List.map_append, List.map_singleton, ofHex_concat, ih (n / 16) (by omega),
          hexValue_digit (n % 16) (by omega)]
        omega

theorem exists_digit_of_mem {c : Char} {n : Nat} (h : c ∈ Nat.toDigits 16 n) :
    ∃ d < 16, c = Nat.digitChar d := by
  induction n using Nat.strongRecOn with
  | ind n ih =>
      rw [Nat.toDigits_eq_if (by decide)] at h
      split at h
      case isTrue small => exact ⟨n, small, List.mem_singleton.mp h⟩
      case isFalse large =>
        rcases List.mem_append.mp h with h | h
        · exact ih (n / 16) (by omega) h
        · exact ⟨n % 16, by omega, List.mem_singleton.mp h⟩

theorem ofHex_zeros (k : Nat) (cs : List Char) : ofHex (List.replicate k '0' ++ cs) = ofHex cs := by
  induction k with
  | zero => rfl
  | succ k ih => exact ih

theorem toList_hex (width n : Nat) :
    (hex width n).toList =
      List.replicate (width - (Nat.toDigits 16 n).length) '0' ++
        (Nat.toDigits 16 n).map Char.toUpper := by
  rw [hex, if_neg (by omega), padLeft, hexDigits, Int.natAbs_natCast]
  simp

/-- Numbers are read back from their hexadecimal digits. -/
theorem ofHex_hex (width n : Nat) : ofHex (hex width n).toList = n := by
  rw [toList_hex, ofHex_zeros, ofHex_toDigits]

theorem length_hex {width n : Nat} (fits : n < 16 ^ width) (pos : 0 < width) :
    (hex width n).toList.length = width := by
  have h : (Nat.toDigits 16 n).length ≤ width :=
    (Nat.length_toDigits_le_iff (by decide) pos).mpr fits
  rw [toList_hex, List.length_append, List.length_replicate, List.length_map]
  omega

/-! ## Words of a text -/

/-- The words of a text, without the commas behind them. -/
def words (cs : List Char) : List (List Char) := (cs.filter (· != ',')).splitOn ' '

def Plain (cs : List Char) : Prop := ∀ c ∈ cs, c ≠ ',' ∧ c ≠ ' '

instance (cs : List Char) : Decidable (Plain cs) :=
  List.decidableBAll (fun c => c ≠ ',' ∧ c ≠ ' ') cs

theorem Plain.append {cs ds : List Char} (hc : Plain cs) (hd : Plain ds) : Plain (cs ++ ds) :=
  fun c h => (List.mem_append.mp h).elim (hc c) (hd c)

theorem plain_hex (width n : Nat) : Plain (hex width n).toList := by
  rw [toList_hex]
  refine Plain.append ?zeros ?digits
  case zeros =>
    intro c h
    rw [List.eq_of_mem_replicate h]
    decide
  case digits =>
    have upper : ∀ d < 16, (Nat.digitChar d).toUpper ≠ ',' ∧ (Nat.digitChar d).toUpper ≠ ' ' := by
      decide
    intro c h
    obtain ⟨c, hc, rfl⟩ := List.mem_map.mp h
    obtain ⟨d, hd, rfl⟩ := exists_digit_of_mem hc
    exact upper d hd

theorem words_of_plain {cs : List Char} (plain : Plain cs) : words cs = [cs] := by
  have commas : cs.filter (· != ',') = cs :=
    List.filter_eq_self.mpr fun c h => bne_iff_ne.mpr (plain c h).1
  rw [words, commas]
  exact List.splitOn_eq_singleton fun h => (plain ' ' h).2 rfl

theorem words_append_space (cs ds : List Char) :
    words (cs ++ ' ' :: ds) = words cs ++ words ds := by
  rw [words, List.filter_append]
  exact List.splitOn_append_cons_self _ _

theorem words_append_comma (cs ds : List Char) :
    words (cs ++ [',', ' '] ++ ds) = words cs ++ words ds := by
  rw [words, List.filter_append, List.filter_append, List.append_assoc]
  exact List.splitOn_append_cons_self _ _

theorem words_intercalate {css : List (List Char)} (nonempty : css ≠ [])
    (plain : ∀ cs ∈ css, Plain cs) : words ([',', ' '].intercalate css) = css := by
  induction css with
  | nil => exact absurd rfl nonempty
  | cons cs css ih =>
      have first : words cs = [cs] := words_of_plain (plain cs List.mem_cons_self)
      cases css with
      | nil => rw [List.intercalate_singleton, first]
      | cons ds css =>
          rw [List.intercalate_cons_cons, words_append_comma, first,
            ih (List.cons_ne_nil _ _) fun es h => plain es (List.mem_cons_of_mem _ h)]
          rfl

end Text

/-! ## Operands -/

namespace Operand

def ofRegister (n : Nat) : Operand := register ⟨n % 16, by omega⟩

def ofAddress (n : Nat) : Operand := address ⟨n % 4096, by show _ < 4096; omega⟩

/-- The operand of a text. What is no other operand is a number of rows. -/
def read : List Char → Operand
  | 'V' :: cs => ofRegister (Text.ofHex cs)
  | '0' :: 'x' :: cs =>
      if cs.length = 2 then byte (UInt8.ofNat (Text.ofHex cs)) else ofAddress (Text.ofHex cs)
  | ['I'] => index
  | ['[', 'I', ']'] => atIndex
  | ['D', 'T'] => delay
  | ['S', 'T'] => sound
  | ['K'] => key
  | ['F'] => glyph
  | ['B'] => decimal
  | cs => rows ⟨Nat.ofDigitChars 10 cs 0 % 16, by omega⟩

theorem ofRegister_val (x : Register) : ofRegister x.val = register x :=
  congrArg register (Fin.ext (Nat.mod_eq_of_lt x.isLt))

theorem ofAddress_val (a : Address) : ofAddress a.val = address a :=
  congrArg address (Fin.ext (Nat.mod_eq_of_lt a.isLt))

theorem read_register (cs : List Char) : read ("V".toList ++ cs) = ofRegister (Text.ofHex cs) := rfl

theorem read_number (cs : List Char) :
    read ("0x".toList ++ cs) =
      if cs.length = 2 then byte (UInt8.ofNat (Text.ofHex cs)) else ofAddress (Text.ofHex cs) := rfl

theorem read_text (o : Operand) : read o.text.toList = o := by
  cases o with
  | register x =>
      rw [text, String.toList_append, read_register, Text.ofHex_hex, ofRegister_val]
  | byte b =>
      have two : (Text.hex 2 b.toNat).toList.length = 2 := Text.length_hex b.toNat_lt (by decide)
      rw [text, String.toList_append, read_number, if_pos two, Text.ofHex_hex, UInt8.ofNat_toNat]
  | address a =>
      have three : (Text.hex 3 a.val).toList.length = 3 := Text.length_hex a.isLt (by decide)
      rw [text, String.toList_append, read_number, if_neg (by omega), Text.ofHex_hex,
        ofAddress_val]
  | rows n => exact (by decide : ∀ n : Fin 16, read (rows n).text.toList = rows n) n
  | _ => decide

theorem plain_text (o : Operand) : Text.Plain o.text.toList := by
  cases o with
  | register _ | byte _ | address _ =>
      rw [text, String.toList_append]
      exact Text.Plain.append (by decide) (Text.plain_hex _ _)
  | rows n => exact (by decide : ∀ n : Fin 16, Text.Plain (rows n).text.toList) n
  | _ => decide

end Operand

/-! ## Instructions -/

namespace Instruction

def assemble? (mnemonic : String) (operands : List Operand) : Option Instruction :=
  match mnemonic, operands with
  | "SYS", [.address a] => some (.sys a)
  | "CLS", [] => some .cls
  | "RET", [] => some .ret
  | "JP", [.address a] => some (.jp a)
  | "JP", [.register 0, .address a] => some (.jpOffset a)
  | "CALL", [.address a] => some (.call a)
  | "SE", [.register x, .byte b] => some (.seByte x b)
  | "SE", [.register x, .register y] => some (.seReg x y)
  | "SNE", [.register x, .byte b] => some (.sneByte x b)
  | "SNE", [.register x, .register y] => some (.sneReg x y)
  | "ADD", [.register x, .byte b] => some (.addByte x b)
  | "ADD", [.register x, .register y] => some (.addReg x y)
  | "ADD", [.index, .register x] => some (.addIndex x)
  | "OR", [.register x, .register y] => some (.orReg x y)
  | "AND", [.register x, .register y] => some (.andReg x y)
  | "XOR", [.register x, .register y] => some (.xorReg x y)
  | "SUB", [.register x, .register y] => some (.subReg x y)
  | "SHR", [.register x, .register y] => some (.shr x y)
  | "SUBN", [.register x, .register y] => some (.subnReg x y)
  | "SHL", [.register x, .register y] => some (.shl x y)
  | "RND", [.register x, .byte b] => some (.rnd x b)
  | "DRW", [.register x, .register y, .rows n] => some (.drw x y n)
  | "SKP", [.register x] => some (.skp x)
  | "SKNP", [.register x] => some (.sknp x)
  | "LD", [.register x, .byte b] => some (.ldByte x b)
  | "LD", [.register x, .register y] => some (.ldReg x y)
  | "LD", [.index, .address a] => some (.ldIndex a)
  | "LD", [.register x, .delay] => some (.ldFromDelay x)
  | "LD", [.register x, .key] => some (.ldKey x)
  | "LD", [.delay, .register x] => some (.ldDelay x)
  | "LD", [.sound, .register x] => some (.ldSound x)
  | "LD", [.glyph, .register x] => some (.ldGlyph x)
  | "LD", [.decimal, .register x] => some (.ldDecimal x)
  | "LD", [.atIndex, .register x] => some (.storeRegs x)
  | "LD", [.register x, .atIndex] => some (.loadRegs x)
  | _, _ => none

def read? (s : String) : Option Instruction :=
  match Text.words s.toList with
  | [] => none
  | mnemonic :: operands => assemble? (String.ofList mnemonic) (operands.map Operand.read)

theorem assemble?_operands (i : Instruction) : assemble? i.mnemonic i.operands = some i := by
  cases i <;> rfl

theorem plain_mnemonic (i : Instruction) : Text.Plain i.mnemonic.toList := by
  cases i <;> (rw [mnemonic]; decide)

theorem words_text (i : Instruction) :
    Text.words i.text.toList = i.mnemonic.toList :: i.operands.map (·.text.toList) := by
  have name : Text.words i.mnemonic.toList = [i.mnemonic.toList] :=
    Text.words_of_plain (plain_mnemonic i)
  rw [text]
  cases operands : i.operands with
  | nil => exact name
  | cons o os =>
      -- the blank behind the mnemonic ends its word, the commas end all others but the last
      have plain : ∀ cs ∈ (o :: os).map (·.text.toList), Text.Plain cs := by
        intro cs h
        obtain ⟨o, -, rfl⟩ := List.mem_map.mp h
        exact o.plain_text
      have rest := Text.words_intercalate (List.cons_ne_nil _ _) plain
      change Text.words (i.mnemonic ++ " " ++ ", ".intercalate ((o :: os).map (·.text))).toList = _
      rw [String.toList_append, String.toList_append, List.append_assoc,
        String.toList_intercalate, List.map_map]
      refine (Text.words_append_space _ _).trans ?_
      rw [name]
      exact congrArg _ rest

theorem read?_text (i : Instruction) : read? i.text = some i := by
  have operands : (i.operands.map (·.text.toList)).map Operand.read = i.operands := by
    rw [List.map_map]
    exact List.map_id'' Operand.read_text i.operands
  rw [read?, words_text]
  dsimp only
  rw [String.ofList_toList, operands, assemble?_operands]

/-- The instruction that a word stands for is read back from its text. -/
theorem read?_disassemble (w : UInt16) : read? (disassemble w.toNat) = ofWord? w.toNat := by
  have hw := w.toNat_lt
  have small : (w.toNat : Int) % 65536 = w.toNat := by omega
  rw [disassemble, small, ofWord?, Pattern.classify_eq_lookup]
  cases Pattern.lookup decodeTable w.toNat with
  | none =>
      have unknown : Text.words "????".toList = ["????".toList] := Text.words_of_plain (by decide)
      have text : ("???? 0x" ++ Text.hex 4 w.toNat).toList =
          "????".toList ++ ' ' :: ("0x".toList ++ (Text.hex 4 w.toNat).toList) := by
        rw [String.toList_append]
        rfl
      dsimp only [Option.map]
      rw [read?, text, Text.words_append_space, unknown]
      rfl
  | some op => exact read?_text _

end Instruction

/-! ## Words with one text -/

def Exchange.record (w : UInt16) : Exchange where
  opcode _ := w

theorem Exchange.hidden_record (w : UInt16) (s : State) (i : Instruction) :
    (record w).Hidden s i where

namespace State

theorem recorded_exchange (s : State) (w₁ w₂ : UInt16) :
    s.recorded w₂.toNat = (s.recorded w₁.toNat).exchange (.record w₂) := by
  have h : UInt16.ofNat ((w₂.toNat : Int) % 65536).toNat = w₂ := opcode_recorded s w₂
  rw [recorded, h]
  rfl

theorem execute_of_ofWord?_eq {w₁ w₂ : UInt16}
    (same : Instruction.ofWord? w₁.toNat = Instruction.ofWord? w₂.toNat) (s : State) :
    s.execute w₂.toNat = { s.execute w₁.toNat with opcode := w₂ } := by
  rw [execute, execute, ← same]
  cases Instruction.ofWord? w₁.toNat with
  | none =>
      change (s.recorded w₂.toNat).raise .unsupportedOpcode =
        ((s.recorded w₁.toNat).raise .unsupportedOpcode).exchange (.record w₂)
      rw [recorded_exchange s w₁ w₂]
      rfl
  | some i =>
      change (s.recorded w₂.toNat).perform i =
        ((s.recorded w₁.toNat).perform i).exchange (.record w₂)
      rw [recorded_exchange s w₁ w₂]
      exact perform_exchange (Exchange.hidden_record w₂ _ i)

/-- **The text of a word tells all that it does.** Words with one text stand for one instruction, or
neither of them does for any, and what they do to a machine is the same but for the word that it
records: both halt it, for one reason, or neither does. -/
theorem execute_eq_of_disassemble_eq {w₁ w₂ : UInt16}
    (same : disassemble w₁.toNat = disassemble w₂.toNat) :
    Instruction.ofWord? w₁.toNat = Instruction.ofWord? w₂.toNat ∧
      ∀ s : State, s.execute w₂.toNat = { s.execute w₁.toNat with opcode := w₂ } := by
  have instructions : Instruction.ofWord? w₁.toNat = Instruction.ofWord? w₂.toNat := by
    rw [← Instruction.read?_disassemble, same, Instruction.read?_disassemble]
  exact ⟨instructions, execute_of_ofWord?_eq instructions⟩

/-- The last digit of a word 5XYN is not shown, and it is not read either. -/
theorem execute_eq_of_disassemble_eq_skip :
    disassemble 0x5120 = disassemble 0x5127 ∧
    ∀ s : State, s.execute 0x5127 = { s.execute 0x5120 with opcode := 0x5127 } := by
  have same : disassemble (0x5120 : UInt16).toNat = disassemble (0x5127 : UInt16).toNat := by
    decide +kernel
  exact ⟨same, (execute_eq_of_disassemble_eq same).2⟩

end State

end Chip8
