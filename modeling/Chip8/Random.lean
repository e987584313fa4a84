/-!
# Random bytes

Random bytes come from the counter-based generator Threefry with two 32-bit words and twenty
rounds. Its state is a key of two words. Encrypting the counters (0, 0) and (0, 1) under the key
splits it: the first result is the next key, the second the key of the byte drawn now. Nothing
but the key decides what is drawn, so the stream of bytes is a function of the seed.
-/

namespace Chip8.Random

structure Key where
  k0 : UInt32
  k1 : UInt32
deriving DecidableEq

abbrev Block := UInt32 × UInt32

/-! ## The block cipher -/

/-- Rotates a word to the left, by 0 < `r` < 32. -/
def rotateLeft (w r : UInt32) : UInt32 := w <<< r ||| w >>> (32 - r)

/-- One round: add, rotate, exclude. -/
def mix (b : Block) (r : UInt32) : Block :=
  let sum := b.1 + b.2
  (sum, rotateLeft b.2 r ^^^ sum)

/-- The rotations of the `i`-th group of four rounds. -/
def rotations (i : Nat) : List UInt32 :=
  if i % 2 = 0 then [13, 15, 26, 6] else [17, 29, 16, 24]

/-- The key words in turn; the third one is the parity word. -/
def Key.word (k : Key) (i : Nat) : UInt32 :=
  match i % 3 with
  | 0 => k.k0
  | 1 => k.k1
  | _ => k.k0 ^^^ k.k1 ^^^ 0x1BD11BDA

/-- Four rounds, after which the key words of the group and the number of the group are added. -/
def group (k : Key) (b : Block) (i : Nat) : Block :=
  let b := (rotations i).foldl mix b
  (b.1 + k.word (i + 1), b.2 + k.word (i + 2) + UInt32.ofNat (i + 1))

/-- The encryption of a block: the key is added, then five groups of four rounds. -/
def encrypt (k : Key) (b : Block) : Block :=
  (List.range 5).foldl (group k) (b.1 + k.word 0, b.2 + k.word 1)

/-! ## Keys and bytes -/

/-- The key of a seed: the low 32 bits of a signed 64-bit number. -/
def Key.ofSeed (seed : Int) : Key := ⟨0, UInt32.ofNat (seed % 0x100000000).toNat⟩

def isSeed (seed : Int) : Bool := -0x8000000000000000 ≤ seed && seed < 0x8000000000000000

def Key.next (k : Key) : Key :=
  let b := encrypt k (0, 0)
  ⟨b.1, b.2⟩

def Key.byte (k : Key) : UInt8 :=
  let sub := encrypt k (0, 1)
  let b := encrypt ⟨sub.1, sub.2⟩ (0, 0)
  (b.1 ^^^ b.2).toUInt8

def Key.after (k : Key) : Nat → Key
  | 0 => k
  | n + 1 => (k.after n).next

end Chip8.Random
