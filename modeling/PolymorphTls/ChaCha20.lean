/-
The ChaCha20 stream cipher with a 32-bit block counter: the block function, the keystream
of a key and a nonce, and a cipher that walks it.

## Why the cipher stops one block early

The counter is a word of the block's input, so there are 2³² blocks. A cipher that keeps
the number of the *next* block in that word cannot keep the number 2³², and the usual
implementation therefore counts the blocks it may still make as `(2³² - 1) - next`: the
last block, whose counter is all ones, is counted as gone before it was made.
`Stream.apply` refuses exactly there (`Stream.apply_at`).
-/
import Mathlib.Algebra.Group.Nat.Defs
import Mathlib.Data.List.Basic

set_option autoImplicit false

namespace ChaCha20

/-! ## The block function -/

/-- Rotation of a word to the left. -/
def rotl (x n : UInt32) : UInt32 := x <<< n ||| x >>> (32 - n)

/-- Four words of the state, a column or a diagonal of it. -/
structure Quad where
  a : UInt32
  b : UInt32
  c : UInt32
  d : UInt32

def quarterRound (q : Quad) : Quad :=
  let a := q.a + q.b
  let d := rotl (q.d ^^^ a) 16
  let c := q.c + d
  let b := rotl (q.b ^^^ c) 12
  let a := a + b
  let d := rotl (d ^^^ a) 8
  let c := c + d
  let b := rotl (b ^^^ c) 7
  ⟨a, b, c, d⟩

/-- The sixteen words, by columns. -/
structure State where
  c0 : Quad
  c1 : Quad
  c2 : Quad
  c3 : Quad

/-- A round on the columns, then one on the diagonals. -/
def doubleRound (s : State) : State :=
  let c0 := quarterRound s.c0
  let c1 := quarterRound s.c1
  let c2 := quarterRound s.c2
  let c3 := quarterRound s.c3
  let d0 := quarterRound ⟨c0.a, c1.b, c2.c, c3.d⟩
  let d1 := quarterRound ⟨c1.a, c2.b, c3.c, c0.d⟩
  let d2 := quarterRound ⟨c2.a, c3.b, c0.c, c1.d⟩
  let d3 := quarterRound ⟨c3.a, c0.b, c1.c, c2.d⟩
  ⟨⟨d0.a, d3.b, d2.c, d1.d⟩, ⟨d1.a, d0.b, d3.c, d2.d⟩,
   ⟨d2.a, d1.b, d0.c, d3.d⟩, ⟨d3.a, d2.b, d1.c, d0.d⟩⟩

def rounds : ℕ → State → State
  | 0, s => s
  | n + 1, s => rounds n (doubleRound s)

def Quad.add (p q : Quad) : Quad := ⟨p.a + q.a, p.b + q.b, p.c + q.c, p.d + q.d⟩

def State.add (s t : State) : State :=
  ⟨s.c0.add t.c0, s.c1.add t.c1, s.c2.add t.c2, s.c3.add t.c3⟩

/-- The sixteen words, by rows. -/
def State.words (s : State) : Vector UInt32 16 :=
  #v[s.c0.a, s.c1.a, s.c2.a, s.c3.a, s.c0.b, s.c1.b, s.c2.b, s.c3.b,
     s.c0.c, s.c1.c, s.c2.c, s.c3.c, s.c0.d, s.c1.d, s.c2.d, s.c3.d]

/-- The number four bytes stand for, the low byte first. -/
def valueLE (bytes : Vector UInt8 4) : ℕ :=
  bytes[0].toNat + 2 ^ 8 * bytes[1].toNat + 2 ^ 16 * bytes[2].toNat + 2 ^ 24 * bytes[3].toNat

/-- A word from its bytes. -/
def wordLE (bytes : Vector UInt8 4) : UInt32 := UInt32.ofNat (valueLE bytes)

theorem toNat_wordLE (bytes : Vector UInt8 4) : (wordLE bytes).toNat = valueLE bytes := by
  have h₀ := bytes[0].toNat_lt
  have h₁ := bytes[1].toNat_lt
  have h₂ := bytes[2].toNat_lt
  have h₃ := bytes[3].toNat_lt
  unfold wordLE valueLE
  rw [UInt32.toNat_ofNat']
  omega

/-- Byte `i` of a word, the low byte first. -/
def byteLE (w : UInt32) (i : Fin 4) : UInt8 := UInt8.ofNat (w.toNat / 2 ^ (8 * i.val))

/-- The word that starts at byte `i`. -/
def wordAt {n : ℕ} (bytes : Vector UInt8 n) (i : ℕ) (h : i + 4 ≤ n) : UInt32 :=
  wordLE #v[bytes[i], bytes[i + 1], bytes[i + 2], bytes[i + 3]]

/-- The block's input: the constants, the key, the counter and the nonce. -/
def initial (key : Vector UInt8 32) (counter : UInt32) (nonce : Vector UInt8 12) : State :=
  let k (i : ℕ) (h : i + 4 ≤ 32) := wordAt key i h
  let n (i : ℕ) (h : i + 4 ≤ 12) := wordAt nonce i h
  ⟨⟨0x61707865, k 0 (by decide), k 16 (by decide), counter⟩,
   ⟨0x3320646e, k 4 (by decide), k 20 (by decide), n 0 (by decide)⟩,
   ⟨0x79622d32, k 8 (by decide), k 24 (by decide), n 4 (by decide)⟩,
   ⟨0x6b206574, k 12 (by decide), k 28 (by decide), n 8 (by decide)⟩⟩

/-- The words of block `counter`: twenty rounds, and the input added back. -/
def blockWords (key : Vector UInt8 32) (counter : UInt32) (nonce : Vector UInt8 12) :
    Vector UInt32 16 :=
  ((rounds 10 (initial key counter nonce)).add (initial key counter nonce)).words

/-- The block `counter`. -/
def block (key : Vector UInt8 32) (counter : UInt32) (nonce : Vector UInt8 12) :
    Vector UInt8 64 :=
  let words := blockWords key counter nonce
  Vector.ofFn fun i => byteLE words[i.val / 4] ⟨i.val % 4, by omega⟩

/-! ## The keystream -/

/-- The number of blocks that hold `len` bytes. -/
def blocks (len : ℕ) : ℕ := (len + 63) / 64

/-- The number of blocks a cipher that is to make block `next` counts as left. -/
def remaining (next : ℕ) : ℕ := 2 ^ 32 - 1 - next

/-- Byte `p` of the keystream. -/
def keystreamByte (key : Vector UInt8 32) (nonce : Vector UInt8 12) (p : ℕ) : UInt8 :=
  (block key (UInt32.ofNat (p / 64)) nonce)[p % 64]

/-- The `len` bytes of the keystream from byte `p` on. -/
def keystream (key : Vector UInt8 32) (nonce : Vector UInt8 12) (p len : ℕ) :
    Vector UInt8 len :=
  Vector.ofFn fun i => keystreamByte key nonce (p + i.val)

theorem keystreamByte_block (key : Vector UInt8 32) (nonce : Vector UInt8 12) (n : UInt32)
    {i : ℕ} (hi : i < 64) :
    keystreamByte key nonce (64 * n.toNat + i) = (block key n nonce)[i] := by
  have hdiv : (64 * n.toNat + i) / 64 = n.toNat := by omega
  have hmod : (64 * n.toNat + i) % 64 = i := by omega
  unfold keystreamByte
  simp only [hdiv, hmod, UInt32.ofNat_toNat]

/-- Within one block, the keystream from its start is the block. -/
theorem keystream_block (key : Vector UInt8 32) (nonce : Vector UInt8 12) (n : UInt32)
    {len : ℕ} (hlen : len ≤ 64) :
    keystream key nonce (64 * n.toNat) len = Vector.ofFn fun i => (block key n nonce)[i.val] := by
  apply Vector.ext
  intro i hi
  unfold keystream
  rw [Vector.getElem_ofFn, Vector.getElem_ofFn]
  exact keystreamByte_block key nonce n (by omega)

/-- The exclusive or of data and keystream. -/
def xor {n : ℕ} (data stream : Vector UInt8 n) : Vector UInt8 n :=
  Vector.zipWith (· ^^^ ·) data stream

/-- On zeroes the keystream itself comes out. -/
theorem xor_zeroes {n : ℕ} (stream : Vector UInt8 n) :
    xor (Vector.replicate n 0) stream = stream := by
  unfold xor
  apply Vector.ext
  intro i hi
  rw [Vector.getElem_zipWith, Vector.getElem_replicate, UInt8.zero_xor]

/-! ## A cipher that walks the keystream -/

/-- A key, a nonce and the position in their keystream, in bytes. -/
structure Stream where
  key : Vector UInt8 32
  nonce : Vector UInt8 12
  pos : ℕ

/-- The cipher at the start of its keystream. -/
def Stream.new (key : Vector UInt8 32) (nonce : Vector UInt8 12) : Stream := ⟨key, nonce, 0⟩

/-- Seeking: `none` where the block number leaves the counter. -/
def Stream.seek (s : Stream) (offset : UInt64) : Option Stream :=
  if offset.toNat / 64 < 2 ^ 32 then some { s with pos := offset.toNat } else none

/-- Applying the keystream: `none` where the blocks it has to make (those of the position
after it, less those already made) are more than the cipher counts as left. -/
def Stream.apply {n : ℕ} (s : Stream) (data : Vector UInt8 n) : Option (Vector UInt8 n × Stream) :=
  if blocks (s.pos + n) - blocks s.pos ≤ remaining (blocks s.pos) then
    some (xor data (keystream s.key s.nonce s.pos n), { s with pos := s.pos + n })
  else
    none

/-- At the start of block `n` nothing of an earlier block is left over: the blocks to make
are those of the data. -/
theorem Stream.apply_at {len : ℕ} (key : Vector UInt8 32) (nonce : Vector UInt8 12) (n : UInt32)
    (data : Vector UInt8 len) :
    Stream.apply ⟨key, nonce, 64 * n.toNat⟩ data
      = if blocks len ≤ remaining n.toNat then
          some (xor data (keystream key nonce (64 * n.toNat) len),
            ⟨key, nonce, 64 * n.toNat + len⟩)
        else none := by
  have hmade : blocks (64 * n.toNat) = n.toNat := by
    unfold blocks
    omega
  have hafter : blocks (64 * n.toNat + len) - n.toNat = blocks len := by
    unfold blocks
    omega
  unfold Stream.apply
  rw [hmade, hafter]

end ChaCha20
