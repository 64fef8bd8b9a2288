/-
QUIC header protection (`rust/quic/src/packet.rs`): the mask a packet's sample gives, and
its application to the first byte and the packet number.

The sample is sixteen bytes of the packet's own ciphertext, so a peer chooses it; whatever
`mask` does with it, it does on bytes from the network. The AES key passes the sample
through the block cipher. The ChaCha20 key reads it as a block counter and a nonce, and
takes the first five bytes of that block through the `chacha20` crate's *stream* cipher:
it seeks to the block and applies the keystream to zeroes.

## What is proved

`ChaChaHeaderProtectionKey.Total` is the purpose: every sample has its answer, the block's
first five bytes or an error, and no call panics. The block function has 2³² counters and
the stream cipher counts one block fewer as usable (`ChaCha20.remaining`), so the two
disagree at one counter: `mask_total_iff` says that the code is total on exactly the
samples whose counter is not that one.

The stream cipher is a parameter, with what its documentation says of `new`, `seek` and
`apply_keystream` as `StreamCipher.Documented`; `reference` is a cipher that has it.
-/
import Mathlib.Tactic.IntervalCases
import PolymorphTls.ChaCha20

set_option autoImplicit false

namespace PolymorphTls.HeaderProtection

/-! ## Bytes -/

/-- `<[u8; n]>::try_from` of a slice. -/
def try_into (n : ℕ) (bytes : List UInt8) : Option (Vector UInt8 n) :=
  if h : bytes.length = n then some ⟨bytes.toArray, h⟩ else none

theorem try_into_eq_some_iff {n : ℕ} {bytes : List UInt8} {v : Vector UInt8 n} :
    try_into n bytes = some v ↔ v.toList = bytes := by
  unfold try_into
  constructor
  · intro h
    split at h
    · rw [← Option.some.inj h]
      rfl
    · exact absurd h (by simp)
  · intro h
    have hlen : bytes.length = n := by
      rw [← h, Vector.length_toList]
    rw [dif_pos hlen, Option.some.injEq, ← Vector.toList_inj, h]
    rfl

theorem try_into_eq_none_iff {n : ℕ} {bytes : List UInt8} :
    try_into n bytes = none ↔ bytes.length ≠ n := by
  unfold try_into
  rw [dite_eq_right_iff]
  simp

/-- A piece of an array, taken as a slice, is an array again. -/
theorem try_into_extract {m n i : ℕ} (v : Vector UInt8 m) (h : i + n ≤ m) :
    try_into n ((v.toList.drop i).take n)
      = some (Vector.ofFn fun j => v[i + j.val]) := by
  rw [try_into_eq_some_iff]
  apply List.ext_getElem
  · simp only [Vector.length_toList, List.length_take, List.length_drop]
    omega
  · intro j h₁ h₂
    simp

/-- `u32::from_le_bytes`. -/
def from_le_bytes (bytes : Vector UInt8 4) : UInt32 := ChaCha20.wordLE bytes

/-! ## Applying a mask -/

/-- `rustls::Error`, the one variant this module builds. -/
inductive Error where
  | General (message : String)
  deriving DecidableEq, Repr

/-- What a call leaves behind: its result, the first byte and the packet number. -/
abbrev Applied := Except Error Unit × UInt8 × List UInt8

/-- `u8::conditional_select` of the `subtle` crate. -/
def conditional_select (a b : UInt8) (choice : Bool) : UInt8 := if choice then b else a

def LONG_HEADER_FORM : UInt8 := 0x80

/-- The bits of the first byte a mask may touch. -/
def mask_bits (first : UInt8) : UInt8 :=
  match first &&& LONG_HEADER_FORM == LONG_HEADER_FORM with
  | true => 0x0f
  | false => 0x1f

/-- The loop over the packet number: every byte the mask reaches is visited, and from
`pn_len` on it meets a zero. -/
def xor_packet_number (pn_mask : List UInt8) (pn_len : ℕ) (packet_number : List UInt8) :
    List UInt8 :=
  packet_number.mapIdx fun index dst =>
    match pn_mask[index]? with
    | some m => dst ^^^ conditional_select 0 m (index < pn_len)
    | none => dst

/-- `xor_in_place`; `none` is a panic. -/
def xor_in_place (mask : Vector UInt8 5) (first : UInt8) (packet_number : List UInt8)
    (masked : Bool) : Option Applied :=
  match mask.toList with
  -- `split_first().unwrap()`
  | [] => none
  | first_mask :: pn_mask =>
    if packet_number.length > pn_mask.length then
      some (.error (.General "packet number too long"), first, packet_number)
    else
      let bits := mask_bits first
      let first_plain := match masked with
        | true => first ^^^ (first_mask &&& bits)
        | false => first
      let pn_len := (first_plain &&& 0x03).toNat + 1
      some (.ok (), first ^^^ (first_mask &&& bits),
        xor_packet_number pn_mask pn_len packet_number)

theorem toList_eq_cons (mask : Vector UInt8 5) :
    mask.toList = mask[0] :: mask.toList.tail := by
  apply List.ext_getElem
  · simp
  · intro i h₁ h₂
    rcases i with _ | i
    · simp
    · simp

/-- Application of a mask never panics: a packet number of at most four bytes is masked, a
longer one is refused and left as it was. -/
theorem xor_in_place_eq (mask : Vector UInt8 5) (first : UInt8) (packet_number : List UInt8)
    (masked : Bool) :
    xor_in_place mask first packet_number masked
      = if 4 < packet_number.length then
          some (.error (.General "packet number too long"), first, packet_number)
        else
          let first_mask := mask[0] &&& mask_bits first
          let first_plain := if masked then first ^^^ first_mask else first
          some (.ok (), first ^^^ first_mask,
            xor_packet_number mask.toList.tail ((first_plain &&& 0x03).toNat + 1)
              packet_number) := by
  have hlen : mask.toList.tail.length = 4 := by
    rw [List.length_tail, Vector.length_toList]
  unfold xor_in_place
  rw [toList_eq_cons]
  simp only [hlen, gt_iff_lt]
  rcases masked with _ | _ <;> rfl

/-- The loop is its own inverse. -/
theorem xor_packet_number_twice (pn_mask : List UInt8) (pn_len : ℕ) (packet_number : List UInt8) :
    xor_packet_number pn_mask pn_len (xor_packet_number pn_mask pn_len packet_number)
      = packet_number := by
  unfold xor_packet_number
  apply List.ext_getElem
  · rw [List.length_mapIdx, List.length_mapIdx]
  · intro index h₁ h₂
    rw [List.getElem_mapIdx, List.getElem_mapIdx]
    split
    · rw [UInt8.xor_assoc, UInt8.xor_self, UInt8.xor_zero]
    · rfl

/-- The form bit is never masked, so the masked first byte has the plain one's bits. -/
theorem mask_bits_masked (first m : UInt8) :
    mask_bits (first ^^^ (m &&& mask_bits first)) = mask_bits first := by
  have hform : (first ^^^ (m &&& mask_bits first)) &&& LONG_HEADER_FORM
      = first &&& LONG_HEADER_FORM := by
    have hbits : mask_bits first &&& LONG_HEADER_FORM = 0 := by
      unfold mask_bits
      split
      · decide
      · decide
    have hdistrib : ∀ a b c : UInt8, (a ^^^ b) &&& c = (a &&& c) ^^^ (b &&& c) := by
      intro a b c
      rw [← UInt8.toBitVec_inj]
      apply BitVec.eq_of_getElem_eq
      intro i hi
      simp only [UInt8.toBitVec_and, UInt8.toBitVec_xor, BitVec.getElem_and, BitVec.getElem_xor]
      rw [Bool.and_xor_distrib_right]
    rw [hdistrib, UInt8.and_assoc, hbits, UInt8.and_zero, UInt8.xor_zero]
  unfold mask_bits at hform ⊢
  rw [hform]

/-- The two directions of a header-protection key: the mask first, an error of it returned
as it is. -/
def in_place (mask : Option (Except Error (Vector UInt8 5))) (first : UInt8)
    (packet_number : List UInt8) (masked : Bool) : Option Applied :=
  match mask with
  | none => none
  | some (.error e) => some (.error e, first, packet_number)
  | some (.ok mask) => xor_in_place mask first packet_number masked

/-- It panics where its mask does. -/
theorem in_place_eq_none_iff {mask : Option (Except Error (Vector UInt8 5))} {first : UInt8}
    {packet_number : List UInt8} {masked : Bool} :
    in_place mask first packet_number masked = none ↔ mask = none := by
  unfold in_place
  split
  · simp
  · simp
  · next mask =>
    rw [xor_in_place_eq]
    split
    · simp
    · simp

/-! ## The AES key -/

section Aes

-- `encrypt_block` of the `aes` crate under the key's schedule
variable (encrypt_block : Vector UInt8 16 → Vector UInt8 16)

/-- `AesHeaderProtectionKey::mask`. -/
def AesHeaderProtectionKey.mask (sample : List UInt8) : Option (Except Error (Vector UInt8 5)) :=
  match try_into 16 sample with
  | none => some (.error (.General "sample of invalid length"))
  | some block => do
    let mask ← try_into 5 ((encrypt_block block).toList.take 5)
    return .ok mask

/-- `AesHeaderProtectionKey::encrypt_in_place`. -/
def AesHeaderProtectionKey.encrypt_in_place (sample : List UInt8) (first : UInt8)
    (packet_number : List UInt8) : Option Applied :=
  in_place (AesHeaderProtectionKey.mask encrypt_block sample) first packet_number false

/-- `AesHeaderProtectionKey::decrypt_in_place`. -/
def AesHeaderProtectionKey.decrypt_in_place (sample : List UInt8) (first : UInt8)
    (packet_number : List UInt8) : Option Applied :=
  in_place (AesHeaderProtectionKey.mask encrypt_block sample) first packet_number true

end Aes

/-! ## The ChaCha20 key -/

/-- `chacha20::ChaCha20`, as far as `mask` uses it; `none` is a panic. -/
structure StreamCipher (σ : Type) where
  new : Vector UInt8 32 → Vector UInt8 12 → σ
  seek : σ → UInt64 → Option σ
  apply_keystream : {n : ℕ} → σ → Vector UInt8 n → Option (Vector UInt8 n × σ)

/-- What the crates document. `At c key nonce n` is that the cipher `c` of that key and
nonce stands at the start of block `n`: a new one stands at block 0, seeking to a block's
first byte goes there, and the keystream applied there is that of the blocks from `n` on,
unless it takes more blocks than are left. -/
structure StreamCipher.Documented {σ : Type} (S : StreamCipher σ)
    (At : σ → Vector UInt8 32 → Vector UInt8 12 → UInt32 → Prop) : Prop where
  new_at : ∀ key nonce, At (S.new key nonce) key nonce 0
  seek_at : ∀ {c key nonce n} (m : UInt32), At c key nonce n →
    ∀ offset : UInt64, offset.toNat = 64 * m.toNat →
      ∃ c', S.seek c offset = some c' ∧ At c' key nonce m
  apply_some : ∀ {c key nonce n len} (data : Vector UInt8 len), At c key nonce n →
    ChaCha20.blocks len ≤ ChaCha20.remaining n.toNat →
      ∃ c', S.apply_keystream c data
        = some (ChaCha20.xor data (ChaCha20.keystream key nonce (64 * n.toNat) len), c')
  apply_none : ∀ {c key nonce n len} (data : Vector UInt8 len), At c key nonce n →
    ChaCha20.remaining n.toNat < ChaCha20.blocks len → S.apply_keystream c data = none

/-- `a * b` on `u64`, as a build with overflow checks has it; `none` is a panic. -/
def mul_u64 (a b : UInt64) : Option UInt64 :=
  if a.toNat * b.toNat < 2 ^ 64 then some (a * b) else none

namespace ChaChaHeaderProtectionKey

section

variable {σ : Type} (S : StreamCipher σ) (key : Vector UInt8 32)

/-- `ChaChaHeaderProtectionKey::mask`; `none` is a panic. -/
def mask (sample : List UInt8) : Option (Except Error (Vector UInt8 5)) :=
  match try_into 16 sample with
  | none => some (.error (.General "sample of invalid length"))
  | some sample => do
    let counter := from_le_bytes (← try_into 4 (sample.toList.take 4))
    let nonce ← try_into 12 (sample.toList.drop 4)
    let cipher := S.new key nonce
    let cipher ← S.seek cipher (← mul_u64 counter.toUInt64 64)
    let (mask, _) ← S.apply_keystream cipher (Vector.replicate 5 0)
    return .ok mask

/-- `ChaChaHeaderProtectionKey::encrypt_in_place`. -/
def encrypt_in_place (sample : List UInt8) (first : UInt8) (packet_number : List UInt8) :
    Option Applied :=
  in_place (mask S key sample) first packet_number false

/-- `ChaChaHeaderProtectionKey::decrypt_in_place`. -/
def decrypt_in_place (sample : List UInt8) (first : UInt8) (packet_number : List UInt8) :
    Option Applied :=
  in_place (mask S key sample) first packet_number true

/-- The counter of a sample: its first four bytes, the low one first. -/
def sample_counter (sample : Vector UInt8 16) : UInt32 :=
  from_le_bytes (Vector.ofFn fun i => sample[0 + i.val])

/-- The nonce of a sample: its other twelve bytes. -/
def sample_nonce (sample : Vector UInt8 16) : Vector UInt8 12 :=
  Vector.ofFn fun i => sample[4 + i.val]

/-- The key answers this sample: a sample of sixteen bytes with the first five bytes of
its block, at an offset that `u64` holds, any other with an error; and neither direction of
header protection panics on it, whatever the header. -/
structure Total (sample : List UInt8) : Prop where
  mask_ok : ∀ s, try_into 16 sample = some s →
    mask S key sample = some (.ok (Vector.ofFn fun i =>
      (ChaCha20.block key (sample_counter s) (sample_nonce s))[i.val]))
  offset_fits : ∀ s, try_into 16 sample = some s → (sample_counter s).toNat * 64 < 2 ^ 64
  mask_err : sample.length ≠ 16 → ∃ e, mask S key sample = some (.error e)
  encrypt_returns : ∀ first packet_number,
    encrypt_in_place S key sample first packet_number ≠ none
  decrypt_returns : ∀ first packet_number,
    decrypt_in_place S key sample first packet_number ≠ none

/-- The last counter: a sample of sixteen bytes whose first four are all ones. -/
def LastCounter (sample : List UInt8) : Prop :=
  sample.length = 16 ∧ sample.take 4 = [0xff, 0xff, 0xff, 0xff]

end

/-! ### The code, sample by sample -/

/-- The offset of a block is within `u64`, and its product is exact. -/
theorem mul_u64_counter (counter : UInt32) :
    ∃ offset, mul_u64 counter.toUInt64 64 = some offset ∧ offset.toNat = 64 * counter.toNat := by
  have hlt := counter.toNat_lt
  have hcounter : counter.toUInt64.toNat = counter.toNat := UInt32.toNat_toUInt64 counter
  have h64 : (64 : UInt64).toNat = 64 := rfl
  refine ⟨counter.toUInt64 * 64, ?_, ?_⟩
  · unfold mul_u64
    rw [if_pos]
    rw [hcounter, h64]
    omega
  · rw [UInt64.toNat_mul, hcounter, h64]
    omega

theorem sample_counter_eq_last_iff {sample : List UInt8} {s : Vector UInt8 16}
    (hs : try_into 16 sample = some s) :
    (sample_counter s).toNat = 2 ^ 32 - 1 ↔ LastCounter sample := by
  rw [try_into_eq_some_iff] at hs
  have hbytes : sample.take 4 = [s[0], s[1], s[2], s[3]] := by
    rw [← hs]
    apply List.ext_getElem
    · simp
    · intro i h₁ h₂
      have hi : i < 4 := h₂
      interval_cases i <;> simp
  have hlen : sample.length = 16 := by
    rw [← hs, Vector.length_toList]
  unfold LastCounter
  rw [hbytes]
  unfold sample_counter from_le_bytes
  rw [ChaCha20.toNat_wordLE]
  unfold ChaCha20.valueLE
  simp only [Vector.getElem_ofFn, Nat.zero_add, List.cons.injEq, and_true]
  have h₀ := s[0].toNat_lt
  have h₁ := s[1].toNat_lt
  have h₂ := s[2].toNat_lt
  have h₃ := s[3].toNat_lt
  simp only [← UInt8.toNat_inj, hlen, true_and, show (0xff : UInt8).toNat = 255 from rfl]
  omega

section

variable {σ : Type} {S : StreamCipher σ}
  {At : σ → Vector UInt8 32 → Vector UInt8 12 → UInt32 → Prop} (hS : S.Documented At)
  (key : Vector UInt8 32) {sample : List UInt8} {s : Vector UInt8 16}

include hS

/-- Up to the keystream nothing panics: the cipher stands at the sample's block. -/
theorem mask_at (hs : try_into 16 sample = some s) :
    ∃ c, At c key (sample_nonce s) (sample_counter s) ∧
      mask S key sample
        = (S.apply_keystream c (Vector.replicate 5 0)).map fun applied => .ok applied.1 := by
  obtain ⟨offset, hmul, hoffset⟩ := mul_u64_counter (sample_counter s)
  obtain ⟨c, hseek, hat⟩ := hS.seek_at _ (hS.new_at key (sample_nonce s)) offset hoffset
  refine ⟨c, hat, ?_⟩
  have hcounter := try_into_extract (n := 4) (i := 0) s (by decide)
  have hnonce := try_into_extract (n := 12) (i := 4) s (by decide)
  rw [List.drop_zero] at hcounter
  rw [List.take_of_length_le (by simp)] at hnonce
  unfold mask
  rw [hs]
  show (try_into 4 (s.toList.take 4)).bind _ = _
  rw [hcounter]
  show (try_into 12 (s.toList.drop 4)).bind _ = _
  rw [hnonce]
  show (mul_u64 (sample_counter s).toUInt64 64).bind _ = _
  rw [hmul]
  show (S.seek (S.new key (sample_nonce s)) offset).bind _ = _
  rw [hseek]
  show (S.apply_keystream c (Vector.replicate 5 0)).bind _ = _
  rw [Option.map_eq_bind]
  rfl

/-- Before the last counter, the mask is the block's first five bytes. -/
theorem mask_of_not_last (hs : try_into 16 sample = some s) (hlast : ¬ LastCounter sample) :
    mask S key sample = some (.ok (Vector.ofFn fun i =>
      (ChaCha20.block key (sample_counter s) (sample_nonce s))[i.val])) := by
  obtain ⟨c, hat, hmask⟩ := mask_at hS key hs
  rw [← sample_counter_eq_last_iff hs] at hlast
  have hleft : ChaCha20.blocks 5 ≤ ChaCha20.remaining (sample_counter s).toNat := by
    have hlt := (sample_counter s).toNat_lt
    unfold ChaCha20.blocks ChaCha20.remaining
    omega
  obtain ⟨c', happly⟩ := hS.apply_some (Vector.replicate 5 0) hat hleft
  rw [hmask, happly, ChaCha20.xor_zeroes, ChaCha20.keystream_block _ _ _ (by decide),
    Option.map_some]

/-- At the last counter the cipher counts no block as left, and the call panics. -/
theorem mask_of_last (hlast : LastCounter sample) : mask S key sample = none := by
  have hs : ∃ s, try_into 16 sample = some s := by
    rw [← Option.isSome_iff_exists, ← Option.ne_none_iff_isSome, ne_eq, try_into_eq_none_iff,
      not_not]
    exact hlast.1
  obtain ⟨s, hs⟩ := hs
  obtain ⟨c, hat, hmask⟩ := mask_at hS key hs
  rw [← sample_counter_eq_last_iff hs] at hlast
  have hnone : ChaCha20.remaining (sample_counter s).toNat < ChaCha20.blocks 5 := by
    unfold ChaCha20.blocks ChaCha20.remaining
    omega
  rw [hmask, hS.apply_none _ hat hnone, Option.map_none]

end

/-- **The key is total on exactly the samples whose counter is not the last one.** There are
2³² counters and the peer may send any; at the last, the block exists and the call panics. -/
theorem mask_total_iff {σ : Type} {S : StreamCipher σ}
    {At : σ → Vector UInt8 32 → Vector UInt8 12 → UInt32 → Prop} (hS : S.Documented At)
    (key : Vector UInt8 32) (sample : List UInt8) :
    Total S key sample ↔ ¬ LastCounter sample := by
  constructor
  · intro htotal hlast
    apply htotal.encrypt_returns 0 []
    unfold encrypt_in_place
    rw [in_place_eq_none_iff]
    exact mask_of_last hS key hlast
  · intro hlast
    have hreturns : mask S key sample ≠ none := by
      rcases hs : try_into 16 sample with _ | s
      · unfold mask
        rw [hs]
        simp
      · rw [mask_of_not_last hS key hs hlast]
        simp
    refine ⟨?_, ?_, ?_, ?_, ?_⟩
    · intro s hs
      exact mask_of_not_last hS key hs hlast
    · intro s _
      have hlt := (sample_counter s).toNat_lt
      omega
    · intro hlen
      rw [← try_into_eq_none_iff] at hlen
      unfold mask
      rw [hlen]
      exact ⟨_, rfl⟩
    · intro first packet_number
      unfold encrypt_in_place
      rw [ne_eq, in_place_eq_none_iff]
      exact hreturns
    · intro first packet_number
      unfold decrypt_in_place
      rw [ne_eq, in_place_eq_none_iff]
      exact hreturns

/-! ### A cipher that has what is documented -/

/-- The stream cipher that walks the keystream. -/
def reference : StreamCipher ChaCha20.Stream where
  new := ChaCha20.Stream.new
  seek := ChaCha20.Stream.seek
  apply_keystream := ChaCha20.Stream.apply

/-- At block `n`, with nothing of an earlier block left over. -/
def ReferenceAt (c : ChaCha20.Stream) (key : Vector UInt8 32) (nonce : Vector UInt8 12)
    (n : UInt32) : Prop :=
  c = ⟨key, nonce, 64 * n.toNat⟩

theorem reference_documented : reference.Documented ReferenceAt where
  new_at := by
    intro key nonce
    rfl
  seek_at := by
    intro c key nonce n m hat offset hoffset
    have hlt := m.toNat_lt
    refine ⟨⟨key, nonce, 64 * m.toNat⟩, ?_, rfl⟩
    show ChaCha20.Stream.seek c offset = _
    rw [hat, ChaCha20.Stream.seek, if_pos (by omega), hoffset]
  apply_some := by
    intro c key nonce n len data hat hleft
    refine ⟨⟨key, nonce, 64 * n.toNat + len⟩, ?_⟩
    show ChaCha20.Stream.apply c data = _
    rw [hat, ChaCha20.Stream.apply_at, if_pos hleft]
  apply_none := by
    intro c key nonce n len data hat hleft
    show ChaCha20.Stream.apply c data = _
    rw [hat, ChaCha20.Stream.apply_at, if_neg (by omega)]

instance : DecidablePred LastCounter := fun sample =>
  inferInstanceAs (Decidable (sample.length = 16 ∧ sample.take 4 = [0xff, 0xff, 0xff, 0xff]))

/-- The header-protection key of RFC 9001 §A.5. -/
def hp_key : Vector UInt8 32 :=
  #v[0x25, 0xa2, 0x82, 0xb9, 0xe8, 0x2f, 0x06, 0xf2, 0x1f, 0x48, 0x89, 0x17, 0xa4, 0xfc,
     0x8f, 0x1b, 0x73, 0x57, 0x36, 0x85, 0x60, 0x85, 0x97, 0xd0, 0xef, 0xcb, 0x07, 0x6b,
     0x0a, 0xb7, 0xa7, 0xa4]

/-- The sample of RFC 9001 §A.5. -/
def short_sample : List UInt8 :=
  [0x5e, 0x5c, 0xd5, 0x5c, 0x41, 0xf6, 0x90, 0x80, 0x57, 0x5d, 0x79, 0x99, 0xc2, 0x5a,
   0x5b, 0xfb]

/-- The sample of RFC 9001 §A.5 is answered. -/
theorem short_packet_sample_is_answered :
    ¬ LastCounter short_sample ∧ Total reference hp_key short_sample := by
  have hlast : ¬ LastCounter short_sample := by decide
  exact ⟨hlast, (mask_total_iff reference_documented hp_key short_sample).mpr hlast⟩

example : mask reference hp_key short_sample = some (.ok #v[0xae, 0xfe, 0xfe, 0x7d, 0x03]) := by
  decide +kernel

/-- A sample of ones: sixteen bytes that `mask` panics on, and with it the decryption of any
header that comes with them. -/
theorem sample_of_ones_panics :
    ¬ Total reference hp_key (List.replicate 16 0xff) ∧
      mask reference hp_key (List.replicate 16 0xff) = none ∧
      decrypt_in_place reference hp_key (List.replicate 16 0xff) 0x41 [0, 1, 2, 3] = none := by
  have hmask : mask reference hp_key (List.replicate 16 0xff) = none :=
    mask_of_last reference_documented hp_key (by decide)
  have hdecrypt :
      decrypt_in_place reference hp_key (List.replicate 16 0xff) 0x41 [0, 1, 2, 3] = none := by
    unfold decrypt_in_place
    rw [in_place_eq_none_iff]
    exact hmask
  refine ⟨?_, hmask, hdecrypt⟩
  intro htotal
  exact htotal.decrypt_returns 0x41 [0, 1, 2, 3] hdecrypt

end ChaChaHeaderProtectionKey

end PolymorphTls.HeaderProtection
