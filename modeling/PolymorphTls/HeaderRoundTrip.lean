/-
What header protection computes, in the words of RFC 9001 §5.4.1, and that it is undone.

`xor_in_place` visits every byte it is given and selects the mask arithmetically, so that
its timing says nothing about the packet-number length; the RFC's loop stops at that length.
The two must agree on every header. They also meet headers of different shapes: a sender
calls with exactly the packet number, a receiver with the four bytes after the first byte,
of which the later ones may belong to the payload, and the receiver learns how many only
from bits that are themselves masked.

## What is proved here, and why in this shape

* `Rfc9001.header_protection` is the reference, with the loop bounded by the packet-number
  length; `xor_in_place_eq_rfc` says the code *is* the reference, with its reading byte by
  byte and the answer to a sample of the wrong length.
* `Undone` is what the two directions of a key owe each other; `in_place_undone` proves it
  of any mask, and each key's is an instance.
-/
import PolymorphTls.HeaderProtection

set_option autoImplicit false

namespace PolymorphTls.HeaderProtection

/-! ## The reference -/

namespace Rfc9001

/-- The bits of the first byte that are protected: four of a long header, five of a short
one. -/
def protected_bits (first : UInt8) : UInt8 :=
  if first &&& 0x80 = 0x80 then 0x0f else 0x1f

/-- The packet-number length an unprotected first byte announces. -/
def pn_length (first : UInt8) : ℕ := (first &&& 0x03).toNat + 1

/-- The loop over `take(pn_len)`: the rest of the slice is not visited. -/
def mask_packet_number (mask : Vector UInt8 5) (pn_len : ℕ) (packet_number : List UInt8) :
    List UInt8 :=
  List.zipWith (· ^^^ ·) (packet_number.take pn_len) (mask.toList.drop 1)
    ++ packet_number.drop pn_len

/-- Header protection applied or removed. The length is read off the unprotected first byte:
the one given when protecting, the one computed when unprotecting. -/
def header_protection (mask : Vector UInt8 5) (first : UInt8) (packet_number : List UInt8)
    (masked : Bool) : Applied :=
  if packet_number.length ≤ 4 then
    let first' := first ^^^ (mask.get 0 &&& protected_bits first)
    let plain := if masked then first' else first
    (.ok (), first', mask_packet_number mask (pn_length plain) packet_number)
  else
    (.error (.General "packet number too long"), first, packet_number)

end Rfc9001

/-! ## The code's loop, byte by byte -/

theorem mask_bits_eq (first : UInt8) : mask_bits first = Rfc9001.protected_bits first := by
  show mask_bits first
    = if first &&& LONG_HEADER_FORM = LONG_HEADER_FORM then 0x0f else 0x1f
  unfold mask_bits
  by_cases hform : first &&& LONG_HEADER_FORM = LONG_HEADER_FORM
  · rw [if_pos hform, beq_iff_eq.mpr hform]
  · rw [if_neg hform, beq_eq_false_iff_ne.mpr hform]

theorem length_xor_packet_number (pn_mask : List UInt8) (pn_len : ℕ)
    (packet_number : List UInt8) :
    (xor_packet_number pn_mask pn_len packet_number).length = packet_number.length := by
  unfold xor_packet_number
  rw [List.length_mapIdx]

/-- Below the packet-number length a byte meets its mask byte, from there on it stays. -/
theorem getElem_xor_packet_number {pn_mask : List UInt8} {pn_len : ℕ}
    {packet_number : List UInt8} {i : ℕ} (hi : i < packet_number.length)
    (hmask : i < pn_mask.length) (h : i < (xor_packet_number pn_mask pn_len packet_number).length) :
    (xor_packet_number pn_mask pn_len packet_number)[i]
      = if i < pn_len then packet_number[i] ^^^ pn_mask[i] else packet_number[i] := by
  revert h
  unfold xor_packet_number conditional_select
  intro h
  rw [List.getElem_mapIdx, List.getElem?_eq_getElem hmask]
  by_cases hlt : i < pn_len
  · simp [hlt]
  · simp [hlt]

/-- Bytes past the packet-number length may belong to anything. -/
theorem xor_packet_number_append (pn_mask : List UInt8) {pn_len : ℕ}
    {packet_number : List UInt8} (rest : List UInt8) (hlen : pn_len ≤ packet_number.length) :
    xor_packet_number pn_mask pn_len (packet_number ++ rest)
      = xor_packet_number pn_mask pn_len packet_number ++ rest := by
  unfold xor_packet_number
  rw [List.mapIdx_append]
  congr 1
  apply List.ext_getElem
  · rw [List.length_mapIdx]
  · intro i h₁ h₂
    have hge : ¬ (i + packet_number.length < pn_len) := by omega
    rw [List.getElem_mapIdx]
    unfold conditional_select
    split
    · simp [hge]
    · rfl

/-- The uniform loop is the bounded one. -/
theorem xor_packet_number_eq_rfc (mask : Vector UInt8 5) (pn_len : ℕ)
    {packet_number : List UInt8} (hlen : packet_number.length ≤ 4) :
    xor_packet_number mask.toList.tail pn_len packet_number
      = Rfc9001.mask_packet_number mask pn_len packet_number := by
  have hmask : mask.toList.tail.length = 4 := by
    rw [List.length_tail, Vector.length_toList]
  unfold Rfc9001.mask_packet_number
  rw [List.drop_one]
  have hzip : (List.zipWith (· ^^^ ·) (packet_number.take pn_len) mask.toList.tail).length
      = min pn_len packet_number.length := by
    rw [List.length_zipWith, List.length_take, hmask]
    omega
  apply List.ext_getElem
  · rw [length_xor_packet_number, List.length_append, hzip, List.length_drop]
    omega
  · intro i h₁ h₂
    have hi : i < packet_number.length := by
      rw [length_xor_packet_number] at h₁
      exact h₁
    rw [getElem_xor_packet_number hi (by omega)]
    by_cases hlt : i < pn_len
    · rw [if_pos hlt, List.getElem_append_left (by rw [hzip]; omega), List.getElem_zipWith,
        List.getElem_take]
    · rw [if_neg hlt, List.getElem_append_right (by rw [hzip]; omega), List.getElem_drop]
      congr 1
      rw [hzip]
      omega

/-- The code is the reference. -/
theorem xor_in_place_eq_reference (mask : Vector UInt8 5) (first : UInt8)
    (packet_number : List UInt8) (masked : Bool) :
    xor_in_place mask first packet_number masked
      = some (Rfc9001.header_protection mask first packet_number masked) := by
  rw [xor_in_place_eq]
  unfold Rfc9001.header_protection
  by_cases hlen : packet_number.length ≤ 4
  · rw [if_neg (by omega), if_pos hlen]
    simp only [mask_bits_eq, xor_packet_number_eq_rfc mask _ hlen]
    rfl
  · rw [if_pos (by omega), if_neg hlen]

/-! ## Undoing it -/

/-- The two directions of a key under one sample undo each other. A packet number of exactly
the announced length, protected alone, comes back out of the four bytes a receiver reads;
and any region a receiver reads is the protection of what it is read as, so no two protected
headers are read as one. -/
structure Undone (encrypt decrypt : UInt8 → List UInt8 → Option Applied) : Prop where
  received : ∀ (first : UInt8) (packet_number payload : List UInt8),
    packet_number.length = (first &&& 0x03).toNat + 1 →
    (packet_number ++ payload).length = 4 →
    ∃ first' packet_number',
      encrypt first packet_number = some (.ok (), first', packet_number') ∧
      packet_number'.length = packet_number.length ∧
      decrypt first' (packet_number' ++ payload)
        = some (.ok (), first, packet_number ++ payload)
  protected_again : ∀ (first : UInt8) (region : List UInt8), region.length ≤ 4 →
    ∃ first' region',
      decrypt first region = some (.ok (), first', region') ∧
      encrypt first' region' = some (.ok (), first, region)
  injective : ∀ (first₁ first₂ : UInt8) (region₁ region₂ : List UInt8),
    region₁.length ≤ 4 → region₂.length ≤ 4 →
    decrypt first₁ region₁ = decrypt first₂ region₂ → first₁ = first₂ ∧ region₁ = region₂

/-- Masking a first byte twice restores it: its form bit, and so the bits masked, stay. -/
theorem first_masked_twice (first m : UInt8) :
    (first ^^^ (m &&& mask_bits first))
        ^^^ (m &&& mask_bits (first ^^^ (m &&& mask_bits first)))
      = first := by
  rw [mask_bits_masked, UInt8.xor_assoc, UInt8.xor_self, UInt8.xor_zero]

/-- What the sender masked alone, the receiver unmasks with payload bytes after it. -/
theorem xor_in_place_received (mask : Vector UInt8 5) {first : UInt8}
    {packet_number payload : List UInt8}
    (hpn : packet_number.length = (first &&& 0x03).toNat + 1)
    (hregion : (packet_number ++ payload).length = 4) :
    ∃ first' packet_number',
      xor_in_place mask first packet_number false = some (.ok (), first', packet_number') ∧
      packet_number'.length = packet_number.length ∧
      xor_in_place mask first' (packet_number' ++ payload) true
        = some (.ok (), first, packet_number ++ payload) := by
  rw [List.length_append] at hregion
  refine ⟨first ^^^ (mask[0] &&& mask_bits first),
    xor_packet_number mask.toList.tail ((first &&& 0x03).toNat + 1) packet_number, ?_,
    length_xor_packet_number _ _ _, ?_⟩
  · rw [xor_in_place_eq, if_neg (by omega)]
    rfl
  · have hlen : ¬ 4 < (xor_packet_number mask.toList.tail ((first &&& 0x03).toNat + 1)
        packet_number ++ payload).length := by
      rw [List.length_append, length_xor_packet_number]
      omega
    rw [xor_in_place_eq, if_neg hlen]
    simp only [if_true, first_masked_twice]
    rw [xor_packet_number_append _ _ (by rw [length_xor_packet_number]; omega),
      xor_packet_number_twice]

/-- Unmasking a region and masking it again restores it. -/
theorem xor_in_place_protected_again (mask : Vector UInt8 5) (first : UInt8)
    {region : List UInt8} (hlen : region.length ≤ 4) :
    ∃ first' region',
      xor_in_place mask first region true = some (.ok (), first', region') ∧
      xor_in_place mask first' region' false = some (.ok (), first, region) := by
  refine ⟨first ^^^ (mask[0] &&& mask_bits first),
    xor_packet_number mask.toList.tail
      (((first ^^^ (mask[0] &&& mask_bits first)) &&& 0x03).toNat + 1) region, ?_, ?_⟩
  · rw [xor_in_place_eq, if_neg (by omega)]
    rfl
  · rw [xor_in_place_eq, if_neg (by rw [length_xor_packet_number]; omega)]
    simp only [first_masked_twice, xor_packet_number_twice, Bool.false_eq_true, if_false]

/-- Whatever gave the mask, applying it is undone. -/
theorem in_place_undone {mask : Option (Except Error (Vector UInt8 5))} {m : Vector UInt8 5}
    (hmask : mask = some (.ok m)) :
    Undone (fun first packet_number => in_place mask first packet_number false)
      (fun first packet_number => in_place mask first packet_number true) := by
  subst hmask
  refine ⟨?_, ?_, ?_⟩
  · intro first packet_number payload hpn hregion
    exact xor_in_place_received m hpn hregion
  · intro first region hlen
    exact xor_in_place_protected_again m first hlen
  · intro first₁ first₂ region₁ region₂ hlen₁ hlen₂ heq
    obtain ⟨first, region, hdec₁, henc₁⟩ := xor_in_place_protected_again m first₁ hlen₁
    obtain ⟨first', region', hdec₂, henc₂⟩ := xor_in_place_protected_again m first₂ hlen₂
    replace heq : xor_in_place m first₁ region₁ true = xor_in_place m first₂ region₂ true := heq
    rw [hdec₁, hdec₂] at heq
    simp only [Option.some.injEq, Prod.mk.injEq, true_and] at heq
    rw [heq.1, heq.2, henc₂] at henc₁
    simp only [Option.some.injEq, Prod.mk.injEq, true_and] at henc₁
    exact ⟨henc₁.1.symm, henc₁.2.symm⟩

/-- **Header protection is undone**, by either key, under every sample its mask succeeds
on. -/
theorem header_protection_undone :
    (∀ (encrypt_block : Vector UInt8 16 → Vector UInt8 16) (sample : List UInt8)
        (m : Vector UInt8 5),
      AesHeaderProtectionKey.mask encrypt_block sample = some (.ok m) →
      Undone (AesHeaderProtectionKey.encrypt_in_place encrypt_block sample)
        (AesHeaderProtectionKey.decrypt_in_place encrypt_block sample)) ∧
    ∀ (σ : Type) (S : StreamCipher σ) (key : Vector UInt8 32) (sample : List UInt8)
        (m : Vector UInt8 5),
      ChaChaHeaderProtectionKey.mask S key sample = some (.ok m) →
      Undone (ChaChaHeaderProtectionKey.encrypt_in_place S key sample)
        (ChaChaHeaderProtectionKey.decrypt_in_place S key sample) := by
  constructor
  · intro encrypt_block sample m hmask
    exact in_place_undone hmask
  · intro σ S key sample m hmask
    exact in_place_undone hmask

/-- The sample of RFC 9001 §A.2. -/
def initial_sample : List UInt8 :=
  [0xd1, 0xb1, 0xc9, 0x8d, 0xd7, 0x68, 0x9f, 0xb8, 0xec, 0x11, 0xd2, 0x42, 0xb1, 0x23,
   0xdc, 0x9b]

/-- The block cipher under the key of RFC 9001 §A.2, at that sample. -/
def initial_block (block : Vector UInt8 16) : Vector UInt8 16 :=
  if block.toList = initial_sample then
    #v[0x43, 0x7b, 0x9a, 0xec, 0x36, 0xbe, 0x42, 0x34, 0x00, 0xcd, 0xd1, 0x15, 0xd9, 0xdb,
       0x32, 0x41]
  else block

/-- The samples of the RFC's appendix, under either key. -/
theorem appendix_samples_undone :
    AesHeaderProtectionKey.mask initial_block initial_sample
        = some (.ok #v[0x43, 0x7b, 0x9a, 0xec, 0x36]) ∧
      Undone (AesHeaderProtectionKey.encrypt_in_place initial_block initial_sample)
        (AesHeaderProtectionKey.decrypt_in_place initial_block initial_sample) ∧
      ChaChaHeaderProtectionKey.mask ChaChaHeaderProtectionKey.reference
          ChaChaHeaderProtectionKey.hp_key ChaChaHeaderProtectionKey.short_sample
        = some (.ok #v[0xae, 0xfe, 0xfe, 0x7d, 0x03]) ∧
      Undone
        (ChaChaHeaderProtectionKey.encrypt_in_place ChaChaHeaderProtectionKey.reference
          ChaChaHeaderProtectionKey.hp_key ChaChaHeaderProtectionKey.short_sample)
        (ChaChaHeaderProtectionKey.decrypt_in_place ChaChaHeaderProtectionKey.reference
          ChaChaHeaderProtectionKey.hp_key ChaChaHeaderProtectionKey.short_sample) := by
  have haes : AesHeaderProtectionKey.mask initial_block initial_sample
      = some (.ok #v[0x43, 0x7b, 0x9a, 0xec, 0x36]) := by
    decide +kernel
  have hchacha : ChaChaHeaderProtectionKey.mask ChaChaHeaderProtectionKey.reference
      ChaChaHeaderProtectionKey.hp_key ChaChaHeaderProtectionKey.short_sample
        = some (.ok #v[0xae, 0xfe, 0xfe, 0x7d, 0x03]) := by
    decide +kernel
  exact ⟨haes, header_protection_undone.1 _ _ _ haes, hchacha,
    header_protection_undone.2 _ _ _ _ _ hchacha⟩

/-! ## The RFC's reading -/

/-- One byte of the packet number, as the code leaves it. -/
theorem getElem?_xor_packet_number (mask : Vector UInt8 5) (pn_len : ℕ)
    (packet_number : List UInt8) (i : Fin 4) :
    (xor_packet_number mask.toList.tail pn_len packet_number)[i.val]?
      = packet_number[i.val]?.map fun byte =>
          if i.val < pn_len then byte ^^^ mask[1 + i.val] else byte := by
  have hmask : i.val < mask.toList.tail.length := by
    rw [List.length_tail, Vector.length_toList]
    exact i.isLt
  have hbyte : mask.toList.tail[i.val] = mask[1 + i.val] := by
    rw [List.getElem_tail, Vector.getElem_toList]
    congr 1
    omega
  by_cases hi : i.val < packet_number.length
  · rw [List.getElem?_eq_getElem (by rw [length_xor_packet_number]; exact hi),
      getElem_xor_packet_number hi hmask, List.getElem?_eq_getElem hi, Option.map_some, hbyte]
  · rw [List.getElem?_eq_none (by rw [length_xor_packet_number]; omega),
      List.getElem?_eq_none (by omega), Option.map_none]

/-- A sample that is not sixteen bytes long has no mask; header and packet number stay. -/
theorem in_place_of_invalid_sample {mask : List UInt8 → Option (Except Error (Vector UInt8 5))}
    (hmask : ∀ sample, try_into 16 sample = none →
      mask sample = some (.error (.General "sample of invalid length")))
    {sample : List UInt8} (hlen : sample.length ≠ 16) (first : UInt8)
    (packet_number : List UInt8) (masked : Bool) :
    in_place (mask sample) first packet_number masked
      = some (.error (.General "sample of invalid length"), first, packet_number) := by
  rw [hmask sample (try_into_eq_none_iff.mpr hlen)]
  rfl

/-- **The uniform loop is RFC 9001 §5.4.1.** A slice of more than four bytes is refused and
nothing changes; any other has the protected bits of its first byte flipped and the bytes of
the packet number, and no others, met with the mask, as the reference does; and a sample of
another length than sixteen is refused by either key in either direction. -/
theorem xor_in_place_eq_rfc :
    (∀ (mask : Vector UInt8 5) (first : UInt8) (packet_number : List UInt8) (masked : Bool),
      xor_in_place mask first packet_number masked
          = some (Rfc9001.header_protection mask first packet_number masked) ∧
      (4 < packet_number.length → ∃ e,
        xor_in_place mask first packet_number masked = some (.error e, first, packet_number)) ∧
      (packet_number.length ≤ 4 → ∃ first' packet_number',
        xor_in_place mask first packet_number masked = some (.ok (), first', packet_number') ∧
        first' = first ^^^ (mask.get 0 &&& if first &&& 0x80 = 0x80 then 0x0f else 0x1f) ∧
        packet_number'.length = packet_number.length ∧
        ∀ i : Fin 4, packet_number'[i.val]? = packet_number[i.val]?.map fun byte =>
          if i.val < Rfc9001.pn_length (if masked then first' else first)
          then byte ^^^ mask[1 + i.val] else byte)) ∧
    ∀ sample : List UInt8, sample.length ≠ 16 →
      ∀ (first : UInt8) (packet_number : List UInt8),
        (∀ encrypt_block : Vector UInt8 16 → Vector UInt8 16, ∃ e,
          AesHeaderProtectionKey.encrypt_in_place encrypt_block sample first packet_number
              = some (.error e, first, packet_number) ∧
          AesHeaderProtectionKey.decrypt_in_place encrypt_block sample first packet_number
              = some (.error e, first, packet_number)) ∧
        ∀ (σ : Type) (S : StreamCipher σ) (key : Vector UInt8 32), ∃ e,
          ChaChaHeaderProtectionKey.encrypt_in_place S key sample first packet_number
              = some (.error e, first, packet_number) ∧
          ChaChaHeaderProtectionKey.decrypt_in_place S key sample first packet_number
              = some (.error e, first, packet_number) := by
  constructor
  · intro mask first packet_number masked
    refine ⟨xor_in_place_eq_reference mask first packet_number masked, ?_, ?_⟩
    · intro hlong
      rw [xor_in_place_eq, if_pos hlong]
      exact ⟨_, rfl⟩
    · intro hlen
      refine ⟨first ^^^ (mask[0] &&& mask_bits first),
        xor_packet_number mask.toList.tail
          (Rfc9001.pn_length
            (if masked then first ^^^ (mask[0] &&& mask_bits first) else first))
          packet_number, ?_, ?_, length_xor_packet_number _ _ _, ?_⟩
      · rw [xor_in_place_eq, if_neg (by omega)]
        rfl
      · rw [mask_bits_eq]
        rfl
      · intro i
        exact getElem?_xor_packet_number mask _ packet_number i
  · intro sample hlen first packet_number
    constructor
    · intro encrypt_block
      have hmask : ∀ sample, try_into 16 sample = none →
          AesHeaderProtectionKey.mask encrypt_block sample
            = some (.error (.General "sample of invalid length")) := by
        intro sample h
        unfold AesHeaderProtectionKey.mask
        rw [h]
      exact ⟨_, in_place_of_invalid_sample hmask hlen first packet_number false,
        in_place_of_invalid_sample hmask hlen first packet_number true⟩
    · intro σ S key
      have hmask : ∀ sample, try_into 16 sample = none →
          ChaChaHeaderProtectionKey.mask S key sample
            = some (.error (.General "sample of invalid length")) := by
        intro sample h
        unfold ChaChaHeaderProtectionKey.mask
        rw [h]
      exact ⟨_, in_place_of_invalid_sample hmask hlen first packet_number false,
        in_place_of_invalid_sample hmask hlen first packet_number true⟩

/-- The sample of RFC 9001 §A.5 on three bytes, on five, and a sample of five. -/
theorem three_bytes_under_the_appendix_mask :
    (∃ first' packet_number',
      xor_in_place #v[0xae, 0xfe, 0xfe, 0x7d, 0x03] 0x41 [0, 1, 2] false
          = some (.ok (), first', packet_number') ∧
        first' = 0x4f ∧ packet_number'.length = 3) ∧
      (∃ e, xor_in_place #v[0xae, 0xfe, 0xfe, 0x7d, 0x03] 0x41 [0, 1, 2, 3, 4] false
        = some (.error e, 0x41, [0, 1, 2, 3, 4])) ∧
      ∃ e, AesHeaderProtectionKey.decrypt_in_place initial_block [1, 2, 3, 4, 5] 0x41 [0, 1]
        = some (.error e, 0x41, [0, 1]) := by
  refine ⟨?_, ?_, ?_⟩
  · obtain ⟨first', packet_number', heq, hfirst, hlen, -⟩ :=
      (xor_in_place_eq_rfc.1 #v[0xae, 0xfe, 0xfe, 0x7d, 0x03] 0x41 [0, 1, 2] false).2.2
        (by decide)
    refine ⟨first', packet_number', heq, ?_, hlen⟩
    rw [hfirst]
    decide
  · exact (xor_in_place_eq_rfc.1 _ _ _ false).2.1 (by decide)
  · obtain ⟨e, -, h⟩ := (xor_in_place_eq_rfc.2 [1, 2, 3, 4, 5] (by decide) 0x41 [0, 1]).1
      initial_block
    exact ⟨e, h⟩

end PolymorphTls.HeaderProtection
