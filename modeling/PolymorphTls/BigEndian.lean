/-
Numbers as bytes, the high byte first, and bytes under a pad.

`bytes n v` is the `n`-byte encoding of `v`, with what does not fit cut off at the front.
Two encodings put side by side are the encoding of one number (`bytes_append`), which is how
a wide counter made of two fields is read; and below `256 ^ n` nothing is cut off, so equal
bytes are equal numbers (`bytes_injective`), also under a pad (`pad_injective`).
-/
import Mathlib.Algebra.Group.Nat.Defs
import Mathlib.Data.List.Basic

set_option autoImplicit false

namespace BigEndian

/-- The `n` low bytes of a number, the high one first. -/
def bytes : ℕ → ℕ → List UInt8
  | 0, _ => []
  | n + 1, v => bytes n (v / 256) ++ [UInt8.ofNat v]

@[simp] theorem length_bytes (n v : ℕ) : (bytes n v).length = n := by
  induction n generalizing v with
  | zero => rfl
  | succ n ih =>
    rw [bytes, List.length_append, ih]
    rfl

/-- A number that fits is what its bytes say. -/
theorem bytes_injective {n a b : ℕ} (ha : a < 256 ^ n) (hb : b < 256 ^ n)
    (h : bytes n a = bytes n b) : a = b := by
  induction n generalizing a b with
  | zero =>
    rw [Nat.pow_zero] at ha hb
    omega
  | succ n ih =>
    rw [Nat.pow_succ] at ha hb
    rw [bytes, bytes] at h
    obtain ⟨hhigh, hlow⟩ := List.append_inj h (by rw [length_bytes, length_bytes])
    have hdiv : a / 256 = b / 256 := by
      apply ih
      · exact Nat.div_lt_of_lt_mul (by rw [Nat.mul_comm]; exact ha)
      · exact Nat.div_lt_of_lt_mul (by rw [Nat.mul_comm]; exact hb)
      · exact hhigh
    have hmod : a % 256 = b % 256 := by
      rw [List.cons.injEq] at hlow
      have := congrArg UInt8.toNat hlow.1
      rw [UInt8.toNat_ofNat', UInt8.toNat_ofNat'] at this
      exact this
    omega

/-- Two fields side by side are one field. -/
theorem bytes_append (m n high low : ℕ) (hlow : low < 256 ^ n) :
    bytes m high ++ bytes n low = bytes (m + n) (high * 256 ^ n + low) := by
  induction n generalizing low with
  | zero =>
    rw [Nat.pow_zero] at hlow
    have hzero : low = 0 := by omega
    rw [hzero, Nat.pow_zero, Nat.mul_one, Nat.add_zero, bytes, List.append_nil]
    rfl
  | succ n ih =>
    have hdiv : (high * 256 ^ (n + 1) + low) / 256 = high * 256 ^ n + low / 256 := by
      rw [Nat.pow_succ, ← Nat.mul_assoc, Nat.add_comm, Nat.add_mul_div_right _ _ (by decide)]
      omega
    have hmod : (high * 256 ^ (n + 1) + low) % 256 = low % 256 := by
      rw [Nat.pow_succ, ← Nat.mul_assoc, Nat.add_comm, Nat.add_mul_mod_self_right]
    have hbyte : UInt8.ofNat (high * 256 ^ (n + 1) + low) = UInt8.ofNat low := by
      rw [← UInt8.toNat_inj, UInt8.toNat_ofNat', UInt8.toNat_ofNat']
      exact hmod
    rw [Nat.pow_succ] at hlow
    show bytes m high ++ (bytes n (low / 256) ++ [UInt8.ofNat low])
      = bytes (m + n) ((high * 256 ^ (n + 1) + low) / 256)
        ++ [UInt8.ofNat (high * 256 ^ (n + 1) + low)]
    rw [hdiv, hbyte, ← ih _ (Nat.div_lt_of_lt_mul (by rw [Nat.mul_comm]; exact hlow)),
      List.append_assoc]

/-! ## Pads -/

/-- Bytes XORed with a pad, as far as both reach. -/
def pad (key bytes : List UInt8) : List UInt8 := List.zipWith (· ^^^ ·) bytes key

theorem length_pad (key bytes : List UInt8) :
    (pad key bytes).length = min bytes.length key.length := by
  unfold pad
  rw [List.length_zipWith]

/-- A pad as long as the bytes hides nothing of them from who knows it. -/
theorem pad_pad {key bytes : List UInt8} (h : bytes.length ≤ key.length) :
    pad key (pad key bytes) = bytes := by
  apply List.ext_getElem
  · rw [length_pad, length_pad]
    omega
  · intro i h₁ h₂
    simp only [pad, List.getElem_zipWith]
    rw [UInt8.xor_assoc, UInt8.xor_self, UInt8.xor_zero]

theorem pad_injective {key a b : List UInt8} (ha : a.length ≤ key.length)
    (hb : b.length ≤ key.length) (h : pad key a = pad key b) : a = b := by
  rw [← pad_pad ha, h, pad_pad hb]

end BigEndian
