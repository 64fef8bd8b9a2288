/-
Raw public keys (`rust/profile/src/lib.rs`, `rust/tls/src/rpk.rs`): the encoding of an
Ed25519 key that stands in for a certificate, and the two policies that admit it.

The server verifier pins a key by comparing *encodings*; the client verifier admits what
*decodes*; and the application reads the key it authorises by decoding once more. Those are
three readings of one byte string. They agree because the decoder accepts nothing but what
the encoder makes: a fixed prefix of twelve bytes and exactly thirty-two after it. A second
encoding of a key, were there one, would be admitted and authorised as that key.

## What is proved

`public_key_from_ed25519_spki_eq_some_iff` is that fact: decoding is the inverse of
encoding, as a relation between byte strings and keys. `Exact` says what follows for the
verifiers and the identities, and `authentication_is_exact` has it.
-/
import PolymorphTls.HeaderProtection

set_option autoImplicit false

namespace PolymorphTls.Rpk

open PolymorphTls.HeaderProtection (try_into try_into_eq_some_iff)

/-! ## The encoding -/

/-- The DER in front of every Ed25519 public key: its length is fixed, so decoding is
splitting here. -/
def ED25519_SPKI_PREFIX : List UInt8 :=
  [0x30, 0x2a, 0x30, 0x05, 0x06, 0x03, 0x2b, 0x65, 0x70, 0x03, 0x21, 0x00]

/-- `ed25519_spki`. -/
def ed25519_spki (public_key : Vector UInt8 32) : List UInt8 :=
  ED25519_SPKI_PREFIX ++ public_key.toList

/-- `<[u8]>::split_at_checked`. -/
def split_at_checked (bytes : List UInt8) (mid : ℕ) : Option (List UInt8 × List UInt8) :=
  if mid ≤ bytes.length then some (bytes.splitAt mid) else none

/-- `public_key_from_ed25519_spki`. No ASN.1 is parsed: a key is what follows the one
prefix, at its one length. -/
def public_key_from_ed25519_spki (spki : List UInt8) : Option (Vector UInt8 32) := do
  let (leading, key) ← split_at_checked spki ED25519_SPKI_PREFIX.length
  if leading ≠ ED25519_SPKI_PREFIX then
    none
  else
    try_into 32 key

/-- A split gives back what it split. -/
theorem split_at_checked_eq_some_iff {bytes a b : List UInt8} {mid : ℕ} :
    split_at_checked bytes mid = some (a, b) ↔ a.length = mid ∧ a ++ b = bytes := by
  unfold split_at_checked
  rw [List.splitAt_eq]
  constructor
  · intro h
    split at h
    · next hmid =>
      rw [Option.some.injEq, Prod.mk.injEq] at h
      rw [← h.1, ← h.2]
      exact ⟨List.length_take_of_le hmid, List.take_append_drop mid bytes⟩
    · exact absurd h (by simp)
  · rintro ⟨rfl, rfl⟩
    rw [if_pos (by rw [List.length_append]; omega), List.take_left, List.drop_left]

/-- **Decoding is the inverse of encoding**: the byte strings that decode are those the
encoder makes, and a byte string decodes to the key it encodes. -/
theorem public_key_from_ed25519_spki_eq_some_iff {spki : List UInt8} {key : Vector UInt8 32} :
    public_key_from_ed25519_spki spki = some key ↔ spki = ed25519_spki key := by
  unfold public_key_from_ed25519_spki ed25519_spki
  constructor
  · intro h
    rw [Option.bind_eq_bind, Option.bind_eq_some_iff] at h
    obtain ⟨⟨leading, rest⟩, hsplit, hkey⟩ := h
    rw [split_at_checked_eq_some_iff] at hsplit
    replace hkey : (if leading ≠ ED25519_SPKI_PREFIX then none else try_into 32 rest)
      = some key := hkey
    split at hkey
    · exact absurd hkey (by simp)
    · next hprefix =>
      rw [try_into_eq_some_iff] at hkey
      rw [← hsplit.2, not_not.mp hprefix, hkey]
  · rintro rfl
    have hsplit : split_at_checked (ED25519_SPKI_PREFIX ++ key.toList)
        ED25519_SPKI_PREFIX.length = some (ED25519_SPKI_PREFIX, key.toList) :=
      split_at_checked_eq_some_iff.mpr ⟨rfl, rfl⟩
    rw [hsplit]
    show (if ED25519_SPKI_PREFIX ≠ ED25519_SPKI_PREFIX then none else try_into 32 key.toList) = _
    rw [if_neg (by simp), try_into_eq_some_iff]

/-- One key to an encoding. So a verifier that compares encodings compares keys. -/
theorem ed25519_spki_injective {k₁ k₂ : Vector UInt8 32}
    (h : ed25519_spki k₁ = ed25519_spki k₂) : k₁ = k₂ := by
  rw [← public_key_from_ed25519_spki_eq_some_iff,
    public_key_from_ed25519_spki_eq_some_iff.mpr rfl] at h
  exact Option.some.inj h

/-! ## The verifiers -/

/-- `rustls::CertificateError`, the variants these verifiers answer with. -/
inductive CertificateError where
  | BadEncoding
  | ApplicationVerificationFailure
  deriving DecidableEq, Repr

/-- `rustls::Error`, as they build it. -/
inductive Error where
  | InvalidCertificate (error : CertificateError)
  deriving DecidableEq, Repr

/-- `peer_public_key`. -/
def peer_public_key (peer_certificate : List UInt8) : Option (Vector UInt8 32) :=
  public_key_from_ed25519_spki peer_certificate

/-- `RpkServerVerifier`: the encoding of the one key it is for. -/
structure RpkServerVerifier where
  expected_spki : List UInt8

/-- `RpkServerVerifier::new`. -/
def RpkServerVerifier.new (expected_key : Vector UInt8 32) : RpkServerVerifier where
  expected_spki := ed25519_spki expected_key

/-- `RpkServerVerifier::verify_server_cert`. -/
def RpkServerVerifier.verify_server_cert (self : RpkServerVerifier) (end_entity : List UInt8)
    (intermediates : List (List UInt8)) : Except Error Unit :=
  if ¬ intermediates.isEmpty then
    .error (.InvalidCertificate .BadEncoding)
  else if end_entity ≠ self.expected_spki then
    .error (.InvalidCertificate .ApplicationVerificationFailure)
  else
    .ok ()

/-- `RpkClientVerifier::verify_client_cert`. -/
def RpkClientVerifier.verify_client_cert (end_entity : List UInt8)
    (intermediates : List (List UInt8)) : Except Error Unit :=
  if ¬ intermediates.isEmpty then
    .error (.InvalidCertificate .BadEncoding)
  else if (public_key_from_ed25519_spki end_entity).isNone then
    .error (.InvalidCertificate .BadEncoding)
  else
    .ok ()

/-- The server verifier admits the one encoding it is for, with no intermediates. -/
theorem verify_server_cert_eq_ok_iff {v : RpkServerVerifier} {end_entity : List UInt8}
    {intermediates : List (List UInt8)} :
    v.verify_server_cert end_entity intermediates = .ok () ↔
      intermediates = [] ∧ end_entity = v.expected_spki := by
  unfold RpkServerVerifier.verify_server_cert
  rcases intermediates with _ | ⟨_, _⟩
  · by_cases heq : end_entity = v.expected_spki
    · simp [heq]
    · simp [heq]
  · simp

/-- The client verifier admits any encoding, with no intermediates: who the peer is, the
application asks afterwards. -/
theorem verify_client_cert_eq_ok_iff {end_entity : List UInt8}
    {intermediates : List (List UInt8)} :
    RpkClientVerifier.verify_client_cert end_entity intermediates = .ok () ↔
      intermediates = [] ∧ ∃ key, end_entity = ed25519_spki key := by
  have hdecodes : (∃ key, end_entity = ed25519_spki key) ↔
      (public_key_from_ed25519_spki end_entity).isSome := by
    rw [Option.isSome_iff_exists]
    apply exists_congr
    intro key
    exact public_key_from_ed25519_spki_eq_some_iff.symm
  unfold RpkClientVerifier.verify_client_cert
  rw [hdecodes]
  rcases intermediates with _ | ⟨_, _⟩
  · rcases public_key_from_ed25519_spki end_entity with _ | key
    · simp
    · simp
  · simp

/-! ## Identities -/

/-- `RpkIdentity`, less how it signs. -/
structure RpkIdentity where
  public_key : Vector UInt8 32

/-- `InvalidIdentity`. -/
structure InvalidIdentity where
  message : String
  deriving DecidableEq, Repr

namespace RpkIdentity

/-- `RpkIdentity::from_pkcs8_der`. `from_pkcs8_der` of the `ed25519_dalek` crate, with the
public half of the key it reads, is the parameter. -/
def from_pkcs8_der (verifying_key : List UInt8 → Option (Vector UInt8 32))
    (pkcs8_der : List UInt8) : Except InvalidIdentity RpkIdentity :=
  match verifying_key pkcs8_der with
  | none => .error ⟨"key material is not an Ed25519 PKCS#8 document"⟩
  | some public_key => .ok ⟨public_key⟩

/-- `RpkIdentity::external`, of what the signer reports as its public key. -/
def external (public_key : Option (List UInt8)) : Except InvalidIdentity RpkIdentity :=
  match public_key with
  | none => .error ⟨"signer does not expose its public key"⟩
  | some spki =>
    match public_key_from_ed25519_spki spki with
    | none => .error ⟨"signer's public key is not an Ed25519 SPKI"⟩
    | some public_key => .ok ⟨public_key⟩

/-- `RpkIdentity::spki_der`. -/
def spki_der (self : RpkIdentity) : List UInt8 := ed25519_spki self.public_key

/-- A peer reads, from what an identity presents, the public half of its key material. -/
theorem peer_public_key_from_pkcs8_der {verifying_key : List UInt8 → Option (Vector UInt8 32)}
    {pkcs8_der : List UInt8} {identity : RpkIdentity}
    (h : from_pkcs8_der verifying_key pkcs8_der = .ok identity) :
    peer_public_key identity.spki_der = verifying_key pkcs8_der := by
  unfold from_pkcs8_der at h
  rcases hkey : verifying_key pkcs8_der with _ | key
  · rw [hkey] at h
    exact absurd h (by simp)
  · rw [hkey] at h
    rw [← Except.ok.inj h]
    exact public_key_from_ed25519_spki_eq_some_iff.mpr rfl

/-- An identity around a signer presents what the signer reports. -/
theorem spki_der_external {spki : List UInt8} {identity : RpkIdentity}
    (h : external (some spki) = .ok identity) : identity.spki_der = spki := by
  simp only [external] at h
  rcases hkey : public_key_from_ed25519_spki spki with _ | key
  · rw [hkey] at h
    exact absurd h (by simp)
  · rw [hkey] at h
    rw [public_key_from_ed25519_spki_eq_some_iff] at hkey
    rw [hkey, ← Except.ok.inj h]
    rfl

end RpkIdentity

/-! ## Authentication -/

/-- One of the two policies admits a byte string. -/
def Accepted (end_entity : List UInt8) : Prop :=
  (∃ intermediates,
    RpkClientVerifier.verify_client_cert end_entity intermediates = .ok ()) ∨
  ∃ key intermediates,
    (RpkServerVerifier.new key).verify_server_cert end_entity intermediates = .ok ()

/-- Encoder, decoder and verifiers speak of one key. -/
structure Exact : Prop where
  /-- Pinning compares encodings, and that is comparing keys. -/
  pinned : ∀ (key : Vector UInt8 32) (end_entity : List UInt8)
    (intermediates : List (List UInt8)),
    (RpkServerVerifier.new key).verify_server_cert end_entity intermediates = .ok () ↔
      intermediates = [] ∧ peer_public_key end_entity = some key
  /-- Admission is of encodings of keys and nothing else. -/
  admitted : ∀ (end_entity : List UInt8) (intermediates : List (List UInt8)),
    RpkClientVerifier.verify_client_cert end_entity intermediates = .ok () ↔
      intermediates = [] ∧ ∃ key, end_entity = ed25519_spki key
  /-- What is read after admission is the key presented, and there is one. -/
  read : ∀ (end_entity : List UInt8) (intermediates : List (List UInt8)),
    RpkClientVerifier.verify_client_cert end_entity intermediates = .ok () →
      ∃ key, end_entity = ed25519_spki key ∧ peer_public_key end_entity = some key ∧
        ∀ key', end_entity = ed25519_spki key' → key' = key
  /-- No key has two encodings that are accepted. -/
  one_encoding : ∀ c₁ c₂ : List UInt8, Accepted c₁ → Accepted c₂ →
    peer_public_key c₁ = peer_public_key c₂ → c₁ = c₂
  /-- An identity is accepted by the verifiers pinned to it. -/
  presented : ∀ (identity : RpkIdentity) (key : Vector UInt8 32),
    (RpkServerVerifier.new key).verify_server_cert identity.spki_der [] = .ok () ↔
      key = identity.public_key

/-- What is accepted is an encoding. -/
theorem exists_key_of_accepted {end_entity : List UInt8} (h : Accepted end_entity) :
    ∃ key, end_entity = ed25519_spki key := by
  rcases h with ⟨intermediates, h⟩ | ⟨key, intermediates, h⟩
  · rw [verify_client_cert_eq_ok_iff] at h
    exact h.2
  · rw [verify_server_cert_eq_ok_iff] at h
    exact ⟨key, h.2⟩

/-- **Raw-public-key authentication is exact**: the verifiers admit exactly the encodings of
the keys they are for, one encoding to a key, and the key read afterwards is the one
presented. -/
theorem authentication_is_exact : Exact where
  pinned := by
    intro key end_entity intermediates
    rw [verify_server_cert_eq_ok_iff]
    unfold peer_public_key
    rw [public_key_from_ed25519_spki_eq_some_iff]
    rfl
  admitted := by
    intro end_entity intermediates
    exact verify_client_cert_eq_ok_iff
  read := by
    intro end_entity intermediates h
    obtain ⟨-, key, rfl⟩ := verify_client_cert_eq_ok_iff.mp h
    refine ⟨key, rfl, public_key_from_ed25519_spki_eq_some_iff.mpr rfl, ?_⟩
    intro key' h'
    exact (ed25519_spki_injective h').symm
  one_encoding := by
    intro c₁ c₂ h₁ h₂ hread
    obtain ⟨k₁, rfl⟩ := exists_key_of_accepted h₁
    obtain ⟨k₂, rfl⟩ := exists_key_of_accepted h₂
    unfold peer_public_key at hread
    rw [public_key_from_ed25519_spki_eq_some_iff.mpr rfl, eq_comm,
      public_key_from_ed25519_spki_eq_some_iff] at hread
    exact hread.symm
  presented := by
    intro identity key
    rw [verify_server_cert_eq_ok_iff]
    constructor
    · rintro ⟨-, h⟩
      exact (ed25519_spki_injective h).symm
    · intro h
      exact ⟨rfl, by rw [h]; rfl⟩

end PolymorphTls.Rpk
