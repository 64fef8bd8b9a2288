/-
QUIC packet protection (`rust/quic/src/packet.rs`): a packet's payload sealed in place under
the key, the header as associated data, and a nonce made of the IV, the path and the packet
number.

There are four methods, a plain pair and a pair for a path, with the same body up to the
nonce: `encrypt_with_nonce` and `decrypt_with_nonce`. The AEAD is a parameter, `Aead`, with
what a correct detached-tag scheme does as `Aead.Correct`; the two nonces are as the `rustls`
crate documents them.

## What is proved

`Protects` is the purpose: what is sealed on a path opens on that path to the payload, the
plain methods are those of path 0, every call hands the AEAD its own nonce, a nonce is used
for one path and packet number only, and what is too short to hold a tag is refused
untouched. `packet_key_protects` has it for every key. An AEAD need not take payloads of any
size, so the first clause says of every payload which of the two happens: it is sealed and
opens again, or the AEAD does not take it and the caller gets the error.
-/
import PolymorphTls.BigEndian
import PolymorphTls.HeaderProtection

set_option autoImplicit false

namespace PolymorphTls.PacketProtection

/-! ## The AEAD -/

/-- `AeadInOut` with a nonce of twelve bytes and a tag of sixteen. The buffer is encrypted
or decrypted in place: each call gives its result and what the buffer then holds. -/
structure Aead where
  encrypt_inout_detached : Vector UInt8 12 → List UInt8 → List UInt8 →
    Option (Vector UInt8 16) × List UInt8
  decrypt_inout_detached : Vector UInt8 12 → List UInt8 → List UInt8 → Vector UInt8 16 →
    Option Unit × List UInt8

/-- A correct scheme on a message space: it encrypts exactly the messages of the space,
whatever the nonce, keeps their length, and decrypts what it encrypted. -/
structure Aead.Correct (C : Aead) (Message : List UInt8 → List UInt8 → Prop) : Prop where
  encrypts : ∀ nonce aad payload, Message aad payload →
    ∃ tag sealed, C.encrypt_inout_detached nonce aad payload = (some tag, sealed)
  refuses : ∀ nonce aad payload, ¬ Message aad payload →
    (C.encrypt_inout_detached nonce aad payload).1 = none
  length : ∀ nonce aad payload tag sealed,
    C.encrypt_inout_detached nonce aad payload = (some tag, sealed) →
      sealed.length = payload.length
  decrypts : ∀ nonce aad payload tag sealed,
    C.encrypt_inout_detached nonce aad payload = (some tag, sealed) →
      C.decrypt_inout_detached nonce aad sealed tag = (some (), payload)

/-! ## Nonces -/

/-- Twelve bytes under the IV. -/
def under_iv (iv : Vector UInt8 12) (bytes : List UInt8) (h : bytes.length = 12) :
    Vector UInt8 12 :=
  ⟨(BigEndian.pad iv.toList bytes).toArray, by
    rw [List.size_toArray, BigEndian.length_pad, h, Vector.length_toList]
    rfl⟩

/-- `Nonce::new`: the IV XOR the packet number as 96 bits. -/
def Nonce.new (iv : Vector UInt8 12) (packet_number : UInt64) : Vector UInt8 12 :=
  under_iv iv (BigEndian.bytes 12 packet_number.toNat) (BigEndian.length_bytes _ _)

/-- `Nonce::for_path`: the IV XOR 32 bits of path and 64 of packet number. -/
def Nonce.for_path (path_id : UInt32) (iv : Vector UInt8 12) (packet_number : UInt64) :
    Vector UInt8 12 :=
  under_iv iv (BigEndian.bytes 4 path_id.toNat ++ BigEndian.bytes 8 packet_number.toNat) (by
    rw [List.length_append, BigEndian.length_bytes, BigEndian.length_bytes])

theorem toList_under_iv {iv : Vector UInt8 12} {bytes : List UInt8} (h : bytes.length = 12) :
    (under_iv iv bytes h).toList = BigEndian.pad iv.toList bytes := rfl

/-- The IV cancels. -/
theorem under_iv_injective {iv : Vector UInt8 12} {a b : List UInt8} {ha : a.length = 12}
    {hb : b.length = 12} (h : under_iv iv a ha = under_iv iv b hb) : a = b := by
  have hlist := congrArg Vector.toList h
  rw [toList_under_iv, toList_under_iv] at hlist
  apply BigEndian.pad_injective _ _ hlist
  · rw [Vector.length_toList, ha]
  · rw [Vector.length_toList, hb]

/-- The plain nonce is that of path 0: its upper 32 bits are those of a packet number that
has 64. -/
theorem Nonce.new_eq_for_path (iv : Vector UInt8 12) (packet_number : UInt64) :
    Nonce.new iv packet_number = Nonce.for_path 0 iv packet_number := by
  have hbytes : BigEndian.bytes 4 (0 : UInt32).toNat ++ BigEndian.bytes 8 packet_number.toNat
      = BigEndian.bytes 12 packet_number.toNat := by
    have hlt := packet_number.toNat_lt
    rw [BigEndian.bytes_append _ _ _ _ (by omega), show (0 : UInt32).toNat = 0 from rfl,
      Nat.zero_mul, Nat.zero_add]
  unfold Nonce.new Nonce.for_path
  simp only [hbytes]

/-- One path and one packet number to a nonce. -/
theorem Nonce.for_path_injective {iv : Vector UInt8 12} {path₁ path₂ : UInt32}
    {pn₁ pn₂ : UInt64} (h : Nonce.for_path path₁ iv pn₁ = Nonce.for_path path₂ iv pn₂) :
    path₁ = path₂ ∧ pn₁ = pn₂ := by
  obtain ⟨hpath, hpn⟩ := List.append_inj (under_iv_injective h) (by
    rw [BigEndian.length_bytes, BigEndian.length_bytes])
  constructor
  · have h₁ := path₁.toNat_lt
    have h₂ := path₂.toNat_lt
    rw [← UInt32.toNat_inj]
    exact BigEndian.bytes_injective (by omega) (by omega) hpath
  · have h₁ := pn₁.toNat_lt
    have h₂ := pn₂.toNat_lt
    rw [← UInt64.toNat_inj]
    exact BigEndian.bytes_injective (by omega) (by omega) hpn

/-! ## The packet key -/

/-- `rustls::Error`, the two variants this code builds. -/
inductive Error where
  | EncryptError
  | DecryptError
  deriving DecidableEq, Repr

/-- `PacketKey`, less its usage limits. -/
structure PacketKey where
  cipher : Aead
  iv : Vector UInt8 12

/-- The body of the encrypting methods: the result and the buffer. -/
def encrypt_with_nonce (C : Aead) (nonce : Vector UInt8 12) (header payload : List UInt8) :
    Except Error (Vector UInt8 16) × List UInt8 :=
  match C.encrypt_inout_detached nonce header payload with
  | (none, payload) => (.error .EncryptError, payload)
  | (some tag, payload) => (.ok tag, payload)

/-- `tag.copy_from_slice(bytes)` into sixteen bytes; `none` is a panic. -/
def copy_tag (bytes : List UInt8) : Option (Vector UInt8 16) :=
  HeaderProtection.try_into 16 bytes

/-- The body of the decrypting methods: the plaintext and the buffer; `none` is a panic. -/
def decrypt_with_nonce (C : Aead) (nonce : Vector UInt8 12) (header payload : List UInt8) :
    Option (Except Error (List UInt8) × List UInt8) :=
  -- `checked_sub(16)`
  if payload.length < 16 then
    some (.error .DecryptError, payload)
  else do
    let plain_len := payload.length - 16
    let tag ← copy_tag (payload.drop plain_len)
    match C.decrypt_inout_detached nonce header (payload.take plain_len) tag with
    | (none, plain) => return (.error .DecryptError, plain ++ payload.drop plain_len)
    | (some (), plain) =>
      let payload := plain ++ payload.drop plain_len
      return (.ok (payload.take plain_len), payload)

namespace PacketKey

/-- `PacketKey::encrypt_in_place`. -/
def encrypt_in_place (self : PacketKey) (packet_number : UInt64) (header payload : List UInt8) :
    Except Error (Vector UInt8 16) × List UInt8 :=
  encrypt_with_nonce self.cipher (Nonce.new self.iv packet_number) header payload

/-- `PacketKey::decrypt_in_place`. -/
def decrypt_in_place (self : PacketKey) (packet_number : UInt64) (header payload : List UInt8) :
    Option (Except Error (List UInt8) × List UInt8) :=
  decrypt_with_nonce self.cipher (Nonce.new self.iv packet_number) header payload

/-- `PacketKey::encrypt_in_place_for_path`. -/
def encrypt_in_place_for_path (self : PacketKey) (path_id : UInt32) (packet_number : UInt64)
    (header payload : List UInt8) : Except Error (Vector UInt8 16) × List UInt8 :=
  encrypt_with_nonce self.cipher (Nonce.for_path path_id self.iv packet_number) header payload

/-- `PacketKey::decrypt_in_place_for_path`. -/
def decrypt_in_place_for_path (self : PacketKey) (path_id : UInt32) (packet_number : UInt64)
    (header payload : List UInt8) : Option (Except Error (List UInt8) × List UInt8) :=
  decrypt_with_nonce self.cipher (Nonce.for_path path_id self.iv packet_number) header payload

end PacketKey

/-! ## What the methods owe -/

/-- A call that protects a packet or removes its protection, by the method it goes to. -/
inductive Call where
  | plain (packet_number : UInt64)
  | for_path (path_id : UInt32) (packet_number : UInt64)

namespace Call

/-- The path a call counts for, and its packet number. -/
def path_and_number : Call → UInt32 × UInt64
  | .plain packet_number => (0, packet_number)
  | .for_path path_id packet_number => (path_id, packet_number)

/-- The nonce it hands to the AEAD. -/
def nonce (iv : Vector UInt8 12) : Call → Vector UInt8 12
  | .plain packet_number => Nonce.new iv packet_number
  | .for_path path_id packet_number => Nonce.for_path path_id iv packet_number

def encrypt (K : PacketKey) : Call → List UInt8 → List UInt8 →
    Except Error (Vector UInt8 16) × List UInt8
  | .plain packet_number => K.encrypt_in_place packet_number
  | .for_path path_id packet_number => K.encrypt_in_place_for_path path_id packet_number

def decrypt (K : PacketKey) : Call → List UInt8 → List UInt8 →
    Option (Except Error (List UInt8) × List UInt8)
  | .plain packet_number => K.decrypt_in_place packet_number
  | .for_path path_id packet_number => K.decrypt_in_place_for_path path_id packet_number

end Call

/-- What a packet key is for, over an AEAD that takes the messages of `Message`. -/
structure Protects (K : PacketKey) (Message : List UInt8 → List UInt8 → Prop) : Prop where
  /-- What is sealed on a path opens there, to the payload. -/
  round_trip : ∀ path_id packet_number header payload, Message header payload →
    ∃ tag sealed,
      K.encrypt_in_place_for_path path_id packet_number header payload = (.ok tag, sealed) ∧
      sealed.length = payload.length ∧
      K.decrypt_in_place_for_path path_id packet_number header (sealed ++ tag.toList)
        = some (.ok payload, payload ++ tag.toList)
  /-- What the AEAD does not take is not sealed. -/
  not_sealed : ∀ path_id packet_number header payload, ¬ Message header payload →
    (K.encrypt_in_place_for_path path_id packet_number header payload).1 = .error .EncryptError
  /-- The plain methods are those of path 0. -/
  encrypt_path_zero : ∀ packet_number header payload,
    K.encrypt_in_place packet_number header payload
      = K.encrypt_in_place_for_path 0 packet_number header payload
  decrypt_path_zero : ∀ packet_number header payload,
    K.decrypt_in_place packet_number header payload
      = K.decrypt_in_place_for_path 0 packet_number header payload
  /-- What a call answers is what the AEAD makes of the buffer under the call's nonce, -/
  sealed_at_nonce : ∀ (c : Call) (header payload : List UInt8) result buffer,
    K.cipher.encrypt_inout_detached (c.nonce K.iv) header payload = (result, buffer) →
    c.encrypt K header payload =
      (match result with
        | none => .error .EncryptError
        | some tag => .ok tag, buffer)
  opened_at_nonce : ∀ (c : Call) (header payload : List UInt8) (tag : Vector UInt8 16)
    result plain,
    K.cipher.decrypt_inout_detached (c.nonce K.iv) header payload tag = (result, plain) →
    c.decrypt K header (payload ++ tag.toList) = some
      (match result with
        | none => .error .DecryptError
        | some () => .ok ((plain ++ tag.toList).take payload.length), plain ++ tag.toList)
  /-- and no nonce is that of two calls. -/
  nonce_unique : ∀ c₁ c₂ : Call, c₁.nonce K.iv = c₂.nonce K.iv →
    c₁.path_and_number = c₂.path_and_number
  /-- What cannot hold a tag is refused as it is. -/
  too_short : ∀ (c : Call) (header payload : List UInt8), payload.length < 16 →
    c.decrypt K header payload = some (.error .DecryptError, payload)

theorem copy_tag_toList (tag : Vector UInt8 16) : copy_tag tag.toList = some tag := by
  unfold copy_tag
  rw [HeaderProtection.try_into_eq_some_iff]

/-- A buffer that can hold a tag is its payload and that tag, and goes to the AEAD as such. -/
theorem decrypt_with_nonce_append (C : Aead) (nonce : Vector UInt8 12)
    (header payload : List UInt8) (tag : Vector UInt8 16) :
    decrypt_with_nonce C nonce header (payload ++ tag.toList) =
      match C.decrypt_inout_detached nonce header payload tag with
      | (none, plain) => some (.error .DecryptError, plain ++ tag.toList)
      | (some (), plain) =>
        some (.ok ((plain ++ tag.toList).take payload.length), plain ++ tag.toList) := by
  have hplain : (payload ++ tag.toList).length - 16 = payload.length := by
    rw [List.length_append, Vector.length_toList]
    omega
  unfold decrypt_with_nonce
  rw [if_neg (by rw [List.length_append, Vector.length_toList]; omega)]
  simp only [hplain, List.drop_left, List.take_left, copy_tag_toList, Option.bind_eq_bind,
    Option.bind_some]
  rcases C.decrypt_inout_detached nonce header payload tag with ⟨_ | _, plain⟩ <;> rfl

/-- A sealed payload and its tag open. The plaintext length is the buffer's less the tag's,
so the split the decryption makes is the one the encryption left. -/
theorem decrypt_of_encrypt_with_nonce {C : Aead} {Message : List UInt8 → List UInt8 → Prop}
    (hC : C.Correct Message) {nonce : Vector UInt8 12} {header payload sealed : List UInt8}
    {tag : Vector UInt8 16}
    (hseal : encrypt_with_nonce C nonce header payload = (.ok tag, sealed)) :
    sealed.length = payload.length ∧
      decrypt_with_nonce C nonce header (sealed ++ tag.toList)
        = some (.ok payload, payload ++ tag.toList) := by
  have henc : C.encrypt_inout_detached nonce header payload = (some tag, sealed) := by
    unfold encrypt_with_nonce at hseal
    split at hseal
    · simp at hseal
    · next tag' sealed' h =>
      rw [h]
      simpa using hseal
  have hlen := hC.length _ _ _ _ _ henc
  refine ⟨hlen, ?_⟩
  rw [decrypt_with_nonce_append, hC.decrypts _ _ _ _ _ henc]
  show some (Except.ok ((payload ++ tag.toList).take sealed.length), _) = _
  rw [hlen, List.take_left]

/-- The four methods with the nonce they use. -/
theorem nonce_of_call (K : PacketKey) (c : Call) (header payload : List UInt8) :
    c.encrypt K header payload = encrypt_with_nonce K.cipher (c.nonce K.iv) header payload ∧
      c.decrypt K header payload = decrypt_with_nonce K.cipher (c.nonce K.iv) header payload := by
  rcases c with _ | _
  · exact ⟨rfl, rfl⟩
  · exact ⟨rfl, rfl⟩

theorem Call.nonce_eq (iv : Vector UInt8 12) (c : Call) :
    c.nonce iv = Nonce.for_path c.path_and_number.1 iv c.path_and_number.2 := by
  rcases c with packet_number | _
  · exact Nonce.new_eq_for_path iv packet_number
  · rfl

/-- **Every packet key protects**, over any correct AEAD: round trips on every path, the
plain mode at path 0, no nonce for two packets, and short inputs refused. -/
theorem packet_key_protects {C : Aead} {Message : List UInt8 → List UInt8 → Prop}
    (hC : C.Correct Message) (iv : Vector UInt8 12) : Protects ⟨C, iv⟩ Message where
  round_trip := by
    intro path_id packet_number header payload hmessage
    obtain ⟨tag, sealed, henc⟩ :=
      hC.encrypts (Nonce.for_path path_id iv packet_number) _ _ hmessage
    have hseal : encrypt_with_nonce C (Nonce.for_path path_id iv packet_number) header payload
        = (.ok tag, sealed) := by
      unfold encrypt_with_nonce
      rw [henc]
    exact ⟨tag, sealed, hseal, decrypt_of_encrypt_with_nonce hC hseal⟩
  not_sealed := by
    intro path_id packet_number header payload hmessage
    have hnone := hC.refuses (Nonce.for_path path_id iv packet_number) _ _ hmessage
    show (encrypt_with_nonce C (Nonce.for_path path_id iv packet_number) header payload).1 = _
    unfold encrypt_with_nonce
    split
    · rfl
    · next henc =>
      rw [henc] at hnone
      simp at hnone
  encrypt_path_zero := by
    intro packet_number header payload
    show encrypt_with_nonce C (Nonce.new iv packet_number) header payload = _
    rw [Nonce.new_eq_for_path]
    rfl
  decrypt_path_zero := by
    intro packet_number header payload
    show decrypt_with_nonce C (Nonce.new iv packet_number) header payload = _
    rw [Nonce.new_eq_for_path]
    rfl
  sealed_at_nonce := by
    intro c header payload result buffer henc
    rw [(nonce_of_call ⟨C, iv⟩ c header payload).1]
    unfold encrypt_with_nonce
    rw [henc]
    cases result <;> rfl
  opened_at_nonce := by
    intro c header payload tag result plain hdec
    rw [(nonce_of_call ⟨C, iv⟩ c header _).2, decrypt_with_nonce_append, hdec]
    rcases result with _ | _ <;> rfl
  nonce_unique := by
    intro c₁ c₂ h
    rw [Call.nonce_eq, Call.nonce_eq] at h
    obtain ⟨hpath, hnumber⟩ := Nonce.for_path_injective h
    exact Prod.ext hpath hnumber
  too_short := by
    intro c header payload hlen
    rw [(nonce_of_call ⟨C, iv⟩ c header payload).2]
    unfold decrypt_with_nonce
    rw [if_pos hlen]

/-! ### The vector of RFC 9001 §A.5 -/

/-- The IV of the vector. -/
def short_packet_iv : Vector UInt8 12 :=
  #v[0xe0, 0x45, 0x9b, 0x34, 0x74, 0xbd, 0xd0, 0xe4, 0x4a, 0x41, 0xc1, 0x44]

/-- Its header, and the tag of its one byte of payload. -/
def short_packet_header : List UInt8 := [0x42, 0x00, 0xbf, 0xf4]

def short_packet_tag : Vector UInt8 16 :=
  #v[0x5e, 0x5c, 0xd5, 0x5c, 0x41, 0xf6, 0x90, 0x80, 0x57, 0x5d, 0x79, 0x99, 0xc2, 0x5a, 0x5b,
     0xfb]

/-- The message and the nonce of the vector. -/
def ShortPacket (nonce : Vector UInt8 12) (aad : List UInt8) : Prop :=
  nonce = Nonce.new short_packet_iv 654360564 ∧ aad = short_packet_header

instance (nonce : Vector UInt8 12) (aad : List UInt8) : Decidable (ShortPacket nonce aad) :=
  inferInstanceAs (Decidable (_ ∧ _))

/-- A cipher that does on the vector what ChaCha20-Poly1305 does under its key, and leaves
any other message as it is under a tag of zeroes. -/
def short_packet_cipher : Aead where
  encrypt_inout_detached := fun nonce aad payload =>
    if ShortPacket nonce aad ∧ payload = [0x01] then (some short_packet_tag, [0x65])
    else (some (Vector.replicate 16 0), payload)
  decrypt_inout_detached := fun nonce aad payload tag =>
    if ShortPacket nonce aad ∧ payload = [0x65] ∧ tag = short_packet_tag then (some (), [0x01])
    else if tag = Vector.replicate 16 0 then (some (), payload)
    else (none, payload)

theorem short_packet_cipher_correct :
    short_packet_cipher.Correct fun _ _ => True where
  encrypts := by
    intro nonce aad payload _
    by_cases h : ShortPacket nonce aad ∧ payload = [0x01]
    · exact ⟨_, _, if_pos h⟩
    · exact ⟨_, _, if_neg h⟩
  refuses := by
    intro nonce aad payload h
    exact absurd trivial h
  length := by
    intro nonce aad payload tag sealed henc
    by_cases h : ShortPacket nonce aad ∧ payload = [0x01]
    · replace henc : _ = _ := (if_pos h).symm.trans henc
      rw [← (Prod.mk.inj henc).2, h.2]
      rfl
    · replace henc : _ = _ := (if_neg h).symm.trans henc
      rw [← (Prod.mk.inj henc).2]
  decrypts := by
    intro nonce aad payload tag sealed henc
    by_cases h : ShortPacket nonce aad ∧ payload = [0x01]
    · replace henc : _ = _ := (if_pos h).symm.trans henc
      obtain ⟨htag, hsealed⟩ := Prod.mk.inj henc
      rw [← Option.some.inj htag, ← hsealed, h.2]
      exact if_pos ⟨h.1, rfl, rfl⟩
    · replace henc : _ = _ := (if_neg h).symm.trans henc
      obtain ⟨htag, hsealed⟩ := Prod.mk.inj henc
      have hne : Vector.replicate 16 0 ≠ short_packet_tag := by decide
      rw [← Option.some.inj htag, ← hsealed]
      show (if _ then _ else _) = _
      rw [if_neg, if_pos rfl]
      rintro ⟨-, -, htag'⟩
      exact hne htag'

/-- The short packet of the vector, sealed as the RFC has it and opened again. -/
theorem short_packet_protected :
    short_packet_cipher.Correct (fun _ _ => True) ∧
      Protects ⟨short_packet_cipher, short_packet_iv⟩ (fun _ _ => True) ∧
      (PacketKey.mk short_packet_cipher short_packet_iv).encrypt_in_place 654360564
        short_packet_header [0x01] = (.ok short_packet_tag, [0x65]) := by
  refine ⟨short_packet_cipher_correct,
    packet_key_protects short_packet_cipher_correct short_packet_iv, ?_⟩
  have hshort : ShortPacket (Nonce.new short_packet_iv 654360564) short_packet_header ∧
      ([0x01] : List UInt8) = [0x01] :=
    ⟨⟨rfl, rfl⟩, rfl⟩
  have henc : short_packet_cipher.encrypt_inout_detached
      (Nonce.new short_packet_iv 654360564) short_packet_header [0x01]
        = (some short_packet_tag, [0x65]) :=
    if_pos (e := (some (Vector.replicate 16 0), [0x01])) hshort
  show encrypt_with_nonce short_packet_cipher _ _ _ = _
  unfold encrypt_with_nonce
  rw [henc]

end PolymorphTls.PacketProtection
