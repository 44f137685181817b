import Hipl.Wire.Message

/-!
# Userspace BEET-mode ESP

user_ipsec_esp.c turns the firewall's outbound HIT-addressed IPv6 packets into ESP packets and
back. `payload_decrypt` authenticates a received ESP packet, HMAC first, then decrypts its
payload and strips the padding; `hip_beet_mode_input` finds the ESP packet behind the outer IP
(and UDP) header, has it decrypted behind the room left for the rebuilt IPv6 header, and counts
the length of the rebuilt packet.

All lengths of `payload_decrypt` are `uint16_t`, so every subtraction wraps. Packets shorter than
the ICV make `elen = in_len - 12` wrap, and the HMAC then reads past the packet
(`payloadDecrypt_short`); the MD5 suites compare the whole 16-byte digest with the 12-byte ICV,
and read past every packet (`payloadDecrypt_md5`); and an authenticated packet whose pad length
does not fit its plaintext makes `*out_len` wrap past the bytes written.

Scope. The ESP suite numbers are those of RFC 5202 (protodefs.h is not among the sources). The
HMACs and the CBC decryptions are parameters (`EspCrypto`) with the lengths OpenSSL gives them;
a CBC decryption reads and writes exactly the bytes it is given. `esp_prot_get_data_offset` is
the SA entry's `espDataOffset`. A read of a buffer past its end, or of the received packet past
`in_len`, is a fault, and so is a write past the end of the output buffer.
-/

set_option autoImplicit false
set_option relaxedAutoImplicit false

namespace Hipl.Hipfw

open Hipl.Wire

/-! ### Suites and SA entries -/

/-- `ICV_LENGTH`. -/
def icvLength : Nat := 12
/-- `sizeof(struct hip_esp_tail)`: the pad length and the next header. -/
def espTailLength : Nat := 2
/-- `sizeof(struct ip6_hdr)`. -/
def ip6HdrLength : Nat := 40
/-- `sizeof(struct ip)`, without options. -/
def ipHdrLength : Nat := 20
/-- `sizeof(struct udphdr)`. -/
def udpHdrLength : Nat := 8

/-- `HIP_ESP_AES_SHA1`. -/
def hipEspAesSha1 : Nat := 1
/-- `HIP_ESP_3DES_SHA1`. -/
def hipEsp3desSha1 : Nat := 2
/-- `HIP_ESP_3DES_MD5`. -/
def hipEsp3desMd5 : Nat := 3
/-- `HIP_ESP_BLOWFISH_SHA1`. -/
def hipEspBlowfishSha1 : Nat := 4
/-- `HIP_ESP_NULL_SHA1`. -/
def hipEspNullSha1 : Nat := 5
/-- `HIP_ESP_NULL_MD5`. -/
def hipEspNullMd5 : Nat := 6

/-- The MAC of an ESP suite. -/
inductive EspMac
  | md5 | sha1
  deriving DecidableEq, Repr

/-- The cipher of an ESP suite. -/
inductive EspCipher
  | des3 | blowfish | null | aes
  deriving DecidableEq, Repr

/-- The authentication switch of `payload_decrypt`: the MD5 suites, the SHA-1 suites it lists,
and none for another suite, BLOWFISH-SHA1 among them. -/
def espDecryptMacOf (ealg : Nat) : Option EspMac :=
  if ealg = hipEsp3desMd5 ∨ ealg = hipEspNullMd5 then some .md5
  else if ealg = hipEsp3desSha1 ∨ ealg = hipEspNullSha1 ∨ ealg = hipEspAesSha1 then some .sha1
  else none

/-- The cipher switch of `payload_encrypt` and `payload_decrypt`. -/
def espCipherOf (ealg : Nat) : Option EspCipher :=
  if ealg = hipEsp3desSha1 ∨ ealg = hipEsp3desMd5 then some .des3
  else if ealg = hipEspBlowfishSha1 then some .blowfish
  else if ealg = hipEspNullSha1 ∨ ealg = hipEspNullMd5 then some .null
  else if ealg = hipEspAesSha1 then some .aes
  else none

/-- `iv_len`: the cipher's block size, none for NULL. -/
def EspCipher.ivLen : EspCipher → Nat
  | .des3 => 8
  | .blowfish => 8
  | .null => 0
  | .aes => 16

/-- Whether the cipher needs `enc_key`. -/
def EspCipher.needsKey : EspCipher → Bool
  | .null => false
  | _ => true

/-- The fields of `struct hip_sa_entry` the two payload functions read: the suite, the raw keys
(NULL when absent) and the offset of the payload behind the ESP header. -/
structure HipSaEntry where
  ealg : Nat
  authKey : Option Bytes
  encKey : Option Bytes
  espDataOffset : UInt16
  deriving DecidableEq, Repr

/-- The cryptography the payload functions call: HMAC-MD5 and HMAC-SHA1 with their digest
lengths, and the CBC decryption of each cipher over a key, an IV and the ciphertext. -/
structure EspCrypto where
  hmacMd5 : Bytes → Bytes → Bytes
  hmacSha1 : Bytes → Bytes → Bytes
  cbcDecrypt : EspCipher → Bytes → Bytes → Bytes → Bytes
  length_hmacMd5 : ∀ key data, (hmacMd5 key data).length = 16
  length_hmacSha1 : ∀ key data, (hmacSha1 key data).length = 20
  length_cbcDecrypt : ∀ cipher key iv data, (cbcDecrypt cipher key iv data).length = data.length

/-- The HMAC of a MAC. -/
def EspMac.hmac (c : EspCrypto) : EspMac → Bytes → Bytes → Bytes
  | .md5 => c.hmacMd5
  | .sha1 => c.hmacSha1

/-- The bytes of the digest `payload_decrypt` compares with the received ICV: `hmac_md_len`, the
whole digest, for MD5, and `alen`, the ICV length, for SHA-1. -/
def EspMac.compareLength : EspMac → Nat → Nat
  | .md5, hmacMdLen => hmacMdLen
  | .sha1, _ => icvLength

/-! ### Buffers -/

/-- `len` bytes of a buffer from `off` on; a read past its end is a fault. -/
def bufRead (buf : Bytes) (off len : Nat) : Except Fault Bytes :=
  if off + len ≤ buf.length then pure ((buf.drop off).take len) else throw .outOfBounds

/-- `len` bytes of the received packet `in` from `off` on: bytes of the packet's buffer, within
the `in_len` bytes of the packet. -/
def inRead (inBuf : Bytes) (inLen : UInt16) (off len : Nat) : Except Fault Bytes :=
  if off + len ≤ inLen.toNat then bufRead inBuf off len else throw .outOfBounds

/-- `uint16_t` subtraction wraps. -/
theorem uint16_toNat_sub (a b : UInt16) : (a - b).toNat = (2 ^ 16 - b.toNat + a.toNat) % 2 ^ 16 :=
  BitVec.toNat_sub _ _

theorem uint16_toNat_lt (a : UInt16) : a.toNat < 2 ^ 16 :=
  a.toBitVec.isLt

theorem uint16_sub_zero (a : UInt16) : a - 0 = a :=
  UInt16.eq_of_toBitVec_eq (BitVec.sub_zero _)

theorem inRead_of_le {inBuf : Bytes} {inLen : UInt16} {off len : Nat} (hlen : off + len ≤ inLen.toNat)
    (hbuf : off + len ≤ inBuf.length) : inRead inBuf inLen off len = .ok ((inBuf.drop off).take len) := by
  simp [inRead, bufRead, hlen, hbuf]

theorem inRead_past {inBuf : Bytes} {inLen : UInt16} {off len : Nat} (h : inLen.toNat < off + len) :
    inRead inBuf inLen off len = .error .outOfBounds := by
  simp only [inRead, if_neg (Nat.not_le.2 h), throw_eq_error]

theorem inRead_eq_ok {inBuf : Bytes} {inLen : UInt16} {off len : Nat} {b : Bytes}
    (h : inRead inBuf inLen off len = .ok b) :
    off + len ≤ inLen.toNat ∧ off + len ≤ inBuf.length ∧ b = (inBuf.drop off).take len := by
  unfold inRead bufRead at h
  split at h
  · split at h
    · cases h
      exact ⟨by assumption, by assumption, rfl⟩
    · cases h
  · cases h

/-- A read of the received packet fails only past its end. -/
theorem inRead_eq_error {inBuf : Bytes} {inLen : UInt16} {off len : Nat} {e : Fault}
    (h : inRead inBuf inLen off len = .error e) : e = .outOfBounds := by
  unfold inRead bufRead at h
  split at h
  · split at h <;> cases h
    rfl
  · cases h
    rfl

/-! ### `payload_decrypt` -/

/-- The authentication step of `payload_decrypt`: with `elen = in_len - 12`, the HMAC of the
first `elen` bytes compared with the bytes from `elen` on. The length `elen` when they match,
the return value otherwise. -/
def espDecryptAuth (c : EspCrypto) (entry : HipSaEntry) (inBuf : Bytes) (inLen : UInt16) :
    Except Fault (Except Int UInt16) :=
  let elen := inLen - UInt16.ofNat icvLength
  match espDecryptMacOf entry.ealg, entry.authKey with
  | none, _ => pure (.error (-1))
  | some _, none => pure (.error (-1))
  | some mac, some key => do
    let hmacMd := mac.hmac c key (← inRead inBuf inLen 0 elen.toNat)
    let n := mac.compareLength hmacMd.length
    let icv ← inRead inBuf inLen elen.toNat n
    pure (if icv = hmacMd.take n then .ok elen else .error 1)

/-- What `payload_decrypt` returns with 0: the plaintext written to `out`, `*out_type` and
`*out_len`. -/
structure EspDecrypted where
  plain : Bytes
  outType : UInt8
  outLen : UInt16
  deriving DecidableEq, Repr

/-- The padding step: `esp_tail` at `out[elen - 2]`, an index that wraps below the buffer when
`elen < 2`, and `*out_len = elen - (esp_padlen + 2)`. -/
def espStripTail (plain : Bytes) (elen : UInt16) : Except Fault EspDecrypted :=
  if elen.toNat < espTailLength then throw .outOfBounds
  else do
    let tail ← bufRead plain (elen.toNat - espTailLength) espTailLength
    match tail with
    | [padlen, next] =>
      pure ⟨plain, next, elen - UInt16.ofNat (padlen.toNat + espTailLength)⟩
    | _ => throw .outOfBounds

/-- The decryption switch: NULL copies the data, a CBC cipher decrypts it with the key schedule
of `enc_key` and the IV. -/
def EspCipher.decrypt (c : EspCrypto) (cipher : EspCipher) (key : Option Bytes) (iv data : Bytes) :
    Bytes :=
  match cipher with
  | .null => data
  | _ => c.cbcDecrypt cipher (key.getD []) iv data

/-- The steps of `payload_decrypt` after the authentication, from the `elen` it left: the data
offset and the IV come off `elen`, the payload is decrypted into `out`, a buffer of
`outCapacity` bytes, and the padding is stripped. -/
def espDecryptPayload (c : EspCrypto) (entry : HipSaEntry) (inBuf : Bytes) (inLen : UInt16)
    (outCapacity : Nat) (elen : UInt16) : Except Fault (Int × Option EspDecrypted) :=
  let elen := elen - entry.espDataOffset
  match espCipherOf entry.ealg with
  | none => pure (-1, none)
  | some cipher =>
    if cipher.needsKey ∧ entry.encKey = none then pure (-1, none)
    else do
      let off := entry.espDataOffset.toNat
      let cbcIv ← inRead inBuf inLen off cipher.ivLen
      let elen := elen - UInt16.ofNat cipher.ivLen
      let data ← inRead inBuf inLen (off + cipher.ivLen) elen.toNat
      let plain := cipher.decrypt c entry.encKey cbcIv data
      if outCapacity < plain.length then throw .outOfBounds
      else do
        let dec ← espStripTail plain elen
        pure (0, some dec)

/-- `payload_decrypt(in, in_len, out, out_type, out_len, entry)`, with `out` a buffer of
`outCapacity` bytes: the return value and, with 0, what it wrote. -/
def payloadDecrypt (c : EspCrypto) (entry : HipSaEntry) (inBuf : Bytes) (inLen : UInt16)
    (outCapacity : Nat) : Except Fault (Int × Option EspDecrypted) := do
  match ← espDecryptAuth c entry inBuf inLen with
  | .error err => pure (err, none)
  | .ok elen => espDecryptPayload c entry inBuf inLen outCapacity elen

/-! ### `hip_beet_mode_input` -/

/-- The part of the firewall's packet context (`struct hip_fw_context`) `hip_beet_mode_input`
reads: the IP version, whether the ESP packet is UDP-encapsulated, and the packet from its outer
IP header on, of `ipq_packet->data_len` bytes. -/
structure HipFwContext where
  ipVersion : Nat
  udpEncap : Bool
  packet : Bytes
  deriving DecidableEq, Repr

/-- The length of the outer headers `hip_beet_mode_input` assumes, and so where the ESP packet
starts. -/
def HipFwContext.outerLength (ctx : HipFwContext) : Nat :=
  if ctx.ipVersion = 4 then ipHdrLength + (if ctx.udpEncap then udpHdrLength else 0)
  else ip6HdrLength

/-- `esp_len`: `data_len` less the outer headers, in `uint16_t`. -/
def HipFwContext.espLen (ctx : HipFwContext) : UInt16 :=
  if ctx.ipVersion = 4 then
    UInt16.ofNat ctx.packet.length - UInt16.ofNat ipHdrLength -
      (if ctx.udpEncap then UInt16.ofNat udpHdrLength else 0)
  else UInt16.ofNat ctx.packet.length - UInt16.ofNat ip6HdrLength

/-- `hip_beet_mode_input(ctx, entry, decrypted_packet, decrypted_packet_len)`, with a buffer of
`capacity` bytes: the return value, `*decrypted_packet_len`, and with 0 the decrypted payload,
whose next header and length the rebuilt IPv6 header carries. -/
def hipBeetModeInput (c : EspCrypto) (entry : HipSaEntry) (ctx : HipFwContext) (capacity : Nat)
    (decryptedPacketLen : UInt16) : Except Fault (Int × UInt16 × Option EspDecrypted) := do
  let len := decryptedPacketLen + UInt16.ofNat ip6HdrLength
  let (err, dec) ← payloadDecrypt c entry (ctx.packet.drop ctx.outerLength) ctx.espLen
    (capacity - ip6HdrLength)
  match err, dec with
  | 0, some dec =>
    if capacity < ip6HdrLength then throw .outOfBounds
    else pure (0, len + dec.outLen, some dec)
  | _, _ => pure (-1, len, none)

/-! ### Reads past the received packet -/

section Md5

variable {c : EspCrypto} {entry : HipSaEntry} {key : Bytes} (hmac : espDecryptMacOf entry.ealg = some .md5)
  (hkey : entry.authKey = some key)
include hmac hkey

/-- With an MD5 suite, `payload_decrypt` reads past every received packet: the HMAC runs over
`in_len - 12` bytes, wrapped when `in_len < 12`, and the comparison reads the 16 bytes of the
MD5 digest from there, four past the 12-byte ICV. -/
theorem payloadDecrypt_md5 (inBuf : Bytes) (inLen : UInt16) (outCapacity : Nat) :
    payloadDecrypt c entry inBuf inLen outCapacity = .error .outOfBounds := by
  have helen := uint16_toNat_sub inLen (UInt16.ofNat icvLength)
  have hlt := uint16_toNat_lt inLen
  have hicv : (UInt16.ofNat icvLength).toNat = 12 := rfl
  rw [hicv] at helen
  unfold payloadDecrypt espDecryptAuth
  simp only [hmac, hkey]
  rcases hdata : inRead inBuf inLen 0 (inLen - UInt16.ofNat icvLength).toNat with e | data
  · rw [inRead_eq_error hdata]
    rfl
  · have hle := (inRead_eq_ok hdata).1
    simp only [ok_bind, EspMac.hmac, EspMac.compareLength, c.length_hmacMd5]
    rw [inRead_past (by omega)]
    rfl

end Md5

/-- A packet shorter than the ICV: `elen = in_len - 12` wraps to more than 65523, and the HMAC
reads that many bytes. -/
theorem payloadDecrypt_short {c : EspCrypto} {entry : HipSaEntry} {mac : EspMac} {key : Bytes}
    (hmac : espDecryptMacOf entry.ealg = some mac) (hkey : entry.authKey = some key)
    (inBuf : Bytes) {inLen : UInt16} (hshort : inLen.toNat < icvLength) (outCapacity : Nat) :
    payloadDecrypt c entry inBuf inLen outCapacity = .error .outOfBounds := by
  have helen := uint16_toNat_sub inLen (UInt16.ofNat icvLength)
  have hicv : (UInt16.ofNat icvLength).toNat = 12 := rfl
  rw [hicv] at helen
  unfold icvLength at hshort
  unfold payloadDecrypt espDecryptAuth
  simp only [hmac, hkey]
  rw [inRead_past (by omega)]
  rfl

/-! ### What `payload_decrypt` does with an authenticated packet -/

/-- The authentication step of a SHA-1 suite on a packet that holds its ICV: `elen` when the
12 bytes from `in_len - 12` on are the first 12 of the HMAC of the bytes before, 1 otherwise. -/
theorem espDecryptAuth_sha1 {c : EspCrypto} {entry : HipSaEntry} {key : Bytes}
    (hmac : espDecryptMacOf entry.ealg = some .sha1) (hkey : entry.authKey = some key)
    {inBuf : Bytes} {inLen : UInt16} (hicv : icvLength ≤ inLen.toNat)
    (hbuf : inLen.toNat ≤ inBuf.length) :
    espDecryptAuth c entry inBuf inLen =
      .ok (if (inBuf.drop (inLen.toNat - icvLength)).take icvLength =
          (c.hmacSha1 key (inBuf.take (inLen.toNat - icvLength))).take icvLength
        then .ok (inLen - UInt16.ofNat icvLength) else .error 1) := by
  have helen : (inLen - UInt16.ofNat icvLength).toNat = inLen.toNat - icvLength :=
    UInt16.toNat_sub_of_le _ _ hicv
  unfold espDecryptAuth
  simp only [hmac, hkey]
  rw [helen, inRead_of_le (by omega) (by omega), ok_bind,
    inRead_of_le (by simp only [EspMac.compareLength]; omega)
      (by simp only [EspMac.compareLength]; omega)]
  simp only [List.drop_zero, EspMac.hmac, EspMac.compareLength, ok_bind, pure_eq_ok]

theorem payloadDecrypt_of_auth {c : EspCrypto} {entry : HipSaEntry} {inBuf : Bytes}
    {inLen : UInt16} {elen : UInt16} (h : espDecryptAuth c entry inBuf inLen = .ok (.ok elen))
    (outCapacity : Nat) :
    payloadDecrypt c entry inBuf inLen outCapacity =
      espDecryptPayload c entry inBuf inLen outCapacity elen := by
  simp only [payloadDecrypt, h, ok_bind]

/-- The decryption step of a NULL suite: the bytes from the data offset on are the plaintext,
and the padding is stripped from them. -/
theorem espDecryptPayload_null {c : EspCrypto} {entry : HipSaEntry} {inBuf : Bytes}
    {inLen : UInt16} {outCapacity : Nat} {elen : UInt16} {data : Bytes}
    (hnull : espCipherOf entry.ealg = some .null)
    (hdata : inRead inBuf inLen entry.espDataOffset.toNat (elen - entry.espDataOffset).toNat =
      .ok data) (hcap : data.length ≤ outCapacity) :
    espDecryptPayload c entry inBuf inLen outCapacity elen =
      (espStripTail data (elen - entry.espDataOffset)).map fun dec ↦ (0, some dec) := by
  have hiv : inRead inBuf inLen entry.espDataOffset.toNat 0 = .ok [] := by
    have hle := (inRead_eq_ok hdata).1
    have hbuf := (inRead_eq_ok hdata).2.1
    rw [inRead_of_le (by omega) (by omega), List.take_zero]
  unfold espDecryptPayload
  simp only [hnull, EspCipher.needsKey, Bool.false_eq_true, false_and, if_false,
    EspCipher.ivLen, hiv, ok_bind, Nat.add_zero, show UInt16.ofNat 0 = 0 from rfl, uint16_sub_zero,
    hdata, EspCipher.decrypt, if_neg (Nat.not_lt.2 hcap)]
  cases espStripTail data (elen - entry.espDataOffset) <;> rfl

/-- The decryption step of a CBC suite: the IV behind the data offset, the ciphertext behind it
decrypted under the encryption key, and the padding stripped. -/
theorem espDecryptPayload_cbc {c : EspCrypto} {entry : HipSaEntry} {inBuf : Bytes}
    {inLen : UInt16} {outCapacity : Nat} {elen : UInt16} {cipher : EspCipher} {iv data : Bytes}
    (hcipher : espCipherOf entry.ealg = some cipher) (hcbc : cipher ≠ .null)
    (hkey : entry.encKey ≠ none)
    (hiv : inRead inBuf inLen entry.espDataOffset.toNat cipher.ivLen = .ok iv)
    (hdata : inRead inBuf inLen (entry.espDataOffset.toNat + cipher.ivLen)
      (elen - entry.espDataOffset - UInt16.ofNat cipher.ivLen).toNat = .ok data)
    (hcap : data.length ≤ outCapacity) :
    espDecryptPayload c entry inBuf inLen outCapacity elen =
      (espStripTail (c.cbcDecrypt cipher (entry.encKey.getD []) iv data)
        (elen - entry.espDataOffset - UInt16.ofNat cipher.ivLen)).map fun dec ↦ (0, some dec) := by
  have hdec : cipher.decrypt c entry.encKey iv data =
      c.cbcDecrypt cipher (entry.encKey.getD []) iv data := by
    cases cipher <;> first | exact absurd rfl hcbc | rfl
  unfold espDecryptPayload
  simp only [hcipher, hkey, and_false, if_false, hiv, ok_bind, hdata, hdec, c.length_cbcDecrypt,
    if_neg (Nat.not_lt.2 hcap)]
  cases espStripTail _ _ <;> rfl

/-- The ESP header of a first packet: SPI 1, sequence number 1. -/
def firstEspHeader : Bytes := [0, 0, 0, 1, 0, 0, 0, 1]

/-- An ESP packet of a NULL-SHA1 SA whose plaintext is the ESP tail alone, pad length 1 and next
header 6, with the ICV the peer computes under the authentication key. -/
def tailOnlyPacket (c : EspCrypto) (authKey : Bytes) : Bytes :=
  firstEspHeader ++ [1, 6] ++ (c.hmacSha1 authKey (firstEspHeader ++ [1, 6])).take icvLength

/-- Three received packets `payload_decrypt` mishandles. Under NULL-MD5 it reads past every
packet; under AES-SHA1 it reads past an empty one; and under NULL-SHA1 with the 8-byte ESP
header as data offset, the authenticated packet whose plaintext is the tail `1 6` returns 0 with
two bytes written and `*out_len` 65535. -/
theorem receivedPacket_decryptUnsafe (c : EspCrypto) (authKey : Bytes) (encKey : Option Bytes)
    (offset : UInt16) (inBuf : Bytes) (inLen : UInt16) (outCapacity : Nat) :
    payloadDecrypt c ⟨hipEspNullMd5, some authKey, encKey, offset⟩ inBuf inLen outCapacity =
        .error .outOfBounds ∧
      payloadDecrypt c ⟨hipEspAesSha1, some authKey, encKey, offset⟩ [] 0 outCapacity =
        .error .outOfBounds ∧
      payloadDecrypt c ⟨hipEspNullSha1, some authKey, none, 8⟩ (tailOnlyPacket c authKey) 22
        (outCapacity + 2) = .ok (0, some ⟨[1, 6], 6, 65535⟩) := by
  refine ⟨payloadDecrypt_md5 (by rfl) (by rfl) inBuf inLen outCapacity,
    payloadDecrypt_short (by rfl) (by rfl) [] (by decide) outCapacity, ?_⟩
  have hlen : (tailOnlyPacket c authKey).length = 22 := by
    simp [tailOnlyPacket, firstEspHeader, icvLength, c.length_hmacSha1]
  have hicv : ((tailOnlyPacket c authKey).drop 10).take 12 =
      (c.hmacSha1 authKey ((tailOnlyPacket c authKey).take 10)).take 12 := by
    simp [tailOnlyPacket, firstEspHeader, icvLength, c.length_hmacSha1]
  have hplain : inRead (tailOnlyPacket c authKey) 22 (8 : UInt16).toNat
      ((22 : UInt16) - UInt16.ofNat 12 - 8).toNat = .ok [1, 6] := by
    rw [show (8 : UInt16).toNat = 8 from rfl,
      show ((22 : UInt16) - UInt16.ofNat 12 - 8).toNat = 2 from rfl,
      inRead_of_le (by decide) (by omega)]
    simp [tailOnlyPacket, firstEspHeader]
  have hauth := @espDecryptAuth_sha1 c ⟨hipEspNullSha1, some authKey, none, 8⟩ authKey rfl rfl
    (tailOnlyPacket c authKey) 22 (by decide) (by rw [hlen]; decide)
  rw [show UInt16.toNat 22 - icvLength = 10 from rfl, show icvLength = 12 from rfl, hicv,
    if_pos rfl] at hauth
  have hcap : ([1, 6] : Bytes).length ≤ outCapacity + 2 := by
    simp only [List.length_cons, List.length_nil]
    omega
  rw [payloadDecrypt_of_auth hauth,
    espDecryptPayload_null (by rfl) (by dsimp only; exact hplain) hcap]
  dsimp only
  rfl

end Hipl.Hipfw
