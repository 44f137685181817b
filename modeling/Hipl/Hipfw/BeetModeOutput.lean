import Hipl.Hipfw.UserIpsecEsp
import Hipl.Hipd.Association

/-!
# Userspace BEET-mode ESP output, and the round trip

`hip_beet_mode_output` writes the ESP header (SPI and sequence number) behind the room left for
the outer IPv4 (and UDP) or IPv6 header, has `esp_prot_add_hash` put the token behind it, and
hands the transport payload of the HIT-addressed packet to `payload_encrypt`. That pads the
payload with the ESP tail to a multiple of the IV length (of 4 for NULL), writes the IV and the
ciphertext from the data offset on, and appends the HMAC of everything from the ESP header on.
The outer headers come last, once the length is known.

`hipBeetModeOutput_cbcSha1` describes the packet of a CBC suite with SHA-1 by the parts it is
made of, and `hipBeetMode_roundTrip` proves that `hip_beet_mode_input`, under an SA with the same
suite, keys and data offset, rebuilds the payload, the next header and the length of the
original packet. This holds for AES-SHA1 and 3DES-SHA1, for both outer headers and with or
without UDP encapsulation. The other suites do not make the round trip. BLOWFISH-SHA1 is missing
from the authentication switches of both payload functions, so its output fails
(`payloadEncrypt_noMac`). The MD5 suites fail on input (`payloadDecrypt_md5`). The NULL branch
of `payload_encrypt` copies the plaintext to `out`, over the ESP header, where the sibling
branches write to `&out[esp_data_offset + iv_len]`; the receiver authenticates the packet and
decrypts whatever the buffer held behind the header (`nullSuite_roundTripBroken`).

Scope. The padding is written behind the transport payload in the packet's buffer, which is
taken to have room for it (the code's FIXME). `esp_prot_add_hash` and
`esp_prot_cache_packet_hash` are not among the sources: the first is the token it writes, or a
failure, the second succeeds or fails. `RAND_bytes` is a parameter, as are the CBC encryptions,
which the decryptions of `EspCrypto` undo. The outer headers are the bytes `add_ipv4_header`,
`add_udp_header` and `add_ipv6_header` write, as functions of the length and the protocol; their
fields, which the receiver does not read, are not modelled.
-/

set_option autoImplicit false
set_option relaxedAutoImplicit false

namespace Hipl.Hipfw

open Hipl.Wire Hipl.Hipd

/-! ### Buffers, suites and SA entries -/

/-- `sizeof(struct hip_esp)`: the SPI and the sequence number. -/
def espHdrLength : Nat := 8
/-- `IPPROTO_UDP`. -/
def ipprotoUdp : UInt8 := 17
/-- `IPPROTO_ESP`. -/
def ipprotoEsp : UInt8 := 50

/-- The byte at `off`; a read past the end is a fault. -/
def bufByte (buf : Bytes) (off : Nat) : Except Fault UInt8 :=
  match buf[off]? with
  | some b => pure b
  | none => throw .outOfBounds

/-- The cryptography of the output direction: the CBC encryption of each cipher over a key, an
IV and the plaintext, which the decryption of `EspCrypto` undoes under the same key and IV. -/
structure EspCbc extends EspCrypto where
  cbcEncrypt : EspCipher → Bytes → Bytes → Bytes → Bytes
  length_cbcEncrypt : ∀ cipher key iv data, (cbcEncrypt cipher key iv data).length = data.length
  cbcDecrypt_cbcEncrypt : ∀ cipher key iv data,
    cbcDecrypt cipher key iv (cbcEncrypt cipher key iv data) = data

/-- The fields of `struct hip_sa_entry` `hip_beet_mode_output` reads besides those of the payload
functions: the SPI, the sequence counter it increments and the encapsulation mode, 1 for UDP. -/
structure HipSaOutEntry extends HipSaEntry where
  spi : UInt32
  sequence : UInt32
  encapMode : UInt8
  deriving DecidableEq, Repr

/-- What `hip_beet_mode_output` calls of the ESP protection extension: the token
`esp_prot_add_hash` writes behind the ESP header (none when it fails), and whether
`esp_prot_cache_packet_hash` succeeds. -/
structure EspProtOutput where
  addHash : Option Bytes
  cachePacketHash : Bool

/-- The bytes `add_ipv4_header`, `add_udp_header` and `add_ipv6_header` write, from the packet
length and the protocol, each of its header's size. -/
structure OuterHeaders where
  ipv4 : UInt16 → UInt8 → Bytes
  udp : UInt16 → Bytes
  ipv6 : UInt16 → UInt8 → Bytes
  length_ipv4 : ∀ len p, (ipv4 len p).length = ipHdrLength
  length_udp : ∀ len, (udp len).length = udpHdrLength
  length_ipv6 : ∀ len p, (ipv6 len p).length = ip6HdrLength

/-! ### `payload_encrypt` -/

/-- `pad_len`: the padding to a multiple of the IV length, or of 4 for NULL, with the two bytes
of the ESP tail. -/
def espPadLength (ivLen inLen : Nat) : Nat :=
  let block := if 0 < ivLen then ivLen else 4
  block - (inLen + espTailLength) % block

/-- The plaintext after the padding loop: the data, the pad bytes `1, 2, ..., pad_len` and the
ESP tail. -/
def espPadded (data : Bytes) (padLen : Nat) (inType : UInt8) : Bytes :=
  data ++ (List.range padLen).map (fun i ↦ UInt8.ofNat (i + 1)) ++ [UInt8.ofNat padLen, inType]

/-- `elen` after the padding, for `n` bytes of data. -/
def espPaddedLength (ivLen n : Nat) : Nat :=
  n + espPadLength ivLen n + espTailLength

/-- `payload_encrypt(in, in_type, in_len, out, out_len, entry)`, with `rand` the bytes
`RAND_bytes` draws for the IV: the return value, `out` afterwards and `*out_len`. Its
authentication switch lists the suites of `payload_decrypt`'s. -/
def payloadEncrypt (c : EspCbc) (rand : Nat → UInt8) (entry : HipSaEntry) (inBuf : Bytes)
    (inType : UInt8) (inLen : UInt16) (out : Bytes) (outLen : UInt16) :
    Except Fault (Int × Bytes × UInt16) :=
  let off := entry.espDataOffset.toNat
  match espCipherOf entry.ealg with
  | none => pure (-1, out, outLen)
  | some cipher =>
    if cipher.needsKey ∧ entry.encKey = none then pure (-1, out, outLen)
    else do
      let ivLen := cipher.ivLen
      let cbcIv := (List.range ivLen).map rand
      let out ← if 0 < ivLen then bufWrite out off cbcIv else pure out
      let padLen := espPadLength ivLen inLen.toNat
      let data ← bufRead inBuf 0 inLen.toNat
      let elen := inLen + UInt16.ofNat (padLen + espTailLength)
      let plain := (espPadded data padLen inType).take elen.toNat
      let out ← match cipher with
        | .null => bufWrite out 0 plain
        | _ => bufWrite out (off + ivLen) (c.cbcEncrypt cipher (entry.encKey.getD []) cbcIv plain)
      let elen := elen + UInt16.ofNat ivLen
      let outLen := outLen + elen
      let elen := elen + entry.espDataOffset
      match espDecryptMacOf entry.ealg, entry.authKey with
      | none, _ => pure (-1, out, outLen)
      | some _, none => pure (-1, out, outLen)
      | some mac, some key => do
        let hmacMd := mac.hmac c.toEspCrypto key (← bufRead out 0 elen.toNat)
        let out ← bufWrite out elen.toNat hmacMd
        pure (0, out, outLen + UInt16.ofNat icvLength)

/-! ### `hip_beet_mode_output` -/

/-- `next_hdr_offset`: the outer IPv4 header, and the UDP header in encapsulation mode 1, for an
IPv4-mapped peer; the IPv6 header otherwise. -/
def beetOuterLength (v4 : Bool) (encapMode : UInt8) : Nat :=
  if v4 then ipHdrLength + (if encapMode = 1 then udpHdrLength else 0) else ip6HdrLength

/-- The outer headers `hip_beet_mode_output` writes last, for the packet length `len`: IPv4 and
UDP in encapsulation mode 1, IPv4 alone otherwise, for an IPv4-mapped peer; IPv6 otherwise. -/
def addOuterHeaders (hdrs : OuterHeaders) (v4 : Bool) (encapMode : UInt8) (len : UInt16)
    (espPacket : Bytes) : Except Fault Bytes :=
  if v4 then
    if encapMode = 1 then do
      let espPacket ← bufWrite espPacket ipHdrLength (hdrs.udp (len - UInt16.ofNat ipHdrLength))
      bufWrite espPacket 0 (hdrs.ipv4 len ipprotoUdp)
    else bufWrite espPacket 0 (hdrs.ipv4 len ipprotoEsp)
  else bufWrite espPacket 0 (hdrs.ipv6 len ipprotoEsp)

/-- `hip_beet_mode_output(ctx, entry, preferred_local_addr, preferred_peer_addr, esp_packet,
esp_packet_len)`: the return value, the buffer `esp_packet`, `*esp_packet_len` and the entry
afterwards. The packet of `ctx` is the HIT-addressed IPv6 packet to send. -/
def hipBeetModeOutput (c : EspCbc) (hdrs : OuterHeaders) (prot : EspProtOutput)
    (rand : Nat → UInt8) (ctx : HipFwContext) (entry : HipSaOutEntry) (preferredPeerAddr : Hit)
    (espPacket : Bytes) (espPacketLen : UInt16) :
    Except Fault (Int × Bytes × UInt16 × HipSaOutEntry) := do
  let v4 := in6IsAddrV4Mapped preferredPeerAddr
  let nextHdrOffset := beetOuterLength v4 entry.encapMode
  let espPacket ← bufWrite espPacket nextHdrOffset
    (beBytes 4 entry.spi.toNat ++ beBytes 4 entry.sequence.toNat)
  let entry := { entry with sequence := entry.sequence + 1 }
  let len := espPacketLen + UInt16.ofNat (nextHdrOffset + espHdrLength)
  match prot.addHash with
  | none => pure (-1, espPacket, len, entry)
  | some hash => do
    let espPacket ← bufWrite espPacket len.toNat hash
    let len := len + UInt16.ofNat hash.length
    let inType ← bufByte ctx.packet 6
    let elen := UInt16.ofNat ctx.packet.length - UInt16.ofNat ip6HdrLength
    let (err, out, encryptionLen) ← payloadEncrypt c rand entry.toHipSaEntry
      (ctx.packet.drop ip6HdrLength) inType elen (espPacket.drop nextHdrOffset) 0
    let espPacket := espPacket.take nextHdrOffset ++ out
    if err ≠ 0 then pure (-1, espPacket, len, entry)
    else do
      let len := len + encryptionLen
      let espPacket ← addOuterHeaders hdrs v4 entry.encapMode len espPacket
      pure (if prot.cachePacketHash then 0 else -1, espPacket, len, entry)

/-- The context in which the peer's firewall receives the packet: IPv4, UDP-encapsulated in
mode 1, for an IPv4-mapped peer address; IPv6 otherwise. -/
def beetReceived (v4 : Bool) (encapMode : UInt8) (packet : Bytes) : HipFwContext :=
  ⟨if v4 then 4 else 6, v4 && encapMode == 1, packet⟩

/-! ### Writes behind a known prefix -/

theorem uint16_toNat_add (a b : UInt16) : (a + b).toNat = (a.toNat + b.toNat) % 2 ^ 16 :=
  BitVec.toNat_add _ _

theorem uint16_toNat_ofNat (n : Nat) : (UInt16.ofNat n).toNat = n % 2 ^ 16 :=
  BitVec.toNat_ofNat _ _

theorem uint16_toNat_ofNat_eq {n : Nat} (h : n < 2 ^ 16) : (UInt16.ofNat n).toNat = n := by
  rw [uint16_toNat_ofNat, Nat.mod_eq_of_lt h]

/-- `uint16_t` addition that stays below 2^16 is `Nat` addition. -/
theorem uint16_toNat_add_eq {a b : UInt16} {m n : Nat} (ha : a.toNat = m) (hb : b.toNat = n)
    (h : m + n < 2 ^ 16) : (a + b).toNat = m + n := by
  rw [uint16_toNat_add, ha, hb, Nat.mod_eq_of_lt h]

/-- `uint16_t` subtraction that does not wrap is `Nat` subtraction. -/
theorem uint16_toNat_sub_eq {a b : UInt16} {m n : Nat} (ha : a.toNat = m) (hb : b.toNat = n)
    (h : n ≤ m) : (a - b).toNat = m - n := by
  rw [UInt16.toNat_sub_of_le _ _ (show b.toNat ≤ a.toNat by omega), ha, hb]

theorem bufRead_ok {buf : Bytes} {off len : Nat} (h : off + len ≤ buf.length) :
    bufRead buf off len = .ok ((buf.drop off).take len) := by
  rw [bufRead, if_pos h]
  rfl

/-- A write at the end of a known prefix `p`, over the bytes `x`, keeps `p` and what follows
`x`. -/
theorem prefix_bufWrite {b b' p x s d : Bytes} (h : bufWrite b p.length d = .ok b')
    (hp : p ++ x ++ s <+: b) (hx : x.length = d.length) : p ++ d ++ s <+: b' := by
  obtain ⟨-, rfl⟩ := bufWrite_eq_ok h
  obtain ⟨t, rfl⟩ := hp
  exact ⟨t, by simp [← hx]⟩

/-- A write at the start, over the known bytes `x`, keeps what follows them. -/
theorem prefix_bufWrite_head {b b' x s d : Bytes} (h : bufWrite b 0 d = .ok b')
    (hp : x ++ s <+: b) (hx : x.length = d.length) : d ++ s <+: b' := by
  obtain ⟨-, rfl⟩ := bufWrite_eq_ok h
  obtain ⟨t, rfl⟩ := hp
  exact ⟨t, by simp [← hx]⟩

/-- A write at the end of a known prefix `p` appends to it. -/
theorem prefix_bufWrite_append {b b' p d : Bytes} (h : bufWrite b p.length d = .ok b')
    (hp : p <+: b) : p ++ d <+: b' := by
  obtain ⟨-, rfl⟩ := bufWrite_eq_ok h
  obtain ⟨t, rfl⟩ := hp
  exact ⟨t.drop d.length, by simp⟩

theorem prefix_bufRead {b p : Bytes} (hp : p <+: b) : bufRead b 0 p.length = .ok p := by
  obtain ⟨t, rfl⟩ := hp
  simp [bufRead]

theorem bufRead_eq_ok {b d : Bytes} {off len : Nat} (h : bufRead b off len = .ok d) :
    off + len ≤ b.length ∧ d = (b.drop off).take len := by
  unfold bufRead at h
  split at h
  · cases h
    exact ⟨‹_›, rfl⟩
  · cases h

/-- The outer headers take the place of the room left for them in front of the ESP part. -/
theorem prefix_addOuterHeaders {hdrs : OuterHeaders} {v4 : Bool} {encapMode : UInt8} {len : UInt16}
    {b b' g e : Bytes} (h : addOuterHeaders hdrs v4 encapMode len b = .ok b')
    (hg : g.length = beetOuterLength v4 encapMode) (hp : g ++ e <+: b) :
    ∃ hdr, hdr.length = beetOuterLength v4 encapMode ∧ hdr ++ e <+: b' := by
  cases v4 with
  | false =>
    simp only [addOuterHeaders, beetOuterLength, Bool.false_eq_true, if_false] at h hg ⊢
    exact ⟨_, hdrs.length_ipv6 _ _, prefix_bufWrite_head h hp (by rw [hg, hdrs.length_ipv6])⟩
  | true =>
    by_cases hm : encapMode = 1
    · simp only [addOuterHeaders, beetOuterLength, if_true, if_pos hm] at h hg ⊢
      obtain ⟨b1, h1, h2⟩ := bind_eq_ok.mp h
      have hg' : (g.take ipHdrLength).length = ipHdrLength := by
        simp only [List.length_take, hg]
        omega
      have h1' : bufWrite b (g.take ipHdrLength).length
          (hdrs.udp (len - UInt16.ofNat ipHdrLength)) = .ok b1 := by
        rw [hg']
        exact h1
      have hp0 : g.take ipHdrLength ++ g.drop ipHdrLength ++ e <+: b := by
        rwa [List.take_append_drop]
      have hp1 := prefix_bufWrite h1' hp0
        (by simp only [List.length_drop, hg, hdrs.length_udp]; omega)
      refine ⟨hdrs.ipv4 len ipprotoUdp ++ hdrs.udp (len - UInt16.ofNat ipHdrLength),
        by simp [hdrs.length_ipv4, hdrs.length_udp], ?_⟩
      simpa using prefix_bufWrite_head h2 (by simpa using hp1) (by rw [hg', hdrs.length_ipv4])
    · simp only [addOuterHeaders, beetOuterLength, if_true, if_neg hm, Nat.add_zero] at h hg ⊢
      exact ⟨_, hdrs.length_ipv4 _ _, prefix_bufWrite_head h hp (by rw [hg, hdrs.length_ipv4])⟩

/-- The outer headers fit in front of any buffer with room for them. -/
theorem addOuterHeaders_ok (hdrs : OuterHeaders) (v4 : Bool) (encapMode : UInt8) (len : UInt16)
    {b : Bytes} (h : beetOuterLength v4 encapMode ≤ b.length) :
    ∃ b', addOuterHeaders hdrs v4 encapMode len b = .ok b' := by
  cases v4 with
  | false =>
    simp only [beetOuterLength, Bool.false_eq_true, if_false] at h
    obtain ⟨b', hb', -⟩ := @bufWrite_ok b (hdrs.ipv6 len ipprotoEsp) 0
      (by rw [hdrs.length_ipv6]; omega)
    exact ⟨b', by simpa [addOuterHeaders] using hb'⟩
  | true =>
    by_cases hm : encapMode = 1
    · simp only [beetOuterLength, if_true, if_pos hm] at h
      obtain ⟨b1, h1, hl1⟩ := @bufWrite_ok b (hdrs.udp (len - UInt16.ofNat ipHdrLength)) ipHdrLength
        (by rw [hdrs.length_udp]; omega)
      obtain ⟨b2, h2, -⟩ := @bufWrite_ok b1 (hdrs.ipv4 len ipprotoUdp) 0
        (by rw [hdrs.length_ipv4]; omega)
      exact ⟨b2, by simp [addOuterHeaders, hm, h1, h2]⟩
    · simp only [beetOuterLength, if_true, if_neg hm, Nat.add_zero] at h
      obtain ⟨b', hb', -⟩ := @bufWrite_ok b (hdrs.ipv4 len ipprotoEsp) 0
        (by rw [hdrs.length_ipv4]; omega)
      exact ⟨b', by simpa [addOuterHeaders, hm] using hb'⟩

theorem bufByte_ok {b : Bytes} {off : Nat} (h : off < b.length) : bufByte b off = .ok b[off] := by
  simp [bufByte, List.getElem?_eq_getElem h]

theorem bufByte_eq_ok {b : Bytes} {off : Nat} {x : UInt8} (h : bufByte b off = .ok x) :
    b[off]? = some x := by
  unfold bufByte at h
  split at h <;> cases h
  assumption

theorem EspCipher.ivLen_pos {cipher : EspCipher} (h : cipher ≠ .null) : 0 < cipher.ivLen := by
  cases cipher <;> simp_all [EspCipher.ivLen]

theorem length_espPadded (data : Bytes) (padLen : Nat) (inType : UInt8) :
    (espPadded data padLen inType).length = data.length + padLen + espTailLength := by
  simp [espPadded, espTailLength, Nat.add_assoc]

/-- A suite the authentication switch does not list, BLOWFISH-SHA1 among them, never gets 0 from
`payload_encrypt`, which fails once it has encrypted. -/
theorem payloadEncrypt_noMac {c : EspCbc} {rand : Nat → UInt8} {entry : HipSaEntry}
    {inBuf out out' : Bytes} {inType : UInt8} {inLen outLen outLen' : UInt16} {r : Int}
    (hmac : espDecryptMacOf entry.ealg = none)
    (h : payloadEncrypt c rand entry inBuf inType inLen out outLen = .ok (r, out', outLen')) :
    r = -1 := by
  unfold payloadEncrypt at h
  cases hc : espCipherOf entry.ealg with
  | none =>
    simp only [hc, pure_eq_ok, Except.ok.injEq, Prod.mk.injEq] at h
    exact h.1.symm
  | some cipher =>
    simp only [hc] at h
    by_cases hk : cipher.needsKey = true ∧ entry.encKey = none
    · rw [if_pos hk] at h
      cases h
      rfl
    rw [if_neg hk] at h
    simp only [hmac] at h
    -- the IV write and the cipher switch each carry the rest of the function in both branches
    split at h <;>
    · simp only [bind_eq_ok] at h
      obtain ⟨_, -, _, -, h⟩ := h
      split at h <;>
      · obtain ⟨_, -, h⟩ := bind_eq_ok.mp h
        cases h
        rfl

/-! ### The packet of a CBC suite with SHA-1 -/

/-- The ESP part of the packet the spec describes, from the ESP header on: `pre`, the ESP header
and the token, then the IV, the ciphertext of the padded plaintext, and the first 12 bytes of
the HMAC of all of it. -/
def beetEspPacket (c : EspCbc) (cipher : EspCipher) (encKey authKey pre iv plain : Bytes) :
    Bytes :=
  let ct := c.cbcEncrypt cipher encKey iv plain
  pre ++ iv ++ ct ++ (c.hmacSha1 authKey (pre ++ iv ++ ct)).take icvLength

theorem length_beetEspPacket (c : EspCbc) (cipher : EspCipher) (encKey authKey pre iv plain : Bytes) :
    (beetEspPacket c cipher encKey authKey pre iv plain).length =
      pre.length + iv.length + plain.length + icvLength := by
  simp [beetEspPacket, c.length_cbcEncrypt, c.length_hmacSha1, icvLength, Nat.add_assoc]

section CbcSha1

variable {c : EspCbc} {rand : Nat → UInt8} {entry : HipSaEntry} {cipher : EspCipher}
  (hmac : espDecryptMacOf entry.ealg = some .sha1) (hcipher : espCipherOf entry.ealg = some cipher)
  (hcbc : cipher ≠ .null)
include hmac hcipher hcbc

/-- What `payload_encrypt` leaves for a CBC suite with SHA-1, behind the `esp_data_offset` bytes
`pre` already in `out`: the packet of `beetEspPacket`, and `*out_len` grown by the IV, the
ciphertext and the ICV. -/
theorem payloadEncrypt_cbcSha1 {inBuf out out' pre : Bytes} {inType : UInt8}
    {inLen outLen outLen' : UInt16}
    (h : payloadEncrypt c rand entry inBuf inType inLen out outLen = .ok (0, out', outLen'))
    (hpre : pre <+: out) (hoff : pre.length = entry.espDataOffset.toNat)
    (hfit : entry.espDataOffset.toNat + cipher.ivLen + espPaddedLength cipher.ivLen inLen.toNat <
      2 ^ 16) :
    ∃ key, entry.authKey = some key ∧ entry.encKey ≠ none ∧ inLen.toNat ≤ inBuf.length ∧
      beetEspPacket c cipher (entry.encKey.getD []) key pre ((List.range cipher.ivLen).map rand)
          (espPadded (inBuf.take inLen.toNat) (espPadLength cipher.ivLen inLen.toNat) inType) <+:
        out' ∧
      outLen'.toNat =
        (outLen.toNat + cipher.ivLen + espPaddedLength cipher.ivLen inLen.toNat + icvLength) %
          2 ^ 16 := by
  have hpos := EspCipher.ivLen_pos hcbc
  simp only [payloadEncrypt, hcipher] at h
  split at h
  · cases h
  rename_i hkey
  simp only [if_pos hpos, bind_eq_ok, hmac] at h
  obtain ⟨out1, h1, data, hdata, out2, h2, h⟩ := h
  cases hauth : entry.authKey with
  | none => simp only [hauth, pure_eq_ok, Except.ok.injEq, Prod.mk.injEq] at h; cases h.1
  | some key =>
  simp only [hauth, bind_eq_ok, pure_eq_ok, Except.ok.injEq, Prod.mk.injEq] at h
  obtain ⟨authData, hread, out3, h3, -, rfl, rfl⟩ := h
  obtain ⟨hin, rfl⟩ := bufRead_eq_ok hdata
  set iv := (List.range cipher.ivLen).map rand
  set plain := espPadded (inBuf.take inLen.toNat) (espPadLength cipher.ivLen inLen.toNat) inType
  set ct := c.cbcEncrypt cipher (entry.encKey.getD []) iv plain
  have hplain : plain.length = espPaddedLength cipher.ivLen inLen.toNat := by
    simp only [plain, length_espPadded, List.length_take, espPaddedLength]
    omega
  have hpadLen : (UInt16.ofNat (espPadLength cipher.ivLen inLen.toNat + espTailLength)).toNat =
      espPadLength cipher.ivLen inLen.toNat + espTailLength := by
    unfold espPaddedLength at hfit
    exact uint16_toNat_ofNat_eq (by omega)
  have helen : (inLen + UInt16.ofNat (espPadLength cipher.ivLen inLen.toNat + espTailLength)).toNat =
      espPaddedLength cipher.ivLen inLen.toNat := by
    unfold espPaddedLength at hfit ⊢
    rw [uint16_toNat_add_eq rfl hpadLen (by omega), Nat.add_assoc]
  rw [List.drop_zero, helen, ← hplain, List.take_length] at h2
  have hp1 : pre ++ iv <+: out1 := by
    rw [← hoff] at h1
    exact prefix_bufWrite_append h1 hpre
  have h2' : bufWrite out1 (pre ++ iv).length ct = .ok out2 := by
    have hlen : (pre ++ iv).length = entry.espDataOffset.toNat + cipher.ivLen := by simp [iv, hoff]
    rw [hlen]
    cases cipher <;> first | exact absurd rfl hcbc | exact h2
  have hp2 : pre ++ iv ++ ct <+: out2 := by
    exact prefix_bufWrite_append h2' hp1
  have hauthLen : (inLen + UInt16.ofNat (espPadLength cipher.ivLen inLen.toNat + espTailLength) +
      UInt16.ofNat cipher.ivLen + entry.espDataOffset).toNat = (pre ++ iv ++ ct).length := by
    have hivLen : (UInt16.ofNat cipher.ivLen).toNat = cipher.ivLen := uint16_toNat_ofNat_eq (by omega)
    rw [uint16_toNat_add_eq (uint16_toNat_add_eq helen hivLen (by omega)) rfl (by omega)]
    simp only [List.length_append, hoff, iv, ct, List.length_map, List.length_range,
      c.length_cbcEncrypt, hplain]
    omega
  rw [hauthLen] at hread h3
  rw [prefix_bufRead hp2] at hread
  cases hread
  have hp3 := prefix_bufWrite_append h3 hp2
  refine ⟨key, rfl, fun h ↦ hkey ⟨?_, h⟩, by omega, ?_, ?_⟩
  · cases cipher <;> first | exact absurd rfl hcbc | rfl
  · exact ((List.prefix_append_right_inj _).2 (List.take_prefix _ _)).trans hp3
  · simp only [uint16_toNat_add, helen, uint16_toNat_ofNat, icvLength]
    unfold espPaddedLength at hfit ⊢
    omega

/-- `payload_encrypt` under a CBC suite with SHA-1 and both keys returns 0 when `out` has room
behind `esp_data_offset` for the IV, the padded ciphertext and the 20 bytes of the HMAC-SHA1
digest it writes. -/
theorem payloadEncrypt_ok {inBuf out : Bytes} {inType : UInt8} {inLen outLen : UInt16}
    {key : Bytes} (hkey : entry.authKey = some key) (henc : entry.encKey ≠ none)
    (hin : inLen.toNat ≤ inBuf.length)
    (hroom : entry.espDataOffset.toNat + cipher.ivLen + espPaddedLength cipher.ivLen inLen.toNat +
      20 ≤ out.length)
    (hfit : entry.espDataOffset.toNat + cipher.ivLen + espPaddedLength cipher.ivLen inLen.toNat <
      2 ^ 16) :
    ∃ out' outLen', payloadEncrypt c rand entry inBuf inType inLen out outLen =
      .ok (0, out', outLen') ∧ out'.length = out.length := by
  have hpos := EspCipher.ivLen_pos hcbc
  have hneed : ¬(cipher.needsKey = true ∧ entry.encKey = none) := fun h ↦ henc h.2
  set off := entry.espDataOffset.toNat
  set iv := (List.range cipher.ivLen).map rand
  set padded := espPaddedLength cipher.ivLen inLen.toNat
  have hivl : iv.length = cipher.ivLen := by simp [iv]
  obtain ⟨out1, h1, hl1⟩ := @bufWrite_ok out iv off (by omega)
  have hpadLen : (UInt16.ofNat (espPadLength cipher.ivLen inLen.toNat + espTailLength)).toNat =
      espPadLength cipher.ivLen inLen.toNat + espTailLength := by
    unfold padded espPaddedLength at hfit
    exact uint16_toNat_ofNat_eq (by omega)
  have helen : (inLen + UInt16.ofNat (espPadLength cipher.ivLen inLen.toNat + espTailLength)).toNat =
      padded := by
    unfold padded espPaddedLength at hfit ⊢
    rw [uint16_toNat_add_eq rfl hpadLen (by omega), Nat.add_assoc]
  set plain := espPadded (inBuf.take inLen.toNat) (espPadLength cipher.ivLen inLen.toNat) inType
  have hplain : plain.length = padded := by
    simp only [plain, length_espPadded, List.length_take, padded, espPaddedLength]
    omega
  set ct := c.cbcEncrypt cipher (entry.encKey.getD []) iv plain
  have hct : ct.length = padded := (c.length_cbcEncrypt _ _ _ _).trans hplain
  obtain ⟨out2, h2, hl2⟩ := @bufWrite_ok out1 ct (off + cipher.ivLen) (by omega)
  have hivLen : (UInt16.ofNat cipher.ivLen).toNat = cipher.ivLen := uint16_toNat_ofNat_eq (by omega)
  have hauthLen : (inLen + UInt16.ofNat (espPadLength cipher.ivLen inLen.toNat + espTailLength) +
      UInt16.ofNat cipher.ivLen + entry.espDataOffset).toNat = off + cipher.ivLen + padded := by
    rw [uint16_toNat_add_eq (uint16_toNat_add_eq helen hivLen (by omega)) rfl (by omega)]
    omega
  obtain ⟨out3, h3, hl3⟩ := @bufWrite_ok out2
    (c.hmacSha1 key ((out2.drop 0).take (off + cipher.ivLen + padded)))
    (off + cipher.ivLen + padded) (by rw [c.length_hmacSha1]; omega)
  have hdata := @bufRead_ok inBuf 0 inLen.toNat (by omega)
  have hread := @bufRead_ok out2 0 (off + cipher.ivLen + padded) (by omega)
  refine ⟨out3, ?_⟩
  unfold payloadEncrypt
  cases cipher <;> first | exact absurd rfl hcbc | skip
  all_goals
    simp only [hcipher, if_neg hneed, if_pos hpos, ok_bind, h1, hdata, List.drop_zero, helen,
      List.take_of_length_le (le_of_eq hplain), hmac, hkey, hauthLen]
    rw [h2]
    simp only [ok_bind, hread, EspMac.hmac, h3]
    exact ⟨_, rfl, by omega⟩

end CbcSha1

/-! ### `payload_decrypt` on the packet of a CBC suite with SHA-1 -/

/-- The padding step of `payload_decrypt` undoes `payload_encrypt`'s: the next header, and the
length of the data. -/
theorem espStripTail_espPadded (data : Bytes) (padLen : Nat) (inType : UInt8) (hpad : padLen < 256)
    (hlen : (espPadded data padLen inType).length < 2 ^ 16) :
    espStripTail (espPadded data padLen inType) (UInt16.ofNat (espPadded data padLen inType).length) =
      .ok ⟨espPadded data padLen inType, inType, UInt16.ofNat data.length⟩ := by
  have hL := length_espPadded data padLen inType
  have hpad8 : (UInt8.ofNat padLen).toNat = padLen := Nat.mod_eq_of_lt hpad
  have htail : bufRead (espPadded data padLen inType)
      ((espPadded data padLen inType).length - espTailLength) espTailLength =
        .ok [UInt8.ofNat padLen, inType] := by
    have hsplit : espPadded data padLen inType =
        (data ++ (List.range padLen).map (fun i ↦ UInt8.ofNat (i + 1))) ++
          [UInt8.ofNat padLen, inType] := rfl
    unfold bufRead
    rw [if_pos (by omega), hsplit, List.drop_left' (by
      simp only [List.length_append, List.length_map, List.length_range, List.length_cons,
        List.length_nil, espTailLength]
      omega)]
    rfl
  have hout : UInt16.ofNat (espPadded data padLen inType).length -
      UInt16.ofNat ((UInt8.ofNat padLen).toNat + espTailLength) = UInt16.ofNat data.length := by
    apply UInt16.toNat.inj
    rw [uint16_toNat_sub, uint16_toNat_ofNat, uint16_toNat_ofNat, uint16_toNat_ofNat, hpad8, hL]
    rw [hL] at hlen
    omega
  unfold espStripTail
  rw [uint16_toNat_ofNat, Nat.mod_eq_of_lt hlen, if_neg (by rw [hL]; unfold espTailLength; omega),
    htail]
  simp only [ok_bind, hout, pure_eq_ok]

/-- `payload_decrypt` on the ESP part of `beetEspPacket`, under the suite and the keys it was
made with: the padded plaintext, its next header, and the length of the data. -/
theorem payloadDecrypt_beetEspPacket {c : EspCbc} {entry : HipSaEntry} {cipher : EspCipher}
    {key pre iv data : Bytes} {padLen : Nat} {nxt : UInt8} {outCapacity : Nat}
    (hmac : espDecryptMacOf entry.ealg = some .sha1) (hcipher : espCipherOf entry.ealg = some cipher)
    (hcbc : cipher ≠ .null) (hkey : entry.authKey = some key) (henc : entry.encKey ≠ none)
    (hpre : pre.length = entry.espDataOffset.toNat) (hiv : iv.length = cipher.ivLen)
    (hpad : padLen < 256)
    (hfit : pre.length + iv.length + (espPadded data padLen nxt).length + icvLength < 2 ^ 16)
    (hcap : (espPadded data padLen nxt).length ≤ outCapacity) :
    payloadDecrypt c.toEspCrypto entry
        (beetEspPacket c cipher (entry.encKey.getD []) key pre iv (espPadded data padLen nxt))
        (UInt16.ofNat (beetEspPacket c cipher (entry.encKey.getD []) key pre iv
          (espPadded data padLen nxt)).length) outCapacity =
      .ok (0, some ⟨espPadded data padLen nxt, nxt, UInt16.ofNat data.length⟩) := by
  set plain := espPadded data padLen nxt
  set ct := c.cbcEncrypt cipher (entry.encKey.getD []) iv plain
  set E := beetEspPacket c cipher (entry.encKey.getD []) key pre iv plain
  have hE : E = pre ++ iv ++ ct ++ (c.hmacSha1 key (pre ++ iv ++ ct)).take icvLength := rfl
  have hct : ct.length = plain.length := c.length_cbcEncrypt _ _ _ _
  have hElen : E.length = pre.length + iv.length + plain.length + icvLength :=
    length_beetEspPacket _ _ _ _ _ _ _
  have hinLen : (UInt16.ofNat E.length).toNat = E.length := uint16_toNat_ofNat_eq (by omega)
  -- the ICV matches
  have hauth := @espDecryptAuth_sha1 c.toEspCrypto entry key hmac hkey E _
    (by rw [hinLen, hElen]; omega) (by rw [hinLen])
  have hA : E.length - icvLength = (pre ++ iv ++ ct).length := by
    simp only [hElen, List.length_append, hct]
    omega
  have hAtake : E.take (pre ++ iv ++ ct).length = pre ++ iv ++ ct := by rw [hE, List.take_left]
  have hicv : (E.drop (pre ++ iv ++ ct).length).take icvLength =
      (c.hmacSha1 key (pre ++ iv ++ ct)).take icvLength := by
    rw [hE, List.drop_left, List.take_of_length_le (by simp [c.length_hmacSha1, icvLength])]
  rw [hinLen, hA, hAtake, hicv, if_pos rfl] at hauth
  rw [payloadDecrypt_of_auth hauth]
  -- the IV and the ciphertext
  have helen : (UInt16.ofNat E.length - UInt16.ofNat icvLength - entry.espDataOffset -
      UInt16.ofNat cipher.ivLen).toNat = plain.length := by
    have h12 : (UInt16.ofNat icvLength).toNat = icvLength := rfl
    have hivLen : (UInt16.ofNat cipher.ivLen).toNat = cipher.ivLen := uint16_toNat_ofNat_eq (by omega)
    rw [uint16_toNat_sub_eq (uint16_toNat_sub_eq (uint16_toNat_sub_eq hinLen h12 (by omega))
      hpre.symm (by omega)) hivLen (by omega)]
    omega
  have hivRead : inRead E (UInt16.ofNat E.length) entry.espDataOffset.toNat cipher.ivLen = .ok iv := by
    rw [inRead_of_le (by rw [hinLen, hElen, ← hpre, ← hiv]; omega) (by rw [hElen, ← hpre, ← hiv]; omega),
      hE, ← hpre, List.append_assoc, List.append_assoc, List.drop_left, ← hiv, List.take_left]
  have hctRead : inRead E (UInt16.ofNat E.length) (entry.espDataOffset.toNat + cipher.ivLen)
      (UInt16.ofNat E.length - UInt16.ofNat icvLength - entry.espDataOffset -
        UInt16.ofNat cipher.ivLen).toNat = .ok ct := by
    rw [helen, inRead_of_le (by rw [hinLen, hElen, ← hpre, ← hiv]; omega)
      (by rw [hElen, ← hpre, ← hiv]; omega), hE, ← hpre, ← hiv, ← List.length_append,
      List.append_assoc (pre ++ iv), List.drop_left, ← hct, List.take_left]
  rw [espDecryptPayload_cbc hcipher hcbc henc hivRead hctRead (by rw [hct]; exact hcap),
    c.cbcDecrypt_cbcEncrypt]
  have hstrip : UInt16.ofNat E.length - UInt16.ofNat icvLength - entry.espDataOffset -
      UInt16.ofNat cipher.ivLen = UInt16.ofNat plain.length :=
    UInt16.toNat.inj (helen.trans (uint16_toNat_ofNat_eq (by omega)).symm)
  have hplain : plain.length < 2 ^ 16 := by omega
  rw [hstrip, espStripTail_espPadded data padLen nxt hpad hplain]
  rfl

/-- `payload_decrypt` under a NULL suite with SHA-1, on the bytes `A` an HMAC covers followed by
their ICV: the packet is authenticated, and the plaintext is what stands in `A` behind the data
offset. -/
theorem payloadDecrypt_nullSha1 {c : EspCrypto} {entry : HipSaEntry} {key A : Bytes}
    {outCapacity : Nat} (hmac : espDecryptMacOf entry.ealg = some .sha1)
    (hnull : espCipherOf entry.ealg = some .null) (hkey : entry.authKey = some key)
    (hoff : entry.espDataOffset.toNat ≤ A.length) (hfit : A.length + icvLength < 2 ^ 16)
    (hcap : A.length - entry.espDataOffset.toNat ≤ outCapacity) :
    payloadDecrypt c entry (A ++ (c.hmacSha1 key A).take icvLength)
        (UInt16.ofNat (A.length + icvLength)) outCapacity =
      (espStripTail (A.drop entry.espDataOffset.toNat)
        (UInt16.ofNat (A.length - entry.espDataOffset.toNat))).map fun dec ↦ (0, some dec) := by
  have hicv : ((c.hmacSha1 key A).take icvLength).length = icvLength := by
    simp [c.length_hmacSha1, icvLength]
  have hinLen : (UInt16.ofNat (A.length + icvLength)).toNat = A.length + icvLength := by
    rw [uint16_toNat_ofNat]
    omega
  have hauth := @espDecryptAuth_sha1 c entry key hmac hkey
    (A ++ (c.hmacSha1 key A).take icvLength) (UInt16.ofNat (A.length + icvLength))
    (by omega) (by simp [hinLen, hicv])
  rw [hinLen, Nat.add_sub_cancel, List.take_left, List.drop_left,
    List.take_of_length_le (le_of_eq hicv), if_pos rfl] at hauth
  have helen : UInt16.ofNat (A.length + icvLength) - UInt16.ofNat icvLength - entry.espDataOffset =
      UInt16.ofNat (A.length - entry.espDataOffset.toNat) := by
    apply UInt16.toNat.inj
    simp only [uint16_toNat_sub, uint16_toNat_ofNat, icvLength] at hfit ⊢
    omega
  have hdata : inRead (A ++ (c.hmacSha1 key A).take icvLength) (UInt16.ofNat (A.length + icvLength))
      entry.espDataOffset.toNat (UInt16.ofNat (A.length - entry.espDataOffset.toNat)).toNat =
        .ok (A.drop entry.espDataOffset.toNat) := by
    rw [uint16_toNat_ofNat, Nat.mod_eq_of_lt (by omega), inRead_of_le (by omega) (by simp; omega),
      List.drop_append_of_le_length hoff, List.take_append_of_le_length (by simp),
      List.take_of_length_le (by simp)]
  rw [payloadDecrypt_of_auth hauth, espDecryptPayload_null hnull (by rw [helen]; exact hdata)
    (by simp only [List.length_drop]; exact hcap), helen]

theorem EspCipher.ivLen_le (cipher : EspCipher) : cipher.ivLen ≤ 16 := by
  cases cipher <;> decide

theorem espPadLength_lt (ivLen n : Nat) (h : ivLen ≤ 16) : espPadLength ivLen n < 256 := by
  unfold espPadLength
  dsimp only
  split <;> omega

/-! ### `hip_beet_mode_input` on the packet sent -/

@[simp] theorem beetReceived_packet (v4 : Bool) (encapMode : UInt8) (packet : Bytes) :
    (beetReceived v4 encapMode packet).packet = packet := rfl

theorem outerLength_beetReceived (v4 : Bool) (encapMode : UInt8) (packet : Bytes) :
    (beetReceived v4 encapMode packet).outerLength = beetOuterLength v4 encapMode := by
  cases v4 <;> by_cases hm : encapMode = 1 <;>
    simp [beetReceived, HipFwContext.outerLength, beetOuterLength, hm]

/-- The receiver finds the ESP part behind the outer headers, and its length. -/
theorem espLen_beetReceived {v4 : Bool} {encapMode : UInt8} {hdr esp : Bytes}
    (hhdr : hdr.length = beetOuterLength v4 encapMode) :
    (beetReceived v4 encapMode (hdr ++ esp)).espLen = UInt16.ofNat esp.length := by
  apply UInt16.toNat.inj
  unfold beetOuterLength at hhdr
  cases v4 <;> by_cases hm : encapMode = 1 <;>
    simp only [beetReceived, HipFwContext.espLen, hm, Bool.false_eq_true, if_false, if_true,
      Bool.true_and, Bool.false_and, beq_self_eq_true, beq_iff_eq, List.length_append,
      (by decide : ¬ ((6 : Nat) = 4)), uint16_toNat_sub, uint16_toNat_ofNat, UInt16.toNat_zero,
      ipHdrLength, udpHdrLength, ip6HdrLength] at hhdr ⊢ <;>
    omega

section Output

variable {c : EspCbc} {hdrs : OuterHeaders} {prot : EspProtOutput} {rand : Nat → UInt8}
  {ctx : HipFwContext} {entry : HipSaOutEntry} {peer : Hit} {cipher : EspCipher}
  (hmac : espDecryptMacOf entry.ealg = some .sha1) (hcipher : espCipherOf entry.ealg = some cipher)
  (hcbc : cipher ≠ .null)
  (hoff : ∀ hash, prot.addHash = some hash → espHdrLength + hash.length = entry.espDataOffset.toNat)
  (hpkt : ip6HdrLength ≤ ctx.packet.length)
  (hfit : beetOuterLength (in6IsAddrV4Mapped peer) entry.encapMode + entry.espDataOffset.toNat +
    cipher.ivLen + espPaddedLength cipher.ivLen (ctx.packet.length - ip6HdrLength) + icvLength <
      2 ^ 16)
include hmac hcipher hcbc hoff hpkt hfit

/-- The packet `hip_beet_mode_output` sends with 0 under a CBC suite with SHA-1: the outer
headers, then the ESP header and the token, the IV, the ciphertext of the transport payload
padded with the ESP tail, and the ICV. -/
theorem hipBeetModeOutput_cbcSha1 {espPacket espPacket' : Bytes} {len : UInt16}
    {entry' : HipSaOutEntry}
    (h : hipBeetModeOutput c hdrs prot rand ctx entry peer espPacket 0 =
      .ok (0, espPacket', len, entry')) :
    ∃ key hash nxt hdr, entry.authKey = some key ∧ entry.encKey ≠ none ∧
      prot.addHash = some hash ∧ ctx.packet[6]? = some nxt ∧
      hdr.length = beetOuterLength (in6IsAddrV4Mapped peer) entry.encapMode ∧
      espPacket'.take len.toNat = hdr ++ beetEspPacket c cipher (entry.encKey.getD []) key
        (beBytes 4 entry.spi.toNat ++ beBytes 4 entry.sequence.toNat ++ hash)
        ((List.range cipher.ivLen).map rand)
        (espPadded (ctx.packet.drop ip6HdrLength)
          (espPadLength cipher.ivLen (ctx.packet.length - ip6HdrLength)) nxt) := by
  simp only [hipBeetModeOutput, bind_eq_ok] at h
  obtain ⟨pk1, h1, h⟩ := h
  set outer := beetOuterLength (in6IsAddrV4Mapped peer) entry.encapMode
  set espHdr := beBytes 4 entry.spi.toNat ++ beBytes 4 entry.sequence.toNat
  cases hh : prot.addHash with
  | none => simp only [hh, pure_eq_ok, Except.ok.injEq, Prod.mk.injEq] at h; cases h.1
  | some hash =>
  have hoff' := hoff hash hh
  simp only [hh, bind_eq_ok] at h
  obtain ⟨pk2, h2, nxt, hnxt, ⟨err, out, encLen⟩, henc, h⟩ := h
  by_cases herr : err = 0
  swap
  · simp only [if_pos herr, pure_eq_ok, Except.ok.injEq, Prod.mk.injEq] at h; cases h.1
  subst herr
  simp only [ne_eq, not_true_eq_false, if_false, bind_eq_ok, pure_eq_ok, Except.ok.injEq,
    Prod.mk.injEq] at h
  obtain ⟨pk3, h3, -, rfl, rfl, -⟩ := h
  -- the room for the outer headers, the ESP header and the token
  set g := espPacket.take outer
  have hg : g.length = outer := by
    have := (bufWrite_eq_ok h1).1
    simp only [g, List.length_take]
    omega
  have hp1 : g ++ espHdr <+: pk1 := prefix_bufWrite_append (hg ▸ h1) (List.take_prefix _ _)
  have hhdrLen : (UInt16.ofNat (outer + espHdrLength)).toNat = outer + espHdrLength :=
    uint16_toNat_ofNat_eq (by omega)
  have hlen1 : (0 + UInt16.ofNat (outer + espHdrLength)).toNat = outer + espHdrLength := by
    rw [uint16_toNat_add_eq UInt16.toNat_zero hhdrLen (by omega), Nat.zero_add]
  have hlen1' : (0 + UInt16.ofNat (outer + espHdrLength)).toNat = (g ++ espHdr).length := by
    rw [hlen1, List.length_append, hg]
    rfl
  have hp2 : g ++ espHdr ++ hash <+: pk2 := prefix_bufWrite_append (hlen1' ▸ h2) hp1
  -- the ESP part
  have hin : (UInt16.ofNat ctx.packet.length - UInt16.ofNat ip6HdrLength).toNat =
      ctx.packet.length - ip6HdrLength := by
    rw [uint16_toNat_sub, uint16_toNat_ofNat, uint16_toNat_ofNat]
    unfold espPaddedLength ip6HdrLength at *
    omega
  have hpre : espHdr ++ hash <+: pk2.drop outer := by
    obtain ⟨t, ht⟩ := hp2
    exact ⟨t, by rw [← ht, ← hg]; simp⟩
  obtain ⟨key, hkey, henc', -, hpE, hencLen⟩ := payloadEncrypt_cbcSha1 hmac hcipher hcbc henc hpre
    (by simp only [espHdr, List.length_append, length_beBytes, ← hoff', espHdrLength])
    (by rw [hin]; omega)
  rw [hin] at hpE hencLen
  rw [List.take_of_length_le (by simp)] at hpE
  set E := beetEspPacket c cipher (entry.encKey.getD []) key (espHdr ++ hash)
    ((List.range cipher.ivLen).map rand) (espPadded (ctx.packet.drop ip6HdrLength)
      (espPadLength cipher.ivLen (ctx.packet.length - ip6HdrLength)) nxt)
  have hp3 : g ++ E <+: pk2.take outer ++ out := by
    obtain ⟨t, ht⟩ := hp2
    rw [← ht, ← hg]
    simpa using hpE
  obtain ⟨hdr, hhdr, hp4⟩ := prefix_addOuterHeaders h3 hg hp3
  have hencLen' : encLen.toNat = cipher.ivLen +
      espPaddedLength cipher.ivLen (ctx.packet.length - ip6HdrLength) + icvLength := by
    have hlt : cipher.ivLen + espPaddedLength cipher.ivLen (ctx.packet.length - ip6HdrLength) +
        icvLength < 2 ^ 16 := by omega
    rw [hencLen, UInt16.toNat_zero, Nat.zero_add, Nat.mod_eq_of_lt hlt]
  have hhashLen : (UInt16.ofNat hash.length).toNat = hash.length := uint16_toNat_ofNat_eq (by omega)
  have hlen : (0 + UInt16.ofNat (outer + espHdrLength) + UInt16.ofNat hash.length +
      encLen).toNat = (hdr ++ E).length := by
    rw [uint16_toNat_add_eq (uint16_toNat_add_eq hlen1 hhashLen (by omega)) hencLen' (by omega)]
    simp only [List.length_append, hhdr, E, length_beetEspPacket, espHdr, length_beBytes,
      List.length_map, List.length_range, length_espPadded, List.length_drop]
    unfold espPaddedLength espHdrLength at *
    omega
  refine ⟨key, hash, nxt, hdr, hkey, henc', rfl, bufByte_eq_ok hnxt, hhdr, ?_⟩
  rw [hlen]
  exact (List.prefix_iff_eq_take.mp hp4).symm

/-- A call under a CBC suite with SHA-1 and both keys, with an ESP protection hash, a packet
hash cached and room in `esp_packet` for the whole packet and the 20 bytes of the digest,
returns 0 and advances the sequence counter. -/
theorem hipBeetModeOutput_ok {espPacket hash key : Bytes} (hh : prot.addHash = some hash)
    (hcache : prot.cachePacketHash = true) (hkey : entry.authKey = some key)
    (henc : entry.encKey ≠ none)
    (hroom : beetOuterLength (in6IsAddrV4Mapped peer) entry.encapMode + entry.espDataOffset.toNat +
      cipher.ivLen + espPaddedLength cipher.ivLen (ctx.packet.length - ip6HdrLength) + 20 ≤
        espPacket.length) :
    ∃ espPacket' len, hipBeetModeOutput c hdrs prot rand ctx entry peer espPacket 0 =
      .ok (0, espPacket', len, { entry with sequence := entry.sequence + 1 }) := by
  have hoff' := hoff hash hh
  set outer := beetOuterLength (in6IsAddrV4Mapped peer) entry.encapMode
  set espHdr := beBytes 4 entry.spi.toNat ++ beBytes 4 entry.sequence.toNat
  have hhdr : espHdr.length = espHdrLength := by simp [espHdr, length_beBytes, espHdrLength]
  obtain ⟨pk1, h1, hl1⟩ := @bufWrite_ok espPacket espHdr outer (by omega)
  have hhdrLen : (UInt16.ofNat (outer + espHdrLength)).toNat = outer + espHdrLength :=
    uint16_toNat_ofNat_eq (by omega)
  have hlen1 : (0 + UInt16.ofNat (outer + espHdrLength)).toNat = outer + espHdrLength := by
    rw [uint16_toNat_add_eq UInt16.toNat_zero hhdrLen (by omega), Nat.zero_add]
  obtain ⟨pk2, h2, hl2⟩ := @bufWrite_ok pk1 hash (outer + espHdrLength) (by omega)
  have hin : (UInt16.ofNat ctx.packet.length - UInt16.ofNat ip6HdrLength).toNat =
      ctx.packet.length - ip6HdrLength := by
    rw [uint16_toNat_sub, uint16_toNat_ofNat, uint16_toNat_ofNat]
    unfold espPaddedLength ip6HdrLength at *
    omega
  have hinBuf : (UInt16.ofNat ctx.packet.length - UInt16.ofNat ip6HdrLength).toNat ≤
      (ctx.packet.drop ip6HdrLength).length := by
    rw [hin, List.length_drop]
  have hroom' : entry.espDataOffset.toNat + cipher.ivLen + espPaddedLength cipher.ivLen
      (UInt16.ofNat ctx.packet.length - UInt16.ofNat ip6HdrLength).toNat + 20 ≤
        (pk2.drop outer).length := by
    rw [hin, List.length_drop]
    omega
  have hfit' : entry.espDataOffset.toNat + cipher.ivLen + espPaddedLength cipher.ivLen
      (UInt16.ofNat ctx.packet.length - UInt16.ofNat ip6HdrLength).toNat < 2 ^ 16 := by
    rw [hin]
    omega
  have h6 : 6 < ctx.packet.length := by unfold ip6HdrLength at hpkt; omega
  obtain ⟨out, encLen, henc', hlo⟩ := @payloadEncrypt_ok c rand entry.toHipSaEntry cipher hmac
    hcipher hcbc (ctx.packet.drop ip6HdrLength) (pk2.drop outer) ctx.packet[6]
    (UInt16.ofNat ctx.packet.length - UInt16.ofNat ip6HdrLength) 0 key hkey henc hinBuf hroom'
    hfit'
  have hroom3 : outer ≤ (pk2.take outer ++ out).length := by
    simp only [List.length_append, List.length_take]
    omega
  obtain ⟨pk3, h3⟩ := addOuterHeaders_ok hdrs (in6IsAddrV4Mapped peer) entry.encapMode
    (0 + UInt16.ofNat (outer + espHdrLength) + UInt16.ofNat hash.length + encLen) hroom3
  refine ⟨pk3, ?_⟩
  simp only [hipBeetModeOutput, h1, ok_bind, hh, hlen1, h2, bufByte_ok h6, henc', ne_eq,
    not_true_eq_false, if_false, h3, hcache, if_true]
  exact ⟨_, rfl⟩

/-- The round trip of a CBC suite with SHA-1, AES-SHA1 and 3DES-SHA1: once
`hip_beet_mode_output` has sent a packet with 0, `hip_beet_mode_input` under an SA with the same
suite, keys and data offset, with room for the rebuilt packet, returns 0 with the transport
payload `P` in front of its padding, the packet's next header, and the length `40 + |P|`. -/
theorem hipBeetMode_roundTrip {espPacket espPacket' : Bytes} {len : UInt16}
    {entry' : HipSaOutEntry}
    (h : hipBeetModeOutput c hdrs prot rand ctx entry peer espPacket 0 =
      .ok (0, espPacket', len, entry'))
    (capacity : Nat)
    (hcap : ip6HdrLength + espPaddedLength cipher.ivLen (ctx.packet.length - ip6HdrLength) ≤
      capacity) :
    ∃ nxt, ctx.packet[6]? = some nxt ∧
      hipBeetModeInput c.toEspCrypto entry.toHipSaEntry
          (beetReceived (in6IsAddrV4Mapped peer) entry.encapMode (espPacket'.take len.toNat))
          capacity 0 =
        .ok (0, UInt16.ofNat (ip6HdrLength + (ctx.packet.drop ip6HdrLength).length),
          some ⟨espPadded (ctx.packet.drop ip6HdrLength)
            (espPadLength cipher.ivLen (ctx.packet.length - ip6HdrLength)) nxt, nxt,
            UInt16.ofNat (ctx.packet.drop ip6HdrLength).length⟩) := by
  obtain ⟨key, hash, nxt, hdr, hkey, henc, hh, hnxt, hhdr, hsent⟩ :=
    hipBeetModeOutput_cbcSha1 hmac hcipher hcbc hoff hpkt hfit h
  refine ⟨nxt, hnxt, ?_⟩
  have hoff' := hoff hash hh
  set P := ctx.packet.drop ip6HdrLength
  have hP : P.length = ctx.packet.length - ip6HdrLength := List.length_drop _ _
  set plain := espPadded P (espPadLength cipher.ivLen (ctx.packet.length - ip6HdrLength)) nxt
  have hplain : plain.length = espPaddedLength cipher.ivLen (ctx.packet.length - ip6HdrLength) := by
    rw [length_espPadded, hP]
    rfl
  set E := beetEspPacket c cipher (entry.encKey.getD []) key
    (beBytes 4 entry.spi.toNat ++ beBytes 4 entry.sequence.toNat ++ hash)
    ((List.range cipher.ivLen).map rand) plain
  have hpre : (beBytes 4 entry.spi.toNat ++ beBytes 4 entry.sequence.toNat ++ hash).length =
      entry.espDataOffset.toNat := by
    simp only [List.length_append, length_beBytes, ← hoff', espHdrLength]
  have hElen : E.length = entry.espDataOffset.toNat + cipher.ivLen + plain.length + icvLength := by
    rw [length_beetEspPacket, hpre, List.length_map, List.length_range]
  have hEfit : (beBytes 4 entry.spi.toNat ++ beBytes 4 entry.sequence.toNat ++ hash).length +
      ((List.range cipher.ivLen).map rand).length + plain.length + icvLength < 2 ^ 16 := by
    simp only [List.length_map, List.length_range, hpre, hplain]
    omega
  have hcap' : plain.length ≤ capacity - ip6HdrLength := by omega
  unfold hipBeetModeInput
  rw [hsent, beetReceived_packet, outerLength_beetReceived, ← hhdr, List.drop_left,
    espLen_beetReceived hhdr, payloadDecrypt_beetEspPacket hmac hcipher hcbc hkey henc hpre
      (by simp) (espPadLength_lt _ _ cipher.ivLen_le) hEfit hcap']
  have hout : 0 + UInt16.ofNat ip6HdrLength + UInt16.ofNat P.length =
      UInt16.ofNat (ip6HdrLength + P.length) := by
    apply UInt16.toNat.inj
    simp only [uint16_toNat_add, uint16_toNat_ofNat, UInt16.toNat_zero]
    omega
  simp only [ok_bind, if_neg (show ¬capacity < ip6HdrLength by omega), hout]
  rfl

end Output

/-! ### A packet through a CBC suite -/

/-- A HIT-addressed TCP packet with the three payload bytes `11 22 33`. -/
def tcpPacket : HipFwContext :=
  ⟨6, false, [0x60, 0, 0, 0, 0, 3, 6, 64] ++ [0x20, 0x01, 0x00, 0x10] ++ List.replicate 11 0 ++ [1] ++
    [0x20, 0x01, 0x00, 0x10] ++ List.replicate 11 0 ++ [2] ++ [0x11, 0x22, 0x33]⟩

/-- A global IPv6 peer address. -/
def ipv6Peer : Hit := 0x20010db8000000000000000000000001

/-- A CBC stand-in for tests: the ciphers leave the data as it is, and the MACs are zeros. -/
def plainCbc : EspCbc :=
  ⟨⟨fun _ _ ↦ List.replicate 16 0, fun _ _ ↦ List.replicate 20 0, fun _ _ _ data ↦ data,
    fun _ _ ↦ List.length_replicate _ _, fun _ _ ↦ List.length_replicate _ _, fun _ _ _ _ ↦ rfl⟩,
    fun _ _ _ data ↦ data, fun _ _ _ _ ↦ rfl, fun _ _ _ _ ↦ rfl⟩

/-- Outer headers of zeros, for tests. -/
def zeroHeaders : OuterHeaders :=
  ⟨fun _ _ ↦ List.replicate ipHdrLength 0, fun _ ↦ List.replicate udpHdrLength 0,
    fun _ _ ↦ List.replicate ip6HdrLength 0, fun _ _ ↦ List.length_replicate _ _,
    fun _ ↦ List.length_replicate _ _, fun _ _ ↦ List.length_replicate _ _⟩

set_option maxRecDepth 10000 in
/-- The TCP packet on an AES-SHA1 SA through a zeroed buffer of 100 bytes comes back, next
header 6, through `hip_beet_mode_input` with room for 100 bytes. -/
theorem aesTcpPacket_roundTrip : ∃ espPacket' len entry',
    hipBeetModeOutput plainCbc zeroHeaders ⟨some [], true⟩ (fun _ ↦ 0) tcpPacket
        ⟨⟨hipEspAesSha1, some [1], some [2], 8⟩, 7, 0, 0⟩ ipv6Peer (List.replicate 100 0) 0 =
      .ok (0, espPacket', len, entry') ∧
    ∃ nxt, tcpPacket.packet[6]? = some nxt ∧
      hipBeetModeInput plainCbc.toEspCrypto ⟨hipEspAesSha1, some [1], some [2], 8⟩
          (beetReceived (in6IsAddrV4Mapped ipv6Peer) 0 (espPacket'.take len.toNat)) 100 0 =
        .ok (0, UInt16.ofNat (ip6HdrLength + (tcpPacket.packet.drop ip6HdrLength).length),
          some ⟨espPadded (tcpPacket.packet.drop ip6HdrLength)
            (espPadLength EspCipher.aes.ivLen (tcpPacket.packet.length - ip6HdrLength)) nxt, nxt,
            UInt16.ofNat (tcpPacket.packet.drop ip6HdrLength).length⟩) :=
  have hout : ∃ espPacket' len entry',
      hipBeetModeOutput plainCbc zeroHeaders ⟨some [], true⟩ (fun _ ↦ 0) tcpPacket
          ⟨⟨hipEspAesSha1, some [1], some [2], 8⟩, 7, 0, 0⟩ ipv6Peer (List.replicate 100 0) 0 =
        .ok (0, espPacket', len, entry') := ⟨_, _, _, rfl⟩
  let ⟨_, _, _, h⟩ := hout
  ⟨_, _, _, h, @hipBeetMode_roundTrip plainCbc zeroHeaders ⟨some [], true⟩ (fun _ ↦ 0) tcpPacket
    ⟨⟨hipEspAesSha1, some [1], some [2], 8⟩, 7, 0, 0⟩ ipv6Peer .aes rfl rfl (by decide)
    (fun _ h ↦ by cases h; rfl) (by decide) (by decide) _ _ _ _ h 100 (by decide)⟩

/-! ### The NULL suites -/

/-- An outbound NULL-SHA1 SA without a token: the data offset is the ESP header. -/
def nullSha1Entry : HipSaOutEntry := ⟨⟨hipEspNullSha1, some [1], none, 8⟩, 7, 1, 0⟩

/-- What the HMAC of the NULL branch covers: the padded payload, written over the ESP header,
and the eight bytes the buffer held behind the header. -/
def nullAuthenticated : Bytes := [0x11, 0x22, 0x33, 1, 2, 3, 3, 6] ++ List.replicate 8 0

/-- The TCP packet under NULL-SHA1, through a zeroed buffer: `hip_beet_mode_output` returns 0
with the padded payload over the ESP header, and `hip_beet_mode_input` under the same SA returns
0 with the eight zero bytes behind the header as the plaintext, next header 0 and length 46,
where the packet had the payload `11 22 33`, next header 6 and length 43. -/
theorem nullSuite_roundTripBroken (c : EspCbc) (hdrs : OuterHeaders) (rand : Nat → UInt8) :
    hipBeetModeOutput c hdrs ⟨some [], true⟩ rand tcpPacket nullSha1Entry ipv6Peer
        (List.replicate 76 0) 0 =
      .ok (0, hdrs.ipv6 68 ipprotoEsp ++ nullAuthenticated ++ c.hmacSha1 [1] nullAuthenticated, 68,
        { nullSha1Entry with sequence := 2 }) ∧
    hipBeetModeInput c.toEspCrypto nullSha1Entry.toHipSaEntry (beetReceived false 0
        ((hdrs.ipv6 68 ipprotoEsp ++ nullAuthenticated ++ c.hmacSha1 [1] nullAuthenticated).take 68))
        76 0 =
      .ok (0, 46, some ⟨List.replicate 8 0, 0, 6⟩) := by
  have hH := c.length_hmacSha1
  have h6 := hdrs.length_ipv6
  refine ⟨?_, ?_⟩
  · simp [UInt16.size, hipBeetModeOutput, payloadEncrypt, bufWrite, bufRead, bufByte, tcpPacket,
      nullSha1Entry, ipv6Peer, in6IsAddrV4Mapped, beetOuterLength, espCipherOf, espDecryptMacOf,
      addOuterHeaders, hH, h6, ip6HdrLength, espHdrLength, hipEspNullSha1, hipEsp3desSha1,
      hipEsp3desMd5, hipEspBlowfishSha1, hipEspAesSha1, hipEspNullMd5, EspCipher.needsKey,
      EspCipher.ivLen, espPadLength, espPadded, espTailLength, icvLength, EspMac.hmac, beBytes,
      nullAuthenticated, List.range_succ]
  · have hsent : (hdrs.ipv6 68 ipprotoEsp ++ nullAuthenticated ++
        c.hmacSha1 [1] nullAuthenticated).take 68 = hdrs.ipv6 68 ipprotoEsp ++
          (nullAuthenticated ++ (c.hmacSha1 [1] nullAuthenticated).take icvLength) := by
      simp [List.take_append_eq_append_take, h6, nullAuthenticated, ip6HdrLength, icvLength]
    have hhdr : (hdrs.ipv6 68 ipprotoEsp).length = beetOuterLength false 0 := h6 _ _
    have hicv : ((c.hmacSha1 [1] nullAuthenticated).take icvLength).length = icvLength := by
      simp [hH, icvLength]
    unfold hipBeetModeInput
    rw [hsent, beetReceived_packet, outerLength_beetReceived, ← hhdr, List.drop_left,
      espLen_beetReceived hhdr, List.length_append, hicv,
      @payloadDecrypt_nullSha1 c.toEspCrypto nullSha1Entry.toHipSaEntry [1] nullAuthenticated
        (76 - ip6HdrLength) rfl rfl rfl (by decide) (by decide) (by decide)]
    rfl

end Hipl.Hipfw
