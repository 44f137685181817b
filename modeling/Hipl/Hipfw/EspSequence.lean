import Hipl.Hipfw.BeetModeOutput

/-!
# The ESP sequence numbers of one outbound SA

`hip_beet_mode_output` writes `htonl(entry->sequence++)` into the ESP header of every packet it
builds, in the IPv4 and in the IPv6 branch, and the entry lives on in the SADB from one packet to
the next. `beetModeOutputRun` runs the calls on one SA in order.

Whatever the suite and whatever each call returns, a call that does not fault advances the
counter by one (`hipBeetModeOutput_entry`), so after `n` calls it has moved by `n` modulo 2^32
(`beetModeOutputRun_entry`). Under a CBC suite with SHA-1, packet `i` of a run in which every
call can send carries the sequence number `s + i` modulo 2^32 in its ESP header
(`beetModeOutputRun_sequenceFields`). The counter is a `uint32_t` and nothing checks it: after
2^32 packets it is back at its first value, and packet 2^32 carries the sequence number of
packet 0 (`espSequence_wraps`).

Scope. A call gets `*esp_packet_len` 0, as `hip_fw_userspace_ipsec_output` passes it; what
varies from call to call is gathered in `BeetOutputCall`.
-/

set_option autoImplicit false
set_option relaxedAutoImplicit false

namespace Hipl.Hipfw

open Hipl.Wire Hipl.Hipd

/-- What one call of `hip_beet_mode_output` on an SA reads besides the entry: the answers of the
ESP protection extension, the IV bytes `RAND_bytes` draws, the packet to send, the peer address
and the output buffer. -/
structure BeetOutputCall where
  prot : EspProtOutput
  rand : Nat → UInt8
  ctx : HipFwContext
  peer : Hit
  espPacket : Bytes

/-- The calls of `hip_beet_mode_output` on one SA entry, one after the other: the return value,
the buffer and the length of each, and the entry after the last. A fault ends the run. -/
def beetModeOutputRun (c : EspCbc) (hdrs : OuterHeaders) (entry : HipSaOutEntry) :
    List BeetOutputCall → Except Fault (List (Int × Bytes × UInt16) × HipSaOutEntry)
  | [] => pure ([], entry)
  | k :: ks => do
    let (err, espPacket, len, entry) ←
      hipBeetModeOutput c hdrs k.prot k.rand k.ctx entry k.peer k.espPacket 0
    let (sent, entry) ← beetModeOutputRun c hdrs entry ks
    pure ((err, espPacket, len) :: sent, entry)

/-- The sequence number field of a packet sent to `peer` on an SA in encapsulation mode
`encapMode`: the four bytes behind the SPI, behind the outer headers. -/
def espSequenceField (encapMode : UInt8) (peer : Hit) (packet : Bytes) : Bytes :=
  ((packet.drop (beetOuterLength (in6IsAddrV4Mapped peer) encapMode)).drop 4).take 4

/-- The bytes a call's result sends: the first `*esp_packet_len` bytes of the buffer. -/
def sentBytes (r : Int × Bytes × UInt16) : Bytes :=
  r.2.1.take r.2.2.toNat

/-! ### The counter -/

theorem uint32_toNat_add (a b : UInt32) : (a + b).toNat = (a.toNat + b.toNat) % 2 ^ 32 :=
  BitVec.toNat_add _ _

theorem uint32_toNat_ofNat (n : Nat) : (UInt32.ofNat n).toNat = n % 2 ^ 32 :=
  BitVec.toNat_ofNat _ _

theorem uint32_add_ofNat_zero (a : UInt32) : a + UInt32.ofNat 0 = a := by
  apply UInt32.toNat.inj
  have ha : a.toNat < 2 ^ 32 := a.toNat_lt_size
  rw [uint32_toNat_add, uint32_toNat_ofNat]
  omega

theorem uint32_add_one_add_ofNat (a : UInt32) (n : Nat) :
    a + 1 + UInt32.ofNat n = a + UInt32.ofNat (n + 1) := by
  apply UInt32.toNat.inj
  rw [uint32_toNat_add, uint32_toNat_add, uint32_toNat_add, uint32_toNat_ofNat, uint32_toNat_ofNat,
    show (1 : UInt32).toNat = 1 from rfl]
  omega

/-- A call that does not fault returns the entry with the counter advanced by one, on every
path and under every suite. -/
theorem hipBeetModeOutput_entry {c : EspCbc} {hdrs : OuterHeaders} {prot : EspProtOutput}
    {rand : Nat → UInt8} {ctx : HipFwContext} {entry entry' : HipSaOutEntry} {peer : Hit}
    {espPacket espPacket' : Bytes} {espPacketLen len : UInt16} {r : Int}
    (h : hipBeetModeOutput c hdrs prot rand ctx entry peer espPacket espPacketLen =
      .ok (r, espPacket', len, entry')) :
    entry' = { entry with sequence := entry.sequence + 1 } := by
  simp only [hipBeetModeOutput, bind_eq_ok] at h
  obtain ⟨pk1, -, h⟩ := h
  cases hh : prot.addHash with
  | none =>
    simp only [hh, pure_eq_ok, Except.ok.injEq, Prod.mk.injEq] at h
    exact h.2.2.2.symm
  | some hash =>
    simp only [hh, bind_eq_ok] at h
    obtain ⟨pk2, -, nxt, -, ⟨err, out, encLen⟩, -, h⟩ := h
    by_cases herr : err = 0
    · simp only [herr, ne_eq, not_true_eq_false, if_false, bind_eq_ok, pure_eq_ok,
        Except.ok.injEq, Prod.mk.injEq] at h
      obtain ⟨-, -, -, -, -, he⟩ := h
      exact he.symm
    · simp only [if_pos herr, pure_eq_ok, Except.ok.injEq, Prod.mk.injEq] at h
      exact h.2.2.2.symm

/-- Over every run that does not fault, each call returns a result and the counter has moved by
the number of calls, modulo 2^32. -/
theorem beetModeOutputRun_entry {c : EspCbc} {hdrs : OuterHeaders} :
    ∀ (ks : List BeetOutputCall) {entry entry' : HipSaOutEntry}
      {sent : List (Int × Bytes × UInt16)},
      beetModeOutputRun c hdrs entry ks = .ok (sent, entry') →
        sent.length = ks.length ∧
          entry' = { entry with sequence := entry.sequence + UInt32.ofNat ks.length }
  | [], entry, entry', sent, h => by
    simp only [beetModeOutputRun, pure_eq_ok, Except.ok.injEq, Prod.mk.injEq] at h
    obtain ⟨rfl, rfl⟩ := h
    exact ⟨rfl, by rw [List.length_nil, uint32_add_ofNat_zero]⟩
  | k :: ks, entry, entry', sent, h => by
    simp only [beetModeOutputRun, bind_eq_ok] at h
    obtain ⟨⟨r, pkt, len, e1⟩, h1, ⟨rest, e2⟩, h2, h⟩ := h
    simp only [pure_eq_ok, Except.ok.injEq, Prod.mk.injEq] at h
    obtain ⟨rfl, rfl⟩ := h
    obtain rfl := hipBeetModeOutput_entry h1
    obtain ⟨hl, rfl⟩ := beetModeOutputRun_entry ks h2
    exact ⟨by rw [List.length_cons, List.length_cons, hl], by
      rw [List.length_cons, ← uint32_add_one_add_ofNat]⟩

/-- The sequence numbers of `n` packets from `s` on are pairwise distinct while `n ≤ 2^32`. -/
theorem beBytes_sequence_ne (s : UInt32) {i j : Nat} (hij : i < j) (hj : j < 2 ^ 32) :
    beBytes 4 (s + UInt32.ofNat i).toNat ≠ beBytes 4 (s + UInt32.ofNat j).toNat := by
  intro h
  have h' := congrArg beNat h
  rw [beNat_beBytes, beNat_beBytes, uint32_toNat_add, uint32_toNat_add, uint32_toNat_ofNat,
    uint32_toNat_ofNat] at h'
  omega

/-- Packet `i + 2^32` carries the sequence number of packet `i`. -/
theorem uint32_add_ofNat_add_two_pow (s : UInt32) (i : Nat) :
    s + UInt32.ofNat (i + 2 ^ 32) = s + UInt32.ofNat i := by
  apply UInt32.toNat.inj
  rw [uint32_toNat_add, uint32_toNat_add, uint32_toNat_ofNat, uint32_toNat_ofNat]
  omega

/-! ### The sequence numbers a CBC suite with SHA-1 sends -/

/-- A call on an SA under a CBC suite with SHA-1 that sends its packet with 0: the extension
writes a token that makes up the data offset with the ESP header and caches the packet hash, the
packet holds its IPv6 header, and the whole packet fits in the buffer, with the 20 bytes of the
digest, and in a 16-bit length. -/
structure BeetOutputCall.Sends (entry : HipSaOutEntry) (cipher : EspCipher)
    (k : BeetOutputCall) : Prop where
  token : ∃ hash, k.prot.addHash = some hash ∧
    espHdrLength + hash.length = entry.espDataOffset.toNat
  cache : k.prot.cachePacketHash = true
  packet : ip6HdrLength ≤ k.ctx.packet.length
  fit : beetOuterLength (in6IsAddrV4Mapped k.peer) entry.encapMode + entry.espDataOffset.toNat +
    cipher.ivLen + espPaddedLength cipher.ivLen (k.ctx.packet.length - ip6HdrLength) + icvLength <
      2 ^ 16
  room : beetOuterLength (in6IsAddrV4Mapped k.peer) entry.encapMode + entry.espDataOffset.toNat +
    cipher.ivLen + espPaddedLength cipher.ivLen (k.ctx.packet.length - ip6HdrLength) + 20 ≤
      k.espPacket.length

section CbcSha1

variable {c : EspCbc} {hdrs : OuterHeaders} {entry : HipSaOutEntry} {cipher : EspCipher}
  {key : Bytes}
  (hmac : espDecryptMacOf entry.ealg = some .sha1) (hcipher : espCipherOf entry.ealg = some cipher)
  (hcbc : cipher ≠ .null) (hkey : entry.authKey = some key) (henc : entry.encKey ≠ none)
include hmac hcipher hcbc

/-- The packet a call sends with 0 carries the counter the call found in its ESP header. -/
theorem espSequenceField_sent {prot : EspProtOutput} {rand : Nat → UInt8} {ctx : HipFwContext}
    {peer : Hit} {espPacket espPacket' : Bytes} {len : UInt16} {entry' : HipSaOutEntry}
    (hoff : ∀ hash, prot.addHash = some hash →
      espHdrLength + hash.length = entry.espDataOffset.toNat)
    (hpkt : ip6HdrLength ≤ ctx.packet.length)
    (hfit : beetOuterLength (in6IsAddrV4Mapped peer) entry.encapMode +
      entry.espDataOffset.toNat + cipher.ivLen +
        espPaddedLength cipher.ivLen (ctx.packet.length - ip6HdrLength) + icvLength < 2 ^ 16)
    (h : hipBeetModeOutput c hdrs prot rand ctx entry peer espPacket 0 =
      .ok (0, espPacket', len, entry')) :
    espSequenceField entry.encapMode peer (espPacket'.take len.toNat) =
      beBytes 4 entry.sequence.toNat := by
  obtain ⟨_, _, _, hdr, -, -, -, -, hhdr, hsent⟩ :=
    hipBeetModeOutput_cbcSha1 hmac hcipher hcbc hoff hpkt hfit h
  rw [espSequenceField, hsent, ← hhdr, List.drop_left]
  simp only [beetEspPacket, List.append_assoc]
  rw [List.drop_left' (length_beBytes 4 _), List.take_left' (length_beBytes 4 _)]

include hkey henc

/-- Over every run of calls that can send, from the counter at `s`: every call returns 0, the
counter ends `n` further on, and packet `i` carries the sequence number `s + i` modulo 2^32. -/
theorem beetModeOutputRun_sequenceFields :
    ∀ (ks : List BeetOutputCall) (s : UInt32), (∀ k ∈ ks, k.Sends entry cipher) →
      ∃ sent, beetModeOutputRun c hdrs { entry with sequence := s } ks =
          .ok (sent, { entry with sequence := s + UInt32.ofNat ks.length }) ∧
        ∀ i k r, ks[i]? = some k → sent[i]? = some r →
          r.1 = 0 ∧ espSequenceField entry.encapMode k.peer (sentBytes r) =
            beBytes 4 (s + UInt32.ofNat i).toNat
  | [], s, _ => ⟨[], by rw [List.length_nil, uint32_add_ofNat_zero]; rfl, by simp⟩
  | k :: ks, s, hks => by
    have hk := hks k (List.mem_cons_self k ks)
    obtain ⟨hash, hh, hoff⟩ := hk.token
    have hoff' : ∀ hash', k.prot.addHash = some hash' →
        espHdrLength + hash'.length = entry.espDataOffset.toNat := by
      intro hash' hh'
      rw [hh, Option.some.injEq] at hh'
      exact hh' ▸ hoff
    obtain ⟨pk, len, h1⟩ := @hipBeetModeOutput_ok c hdrs k.prot k.rand k.ctx
      { entry with sequence := s } k.peer cipher hmac hcipher hcbc hoff' hk.packet hk.fit
      k.espPacket hash key hh hk.cache hkey henc hk.room
    obtain ⟨sent, hrun, hsent⟩ := beetModeOutputRun_sequenceFields ks (s + 1)
      fun k' hk' ↦ hks k' (List.mem_cons_of_mem k hk')
    refine ⟨(0, pk, len) :: sent, ?_, ?_⟩
    · simp only [beetModeOutputRun, h1, ok_bind, hrun, List.length_cons,
        uint32_add_one_add_ofNat]
      rfl
    · rintro (_ | i) k' r hk' hr
      · simp only [List.getElem?_cons_zero, Option.some.injEq] at hk' hr
        subst hk' hr
        refine ⟨rfl, ?_⟩
        rw [uint32_add_ofNat_zero]
        exact @espSequenceField_sent c hdrs { entry with sequence := s } cipher hmac hcipher hcbc
          k.prot k.rand k.ctx k.peer k.espPacket pk len _ hoff' hk.packet hk.fit h1
      · simp only [List.getElem?_cons_succ] at hk' hr
        rw [← uint32_add_one_add_ofNat]
        exact hsent i k' r hk' hr

/-- Over every run of at most 2^32 calls that can send, the packets carry pairwise distinct
sequence numbers. -/
theorem beetModeOutputRun_sequenceFields_ne (ks : List BeetOutputCall) (s : UInt32)
    (hks : ∀ k ∈ ks, k.Sends entry cipher) (hlen : ks.length ≤ 2 ^ 32) :
    ∃ sent, beetModeOutputRun c hdrs { entry with sequence := s } ks =
        .ok (sent, { entry with sequence := s + UInt32.ofNat ks.length }) ∧
      ∀ (i j : Nat) (k k' : BeetOutputCall) (p q : Int × Bytes × UInt16), i < j →
        ks[i]? = some k → ks[j]? = some k' → sent[i]? = some p → sent[j]? = some q →
          espSequenceField entry.encapMode k.peer (sentBytes p) ≠
            espSequenceField entry.encapMode k'.peer (sentBytes q) := by
  obtain ⟨sent, hrun, hsent⟩ :=
    beetModeOutputRun_sequenceFields hmac hcipher hcbc hkey henc ks s hks
  refine ⟨sent, hrun, fun i j k k' p q hij hk hk' hp hq ↦ ?_⟩
  have hj : j < ks.length := (List.getElem?_eq_some_iff.mp hk').1
  rw [(hsent i k p hk hp).2, (hsent j k' q hk' hq).2]
  exact beBytes_sequence_ne s hij (by omega)

end CbcSha1

/-! ### The counter wraps -/

/-- An AES-SHA1 SA to an IPv6 peer without a token, its counter at `s`. -/
def aesSha1Entry (s : UInt32) : HipSaOutEntry :=
  ⟨⟨hipEspAesSha1, some [1], some [2], 8⟩, 7, s, 0⟩

/-- The TCP packet sent to `2001:db8::1` through a zeroed buffer of 100 bytes, with no token and
the packet hash cached. -/
def tcpCall : BeetOutputCall :=
  ⟨⟨some [], true⟩, fun _ ↦ 0, tcpPacket, ipv6Peer, List.replicate 100 0⟩

theorem tcpCall_sends (s : UInt32) : tcpCall.Sends (aesSha1Entry s) .aes :=
  ⟨⟨[], rfl, rfl⟩, rfl, by decide, by dsimp only [aesSha1Entry]; decide,
    by dsimp only [aesSha1Entry]; decide⟩

/-- Two TCP packets on an AES-SHA1 SA from the counter 0 carry different sequence numbers. -/
theorem twoTcpCalls_sequenceFields_ne :
    ∃ sent, beetModeOutputRun plainCbc zeroHeaders { aesSha1Entry 0 with sequence := 0 }
        (List.replicate 2 tcpCall) =
        .ok (sent, { aesSha1Entry 0 with sequence := 0 + UInt32.ofNat 2 }) ∧
      ∀ (i j : Nat) (k k' : BeetOutputCall) (p q : Int × Bytes × UInt16), i < j →
        (List.replicate 2 tcpCall)[i]? = some k → (List.replicate 2 tcpCall)[j]? = some k' →
        sent[i]? = some p → sent[j]? = some q →
          espSequenceField 0 k.peer (sentBytes p) ≠ espSequenceField 0 k'.peer (sentBytes q) :=
  @beetModeOutputRun_sequenceFields_ne plainCbc zeroHeaders (aesSha1Entry 0) .aes [1] rfl rfl
    (by decide) rfl (Option.some_ne_none _) (List.replicate 2 tcpCall) 0
    (fun _ hk ↦ List.eq_of_mem_replicate hk ▸ tcpCall_sends 0) (by decide)

/-- 2^32 + 1 packets on one AES-SHA1 SA, from any counter `s`: every call returns 0, the counter
ends at `s + 1`, which packet 1 already carried, and packet 2^32 carries the sequence number `s`
of packet 0. -/
theorem espSequence_wraps (c : EspCbc) (hdrs : OuterHeaders) (s : UInt32) :
    ∃ sent, beetModeOutputRun c hdrs (aesSha1Entry s) (List.replicate (2 ^ 32 + 1) tcpCall) =
        .ok (sent, aesSha1Entry (s + 1)) ∧
      (∀ r ∈ sent, r.1 = 0) ∧
      ∃ p q, sent[0]? = some p ∧ sent[2 ^ 32]? = some q ∧
        espSequenceField 0 ipv6Peer (sentBytes p) = beBytes 4 s.toNat ∧
        espSequenceField 0 ipv6Peer (sentBytes q) = beBytes 4 s.toNat := by
  obtain ⟨sent, hrun, hsent⟩ := @beetModeOutputRun_sequenceFields c hdrs (aesSha1Entry s) .aes
    [1] rfl rfl (by decide) rfl (Option.some_ne_none _) (List.replicate (2 ^ 32 + 1) tcpCall)
    s fun k hk ↦ List.eq_of_mem_replicate hk ▸ tcpCall_sends s
  have hlen : sent.length = 2 ^ 32 + 1 := by
    rw [(beetModeOutputRun_entry _ hrun).1, List.length_replicate]
  have hcall : ∀ i, i < sent.length → (List.replicate (2 ^ 32 + 1) tcpCall)[i]? = some tcpCall :=
    fun i hi ↦ List.getElem?_replicate_of_lt (hlen ▸ hi)
  have hwrap : s + UInt32.ofNat (2 ^ 32 + 1) = s + 1 := by
    rw [Nat.add_comm, uint32_add_ofNat_add_two_pow]
    rfl
  have h0 : 0 < sent.length := by omega
  have h1 : 2 ^ 32 < sent.length := by omega
  refine ⟨sent, ?_, fun r hr ↦ ?_, sent[0], sent[2 ^ 32], List.getElem?_eq_getElem h0,
    List.getElem?_eq_getElem h1, ?_, ?_⟩
  · rw [List.length_replicate, hwrap] at hrun
    exact hrun
  · obtain ⟨i, hi, rfl⟩ := List.getElem_of_mem hr
    exact (hsent i tcpCall _ (hcall i hi) (List.getElem?_eq_getElem hi)).1
  · exact (hsent 0 tcpCall _ (hcall 0 h0) (List.getElem?_eq_getElem h0)).2.trans
      (by rw [uint32_add_ofNat_zero])
  · have hback := uint32_add_ofNat_add_two_pow s 0
    rw [Nat.zero_add, uint32_add_ofNat_zero] at hback
    exact (hsent _ tcpCall _ (hcall _ h1) (List.getElem?_eq_getElem h1)).2.trans (by rw [hback])

end Hipl.Hipfw
