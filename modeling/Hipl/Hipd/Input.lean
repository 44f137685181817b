import Hipl.Hipd.Keymat

/-!
# Two checks of input.c

`check_dh_downgrade_v2` is the HIPv2 guard against a downgraded Diffie-Hellman group, run by
`hip_check_r1` on the R1's DH_GROUP_LIST and the group of its DIFFIE_HELLMAN. Its nested loop
runs over the local list `HIP_DH_GROUP_LIST` outside and the received list inside, so the first
local group that the peer lists decides, and the check passes when that is the peer's group
(`checkDhDowngradeV2_eq`): the local order wins, not the peer's.

`hip_verify_packet_hmac_general` verifies the HMAC of a received message over the bytes in front
of the HMAC parameter. It zeroes the checksum and shortens the length to those bytes, verifies,
and only then puts both back. Without the parameter the message comes back as it came; after a
successful verification it has its length back but, the saved checksum being a `uint8_t`, only
the low byte of its checksum (`hipVerifyPacketHmacGeneral_frame`); a failed verification returns
-1 before the restore and leaves the message with the HMAC's offset as its length and a zero
checksum (`failedHmac_truncatesMessage`).

Scope. The received list is taken as `hip_get_list_from_param` returns it. builder.c is not among
the sources: the length and checksum of a message are the header fields `payload_len` and
`checksum`, read and written as its accessors do, a parameter takes its 4-byte header and its
contents padded to 8 bytes, and `hip_write_hmac` is a parameter, the HMAC-SHA1 of the first bytes
of the message as it stands.
-/

set_option autoImplicit false
set_option relaxedAutoImplicit false

namespace Hipl.Hipd

open Hipl.Wire

/-! ### The DH group downgrade check -/

/-- Modelled from the spec: `HIP_DH_OAKLEY_5`, the 1536-bit MODP group (protodefs.h is not among
the sources). -/
def hipDhOakley5 : UInt8 := 3
/-- Modelled from the spec: `HIP_DH_OAKLEY_15`, the 3072-bit MODP group. -/
def hipDhOakley15 : UInt8 := 4
/-- Modelled from the spec: `HIP_DH_NIST_P_384`. -/
def hipDhNistP384 : UInt8 := 8

/-- `HIP_DH_GROUP_LIST`: the local groups, the preferred first. -/
def hipDhGroupList : List UInt8 := [hipDhNistP384, hipDhOakley15, hipDhOakley5]

/-- The nested loop of `check_dh_downgrade_v2` from the local group `groups.head` on: the inner
loop finds the received entry equal to the local group, and that entry decides, 0 when it is the
peer's group and -1 otherwise; -1 after the last local group. -/
def dhDowngradeLoop (peerGroup : UInt8) (list : List UInt8) : List UInt8 → Int
  | [] => -1
  | g :: groups =>
    match list.find? (· == g) with
    | some x => if x = peerGroup then 0 else -1
    | none => dhDowngradeLoop peerGroup list groups

/-- `check_dh_downgrade_v2(peer_group, peer_param)`, for the list `hip_get_list_from_param`
returns. -/
def checkDhDowngradeV2 (peerGroup : UInt8) (list : List UInt8) : Int :=
  dhDowngradeLoop peerGroup list hipDhGroupList

theorem dhDowngradeLoop_eq (peerGroup : UInt8) (list : List UInt8) :
    ∀ groups, dhDowngradeLoop peerGroup list groups =
      if groups.find? (· ∈ list) = some peerGroup then 0 else -1
  | [] => rfl
  | g :: groups => by
    unfold dhDowngradeLoop
    cases hfind : list.find? (· == g) with
    | some x =>
      have hxg : x = g := eq_of_beq (@List.find?_some _ (· == g) x list hfind)
      have hg : g ∈ list := hxg ▸ List.mem_of_find?_eq_some hfind
      simp [hxg, hg]
    | none =>
      have hg : g ∉ list := fun hg ↦ by simpa using List.find?_eq_none.mp hfind g hg
      simp [hg, dhDowngradeLoop_eq peerGroup list groups]

/-- The check passes exactly when the peer's group is the first group of `HIP_DH_GROUP_LIST`, in
that list's order, that the received list contains; it fails with -1 otherwise, also when the
lists share no group. -/
theorem checkDhDowngradeV2_eq (peerGroup : UInt8) (list : List UInt8) :
    checkDhDowngradeV2 peerGroup list =
      if hipDhGroupList.find? (· ∈ list) = some peerGroup then 0 else -1 :=
  dhDowngradeLoop_eq peerGroup list hipDhGroupList

/-- The local order wins: a peer listing OAKLEY 5 before OAKLEY 15 and choosing OAKLEY 5 is
taken for a downgrade. -/
example : checkDhDowngradeV2 hipDhOakley5 [hipDhOakley5, hipDhOakley15] = -1 := by decide

/-! ### Verifying the HMAC of a message -/

/-- A received HIP message with the two header fields `hip_verify_packet_hmac_general` writes:
`payload_len`, the length in 8-byte units after the first 8 bytes, and the checksum. -/
structure HipPacket where
  msg : HipCommon
  payloadLen : UInt8
  checksum : UInt16
  deriving DecidableEq, Repr

/-- Modelled from the spec: `hip_get_msg_total_len(msg)` (builder.c, not among the sources), the
length in bytes. -/
def HipPacket.totalLen (pkt : HipPacket) : Nat :=
  (pkt.payloadLen.toNat + 1) * 8

/-- Modelled from the spec: `hip_set_msg_total_len(msg, len)`. -/
def HipPacket.setTotalLen (pkt : HipPacket) (len : Nat) : HipPacket :=
  { pkt with payloadLen := UInt8.ofNat (len / 8 - 1) }

/-- `sizeof(struct hip_common)`, the fixed header in front of the parameters. -/
def hipCommonLength : Nat := 40

/-- Modelled from the spec: the bytes a parameter takes, its type and length and its contents
padded to a multiple of 8. -/
def hipTlvWireLength (tlv : HipTlv) : Nat :=
  (4 + tlv.contents.length + 7) / 8 * 8

/-- `(const uint8_t *) hmac - (const uint8_t *) msg` for the parameter `i`. -/
def hipParamOffset (msg : HipCommon) (i : Nat) : Nat :=
  hipCommonLength + ((msg.params.take i).map hipTlvWireLength).sum

/-- `verify_hmac(buffer, buf_len, hmac, hmac_key, HIP_DIGEST_SHA1_HMAC)`, with `writeHmac` for
`hip_write_hmac`: 0 when the HMAC of the first `buf_len` bytes matches the `HIP_AH_SHA_LEN`
bytes of the parameter `p`, `-EINVAL` (-22) otherwise and when no HMAC can be built. -/
def verifyHmac (writeHmac : Bytes → HipPacket → Nat → Option Bytes) (buffer : HipPacket)
    (bufLen : Nat) (p : ParamPtr) (key : Bytes) : Except Fault Int :=
  match writeHmac key buffer bufLen with
  | none => pure (-22)
  | some hmacRes => do
    let hmac ← paramBytes buffer.msg p 0 hipAhShaLen
    pure (if hmacRes.take hipAhShaLen = hmac then 0 else -22)

/-- The message `hip_verify_packet_hmac_general` verifies: checksum zeroed, length cut to the
offset of the HMAC parameter `i`. -/
def HipPacket.hmacView (pkt : HipPacket) (i : Nat) : HipPacket :=
  { pkt with checksum := 0 }.setTotalLen (hipParamOffset pkt.msg i)

/-- `hip_verify_packet_hmac_general(msg, crypto_key, parameter_type)`: the return value and the
message afterwards; `-ENOMSG` (-42) without the parameter. `orig_checksum` is a `uint8_t`. -/
def hipVerifyPacketHmacGeneral (writeHmac : Bytes → HipPacket → Nat → Option Bytes)
    (msg : HipPacket) (key : Bytes) (parameterType : HipParamType) :
    Except Fault (Int × HipPacket) :=
  match hipGetParam msg.msg parameterType with
  | none => pure (-42, msg)
  | some i => do
    let origLen := msg.totalLen
    let origChecksum : UInt8 := msg.checksum.toUInt8
    let msg' := msg.hmacView i
    if (← verifyHmac writeHmac msg' msg'.totalLen (some i) key) ≠ 0 then pure (-1, msg')
    else pure (0, { msg'.setTotalLen origLen with checksum := origChecksum.toUInt16 })

theorem setTotalLen_totalLen (pkt : HipPacket) : pkt.setTotalLen pkt.totalLen = pkt := by
  have h : (pkt.payloadLen.toNat + 1) * 8 / 8 - 1 = pkt.payloadLen.toNat := by omega
  simp only [HipPacket.setTotalLen, HipPacket.totalLen, h, uint8_ofNat_toNat]

/-- The length `hip_set_msg_total_len` writes reads back when it is a multiple of 8 within the
field's range. -/
theorem totalLen_setTotalLen (pkt : HipPacket) {len : Nat} (h8 : len % 8 = 0) (hpos : 8 ≤ len)
    (hlt : len ≤ 2048) : (pkt.setTotalLen len).totalLen = len := by
  simp only [HipPacket.setTotalLen, HipPacket.totalLen,
    UInt8.toNat_ofNat_of_lt (show len / 8 - 1 < UInt8.size by unfold UInt8.size; omega)]
  omega

/-- Every parameter starts at a multiple of 8 bytes. -/
theorem hipParamOffset_mod (msg : HipCommon) (i : Nat) : hipParamOffset msg i % 8 = 0 := by
  suffices h : ∀ l : List HipTlv, (l.map hipTlvWireLength).sum % 8 = 0 by
    have := h (msg.params.take i)
    unfold hipParamOffset hipCommonLength
    omega
  intro l
  induction l with
  | nil => rfl
  | cons t l ih => simp only [List.map_cons, List.sum_cons, hipTlvWireLength]; omega

/-- What a verification returns: -42 and the message as it came without the parameter; 0 and the
message with its length back and its checksum cut to the low byte after a success; or -1 and the
message shortened to the HMAC parameter with its checksum zeroed. -/
theorem hipVerifyPacketHmacGeneral_frame {writeHmac : Bytes → HipPacket → Nat → Option Bytes}
    {msg msg' : HipPacket} {key : Bytes} {type : HipParamType} {r : Int}
    (h : hipVerifyPacketHmacGeneral writeHmac msg key type = .ok (r, msg')) :
    (hipGetParam msg.msg type = none ∧ r = -42 ∧ msg' = msg) ∨
      ∃ i, hipGetParam msg.msg type = some i ∧
        (r = 0 ∧ msg' = { msg with checksum := msg.checksum.toUInt8.toUInt16 } ∨
          r = -1 ∧ msg' = msg.hmacView i) := by
  unfold hipVerifyPacketHmacGeneral at h
  cases hp : hipGetParam msg.msg type with
  | none =>
    simp only [hp, pure_eq_ok, Except.ok.injEq, Prod.mk.injEq] at h
    exact .inl ⟨rfl, h.1.symm, h.2.symm⟩
  | some i =>
  simp only [hp, bind_eq_ok] at h
  obtain ⟨v, -, h⟩ := h
  refine .inr ⟨i, rfl, ?_⟩
  by_cases hv : v = 0
  · simp only [hv, ne_eq, not_true_eq_false, if_false, pure_eq_ok, Except.ok.injEq,
      Prod.mk.injEq] at h
    refine .inl ⟨h.1.symm, ?_⟩
    rw [← h.2]
    have hlen := congrArg HipPacket.payloadLen (setTotalLen_totalLen msg)
    simp only [HipPacket.hmacView, HipPacket.setTotalLen] at hlen ⊢
    rw [hlen]
  · simp only [hv, ne_eq, not_false_eq_true, if_true, pure_eq_ok, Except.ok.injEq,
      Prod.mk.injEq] at h
    exact .inr ⟨h.1.symm, h.2.symm⟩

/-- A message whose HMAC does not verify comes back with -1, its length cut to the offset of the
HMAC parameter and its checksum zeroed. -/
theorem failedHmac_truncatesMessage (writeHmac : Bytes → HipPacket → Nat → Option Bytes)
    (msg : HipPacket) (key : Bytes) (type : HipParamType) {i : Nat}
    (hp : hipGetParam msg.msg type = some i) (hin : hipParamOffset msg.msg i < msg.totalLen)
    (hfail : verifyHmac writeHmac (msg.hmacView i) (msg.hmacView i).totalLen (some i) key =
      .ok (-22)) :
    hipVerifyPacketHmacGeneral writeHmac msg key type = .ok (-1, msg.hmacView i) ∧
      (msg.hmacView i).totalLen = hipParamOffset msg.msg i ∧ (msg.hmacView i).checksum = 0 := by
  have hfield := msg.payloadLen.toNat_lt_size
  have hlen : (msg.hmacView i).totalLen = hipParamOffset msg.msg i := by
    refine totalLen_setTotalLen _ (hipParamOffset_mod msg.msg i) ?_ ?_
    · unfold hipParamOffset hipCommonLength; omega
    · unfold HipPacket.totalLen at hin; unfold UInt8.size at hfield; omega
  refine ⟨?_, hlen, rfl⟩
  simp only [hipVerifyPacketHmacGeneral, hp, hfail, ok_bind]
  rfl

/-- An UPDATE of 64 bytes with checksum `0x1234` whose only parameter is an HMAC of zeros. -/
def hmacFailMsg : HipPacket :=
  ⟨⟨hipUpdate, 2, 0, 1, 2, [⟨.hmac, List.replicate 20 0⟩]⟩, 7, 0x1234⟩

/-- Under an HMAC of ones, the UPDATE of 64 bytes with checksum `0x1234` comes back with -1, 40
bytes long and checksum 0. -/
theorem failedHmac_truncatesMessage_update :
    hmacFailMsg.totalLen = 64 ∧ hmacFailMsg.checksum = 0x1234 ∧
      hipGetParam hmacFailMsg.msg .hmac = some 0 ∧ hipParamOffset hmacFailMsg.msg 0 < 64 ∧
      verifyHmac (fun _ _ _ ↦ some (List.replicate 20 1)) (hmacFailMsg.hmacView 0)
        (hmacFailMsg.hmacView 0).totalLen (some 0) [] = .ok (-22) ∧
      hipVerifyPacketHmacGeneral (fun _ _ _ ↦ some (List.replicate 20 1)) hmacFailMsg [] .hmac =
        .ok (-1, hmacFailMsg.hmacView 0) ∧
      (hmacFailMsg.hmacView 0).totalLen = 40 ∧ (hmacFailMsg.hmacView 0).checksum = 0 :=
  have hp : hipGetParam hmacFailMsg.msg .hmac = some 0 := rfl
  have hin : hipParamOffset hmacFailMsg.msg 0 < 64 := by decide
  have hfail : verifyHmac (fun _ _ _ ↦ some (List.replicate 20 1)) (hmacFailMsg.hmacView 0)
      (hmacFailMsg.hmacView 0).totalLen (some 0) [] = .ok (-22) := rfl
  have h := failedHmac_truncatesMessage _ hmacFailMsg [] .hmac hp hin hfail
  ⟨rfl, rfl, hp, hin, hfail, h.1, h.2.1, h.2.2⟩

/-- Verified under an HMAC of zeros, the same UPDATE comes back 64 bytes long with checksum
`0x34`. -/
example : hipVerifyPacketHmacGeneral (fun _ _ _ ↦ some (List.replicate 20 0)) hmacFailMsg [] .hmac =
    .ok (0, { hmacFailMsg with checksum := 0x34 }) := rfl

end Hipl.Hipd
