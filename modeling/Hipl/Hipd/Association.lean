import Hipl.Wire.Params

/-!
# Host associations of the base exchange

The part of a host association (`struct hip_hadb_state`, state.h) that the handlers of the base
exchange read and write: the state, the two HITs, the HIP version, the stored puzzle and its
solution, the eight keys drawn from the KEYMAT with the KEYMAT cursor, the SPIs, and the
retransmission slots. The ESP protection part of the same struct is `HipHadbState`; each model
keeps the fields its functions touch.

A handler of input.c takes a packet context (`struct hip_packet_context`) and returns an error
code, changing the context as it goes: `HipPacketContext` holds the received message, the
addresses, the destination port, the host association found for the message and the error
flag the collision rules set.

HITs are ordered as 128-bit numbers: the spec's bytewise order on HITs (§3) is the order of the
numbers they are. `hipHitIsBigger` is that order, and `hipHitIsBigger_trichotomy` says it is a
strict total order.

Scope. protodefs.h, hidb.c and misc.c are not among the sources: the message type numbers are
those of RFC 5201, and what the handlers ask of the host identity database and of the routing
table is a parameter (`HipdEnv`).
-/

set_option autoImplicit false
set_option relaxedAutoImplicit false

namespace Hipl.Hipd

open Hipl.Wire

/-- The states of a host association (`enum hip_state`, §4.F). -/
inductive HipState
  | unassociated | i1Sent | i2Sent | r2Sent | established | closing | closed | failed
  deriving DecidableEq, Repr

/-- `HIP_I1`. -/
def hipI1 : Nat := 1
/-- `HIP_R1`. -/
def hipR1 : Nat := 2
/-- `HIP_I2`. -/
def hipI2 : Nat := 3
/-- `HIP_R2`. -/
def hipR2 : Nat := 4
/-- `HIP_CLOSE`. -/
def hipClose : Nat := 18
/-- `HIP_CLOSE_ACK`. -/
def hipCloseAck : Nat := 19

/-- Modelled from the spec: `hip_hit_is_bigger(hit1, hit2)`, whether `hit1` comes after `hit2`
in the bytewise order of HITs (§3). -/
def hipHitIsBigger (hit1 hit2 : Hit) : Bool :=
  decide (hit2 < hit1)

@[simp] theorem hipHitIsBigger_eq_true {hit1 hit2 : Hit} :
    hipHitIsBigger hit1 hit2 = true ↔ hit2 < hit1 := by
  simp [hipHitIsBigger]

/-- Of two HITs, exactly one of the two is bigger, or they are equal. -/
theorem hipHitIsBigger_trichotomy (hit1 hit2 : Hit) :
    (hipHitIsBigger hit1 hit2 = true ∧ hipHitIsBigger hit2 hit1 = false ∧ hit1 ≠ hit2) ∨
      (hipHitIsBigger hit1 hit2 = false ∧ hipHitIsBigger hit2 hit1 = true ∧ hit1 ≠ hit2) ∨
      (hipHitIsBigger hit1 hit2 = false ∧ hipHitIsBigger hit2 hit1 = false ∧ hit1 = hit2) := by
  rcases Nat.lt_trichotomy hit1 hit2 with h | rfl | h
  · exact .inr (.inl ⟨by simp [hipHitIsBigger, Nat.not_lt.mpr h.le], by simp [hipHitIsBigger, h],
      h.ne⟩)
  · exact .inr (.inr ⟨by simp [hipHitIsBigger], by simp [hipHitIsBigger], rfl⟩)
  · exact .inl ⟨by simp [hipHitIsBigger, h], by simp [hipHitIsBigger, Nat.not_lt.mpr h.le], h.ne'⟩

/-- Of two distinct HITs, the first is bigger exactly when the second is not. -/
theorem hipHitIsBigger_swap {hit1 hit2 : Hit} (hne : hit1 ≠ hit2) :
    hipHitIsBigger hit2 hit1 = !hipHitIsBigger hit1 hit2 := by
  rcases Nat.lt_or_gt_of_ne hne with h | h <;> simp [hipHitIsBigger, h, Nat.not_lt.mpr h.le]

/-- One retransmission slot (`struct hip_msg_retrans`): the number of retransmissions left and
the buffered packet. -/
structure HipMsgRetrans where
  count : Int
  buf : HipCommon
  deriving DecidableEq, Repr

/-- `hip_clear_retransmission`: no retransmission left and the buffered packet zeroed, which
reads as a message of type 0 without parameters. -/
def hipClearRetransmission (retrans : HipMsgRetrans) : HipMsgRetrans :=
  { retrans with count := 0, buf := ⟨0, 0, 0, 0, 0, []⟩ }

/-- The eight keys a host association draws from the KEYMAT (`struct hip_crypto_key`), each the
bytes its transform's key length takes; the rest of a key buffer is never read. -/
structure HipKeys where
  hipEncOut : Bytes
  hipHmacOut : Bytes
  espOut : Bytes
  authOut : Bytes
  hipEncIn : Bytes
  hipHmacIn : Bytes
  espIn : Bytes
  authIn : Bytes
  deriving DecidableEq, Repr

/-- The part of a host association (`struct hip_hadb_state`) the base exchange reads and
writes, with the C widths of its integer fields. -/
structure HipHa where
  hitOur : Hit
  hitPeer : Hit
  state : HipState
  isLoopback : Bool
  peerAddr : Hit
  ourAddr : Hit
  hipTransform : Nat
  espTransform : Nat
  birthday : Nat
  dhSharedKey : Bytes
  natMode : Nat
  keys : HipKeys
  currentKeymatIndex : UInt16
  keymatCalcIndex : UInt8
  espKeymatIndex : UInt16
  currentKeymatK : Bytes
  puzzleSolution : Bytes
  puzzleI : Bytes
  hipMsgRetrans : List HipMsgRetrans
  spiOutboundNew : UInt32
  hipVersion : UInt8
  deriving DecidableEq, Repr

/-- The packet context a handler works on (`struct hip_packet_context`): the received message,
the message being built in answer, the source and destination address, the destination port,
the host association found for the message, and the error flag. -/
structure HipPacketContext where
  inputMsg : HipCommon
  outputMsg : HipCommon
  srcAddr : Hit
  dstAddr : Hit
  dstPort : Nat
  hadbEntry : Option HipHa
  error : Int
  deriving DecidableEq, Repr

/-- `ctx->hadb_entry`, read through: the host association of the context, a NULL dereference if
there is none. -/
def HipPacketContext.readHa (ctx : HipPacketContext) : Except Fault HipHa :=
  match ctx.hadbEntry with
  | some ha => pure ha
  | none => throw .nullDeref

/-- A write through `ctx->hadb_entry`. -/
def HipPacketContext.modifyHa (ctx : HipPacketContext) (f : HipHa → HipHa) :
    Except Fault HipPacketContext := do
  let ha ← ctx.readHa
  pure { ctx with hadbEntry := some (f ha) }

@[simp] theorem HipPacketContext.readHa_some {ctx : HipPacketContext} {ha : HipHa}
    (h : ctx.hadbEntry = some ha) : ctx.readHa = .ok ha := by
  simp [HipPacketContext.readHa, h]

@[simp] theorem HipPacketContext.modifyHa_some {ctx : HipPacketContext} {ha : HipHa}
    (h : ctx.hadbEntry = some ha) (f : HipHa → HipHa) :
    ctx.modifyHa f = .ok { ctx with hadbEntry := some (f ha) } := by
  simp [HipPacketContext.modifyHa, HipPacketContext.readHa, h]

theorem HipPacketContext.modifyHa_eq_ok {ctx ctx' : HipPacketContext} {f : HipHa → HipHa}
    (h : ctx.modifyHa f = .ok ctx') :
    ∃ ha, ctx.hadbEntry = some ha ∧ ctx' = { ctx with hadbEntry := some (f ha) } := by
  rcases hha : ctx.hadbEntry with _ | ha
  · simp [HipPacketContext.modifyHa, HipPacketContext.readHa, hha] at h
  · rw [HipPacketContext.modifyHa_some hha] at h
    exact ⟨ha, rfl, (Except.ok.inj h).symm⟩

theorem HipPacketContext.readHa_eq_ok {ctx : HipPacketContext} {ha : HipHa}
    (h : ctx.readHa = .ok ha) : ctx.hadbEntry = some ha := by
  unfold HipPacketContext.readHa at h
  split at h
  · cases h
    assumption
  · cases h

/-- What the handlers ask of the host identity database and the routing table, which are not
among the sources: `hip_hidb_hit_is_our` and `hip_select_source_address`. -/
structure HipdEnv where
  hitIsOur : Hit → Bool
  selectSourceAddress : Hit → Option Hit

/-- `IN6_IS_ADDR_V4MAPPED`: an IPv4 address in IPv6-mapped form, `::ffff:a.b.c.d`. -/
def in6IsAddrV4Mapped (addr : Hit) : Bool :=
  addr / 2 ^ 32 = 0xffff

/-- `IPV6_TO_IPV4_MAP`: the IPv4 address in the low 32 bits. -/
def ipv6ToIpv4 (addr : Hit) : Nat :=
  addr % 2 ^ 32

/-- `INADDR_BROADCAST`. -/
def inaddrBroadcast : Nat := 0xffffffff

/-- `IN6_IS_ADDR_MULTICAST`: the first byte is `0xff`. -/
def in6IsAddrMulticast (addr : Hit) : Bool :=
  addr / 2 ^ 120 = 0xff

/-- The kinds of UPDATE `hip_classify_update_type` tells apart. -/
inductive UpdateType
  | first | second | third | unknown
  deriving DecidableEq, Repr

/-- Modelled from the spec: `hip_classify_update_type` (update.c, not among the sources) by the
SEQ, ACK and ESP_INFO parameters (§4.F): SEQ alone is the first UPDATE, SEQ with ACK and
ESP_INFO the second, ACK and ESP_INFO without SEQ the third. -/
def hipClassifyUpdateType (msg : HipCommon) : UpdateType :=
  match (hipGetParam msg .seq).isSome, (hipGetParam msg .ack).isSome,
      (hipGetParam msg .espInfo).isSome with
  | true, false, false => .first
  | true, true, true => .second
  | false, true, true => .third
  | _, _, _ => .unknown

end Hipl.Hipd
