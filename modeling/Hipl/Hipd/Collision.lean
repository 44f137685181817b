import Hipl.Hipd.Association

/-!
# Collision rules of the base exchange

When two hosts start a base exchange with each other at the same time, their I1s cross, and
later possibly their I2s. RFC 5201 (Tables 3 and 4) settles both collisions by the HITs, and
input.c writes the rule three times: `hip_handle_i1` drops a received I1 in I1_SENT when the
peer's HIT is the bigger, `hip_update_retransmissions` clears our buffered I1 when our HIT is
the bigger, and `hip_handle_i2_in_i2_sent` drops a received I2 when the peer's HIT is the
bigger. The first and the third compare (peer, our), the second (our, peer).

`hipHandleI1_crossed`, `hipUpdateRetransmissions_i1` and `hipHandleI2InI2Sent_ok` say what
each handler does with a crossing packet; `crossedExchange_greaterHit_proceeds` puts the two
hosts side by side: in both collisions exactly one host goes on, the one with the greater HIT,
and it is also the one that drops its own buffered I1.
-/

set_option autoImplicit false
set_option relaxedAutoImplicit false

namespace Hipl.Hipd

open Hipl.Wire

/-! ### The handlers -/

/-- The address checks at the start of `hip_handle_i1`: an I1 sent to the IPv4 broadcast
address or to a multicast address is dropped when it is a copy of our own, and otherwise needs
a source address to answer from, which becomes the context's source address. `none` when the
I1 is dropped. -/
def i1AddressCheck (env : HipdEnv) (ctx : HipPacketContext) : Option HipPacketContext :=
  let srcHitIsOur := env.hitIsOur ctx.inputMsg.hitSender
  let broadcast := if in6IsAddrV4Mapped ctx.dstAddr then ipv6ToIpv4 ctx.dstAddr = inaddrBroadcast
    else in6IsAddrMulticast ctx.dstAddr
  if broadcast then
    if srcHitIsOur then none
    else (env.selectSourceAddress ctx.dstAddr).map fun src ↦ { ctx with srcAddr := src }
  else some ctx

/-- `hip_handle_i1`: the address checks, then the collision rule of Table 3 of RFC 5201, which
drops the received I1 (sets the error flag) in I1_SENT when the peer's HIT is the bigger. -/
def hipHandleI1 (env : HipdEnv) (ctx : HipPacketContext) : Int × HipPacketContext :=
  match i1AddressCheck env ctx with
  | none => (-1, { ctx with error := 1 })
  | some ctx =>
    match ctx.hadbEntry with
    | some ha =>
      if ha.state = .i1Sent ∧ hipHitIsBigger ha.hitPeer ha.hitOur then (0, { ctx with error := 1 })
      else (0, ctx)
    | none => (0, ctx)

/-- `hip_handle_i2_in_i2_sent`: the collision rule of Table 4 of RFC 5201, which drops the
received I2 when the peer's HIT is the bigger. The host association is read without a check. -/
def hipHandleI2InI2Sent (ctx : HipPacketContext) : Except Fault (Int × HipPacketContext) :=
  match ctx.hadbEntry with
  | none => .error .nullDeref
  | some ha =>
    let ctx := if hipHitIsBigger ha.hitPeer ha.hitOur then { ctx with error := 1 } else ctx
    pure (ctx.error, ctx)

/-- `update_retrans_is_invalid`: a second UPDATE invalidates a buffered first one, a third
UPDATE a buffered second one. -/
def updateRetransIsInvalid (msg : HipCommon) (retrans : HipMsgRetrans) : Bool :=
  match hipClassifyUpdateType msg with
  | .second => hipClassifyUpdateType retrans.buf = .first
  | .third => hipClassifyUpdateType retrans.buf = .second
  | _ => false

/-- The body of the loop of `hip_update_retransmissions` for one slot: a slot with
retransmissions left is cleared by an I1 when it holds an I1 and our HIT is the bigger, by an
I2, R1, R2, CLOSE or CLOSE_ACK always, and by an UPDATE that invalidates it. -/
def updateRetransmission (msg : HipCommon) (ha : HipHa) (retrans : HipMsgRetrans) :
    HipMsgRetrans :=
  if retrans.count = 0 then retrans
  else if msg.type = hipI1 then
    if retrans.buf.type = hipI1 ∧ hipHitIsBigger ha.hitOur ha.hitPeer then
      hipClearRetransmission retrans
    else retrans
  else if msg.type = hipI2 ∨ msg.type = hipR1 ∨ msg.type = hipR2 ∨ msg.type = hipClose ∨
      msg.type = hipCloseAck then hipClearRetransmission retrans
  else if msg.type = hipUpdate ∧ updateRetransIsInvalid msg retrans then
    hipClearRetransmission retrans
  else retrans

/-- `hip_update_retransmissions`: every retransmission slot of the host association, after the
packet `ctx` holds was handled. -/
def hipUpdateRetransmissions (ctx : HipPacketContext) : Int × HipPacketContext :=
  match ctx.hadbEntry with
  | none => (0, ctx)
  | some ha => (0, { ctx with hadbEntry := some { ha with
      hipMsgRetrans := ha.hipMsgRetrans.map (updateRetransmission ctx.inputMsg ha) } })

/-! ### One host -/

/-- The context of a received I1 that crossed our own: the I1 passes the address checks, the
context holds our host association, in I1_SENT with HITs `our` and `peer`, and no error yet. -/
structure CrossedI1 (env : HipdEnv) (ctx : HipPacketContext) (our peer : Hit) : Prop where
  address : i1AddressCheck env ctx = some ctx
  entry : ∃ ha, ctx.hadbEntry = some ha ∧ ha.state = .i1Sent ∧ ha.hitOur = our ∧
    ha.hitPeer = peer
  i1 : ctx.inputMsg.type = hipI1
  error : ctx.error = 0

/-- A crossing I1 is processed (the error flag stays clear) exactly when our HIT is not the
smaller. -/
theorem hipHandleI1_crossed {env : HipdEnv} {ctx : HipPacketContext} {our peer : Hit}
    (h : CrossedI1 env ctx our peer) :
    (hipHandleI1 env ctx).2.error = if hipHitIsBigger peer our then 1 else 0 := by
  obtain ⟨ha, hha, hst, rfl, rfl⟩ := h.entry
  simp only [hipHandleI1, h.address, hha, hst, true_and]
  split <;> simp [h.error]

/-- A received I1 clears, of the slots with retransmissions left, those holding an I1, and only
when our HIT is the bigger. -/
theorem hipUpdateRetransmissions_i1 {ctx : HipPacketContext} {ha : HipHa}
    (hha : ctx.hadbEntry = some ha) (hi1 : ctx.inputMsg.type = hipI1) :
    hipUpdateRetransmissions ctx = (0, { ctx with hadbEntry := some { ha with
      hipMsgRetrans := ha.hipMsgRetrans.map fun r ↦
        if r.count ≠ 0 ∧ r.buf.type = hipI1 ∧ hipHitIsBigger ha.hitOur ha.hitPeer then
          hipClearRetransmission r else r } }) := by
  simp only [hipUpdateRetransmissions, hha, Prod.mk.injEq, true_and]
  congr
  funext r
  by_cases hc : r.count = 0 <;> simp [updateRetransmission, hc, hi1]

/-- A received I2 in I2_SENT is dropped exactly when the peer's HIT is the bigger. -/
theorem hipHandleI2InI2Sent_ok {ctx : HipPacketContext} {ha : HipHa}
    (hha : ctx.hadbEntry = some ha) (herr : ctx.error = 0) :
    ∃ ctx', hipHandleI2InI2Sent ctx = .ok ((if hipHitIsBigger ha.hitPeer ha.hitOur then 1 else 0),
      ctx') ∧ ctx'.error = if hipHitIsBigger ha.hitPeer ha.hitOur then 1 else 0 := by
  simp only [hipHandleI2InI2Sent, hha]
  split
  · exact ⟨_, rfl, rfl⟩
  · exact ⟨ctx, by rw [herr]; rfl, herr⟩

/-! ### Two hosts -/

/-- The slots of a host after a crossing I1, clearing its buffered I1s when `clear`. -/
def clearBufferedI1 (clear : Bool) (r : HipMsgRetrans) : HipMsgRetrans :=
  if r.count ≠ 0 ∧ r.buf.type = hipI1 ∧ clear then hipClearRetransmission r else r

/-- One host's part in crossing exchanges: it processes a crossing I1 exactly when `proceeds`,
then clears its buffered I1s exactly when `proceeds`, and it processes a crossing I2 exactly
when `proceeds`. -/
structure CollisionVerdict (env : HipdEnv) (ctxI1 ctxI2 : HipPacketContext) (proceeds : Bool) :
    Prop where
  i1 : (hipHandleI1 env ctxI1).2.error = if proceeds then 0 else 1
  retrans : ∀ ha, ctxI1.hadbEntry = some ha → hipUpdateRetransmissions ctxI1 =
    (0, { ctxI1 with hadbEntry := some { ha with
      hipMsgRetrans := ha.hipMsgRetrans.map (clearBufferedI1 proceeds) } })
  i2 : ∃ ctx', hipHandleI2InI2Sent ctxI2 = .ok ((if proceeds then 0 else 1), ctx') ∧
    ctx'.error = if proceeds then 0 else 1

/-- One host's verdicts in both collisions are that its HIT is the bigger. -/
theorem collisionVerdict_of_crossed {env : HipdEnv} {ctxI1 ctxI2 : HipPacketContext}
    {our peer : Hit} (hne : our ≠ peer) (h1 : CrossedI1 env ctxI1 our peer)
    (h2 : ∃ ha, ctxI2.hadbEntry = some ha ∧ ha.state = .i2Sent ∧ ha.hitOur = our ∧
      ha.hitPeer = peer) (herr : ctxI2.error = 0) :
    CollisionVerdict env ctxI1 ctxI2 (hipHitIsBigger our peer) := by
  have hswap := hipHitIsBigger_swap hne
  refine ⟨?_, fun ha hha ↦ ?_, ?_⟩
  · rw [hipHandleI1_crossed h1, hswap]
    cases hipHitIsBigger our peer <;> rfl
  · obtain ⟨ha', hha', -, rfl, rfl⟩ := h1.entry
    cases hha.symm.trans hha'
    rw [hipUpdateRetransmissions_i1 hha h1.i1]
    rfl
  · obtain ⟨ha, hha, -, rfl, rfl⟩ := h2
    obtain ⟨ctx', hi2, herr'⟩ := hipHandleI2InI2Sent_ok hha herr
    refine ⟨ctx', hi2.trans ?_, herr'.trans ?_⟩ <;> rw [hswap] <;>
      cases hipHitIsBigger ha.hitOur ha.hitPeer <;> rfl

/-- Two hosts with distinct HITs `a` and `b` whose I1s cross, both in I1_SENT, and whose I2s
cross, both in I2_SENT: in each collision exactly one of them goes on, the one with the greater
HIT, which is also the only one to clear its buffered I1. -/
theorem crossedExchange_greaterHit_proceeds (env : HipdEnv) {a b : Hit} (hab : a ≠ b)
    {ctxA ctxB ctxA2 ctxB2 : HipPacketContext}
    (hA : CrossedI1 env ctxA a b) (hB : CrossedI1 env ctxB b a)
    (hA2 : ∃ ha, ctxA2.hadbEntry = some ha ∧ ha.state = .i2Sent ∧ ha.hitOur = a ∧
      ha.hitPeer = b) (hB2 : ∃ ha, ctxB2.hadbEntry = some ha ∧ ha.state = .i2Sent ∧
      ha.hitOur = b ∧ ha.hitPeer = a) (herrA : ctxA2.error = 0) (herrB : ctxB2.error = 0) :
    ∃ proceedsA, proceedsA = hipHitIsBigger a b ∧
      CollisionVerdict env ctxA ctxA2 proceedsA ∧
      CollisionVerdict env ctxB ctxB2 (!proceedsA) := by
  refine ⟨_, rfl, collisionVerdict_of_crossed hab hA hA2 herrA, ?_⟩
  rw [← hipHitIsBigger_swap hab]
  exact collisionVerdict_of_crossed (Ne.symm hab) hB hB2 herrB

/-! ### Two hosts with HITs 2 and 1 -/

/-- A host association in state `state` from HIT `our` to HIT `peer`, with a buffered I1. -/
def crossingHa (our peer : Hit) (state : HipState) : HipHa where
  hitOur := our
  hitPeer := peer
  state := state
  isLoopback := false
  peerAddr := peer
  ourAddr := our
  hipTransform := 0
  espTransform := 0
  birthday := 0
  dhSharedKey := []
  natMode := 0
  keys := ⟨[], [], [], [], [], [], [], []⟩
  currentKeymatIndex := 0
  keymatCalcIndex := 0
  espKeymatIndex := 0
  currentKeymatK := []
  puzzleSolution := []
  puzzleI := []
  hipMsgRetrans := [⟨1, ⟨hipI1, 2, 0, our, peer, []⟩⟩]
  spiOutboundNew := 0
  hipVersion := 2

/-- The context of a packet of type `type` from `peer` to `our`, sent to a unicast address. -/
def crossingCtx (our peer : Hit) (state : HipState) (type : Nat) : HipPacketContext :=
  ⟨⟨type, 2, 0, peer, our, []⟩, ⟨0, 0, 0, 0, 0, []⟩, peer, our, 0, some (crossingHa our peer state),
    0⟩

/-- Neither HIT is ours to the other host, and no broadcast is answered. -/
def crossingEnv : HipdEnv := ⟨fun _ ↦ false, fun _ ↦ none⟩

/-- The hosts with HITs 2 and 1 meet the crossing conditions, and the host with HIT 2 is the one
that goes on. -/
theorem crossedExchange_hit2_proceeds :
    CrossedI1 crossingEnv (crossingCtx 2 1 .i1Sent hipI1) 2 1 ∧
      CrossedI1 crossingEnv (crossingCtx 1 2 .i1Sent hipI1) 1 2 ∧
      ∃ proceedsA, proceedsA = hipHitIsBigger 2 1 ∧
        CollisionVerdict crossingEnv (crossingCtx 2 1 .i1Sent hipI1)
          (crossingCtx 2 1 .i2Sent hipI2) proceedsA ∧
        CollisionVerdict crossingEnv (crossingCtx 1 2 .i1Sent hipI1)
          (crossingCtx 1 2 .i2Sent hipI2) (!proceedsA) :=
  have hA : CrossedI1 crossingEnv (crossingCtx 2 1 .i1Sent hipI1) 2 1 :=
    ⟨rfl, ⟨_, rfl, rfl, rfl, rfl⟩, rfl, rfl⟩
  have hB : CrossedI1 crossingEnv (crossingCtx 1 2 .i1Sent hipI1) 1 2 :=
    ⟨rfl, ⟨_, rfl, rfl, rfl, rfl⟩, rfl, rfl⟩
  ⟨hA, hB, crossedExchange_greaterHit_proceeds crossingEnv (by decide) hA hB
    ⟨_, rfl, rfl, rfl, rfl⟩ ⟨_, rfl, rfl, rfl, rfl⟩ rfl rfl⟩

end Hipl.Hipd
