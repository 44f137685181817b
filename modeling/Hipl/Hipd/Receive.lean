import Hipl.Hipd.CheckI2

/-!
# Receiving a control packet

`hip_receive_control_packet` is the gate every received HIP control packet passes before the
handlers of its type and of its association's state run. It drops a packet that fails the
network checks, a copy of one of our own packets that did not come over loopback, and a packet
for another host. It then looks up the association of the packet's two HITs and drops the
packet when `packet_to_drop` says so. Last, it pins the association to the HIP version of the
first packet handled for it and drops packets of any other version.

`packet_to_drop` falls through from R2_SENT to ESTABLISHED, and both test for an R1 or an R2:
in either state an R1 or R2 to one of our HITs never reaches a handler, whatever the handlers
would do with it (`hipReceiveControlPacket_r1r2`). The version is written into the association
before any handler runs, and only over a version 0: every packet handed to the handlers for an
association carries the association's version (`hipReceiveControlPacket_version`), and the gate
changes no association's version once it is set (`hipReceiveControlPacket_keepsVersions`).
Handlers that keep versions too, as `hip_check_i2` does when it replaces an association
(`hipCheckI2_keepsVersions`), keep every association's version over any sequence of packets
(`receiveRun_keepsVersions`).

Scope. The build without CONFIG_HIP_RVS: a packet for another host is dropped and no relay
handles it. hadb.c, hidb.c, the opportunistic database and the handler table of init.c are not
among the sources: the association of a pair of HITs follows the spec (§3), and the rest is a
parameter (`ReceiveEnv`, and the handlers of a run).
-/

set_option autoImplicit false
set_option relaxedAutoImplicit false

namespace Hipl.Hipd

open Hipl.Wire

/-- Whether an association is that of the HITs `hit` and `hit2`, whichever of the two is ours. -/
def HipHa.hasHits (ha : HipHa) (hit hit2 : Hit) : Bool :=
  (ha.hitPeer == hit && ha.hitOur == hit2) || (ha.hitOur == hit && ha.hitPeer == hit2)

/-- Modelled from the spec: `hip_hadb_find_byhits(hit, hit2)`, the association of the pair of
HITs (§3). The code asks with the sender first for a received packet and with our HIT first
for a message of the firewall, so the order does not matter. -/
def hipHadbFindByhits (hadb : List HipHa) (hit hit2 : Hit) : Option HipHa :=
  hadb.find? (·.hasHits hit hit2)

/-- What the gate asks outside the sources: `hip_check_network_msg` (true when it accepts),
`hip_hidb_hit_is_our`, `hip_addr_is_loopback`, whether `hip_shotgun_status` is
`HIP_MSG_SHOTGUN_ON`, the number of local addresses, the size of an association's
`peer_addr_list_to_be_added` (`none` for NULL), and `hip_opp_get_hadb_entry_i1_r1`, which
returns an association of the database. -/
structure ReceiveEnv where
  checkNetworkMsg : HipCommon → Bool
  hitIsOur : Hit → Bool
  addrIsLoopback : Hit → Bool
  shotgunOn : Bool
  numAddresses : Nat
  peerAddrListToBeAdded : HipHa → Option Nat
  oppGetHadbEntryI1R1 : List HipHa → HipCommon → Hit → Option HipHa
  oppGetHadbEntryI1R1_found : ∀ hadb msg addr ha, oppGetHadbEntryI1R1 hadb msg addr = some ha →
    hipHadbFindByhits hadb ha.hitPeer ha.hitOur = some ha

/-- The test of `hipHadbFindByhits` depends on the pair of HITs only: an association of the
HITs `hit`, `hit2` is asked for by its own HITs with the same test. -/
theorem HipHa.hasHits_eq {ha : HipHa} {hit hit2 : Hit} (h : ha.hasHits hit hit2 = true) :
    (fun e : HipHa ↦ e.hasHits hit hit2) = (fun e : HipHa ↦ e.hasHits ha.hitPeer ha.hitOur) := by
  funext e
  simp only [HipHa.hasHits, Bool.or_eq_true, Bool.and_eq_true, beq_iff_eq] at h
  rcases h with ⟨rfl, rfl⟩ | ⟨rfl, rfl⟩
  · rfl
  · simp only [HipHa.hasHits]
    generalize (e.hitOur == ha.hitOur) = a
    generalize (e.hitPeer == ha.hitPeer) = b
    generalize (e.hitOur == ha.hitPeer) = c
    generalize (e.hitPeer == ha.hitOur) = d
    revert a b c d
    decide

/-- Two associations of the same pair of HITs, in either order, answer every lookup alike. -/
theorem HipHa.hasHits_of_hasHits {e ha : HipHa} (h : e.hasHits ha.hitPeer ha.hitOur = true)
    (hit hit2 : Hit) : e.hasHits hit hit2 = ha.hasHits hit hit2 := by
  simp only [HipHa.hasHits, Bool.or_eq_true, Bool.and_eq_true, beq_iff_eq] at h
  rcases h with ⟨hp, ho⟩ | ⟨ho, hp⟩
  · simp only [HipHa.hasHits, hp, ho]
  · simp only [HipHa.hasHits, hp, ho, Bool.or_comm]

theorem hipHadbFindByhits_self {hadb : List HipHa} {hit hit2 : Hit} {ha : HipHa}
    (h : hipHadbFindByhits hadb hit hit2 = some ha) :
    hipHadbFindByhits hadb ha.hitPeer ha.hitOur = some ha := by
  unfold hipHadbFindByhits at h ⊢
  have hhits := List.find?_some h
  rwa [← HipHa.hasHits_eq hhits]

/-- `packet_to_drop(entry, type, hitr)`: never for a packet to another HIT (a relay's). In
I2_SENT the "shotgun" case: an R1 when shotgun mode is on and either side has more than one
address. R2_SENT falls through to ESTABLISHED, and both drop an R1 or an R2. -/
def packetToDrop (env : ReceiveEnv) (entry : HipHa) (type : Nat) (hitr : Hit) : Bool :=
  if !env.hitIsOur hitr then false else
  match entry.state with
  | .i2Sent =>
    match env.peerAddrListToBeAdded entry with
    | some n => env.shotgunOn && type == hipR1 && (1 < n || 1 < env.numAddresses)
    | none => false
  | .r2Sent | .established => type == hipR1 || type == hipR2
  | _ => false

/-- What the gate does with a packet: drop it (`-1`), or run the handlers of its type and state
on the context, `none` standing for HIP_STATE_NONE. -/
inductive Dispatch
  | drop
  | handle (type : Nat) (state : Option HipState) (ctx : HipPacketContext)
  deriving DecidableEq, Repr

/-- The version check of the gate on the association a packet found: a version 0 becomes the
packet's, written into the database; another version than the packet's drops it. -/
def pinVersion (hadb : List HipHa) (ctx : HipPacketContext) (ha : HipHa) :
    Dispatch × List HipHa :=
  let msg := ctx.inputMsg
  if ha.hipVersion = 0 then
    let ha := { ha with hipVersion := UInt8.ofNat msg.version }
    (.handle msg.type (some ha.state) { ctx with hadbEntry := some ha }, hipHadbInsertState hadb ha)
  else if ha.hipVersion.toNat ≠ msg.version then (.drop, hadb)
  else (.handle msg.type (some ha.state) { ctx with hadbEntry := some ha }, hadb)

/-- `hip_receive_control_packet(ctx)` on the host association database `hadb`: the dispatch
and the database afterwards. -/
def hipReceiveControlPacket (env : ReceiveEnv) (hadb : List HipHa) (ctx : HipPacketContext) :
    Dispatch × List HipHa :=
  let msg := ctx.inputMsg
  if !env.checkNetworkMsg msg then (.drop, hadb) else
  if env.hitIsOur msg.hitSender && (msg.hitReceiver == msg.hitSender || msg.hitReceiver == 0) &&
      !env.addrIsLoopback ctx.dstAddr && !env.addrIsLoopback ctx.srcAddr &&
      ctx.srcAddr != ctx.dstAddr then (.drop, hadb) else
  if !env.hitIsOur msg.hitReceiver && msg.hitReceiver != 0 then (.drop, hadb) else
  match hipHadbFindByhits hadb msg.hitSender msg.hitReceiver with
  | some ha => if packetToDrop env ha msg.type msg.hitReceiver then (.drop, hadb)
    else pinVersion hadb ctx ha
  | none =>
    match (if msg.type = hipI1 ∨ msg.type = hipR1 then env.oppGetHadbEntryI1R1 hadb msg ctx.srcAddr
      else none) with
    | some ha => pinVersion hadb { ctx with hadbEntry := some ha } ha
    | none => (.handle msg.type none { ctx with hadbEntry := none }, hadb)

/-- `hip_receive_udp_control_packet(ctx)`: an R1 or R2 of a known association is taken as
coming from the association's peer address, the one the I1 went to. -/
def hipReceiveUdpControlPacket (env : ReceiveEnv) (hadb : List HipHa) (ctx : HipPacketContext) :
    Dispatch × List HipHa :=
  let msg := ctx.inputMsg
  match hipHadbFindByhits hadb msg.hitSender msg.hitReceiver with
  | some ha =>
    if msg.type = hipR1 ∨ msg.type = hipR2 then
      hipReceiveControlPacket env hadb { ctx with srcAddr := ha.peerAddr }
    else hipReceiveControlPacket env hadb ctx
  | none => hipReceiveControlPacket env hadb ctx

/-! ### What reaches the handlers -/

/-- A host with HIT 1 and one address, with shotgun mode off, that accepts every message the
network checks see and has no opportunistic associations. -/
def receiveTestEnv : ReceiveEnv :=
  ⟨fun _ ↦ true, fun hit ↦ hit == 1, fun _ ↦ false, false, 1, fun _ ↦ none, fun _ _ _ ↦ none,
    fun _ _ _ _ h ↦ nomatch h⟩

section Gate

variable {env : ReceiveEnv} {hadb hadb' : List HipHa} {ctx ctx' : HipPacketContext}
  {type : Nat} {state : Option HipState}

/-- An R1 or an R2 to one of our HITs whose association is in R2_SENT or ESTABLISHED is
dropped before any handler runs, and the database is left as it is. -/
theorem hipReceiveControlPacket_r1r2 {ha : HipHa}
    (hour : env.hitIsOur ctx.inputMsg.hitReceiver = true)
    (hfind : hipHadbFindByhits hadb ctx.inputMsg.hitSender ctx.inputMsg.hitReceiver = some ha)
    (hstate : ha.state = .r2Sent ∨ ha.state = .established)
    (htype : ctx.inputMsg.type = hipR1 ∨ ctx.inputMsg.type = hipR2) :
    hipReceiveControlPacket env hadb ctx = (.drop, hadb) := by
  have hdrop : packetToDrop env ha ctx.inputMsg.type ctx.inputMsg.hitReceiver = true := by
    rcases hstate with h | h <;> simp [packetToDrop, hour, h, htype]
  simp only [hipReceiveControlPacket, hfind, hdrop, ite_true, ite_self]

example :
    hipReceiveControlPacket receiveTestEnv [crossingHa 1 2 .established]
      (crossingCtx 1 2 .established hipR1) = (.drop, [crossingHa 1 2 .established]) := by
  decide

theorem pinVersion_handle {ha : HipHa}
    (h : pinVersion hadb ctx ha = (.handle type state ctx', hadb')) :
    type = ctx.inputMsg.type ∧ ctx'.inputMsg = ctx.inputMsg ∧
      ∃ ha', ctx'.hadbEntry = some ha' ∧ state = some ha'.state ∧
        ha' = { ha with hipVersion := UInt8.ofNat ctx.inputMsg.version } ∧
        ((ha.hipVersion = 0 ∧ hadb' = hipHadbInsertState hadb ha') ∨
          (ha.hipVersion = UInt8.ofNat ctx.inputMsg.version ∧ hadb' = hadb)) := by
  dsimp only [pinVersion] at h
  split_ifs at h with h0 hne
  · cases h
    exact ⟨rfl, rfl, _, rfl, rfl, rfl, .inl ⟨h0, rfl⟩⟩
  · cases h
  · cases h
    have hv : ha.hipVersion = UInt8.ofNat ctx.inputMsg.version := by
      rw [← not_not.mp hne, uint8_ofNat_toNat]
    refine ⟨rfl, rfl, ha, rfl, rfl, ?_, .inr ⟨hv, rfl⟩⟩
    rw [← hv]

/-- What the gate hands the handlers: the packet's type and context. Without an association the
state is HIP_STATE_NONE and the database stays as it was. With one, found for the packet's HITs
or, for an I1 or R1, by the opportunistic lookup, the association is at the packet's version,
written into the database when it was 0. -/
theorem hipReceiveControlPacket_handle
    (h : hipReceiveControlPacket env hadb ctx = (.handle type state ctx', hadb')) :
    type = ctx.inputMsg.type ∧ ctx'.inputMsg = ctx.inputMsg ∧
      ((state = none ∧ ctx'.hadbEntry = none ∧ hadb' = hadb ∧
          hipHadbFindByhits hadb ctx.inputMsg.hitSender ctx.inputMsg.hitReceiver = none) ∨
        ∃ ha, hipHadbFindByhits hadb ha.hitPeer ha.hitOur = some ha ∧
          (hipHadbFindByhits hadb ctx.inputMsg.hitSender ctx.inputMsg.hitReceiver = some ha ∨
            ctx.inputMsg.type = hipI1 ∨ ctx.inputMsg.type = hipR1) ∧
          ∃ ha', ctx'.hadbEntry = some ha' ∧ state = some ha'.state ∧
            ha' = { ha with hipVersion := UInt8.ofNat ctx.inputMsg.version } ∧
            ((ha.hipVersion = 0 ∧ hadb' = hipHadbInsertState hadb ha') ∨
              (ha.hipVersion = UInt8.ofNat ctx.inputMsg.version ∧ hadb' = hadb))) := by
  simp only [hipReceiveControlPacket] at h
  split at h
  · cases h
  split at h
  · cases h
  split at h
  · cases h
  split at h
  · rename_i ha hfind
    split_ifs at h
    · cases h
    obtain ⟨rfl, hin, ha', hentry, hstate, hha', hdb⟩ := pinVersion_handle h
    exact ⟨rfl, hin, .inr ⟨ha, hipHadbFindByhits_self hfind, .inl hfind, ha', hentry, hstate,
      hha', hdb⟩⟩
  · rename_i hnone
    split at h
    · rename_i ha hopp
      split_ifs at hopp with htype
      obtain ⟨rfl, hin, ha', hentry, hstate, hha', hdb⟩ := pinVersion_handle h
      exact ⟨rfl, hin, .inr ⟨ha, env.oppGetHadbEntryI1R1_found _ _ _ _ hopp, .inr htype, ha',
        hentry, hstate, hha', hdb⟩⟩
    · cases h
      exact ⟨rfl, rfl, .inl ⟨rfl, rfl, rfl, hnone⟩⟩

/-- Every packet handed to the handlers with an association carries the association's
version, and the handlers run for the association's state. -/
theorem hipReceiveControlPacket_version {ha' : HipHa}
    (h : hipReceiveControlPacket env hadb ctx = (.handle type state ctx', hadb'))
    (hentry : ctx'.hadbEntry = some ha') :
    ha'.hipVersion = UInt8.ofNat ctx.inputMsg.version ∧ state = some ha'.state := by
  obtain ⟨-, -, ⟨-, hnone, -, -⟩ | ⟨ha, -, -, ha'', hentry', hstate, rfl, -⟩⟩ :=
    hipReceiveControlPacket_handle h
  · rw [hnone] at hentry; cases hentry
  · rw [hentry'] at hentry
    cases hentry
    exact ⟨rfl, hstate⟩

/-- An R2 at version 2 for an association at version 0 pins it to version 2. -/
theorem hipReceiveControlPacket_pinsR2 :
    hipReceiveControlPacket receiveTestEnv [{ crossingHa 1 2 .i2Sent with hipVersion := 0 }]
        (crossingCtx 1 2 .i2Sent hipR2) =
      (.handle hipR2 (some .i2Sent)
        { crossingCtx 1 2 .i2Sent hipR2 with hadbEntry := some (crossingHa 1 2 .i2Sent) },
        [crossingHa 1 2 .i2Sent]) ∧
    (crossingHa 1 2 .i2Sent).hipVersion =
      UInt8.ofNat (crossingCtx 1 2 .i2Sent hipR2).inputMsg.version ∧
    some HipState.i2Sent = some (crossingHa 1 2 .i2Sent).state :=
  have h : hipReceiveControlPacket receiveTestEnv [{ crossingHa 1 2 .i2Sent with hipVersion := 0 }]
      (crossingCtx 1 2 .i2Sent hipR2) =
      (.handle hipR2 (some .i2Sent)
        { crossingCtx 1 2 .i2Sent hipR2 with hadbEntry := some (crossingHa 1 2 .i2Sent) },
        [crossingHa 1 2 .i2Sent]) := by decide
  ⟨h, hipReceiveControlPacket_version h rfl⟩

/-- A dropped packet leaves the database as it was. -/
theorem hipReceiveControlPacket_drop
    (h : hipReceiveControlPacket env hadb ctx = (.drop, hadb')) : hadb' = hadb := by
  have hpin : ∀ {c : HipPacketContext} {ha : HipHa}, pinVersion hadb c ha = (.drop, hadb') →
      hadb' = hadb := by
    intro c ha hp
    dsimp only [pinVersion] at hp
    split_ifs at hp <;> cases hp
    rfl
  simp only [hipReceiveControlPacket] at h
  split at h
  · cases h; rfl
  split at h
  · cases h; rfl
  split at h
  · cases h; rfl
  split at h
  · split at h
    · cases h; rfl
    · exact hpin h
  · split at h
    · exact hpin h
    · cases h

end Gate

/-! ### Versions over a run -/

/-- The HIP version the database has for the association of the HITs `hit`, `hit2`. -/
def hadbVersion (hadb : List HipHa) (hit hit2 : Hit) : Option UInt8 :=
  (hipHadbFindByhits hadb hit hit2).map (·.hipVersion)

/-- `hadb'` keeps the versions set in `hadb`: an association whose version is not 0 is still
found, at the same version. -/
def KeepsVersions (hadb hadb' : List HipHa) : Prop :=
  ∀ hit hit2 v, hadbVersion hadb hit hit2 = some v → v ≠ 0 → hadbVersion hadb' hit hit2 = some v

theorem KeepsVersions.refl (hadb : List HipHa) : KeepsVersions hadb hadb :=
  fun _ _ _ h _ ↦ h

theorem KeepsVersions.trans {hadb hadb' hadb'' : List HipHa} (h : KeepsVersions hadb hadb')
    (h' : KeepsVersions hadb' hadb'') : KeepsVersions hadb hadb'' :=
  fun hit hit2 v hv hv0 ↦ h' hit hit2 v (h hit hit2 v hv hv0) hv0

/-- Deleting the association of `ha`'s HITs changes no lookup of other HITs. -/
theorem hipHadbFindByhits_del {hadb : List HipHa} {ha : HipHa} {hit hit2 : Hit}
    (h : ha.hasHits hit hit2 = false) :
    hipHadbFindByhits (hipDelPeerInfoEntry hadb ha) hit hit2 = hipHadbFindByhits hadb hit hit2 := by
  unfold hipHadbFindByhits hipDelPeerInfoEntry
  rw [List.find?_filter]
  congr 1
  funext e
  by_cases hsame : e.hitOur = ha.hitOur ∧ e.hitPeer = ha.hitPeer
  · have hhits : e.hasHits hit hit2 = ha.hasHits hit hit2 := by
      simp only [HipHa.hasHits, hsame.1, hsame.2]
    simp [hhits, h]
  · have hkeep : (e.hitOur == ha.hitOur && e.hitPeer == ha.hitPeer) = false := by
      simpa [Bool.and_eq_true, beq_iff_eq] using hsame
    simp [hkeep]

theorem hipHadbFindByhits_insert (hadb : List HipHa) (ha : HipHa) (hit hit2 : Hit) :
    hipHadbFindByhits (hipHadbInsertState hadb ha) hit hit2 =
      if ha.hasHits hit hit2 then some ha else hipHadbFindByhits hadb hit hit2 := by
  cases h : ha.hasHits hit hit2
  · rw [if_neg (by simp)]
    refine Eq.trans ?_ (hipHadbFindByhits_del h)
    simp only [hipHadbInsertState, hipHadbFindByhits, List.find?_cons, h]
  · simp [hipHadbInsertState, hipHadbFindByhits, h]

/-- Putting an association into the database keeps the versions when the association has the
version of the association its HITs had, if that version was set. -/
theorem keepsVersions_insert {hadb : List HipHa} {ha : HipHa}
    (h : ∀ v, hadbVersion hadb ha.hitPeer ha.hitOur = some v → v ≠ 0 → ha.hipVersion = v) :
    KeepsVersions hadb (hipHadbInsertState hadb ha) := by
  intro hit hit2 v hv hv0
  unfold hadbVersion at hv ⊢
  rw [hipHadbFindByhits_insert]
  split
  · rename_i hhits
    unfold hipHadbFindByhits at hv
    rw [HipHa.hasHits_eq hhits] at hv
    simp [h v hv hv0]
  · exact hv

/-- The gate changes no version that is set: it writes a version only over a 0. -/
theorem hipReceiveControlPacket_keepsVersions (env : ReceiveEnv) (hadb : List HipHa)
    (ctx : HipPacketContext) : KeepsVersions hadb (hipReceiveControlPacket env hadb ctx).2 := by
  rcases hr : hipReceiveControlPacket env hadb ctx with ⟨_ | ⟨type, state, ctx'⟩, hadb'⟩
  · rw [hipReceiveControlPacket_drop hr]
    exact .refl _
  obtain ⟨-, -, ⟨-, -, rfl, -⟩ | ⟨ha, hself, -, ha', -, -, rfl, ⟨h0, rfl⟩ | ⟨-, rfl⟩⟩⟩ :=
    hipReceiveControlPacket_handle hr
  · exact .refl _
  · refine keepsVersions_insert fun v hv hv0 ↦ absurd ?_ hv0
    simpa [hadbVersion, hself, h0] using hv.symm
  · exact .refl _

/-! ### `hip_check_i2` keeps versions -/

/-- The association of an I2 that is not a retransmission takes over the version of the one it
replaces: `i2SetupHa` keeps the versions when the context's association is the one the
database has for the I2's HITs, as the gate hands it on. -/
theorem i2SetupHa_keepsVersions {hadb hadb' : List HipHa} {ctx ctx' : HipPacketContext}
    {skip : Bool} {v : Nat} (h : i2SetupHa hadb ctx = .ok (skip, v, hadb', ctx'))
    (hentry : hipHadbFindByhits hadb ctx.inputMsg.hitSender ctx.inputMsg.hitReceiver =
      ctx.hadbEntry) :
    KeepsVersions hadb hadb' := by
  rcases hha : ctx.hadbEntry with _ | old
  · simp only [i2SetupHa, hha, pure_bind, Bool.false_eq_true, ite_false, pure_eq_ok,
      Except.ok.injEq, Prod.mk.injEq] at h
    obtain ⟨-, -, rfl, -⟩ := h
    refine keepsVersions_insert fun w hw _ ↦ ?_
    change hadbVersion hadb ctx.inputMsg.hitSender ctx.inputMsg.hitReceiver = some w at hw
    rw [hadbVersion, hentry, hha] at hw
    cases hw
  simp only [i2SetupHa, hha, bind_eq_ok] at h
  obtain ⟨re, -, h⟩ := h
  split at h
  · cases h
    exact .refl _
  simp only [pure_bind, pure_eq_ok, Except.ok.injEq, Prod.mk.injEq] at h
  obtain ⟨-, -, rfl, -⟩ := h
  -- the old association answers for the I2's pair of HITs, so for exactly the queries the new
  -- one answers
  have hold : old.hasHits ctx.inputMsg.hitSender ctx.inputMsg.hitReceiver := by
    rw [hha] at hentry
    have hfound := List.find?_some hentry
    exact hfound
  intro hit hit2 w hw hw0
  unfold hadbVersion at hw ⊢
  rw [hipHadbFindByhits_insert]
  split
  · rename_i hhits
    unfold hipHadbFindByhits at hw
    rw [HipHa.hasHits_eq hhits] at hw
    change (hipHadbFindByhits hadb ctx.inputMsg.hitSender ctx.inputMsg.hitReceiver).map
      (·.hipVersion) = some w at hw
    rw [hentry, hha, Option.map_some', Option.some.injEq] at hw
    subst hw
    have hw0' : old.hipVersion.toNat ≠ 0 := fun h0 ↦ hw0 (UInt8.eq_of_val_eq (Fin.ext h0))
    simp [i2NewHa, i2HipVersion, hw0']
  · rename_i hhits
    rw [hipHadbFindByhits_del (by
      rw [@HipHa.hasHits_of_hasHits old (i2NewHa ctx _) hold]; simpa using hhits)]
    exact hw

/-- The database after `hip_check_i2` is the one it was given, when the I2 is refused before the
association is set up, or the one `i2SetupHa` left: no later check undoes the setup. -/
theorem hipCheckI2_hadb {env : CheckI2Env} {crypto : KeymatCrypto} {dh : Bytes → Option Bytes}
    {hadb hadb' : List HipHa} {ctx ctx' : HipPacketContext} {err : Int}
    (h : hipCheckI2 env crypto dh hadb ctx = .ok (err, hadb', ctx')) :
    hadb' = hadb ∨ ∃ skip v ctx1, i2SetupHa hadb ctx = .ok (skip, v, hadb', ctx1) := by
  simp only [hipCheckI2, pure_bind] at h
  by_cases hour : (!env.hitIsOur ctx.inputMsg.hitReceiver) = true
  · rw [if_pos hour] at h; cases h; exact .inl rfl
  rw [if_neg hour] at h
  by_cases hsane : (!env.controlsSane ctx.inputMsg.control) = true
  · rw [if_pos hsane] at h; cases h; exact .inl rfl
  rw [if_neg hsane] at h
  obtain ⟨⟨skip, v, hadb1, ctx1⟩, hs, h⟩ := bind_eq_ok.mp h
  refine .inr ⟨skip, v, ctx1, ?_⟩
  suffices hadb' = hadb1 by rw [hs, this]
  -- every exit after the setup returns the database the setup left
  rcases hsol : hipGetParam ctx.inputMsg .solution with _ | sol <;> rw [hsol] at h
  · cases h; rfl
  rcases hdh : hipGetParam ctx.inputMsg .diffieHellman with _ | p <;> simp only [hdh] at h
  · cases h; rfl
  obtain ⟨g, -, h⟩ := bind_eq_ok.mp h
  by_cases hgroup : g ∈ env.dhGroupList
  swap
  · rw [if_pos hgroup] at h; cases h; rfl
  rw [if_neg (not_not.mpr hgroup)] at h
  obtain ⟨len, -, h⟩ := bind_eq_ok.mp h
  by_cases hlen : env.dhSize g = len
  swap
  · rw [if_pos hlen] at h; cases h; rfl
  rw [if_neg (not_not.mpr hlen)] at h
  split at h
  · cases h; rfl
  split at h
  · split at h <;> cases h <;> rfl
  obtain ⟨_, -, h⟩ := bind_eq_ok.mp h
  obtain ⟨_, -, h⟩ := bind_eq_ok.mp h
  obtain ⟨_, -, h⟩ := bind_eq_ok.mp h
  split at h <;> cases h <;> rfl

theorem hipCheckI2_keepsVersions {env : CheckI2Env} {crypto : KeymatCrypto}
    {dh : Bytes → Option Bytes} {hadb hadb' : List HipHa} {ctx ctx' : HipPacketContext}
    {err : Int} (h : hipCheckI2 env crypto dh hadb ctx = .ok (err, hadb', ctx'))
    (hentry : hipHadbFindByhits hadb ctx.inputMsg.hitSender ctx.inputMsg.hitReceiver =
      ctx.hadbEntry) :
    KeepsVersions hadb hadb' := by
  obtain rfl | ⟨_, _, _, hs⟩ := hipCheckI2_hadb h
  · exact .refl _
  · exact i2SetupHa_keepsVersions hs hentry

/-- The gate hands a packet other than an I1 or R1 on with the association the database it
leaves has for the packet's HITs. -/
theorem hipReceiveControlPacket_hadbEntry {env : ReceiveEnv} {hadb hadb' : List HipHa}
    {ctx ctx' : HipPacketContext} {type : Nat} {state : Option HipState}
    (h : hipReceiveControlPacket env hadb ctx = (.handle type state ctx', hadb'))
    (hi1 : type ≠ hipI1) (hr1 : type ≠ hipR1) :
    hipHadbFindByhits hadb' ctx'.inputMsg.hitSender ctx'.inputMsg.hitReceiver = ctx'.hadbEntry := by
  obtain ⟨rfl, hin, ⟨-, hnone, rfl, hfind⟩ | ⟨ha, -, hfind | htype, ha', hentry, -, rfl, hdb⟩⟩ :=
    hipReceiveControlPacket_handle h
  · rw [hin, hnone, hfind]
  · have hhits : ha.hasHits ctx.inputMsg.hitSender ctx.inputMsg.hitReceiver := by
      have hfound := List.find?_some hfind
      exact hfound
    rw [hin, hentry]
    rcases hdb with ⟨-, rfl⟩ | ⟨hv, rfl⟩
    · exact (hipHadbFindByhits_insert _ _ _ _).trans (if_pos hhits)
    · rw [hfind, ← hv]
  · exact absurd htype (not_or.mpr ⟨hi1, hr1⟩)

/-! ### A run of received packets -/

/-- The handlers of a packet's type and state (`hip_run_handle_functions`), given the database
and the context the gate hands on, with the database they leave. -/
abbrev Handlers := Nat → Option HipState → List HipHa → HipPacketContext → Except Fault (List HipHa)

/-- One received packet: the gate, then the handlers of what it hands on. -/
def receiveStep (env : ReceiveEnv) (handle : Handlers) (hadb : List HipHa)
    (ctx : HipPacketContext) : Except Fault (List HipHa) :=
  match hipReceiveControlPacket env hadb ctx with
  | (.drop, hadb) => pure hadb
  | (.handle type state ctx, hadb) => handle type state hadb ctx

/-- The database after the received packets `ctxs`, one after the other. -/
def receiveRun (env : ReceiveEnv) (handle : Handlers) : List HipHa → List HipPacketContext →
    Except Fault (List HipHa)
  | hadb, [] => pure hadb
  | hadb, ctx :: ctxs => do
    let hadb ← receiveStep env handle hadb ctx
    receiveRun env handle hadb ctxs

/-- The handlers keep the versions of every database the gate hands them a packet with. -/
def HandlersKeepVersions (env : ReceiveEnv) (handle : Handlers) : Prop :=
  ∀ hadb0 ctx0 type state ctx hadb hadb',
    hipReceiveControlPacket env hadb0 ctx0 = (.handle type state ctx, hadb) →
    handle type state hadb ctx = .ok hadb' → KeepsVersions hadb hadb'

/-- `hip_check_i2` run on an I2 before the handlers `handle`, which get the database and the
context it leaves, its error field included. -/
def checkI2Handlers (checkEnv : CheckI2Env) (crypto : KeymatCrypto) (dh : Bytes → Option Bytes)
    (handle : Handlers) : Handlers := fun type state hadb ctx ↦
  if type = hipI2 then do
    let (_, hadb, ctx) ← hipCheckI2 checkEnv crypto dh hadb ctx
    handle type state hadb ctx
  else handle type state hadb ctx

section Run

variable {env : ReceiveEnv} {handle : Handlers}

theorem receiveStep_keepsVersions (hkeep : HandlersKeepVersions env handle)
    {hadb hadb' : List HipHa} {ctx : HipPacketContext}
    (h : receiveStep env handle hadb ctx = .ok hadb') : KeepsVersions hadb hadb' := by
  have hgate := hipReceiveControlPacket_keepsVersions env hadb ctx
  unfold receiveStep at h
  split at h
  · rename_i hadb1 hr
    rw [hr] at hgate
    cases h
    exact hgate
  · rename_i type state ctx1 hadb1 hr
    rw [hr] at hgate
    exact hgate.trans (hkeep _ _ _ _ _ _ _ hr h)

/-- `hip_check_i2` keeps the versions of what the gate hands it, so putting it in front of
handlers that keep every database's versions gives handlers that keep them over a run. -/
theorem checkI2Handlers_keepVersions
    (hkeep : ∀ type state hadb ctx hadb', handle type state hadb ctx = .ok hadb' →
      KeepsVersions hadb hadb')
    (checkEnv : CheckI2Env) (crypto : KeymatCrypto) (dh : Bytes → Option Bytes) :
    HandlersKeepVersions env (checkI2Handlers checkEnv crypto dh handle) := by
  intro hadb0 ctx0 type state ctx hadb hadb' hr h
  unfold checkI2Handlers at h
  split at h
  · rename_i hi2
    obtain ⟨⟨err, hadb1, ctx1⟩, hcheck, h⟩ := bind_eq_ok.mp h
    have hentry := hipReceiveControlPacket_hadbEntry hr (by rw [hi2]; decide)
      (by rw [hi2]; decide)
    exact (hipCheckI2_keepsVersions hcheck hentry).trans (hkeep _ _ _ _ _ h)
  · exact hkeep _ _ _ _ _ h

/-- Over any sequence of received packets, no association's HIP version changes once it is set,
when the handlers change none either. -/
theorem receiveRun_keepsVersions (hkeep : HandlersKeepVersions env handle)
    {hadb hadb' : List HipHa} {ctxs : List HipPacketContext}
    (h : receiveRun env handle hadb ctxs = .ok hadb') : KeepsVersions hadb hadb' := by
  induction ctxs generalizing hadb with
  | nil =>
    cases h
    exact .refl _
  | cons ctx ctxs ih =>
    obtain ⟨hadb1, hstep, hrun⟩ := bind_eq_ok.mp h
    exact (receiveStep_keepsVersions hkeep hstep).trans (ih hrun)

/-- The responder 1 with `hip_check_i2` alone, refusing every cookie. -/
def replacingHandlers : Handlers :=
  checkI2Handlers (i2TestEnv (fun _ ↦ false) fun ctx ↦ (0, ctx))
    (suiteCrypto truncatingSha1 1 1 ⟨16, 20, 16, 20⟩) (fun _ ↦ none) fun _ _ hadb _ ↦ pure hadb

/-- An I2 at HIP_V1 with another SPI than the one the HIP_V1 association recorded replaces the
association, at HIP_V1, before its cookie is refused. -/
theorem receiveRun_replacedI2 :
    receiveRun receiveTestEnv replacingHandlers [v1Ha] [espInfoI2Ctx 2 1 1 72 8 3 192 none] =
      .ok [i2NewHa (espInfoI2Ctx 2 1 1 72 8 3 192 none) 1] ∧
    KeepsVersions [v1Ha] [i2NewHa (espInfoI2Ctx 2 1 1 72 8 3 192 none) 1] :=
  have hrun : receiveRun receiveTestEnv replacingHandlers [v1Ha]
      [espInfoI2Ctx 2 1 1 72 8 3 192 none] = .ok [i2NewHa (espInfoI2Ctx 2 1 1 72 8 3 192 none) 1] :=
    rfl
  ⟨hrun, receiveRun_keepsVersions
    (checkI2Handlers_keepVersions (fun _ _ _ _ _ h ↦ by cases h; exact .refl _) _ _ _) hrun⟩

end Run

end Hipl.Hipd
