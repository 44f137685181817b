import Hipl.Hipd.R1

/-!
# The checks of a received I2

`hip_check_i2` decides which host association a received I2 is checked against. When the I2 is
a retransmission of the one that created the existing association (`i2_is_retransmission`: its
ESP_INFO has the association's new outbound SPI and KEYMAT index), the association is reused
and its keys are not made again. Otherwise the existing association is deleted and a new one
inserted in its place, at the old association's HIP version or, without one, the I2's. Only
then are the SOLUTION and the DIFFIE_HELLMAN checked, the cookie verified and the keys made.

Two results are about what the paths leave. A retransmission is checked with the local
`hip_version` still 0, the value it starts with, and with the I2's DH group: not the arguments
the first arrival of the same I2 was checked with (`hipCheckI2_retransmission_cookie`). And an
I2 that is not a retransmission replaces the association before any of its checks, so one that
then fails them still leaves the database changed (`hipCheckI2_cookie_rejected`).

Scope. hadb.c, cookie.c and the checks after the keys (HMAC, HIP_TRANSFORM, HOST_ID, signature)
are not modelled from source: the database follows the spec (§3: one association per pair of
HITs), the cookie check, the sanity check of the controls, the DH groups and their sizes are
parameters, and what follows the keys is a parameter too.
-/

set_option autoImplicit false
set_option relaxedAutoImplicit false

namespace Hipl.Hipd

open Hipl.Wire

/-- `HIP_V1`. -/
def hipV1 : Nat := 1

/-- The arguments of `hip_verify_cookie`: the two addresses, the I2, its SOLUTION, the HIP
version and the DH group. -/
structure CookieQuery where
  srcAddr : Hit
  dstAddr : Hit
  msg : HipCommon
  solution : Nat
  hipVersion : Nat
  dhGroupId : Nat
  deriving DecidableEq, Repr

/-- What `hip_check_i2` calls outside the sources: `hip_hidb_hit_is_our`, `hip_controls_sane`
on the I2's controls, `HIP_DH_GROUP_LIST`, `hip_get_dh_size`, `hip_verify_cookie` (true when
it returns 0), and the checks after the keys, with the error code they return. -/
structure CheckI2Env where
  hitIsOur : Hit → Bool
  controlsSane : Nat → Bool
  dhGroupList : List Nat
  dhSize : Nat → Nat
  verifyCookie : CookieQuery → Bool
  remainingChecks : HipPacketContext → Int × HipPacketContext

/-! ### The host association database -/

/-- Modelled from the spec: `hip_del_peer_info_entry`, the association of a pair of HITs leaves
the database (§3). -/
def hipDelPeerInfoEntry (hadb : List HipHa) (ha : HipHa) : List HipHa :=
  hadb.filter fun e ↦ !(e.hitOur == ha.hitOur && e.hitPeer == ha.hitPeer)

/-- Modelled from the spec: `hip_hadb_insert_state`, the association under its pair of HITs
(§3). -/
def hipHadbInsertState (hadb : List HipHa) (ha : HipHa) : List HipHa :=
  ha :: hipDelPeerInfoEntry hadb ha

/-- Modelled from the spec: the association `hip_hadb_create_state` allocates, unassociated and
empty (§3). -/
def hipHadbCreateState : HipHa :=
  ⟨0, 0, .unassociated, false, 0, 0, 0, 0, 0, [], 0, ⟨[], [], [], [], [], [], [], []⟩, 0, 0, 0, [],
    [], [], [], 0, 0⟩

/-! ### `hip_check_i2` -/

/-- `i2_is_retransmission`: the I2's ESP_INFO has the association's new outbound SPI and its
ESP KEYMAT index. -/
def i2IsRetransmission (msg : HipCommon) (ha : HipHa) : Except Fault Bool :=
  match hipGetParam msg .espInfo with
  | none => pure false
  | some p => do
    let newSpi ← hipEspInfoNewSpi msg (some p)
    let keymatIndex ← hipEspInfoKeymatIndex msg (some p)
    pure (ha.spiOutboundNew.toNat == newSpi && ha.espKeymatIndex.toNat == keymatIndex)

/-- The HIP version of the association an I2 that is not a retransmission creates: the old
association's, or the I2's without one or when that is 0. -/
def i2HipVersion (old : Option HipHa) (msg : HipCommon) : Nat :=
  let hipVersion := match old with
    | some ha => ha.hipVersion.toNat
    | none => 0
  if hipVersion = 0 then msg.version else hipVersion

/-- The association an I2 that is not a retransmission creates: for the I2's sender, at the
given HIP version, initialised for the I2's receiver (`hip_init_us`). -/
def i2NewHa (ctx : HipPacketContext) (hipVersion : Nat) : HipHa :=
  { hipHadbCreateState with
    hipVersion := UInt8.ofNat hipVersion
    hitPeer := ctx.inputMsg.hitSender
    ourAddr := ctx.dstAddr
    hitOur := ctx.inputMsg.hitReceiver }

/-- The association an I2 is checked against, with whether key creation is skipped and the
local `hip_version`: the existing association for a retransmission, with `hip_version` left at
0; otherwise a new one, put into the database in place of the old one. -/
def i2SetupHa (hadb : List HipHa) (ctx : HipPacketContext) :
    Except Fault (Bool × Nat × List HipHa × HipPacketContext) := do
  let retransmission ← match ctx.hadbEntry with
    | some ha => i2IsRetransmission ctx.inputMsg ha
    | none => pure false
  if retransmission then return (true, 0, hadb, ctx)
  let hadb := match ctx.hadbEntry with
    | some ha => hipDelPeerInfoEntry hadb ha
    | none => hadb
  let hipVersion := i2HipVersion ctx.hadbEntry ctx.inputMsg
  let ha := i2NewHa ctx hipVersion
  pure (false, hipVersion, hipHadbInsertState hadb ha, { ctx with hadbEntry := some ha })

/-- The DH group `hip_verify_cookie` is given: none for HIP_V1. -/
def i2CookieDhGroup (hipVersion dhGroupId : Nat) : Nat :=
  if hipVersion = hipV1 then 0 else dhGroupId

/-- The exit through `out_err`: a nonzero error is also recorded in `ctx->error`. -/
def i2OutErr (err : Int) (ctx : HipPacketContext) : HipPacketContext :=
  if err = 0 then ctx else { ctx with error := err }

/-- `hip_check_i2(packet_type, ha_state, ctx)` on the database `hadb`. The error codes are
`-ENODATA` (-61) for a missing SOLUTION or DIFFIE_HELLMAN, `-EINVAL` (-22) for a DH group that
is not in the list or a public value of the wrong length, and `-EPROTO` (-71) for a rejected
cookie or failed keys; the SOLUTION, cookie and key exits and the checks after the keys leave
through `out_err`. -/
def hipCheckI2 (env : CheckI2Env) (crypto : KeymatCrypto) (dh : Bytes → Option Bytes)
    (hadb : List HipHa) (ctx : HipPacketContext) :
    Except Fault (Int × List HipHa × HipPacketContext) := do
  let msg := ctx.inputMsg
  if !env.hitIsOur msg.hitReceiver then return (-1, hadb, ctx)
  if !env.controlsSane msg.control then return (-1, hadb, ctx)
  let (skipKeyCreation, hipVersion, hadb, ctx) ← i2SetupHa hadb ctx
  let some solution := hipGetParam msg .solution | return (-61, hadb, i2OutErr (-61) ctx)
  let some dhParam := hipGetParam msg .diffieHellman | return (-61, hadb, { ctx with error := -61 })
  let dhGroupId ← hipDhGroupId msg (some dhParam)
  if dhGroupId ∉ env.dhGroupList then return (-22, hadb, { ctx with error := -22 })
  let pubLen ← hipDhPubLen msg (some dhParam)
  if env.dhSize dhGroupId ≠ pubLen then return (-22, hadb, { ctx with error := -22 })
  let query : CookieQuery := ⟨ctx.srcAddr, ctx.dstAddr, msg, solution, hipVersion,
    i2CookieDhGroup hipVersion dhGroupId⟩
  if !env.verifyCookie query then return (-71, hadb, i2OutErr (-71) ctx)
  let (err, ctx) ← if skipKeyCreation then pure (0, ctx) else do
    let I ← hipSolutionI msg (some solution)
    let J ← hipSolutionJ msg (some solution)
    produceKeyingMaterial crypto dh ctx I J
  if err ≠ 0 then return (-71, hadb, i2OutErr (-71) ctx)
  let (err, ctx) := env.remainingChecks ctx
  pure (err, hadb, i2OutErr err ctx)

/-! ### The two paths -/

section Paths

variable {env : CheckI2Env} {crypto : KeymatCrypto} {dh : Bytes → Option Bytes}
  {hadb : List HipHa} {ctx : HipPacketContext} {ha : HipHa}

theorem i2SetupHa_retransmission (hha : ctx.hadbEntry = some ha)
    (hre : i2IsRetransmission ctx.inputMsg ha = .ok true) :
    i2SetupHa hadb ctx = .ok (true, 0, hadb, ctx) := by
  simp [i2SetupHa, hha, hre]

theorem i2SetupHa_replace (hha : ctx.hadbEntry = some ha)
    (hre : i2IsRetransmission ctx.inputMsg ha = .ok false) :
    i2SetupHa hadb ctx = .ok (false, i2HipVersion (some ha) ctx.inputMsg,
      hipHadbInsertState (hipDelPeerInfoEntry hadb ha) (i2NewHa ctx (i2HipVersion (some ha) ctx.inputMsg)),
      { ctx with hadbEntry := some (i2NewHa ctx (i2HipVersion (some ha) ctx.inputMsg)) }) := by
  simp [i2SetupHa, hha, hre]

section Checks

variable {sol p g : Nat} (hour : env.hitIsOur ctx.inputMsg.hitReceiver = true)
  (hsane : env.controlsSane ctx.inputMsg.control = true)
  (hsol : hipGetParam ctx.inputMsg .solution = some sol)
  (hdh : hipGetParam ctx.inputMsg .diffieHellman = some p)
  (hg : hipDhGroupId ctx.inputMsg (some p) = .ok g) (hgl : g ∈ env.dhGroupList)
  (hlen : hipDhPubLen ctx.inputMsg (some p) = .ok (env.dhSize g))
include hour hsane hsol hdh hg hgl hlen

/-- A retransmission that passes the DH checks has its cookie verified at HIP version 0, the
value the local `hip_version` starts with, and with the I2's DH group, whatever the version of
the association; the keys are not made again. -/
theorem hipCheckI2_retransmission_cookie (hha : ctx.hadbEntry = some ha)
    (hre : i2IsRetransmission ctx.inputMsg ha = .ok true) :
    hipCheckI2 env crypto dh hadb ctx =
      if env.verifyCookie ⟨ctx.srcAddr, ctx.dstAddr, ctx.inputMsg, sol, 0, g⟩ then
        .ok ((env.remainingChecks ctx).1, hadb,
          i2OutErr (env.remainingChecks ctx).1 (env.remainingChecks ctx).2)
      else .ok (-71, hadb, i2OutErr (-71) ctx) := by
  simp [hipCheckI2, hour, hsane, i2SetupHa_retransmission hha hre, hsol, hdh, hg, hgl, hlen,
    i2CookieDhGroup, hipV1]
  split <;> simp_all

/-- An I2 that is not a retransmission and whose cookie is rejected is dropped, but its
association has already replaced the old one in the database. -/
theorem hipCheckI2_cookie_rejected (hha : ctx.hadbEntry = some ha)
    (hre : i2IsRetransmission ctx.inputMsg ha = .ok false)
    (hv : env.verifyCookie ⟨ctx.srcAddr, ctx.dstAddr, ctx.inputMsg, sol,
      i2HipVersion (some ha) ctx.inputMsg,
      i2CookieDhGroup (i2HipVersion (some ha) ctx.inputMsg) g⟩ = false) :
    hipCheckI2 env crypto dh hadb ctx = .ok (-71,
      hipHadbInsertState (hipDelPeerInfoEntry hadb ha) (i2NewHa ctx (i2HipVersion (some ha) ctx.inputMsg)),
      i2OutErr (-71)
        { ctx with hadbEntry := some (i2NewHa ctx (i2HipVersion (some ha) ctx.inputMsg)) }) := by
  simp [hipCheckI2, hour, hsane, i2SetupHa_replace hha hre, hsol, hdh, hg, hgl, hlen, hv]

end Checks

end Paths

/-! ### Two I2s -/

/-- An I2 from `sender` to `receiver` at HIP version `version`, with an ESP_INFO of KEYMAT
index `keymatIndex` and new SPI `newSpi`, a SOLUTION, and a DIFFIE_HELLMAN of group `group`
with a public value of `pubLen` bytes, arriving at the association `ha`. -/
def espInfoI2Ctx (sender receiver : Hit) (version keymatIndex newSpi group pubLen : Nat)
    (ha : Option HipHa) : HipPacketContext :=
  ⟨⟨hipI2, version, 0, sender, receiver,
    [⟨.espInfo, [0, 0] ++ beBytes 2 keymatIndex ++ beBytes 4 0 ++ beBytes 4 newSpi⟩,
      ⟨.solution, [10, 0, 0, 0] ++ List.replicate 16 0⟩,
      ⟨.diffieHellman, UInt8.ofNat group :: beBytes 2 pubLen⟩]⟩,
    ⟨0, 0, 0, 0, 0, []⟩, sender, receiver, 0, ha, 0⟩

/-- A responder with HIT 1 whose DH groups are group 3 alone, of 192 bytes, with the given
cookie check and later checks. -/
def i2TestEnv (verifyCookie : CookieQuery → Bool)
    (remainingChecks : HipPacketContext → Int × HipPacketContext) : CheckI2Env :=
  ⟨fun hit ↦ hit == 1, fun _ ↦ true, [3], fun _ ↦ 192, verifyCookie, remainingChecks⟩

/-- The responder 1's association with 2, at HIP_V1, created by an I2 whose ESP_INFO had new
SPI 7 and KEYMAT index 72. -/
def v1Ha : HipHa :=
  { crossingHa 1 2 .r2Sent with hipVersion := 1, spiOutboundNew := 7, espKeymatIndex := 72 }

/-- The same I2 again, at the association it created: whatever the cookie check, it is asked
about HIP version 0 and DH group 3, where a HIP_V1 I2 is otherwise checked at version 1 with
no group. -/
theorem retransmittedV1I2_cookieQuery (verifyCookie : CookieQuery → Bool)
    (remainingChecks : HipPacketContext → Int × HipPacketContext) (crypto : KeymatCrypto)
    (dh : Bytes → Option Bytes) :
    hipCheckI2 (i2TestEnv verifyCookie remainingChecks) crypto dh [v1Ha]
        (espInfoI2Ctx 2 1 1 72 7 3 192 (some v1Ha)) =
      if verifyCookie ⟨2, 1, (espInfoI2Ctx 2 1 1 72 7 3 192 (some v1Ha)).inputMsg, 1, 0, 3⟩ then
        .ok ((remainingChecks (espInfoI2Ctx 2 1 1 72 7 3 192 (some v1Ha))).1, [v1Ha],
          i2OutErr (remainingChecks (espInfoI2Ctx 2 1 1 72 7 3 192 (some v1Ha))).1
            (remainingChecks (espInfoI2Ctx 2 1 1 72 7 3 192 (some v1Ha))).2)
      else .ok (-71, [v1Ha], i2OutErr (-71) (espInfoI2Ctx 2 1 1 72 7 3 192 (some v1Ha))) :=
  hipCheckI2_retransmission_cookie rfl rfl rfl rfl rfl (List.mem_singleton.2 rfl) rfl rfl rfl

/-- An established association of 1 with 2, and an I2 from 2 whose ESP_INFO matches nothing
and whose cookie solution is rejected: the I2 is dropped, and the established association has
been replaced by an unassociated one. -/
theorem rejectedI2_replacesEstablished
    (remainingChecks : HipPacketContext → Int × HipPacketContext) (crypto : KeymatCrypto)
    (dh : Bytes → Option Bytes) :
    ∃ hadb' ctx', hipCheckI2 (i2TestEnv (fun _ ↦ false) remainingChecks) crypto dh
        [crossingHa 1 2 .established]
        (espInfoI2Ctx 2 1 2 0 9 3 192 (some (crossingHa 1 2 .established))) =
        .ok (-71, hadb', ctx') ∧
      hadb' ≠ [crossingHa 1 2 .established] ∧ ∀ ha ∈ hadb', ha.state = .unassociated :=
  ⟨_, _, hipCheckI2_cookie_rejected rfl rfl rfl rfl rfl (List.mem_singleton.2 rfl) rfl rfl rfl rfl,
    by decide, by decide⟩

end Hipl.Hipd
