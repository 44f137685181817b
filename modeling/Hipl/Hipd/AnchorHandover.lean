import Hipl.Hipd.State
import Hipl.Wire.Params

/-!
# The anchors the firewall hands the daemon

With userspace IPsec the firewall runs the hash chains of the ESP protection extension and tells
the daemon when an association needs new ones, in two user messages (esp_prot_hipd_msg.c). A
trigger update (`espProtHandleTriggerUpdateMsg`) carries the anchors of the next chains, which
the daemon keeps as the association's local update anchors, whose slots must be free, together
with the roots of the link trees and, for a soft update, what the light update module sends the
peer. An anchor change (`espProtHandleAnchorChangeMsg`) says that the firewall has moved on to
the next chains: the daemon checks the anchors it names against the update anchors, makes those
the active anchors and frees the update slots. When the daemon adds an SA it tells the firewall
the anchors the SA starts from (`espProtSaAdd`).

The daemon handles the firewall's messages about an association one after another
(`handoverRun`). What each handler can do to the anchors is said once, by an inversion lemma per
handler and per loop body, and the results follow from these. Over any run every local anchor,
active or update, is one the association had, zero, or an anchor a trigger update of the run
carried (`handoverRun_anchorsFrom`); and a new outbound SA starts from the anchor the trigger
update carried for the first chain (`handover_saAdd`).

The anchor change reads the number of chains from the parameter that holds the direction, as a
`long` where the direction is an `int`. With the direction out, the low four bytes of that number
are `1`, and no count but `1` fits an array of at most `2 ^ 32` chains: a change that succeeds
moves the first chain only (`espProtHandleAnchorChangeMsg_firstChain`), and the update anchor of
any other chain, once set, stays pending while the changes succeed
(`handoverRun_pendingStuck`).

Scope. The integers of the user messages are in host byte order, little-endian on the hosts hipl
runs on, with `int` four bytes and `long` eight. `esp_prot_send_light_update` is in
esp_prot_light_update.c, which is not among the sources; it is a parameter, and the association
fields it changes are not modelled. `hip_hadb_find_byhits` is the association database; the
handlers are given what it finds for the two HITs, which they read. The debugging output of the
handlers is left out.
-/

set_option autoImplicit false
set_option relaxedAutoImplicit false

namespace Hipl.Hipd

open Hipl.Wire Hipl.EspProt

/-! ### The firewall's user messages

The parameter types of the user messages between firewall and daemon (`HIP_PARAM_HIT`,
`HIP_PARAM_INT`, `HIP_PARAM_ESP_PROT_TFM`, `HIP_PARAM_HCHAIN_ANCHOR`, `HIP_PARAM_ROOT`,
`HIP_PARAM_ITEM_LENGTH`, `HIP_PARAM_UINT`) are numbered in protodefs.h, which is not among the
sources. The code only compares types, so the numbers below stand for any seven distinct types
other than those of the control messages. -/

def hipParamHit : HipParamType := .other 32768
def hipParamInt : HipParamType := .other 32769
def hipParamEspProtTfm : HipParamType := .other 32770
def hipParamHchainAnchor : HipParamType := .other 32771
def hipParamRoot : HipParamType := .other 32772
def hipParamItemLength : HipParamType := .other 32773
def hipParamUint : HipParamType := .other 32774

/-- `HIP_SPI_DIRECTION_OUT` (state.h). -/
def hipSpiDirectionOut : Int := 1

/-- `sizeof(int)`, `sizeof(long)` and `sizeof(hip_hit_t)`. -/
def sizeofInt : Nat := 4
def sizeofLong : Nat := 8
def sizeofHit : Nat := 16

/-- A number in host byte order. -/
def leNat : Bytes → Nat
  | [] => 0
  | b :: bs => b.toNat + 256 * leNat bs

/-- A number as `width` bytes in host byte order. -/
def leBytes : Nat → Nat → Bytes
  | 0, _ => []
  | width + 1, n => UInt8.ofNat (n % 256) :: leBytes width (n / 256)

/-- The value of a signed integer type of `width` bytes whose bits are `v`: two's complement. -/
def toSigned (width v : Nat) : Int :=
  if v < 2 ^ (8 * width - 1) then v else (v : Int) - 2 ^ (8 * width)

/-- `*((const T *) hip_get_param_contents_direct(p))` for an unsigned `T` of `width` bytes. -/
def paramHostNat (msg : HipCommon) (p : ParamPtr) (width : Nat) : Except Fault Nat :=
  leNat <$> paramBytes msg p 0 width

/-- The same for a signed `T`. -/
def paramHostInt (msg : HipCommon) (p : ParamPtr) (width : Nat) : Except Fault Int :=
  toSigned width <$> paramHostNat msg p width

/-! ### The trigger update -/

/-- The body of the anchor loop of `esp_prot_handle_trigger_update_msg` for chain `i`: the
chain's update slot must be free, all `MAX_HASH_LENGTH` bytes zero; the first `hashLength` bytes
of the parameter `p` points to become its update anchor, and `p` moves on. -/
def triggerChain (lim : EspProtLimits) (msg : HipCommon) (hashLength i : Nat)
    (ha : HipHadbState) (p : ParamPtr) : Except Fault (Int × HipHadbState × ParamPtr) := do
  let row ← arrayGet ha.espLocalUpdateAnchors i
  if !slotEq row (zeroSlot lim) lim.maxHashLength then pure (-1, ha, p) else do
    let anchor ← paramBytes msg p 0 hashLength
    let rows ← memcpyRow ha.espLocalUpdateAnchors i anchor hashLength
    pure (0, { ha with espLocalUpdateAnchors := rows }, hipGetNextParam msg p)

/-- The body of the root loop for chain `i`: the chain's root becomes the first `rootLength`
bytes of the parameter `p` points to, and `p` moves on. -/
def triggerRoot (msg : HipCommon) (rootLength i : Nat) (ha : HipHadbState) (p : ParamPtr) :
    Except Fault (HipHadbState × ParamPtr) := do
  let root ← paramBytes msg p 0 rootLength
  let rows ← memcpyRow ha.espRoot i root rootLength
  pure ({ ha with espRoot := rows }, hipGetNextParam msg p)

/-- What the soft update loop reads for one chain and hands `esp_prot_send_light_update`: the
anchor offset, the lengths of the secret and of the branch, and where secret and branch nodes
are. -/
structure LightUpdateItem where
  anchorOffset : Int
  secretLength : Int
  branchLength : Int
  secret : ParamPtr
  branchNodes : ParamPtr
  deriving DecidableEq, Repr

/-- The body of the soft update loop: the five parameters after `p`. -/
def triggerLightItem (msg : HipCommon) (items : List LightUpdateItem) (p : ParamPtr) :
    Except Fault (List LightUpdateItem × ParamPtr) := do
  let p := hipGetNextParam msg p
  let anchorOffset ← paramHostInt msg p sizeofInt
  let p := hipGetNextParam msg p
  let secretLength ← paramHostInt msg p sizeofInt
  let p := hipGetNextParam msg p
  let branchLength ← paramHostInt msg p sizeofInt
  let secret := hipGetNextParam msg p
  let branchNodes := hipGetNextParam msg secret
  pure (items ++ [⟨anchorOffset, secretLength, branchLength, secret, branchNodes⟩], branchNodes)

/-- The root loop, run when the root length is positive from the first ROOT parameter on; the
parameter pointer stays where it was otherwise. -/
def triggerRoots (msg : HipCommon) (num : Int) (rootLength : Nat) (ha : HipHadbState)
    (p : ParamPtr) : Except Fault (HipHadbState × ParamPtr) :=
  if 0 < toSigned sizeofInt rootLength then
    forUpTo num (fun i s ↦ triggerRoot msg rootLength i s.1 s.2)
      (ha, hipGetParam msg hipParamRoot)
  else pure (ha, p)

/-- What `esp_prot_handle_trigger_update_msg` does after the anchors, from the parameter `p`
after the last one: the root length, the roots when it is positive, and the soft update flag,
read from the parameter after the last root or, without roots, from the root length's own
parameter; for a soft update, the light update. -/
def triggerRootsAndSoftUpdate (sendLightUpdate : HipHadbState → List LightUpdateItem → Int)
    (msg : HipCommon) (num : Int) (ha : HipHadbState) (p : ParamPtr) :
    Except Fault (Int × HipHadbState) := do
  let rootLength ← paramHostNat msg p sizeofInt
  let (ha, p) ←
    triggerRoots msg num rootLength { ha with espRootLength := UInt8.ofNat rootLength } p
  let softUpdate ← paramHostInt msg p sizeofInt
  if softUpdate = 0 then pure (0, ha) else do
    let (items, _) ← forUpTo num (fun _ s ↦ triggerLightItem msg s.1 s.2) ([], p)
    pure (if sendLightUpdate ha items ≠ 0 then -1 else 0, ha)

/-- `esp_prot_handle_trigger_update_msg`: `entry` is the association the two HITs name, the
result the return value and the association after the call. -/
def espProtHandleTriggerUpdateMsg (lim : EspProtLimits) (db : AnchorDb)
    (sendLightUpdate : HipHadbState → List LightUpdateItem → Int) (msg : HipCommon)
    (entry : Option HipHadbState) : Except Fault (Int × Option HipHadbState) := do
  let localHit := hipGetParam msg hipParamHit
  let peerHit := hipGetNextParam msg localHit
  let _ ← paramBytes msg localHit 0 sizeofHit
  let _ ← paramBytes msg peerHit 0 sizeofHit
  match entry with
  | none => pure (-1, none)
  | some ha => do
    let tfm ← paramNat msg (hipGetParam msg hipParamEspProtTfm) 0 1
    if ha.espProtTransform.toNat ≠ tfm then pure (-1, some ha) else do
      let p := hipGetParam msg hipParamInt
      let hashItemLength ← paramHostNat msg p sizeofInt
      let ha := { ha with hashItemLength }
      let hashLength := db.anchorLength ha.espProtTransform
      let num ← paramHostInt msg (hipGetNextParam msg p) sizeofLong
      let (err, ha, p) ← forUpToErr num (fun i s ↦ triggerChain lim msg hashLength i s.1 s.2)
        (ha, hipGetParam msg hipParamHchainAnchor)
      if err ≠ 0 then pure (err, some ha) else do
        let (err, ha) ← triggerRootsAndSoftUpdate sendLightUpdate msg num ha p
        pure (err, some ha)

/-! ### The anchor change -/

/-- The body of the loop of `esp_prot_handle_anchor_change_msg` for chain `i`: the parameter `p`
points to must start with the chain's update anchor, which becomes the active anchor; the update
slot is cleared, and `p` moves on. -/
def changeChain (lim : EspProtLimits) (msg : HipCommon) (hashLength i : Nat)
    (ha : HipHadbState) (p : ParamPtr) : Except Fault (Int × HipHadbState × ParamPtr) := do
  let row ← arrayGet ha.espLocalUpdateAnchors i
  let anchor ← paramBytes msg p 0 hashLength
  if !slotEq row anchor hashLength then pure (-1, ha, p) else do
    let active ← memcpyRow ha.espLocalAnchors i row hashLength
    let cleared ← memsetZero row lim.maxHashLength
    let update ← arraySet ha.espLocalUpdateAnchors i cleared
    pure (0, { ha with espLocalAnchors := active, espLocalUpdateAnchors := update },
      hipGetNextParam msg p)

/-- `esp_prot_handle_anchor_change_msg`. The number of chains is read from the first INT
parameter, the one that holds the direction. -/
def espProtHandleAnchorChangeMsg (lim : EspProtLimits) (db : AnchorDb) (msg : HipCommon)
    (entry : Option HipHadbState) : Except Fault (Int × Option HipHadbState) := do
  let localHit := hipGetParam msg hipParamHit
  let peerHit := hipGetNextParam msg localHit
  let direction ← paramHostInt msg (hipGetParam msg hipParamInt) sizeofInt
  let tfm ← paramNat msg (hipGetParam msg hipParamEspProtTfm) 0 1
  let num ← paramHostInt msg (hipGetParam msg hipParamInt) sizeofLong
  let anchors := hipGetParam msg hipParamHchainAnchor
  let _ ← paramBytes msg localHit 0 sizeofHit
  let _ ← paramBytes msg peerHit 0 sizeofHit
  match entry with
  | none => pure (-1, none)
  | some ha =>
    if ha.espProtTransform.toNat ≠ tfm then pure (-1, some ha)
    else if direction ≠ hipSpiDirectionOut then pure (-1, some ha)
    else do
      let hashLength := db.anchorLength ha.espProtTransform
      let (err, ha, _) ← forUpToErr num (fun i s ↦ changeChain lim msg hashLength i s.1 s.2)
        (ha, anchors)
      pure (err, some ha)

/-! ### The SA message -/

/-- `esp_prot_sa_add`: the transform and, when one is in use, the anchors of the new SA, the
update anchors or the active ones, the local ones for an outbound SA and the peer's for an
inbound one, with their hash item length and the number of chains (its two low bytes). -/
def espProtSaAdd (g : HipdGlobals) (db : AnchorDb) (ha : HipHadbState) (msg : HipCommon)
    (direction update : Int) : Except Fault (Int × HipCommon) := do
  let msg := hipBuildParam msg ⟨hipParamEspProtTfm, [ha.espProtTransform]⟩
  if espProtTfmUnused < ha.espProtTransform then do
    let hashLength := db.anchorLength ha.espProtTransform
    let (anchors, hashItemLength) :=
      if update ≠ 0 then
        if direction = hipSpiDirectionOut then (ha.espLocalUpdateAnchors, ha.espLocalUpdateLength)
        else (ha.espPeerUpdateAnchors, ha.espPeerUpdateLength)
      else if direction = hipSpiDirectionOut then (ha.espLocalAnchors, ha.espLocalActiveLength)
      else (ha.espPeerAnchors, ha.espPeerActiveLength)
    let msg := hipBuildParam msg ⟨hipParamItemLength, leBytes 4 hashItemLength⟩
    let msg := hipBuildParam msg
      ⟨hipParamUint, leBytes 2 (g.espProtNumParallelHchains % 2 ^ 16).toNat⟩
    let msg ← forUpTo g.espProtNumParallelHchains (fun i msg ↦ do
      let anchor ← arrayGet anchors i >>= (arrayPrefix · hashLength)
      pure (hipBuildParam msg ⟨hipParamHchainAnchor, anchor⟩)) msg
    pure (0, msg)
  else pure (0, msg)

/-! ### Runs -/

/-- A user message of the firewall about an association's hash chains. -/
inductive FwMsg
  | triggerUpdate (msg : HipCommon)
  | anchorChange (msg : HipCommon)

/-- The handler for the message's type. -/
def handleFwMsg (lim : EspProtLimits) (db : AnchorDb)
    (sendLightUpdate : HipHadbState → List LightUpdateItem → Int) :
    FwMsg → Option HipHadbState → Except Fault (Int × Option HipHadbState)
  | .triggerUpdate msg, entry => espProtHandleTriggerUpdateMsg lim db sendLightUpdate msg entry
  | .anchorChange msg, entry => espProtHandleAnchorChangeMsg lim db msg entry

/-- The daemon handling the firewall's messages about one association in turn: the return values
and the association after the last message. -/
def handoverRun (lim : EspProtLimits) (db : AnchorDb)
    (sendLightUpdate : HipHadbState → List LightUpdateItem → Int) :
    Option HipHadbState → List FwMsg → Except Fault (List Int × Option HipHadbState)
  | entry, [] => pure ([], entry)
  | entry, m :: ms => do
    let (err, entry) ← handleFwMsg lim db sendLightUpdate m entry
    let (errs, entry) ← handoverRun lim db sendLightUpdate entry ms
    pure (err :: errs, entry)

/-! ### Two parallel chains

A small configuration the results below are run on: two parallel chains of two-byte anchors. -/

/-- Two parallel chains, hash slots of two bytes. -/
def twoChainLimits : EspProtLimits := ⟨2, 5, 5, 8, 2⟩

/-- Two-byte anchors for every transform. -/
def twoByteAnchors : AnchorDb :=
  ⟨fun _ ↦ [], fun _ ↦ 2, fun _ ↦ 8, fun _ _ h ↦ nomatch h⟩

/-- The daemon's globals with two parallel chains. -/
def twoChainGlobals : HipdGlobals := ⟨true, 1, [espProtTfmParallel], 2⟩

/-- An association with the parallel transform, active anchors `1 1` and `2 2` and free update
slots. -/
def twoChainHa : HipHadbState :=
  ⟨espProtTfmParallel, true, [[1, 1], [2, 2]], [[0, 0], [0, 0]], [], [], 8, 8, 0, 0, 0,
    [[0, 0], [0, 0]], 8, 0, 0, 2⟩

/-- The same association with update anchors `5 5` and `6 6` pending. -/
def pendingHa : HipHadbState := { twoChainHa with espLocalUpdateAnchors := [[5, 5], [6, 6]] }

/-- The first chain moved on to `5 5`, the second still pending. -/
def movedHa : HipHadbState :=
  { pendingHa with espLocalAnchors := [[5, 5], [2, 2]], espLocalUpdateAnchors := [[0, 0], [6, 6]] }

/-- The first chain's next anchor `7 7` set, the second still pending. -/
def stuckHa : HipHadbState := { movedHa with espLocalUpdateAnchors := [[7, 7], [6, 6]] }

/-- A user message of the firewall: the two HITs, then `params`. -/
def fwMsg (params : List HipTlv) : HipCommon :=
  ⟨0, 0, 0, 0, 0,
    ⟨hipParamHit, List.replicate 16 1⟩ :: ⟨hipParamHit, List.replicate 16 2⟩ :: params⟩

/-- A trigger update of two chains with anchors `a` and `b`, without roots. -/
def twoChainTrigger (a b : Bytes) : HipCommon :=
  fwMsg [⟨hipParamEspProtTfm, [espProtTfmParallel]⟩, ⟨hipParamInt, leBytes 4 8⟩,
    ⟨hipParamInt, leBytes 8 2⟩, ⟨hipParamHchainAnchor, a⟩, ⟨hipParamHchainAnchor, b⟩,
    ⟨hipParamInt, leBytes 4 0⟩]

/-- An anchor change naming the anchors `a` and `b`, its INT parameter holding the direction out
as a `long`. -/
def twoChainChange (a b : Bytes) : HipCommon :=
  fwMsg [⟨hipParamInt, leBytes 8 1⟩, ⟨hipParamEspProtTfm, [espProtTfmParallel]⟩,
    ⟨hipParamHchainAnchor, a⟩, ⟨hipParamHchainAnchor, b⟩]

/-- A handover of both chains: their next anchors, then the change to them. -/
def twoChainHandover : List FwMsg :=
  [.triggerUpdate (twoChainTrigger [5, 5] [6, 6]), .anchorChange (twoChainChange [5, 5] [6, 6])]

/-- The change to the pending anchors, then the next trigger update. -/
def twoChainNextUpdate : List FwMsg :=
  [.anchorChange (twoChainChange [5, 5] [6, 6]), .triggerUpdate (twoChainTrigger [7, 7] [8, 8])]

/-! ### Reading the integers -/

theorem leNat_append (a b : Bytes) : leNat (a ++ b) = leNat a + 256 ^ a.length * leNat b := by
  induction a with
  | nil => simp [leNat]
  | cons x a ih =>
    rw [List.cons_append, leNat, leNat, ih, List.length_cons, pow_succ]
    ring

theorem leNat_lt (b : Bytes) : leNat b < 256 ^ b.length := by
  induction b with
  | nil => simp [leNat]
  | cons x b ih =>
    have hx : x.toNat < 256 := x.val.isLt
    rw [leNat, List.length_cons, pow_succ]
    omega

theorem paramBytes_eq_ok {msg : HipCommon} {p : ParamPtr} {off len : Nat} {b : Bytes}
    (h : paramBytes msg p off len = .ok b) :
    ∃ j tlv, p = some j ∧ msg.params[j]? = some tlv ∧ off + len ≤ tlv.contents.length ∧
      b = (tlv.contents.drop off).take len := by
  rcases p with _ | j
  · cases h
  · simp only [paramBytes] at h
    split at h
    · cases h
    · split at h
      · exact ⟨j, _, rfl, ‹_›, ‹_›, (Except.ok.inj h).symm⟩
      · cases h

/-- A shorter read of the same parameter reads the first bytes of a longer one. -/
theorem paramBytes_take {msg : HipCommon} {p : ParamPtr} {off n m : Nat} {b : Bytes}
    (h : paramBytes msg p off n = .ok b) (hm : m ≤ n) :
    paramBytes msg p off m = .ok (b.take m) := by
  obtain ⟨j, tlv, rfl, hj, hlen, rfl⟩ := paramBytes_eq_ok h
  rw [paramBytes_of_getElem? hj off m (by omega), List.take_take, Nat.min_eq_left hm]

/-- With the direction out, the `long` read from the direction's parameter is `1`, negative, or
above `2 ^ 32`: its low four bytes are those of the direction. -/
theorem paramHostInt_long_of_int_eq_one {msg : HipCommon} {p : ParamPtr} {num : Int}
    (hdir : paramHostInt msg p sizeofInt = .ok 1) (hnum : paramHostInt msg p sizeofLong = .ok num) :
    num = 1 ∨ num < 0 ∨ 2 ^ 32 < num := by
  simp only [paramHostInt, paramHostNat, map_eq_ok] at hdir hnum
  obtain ⟨_, ⟨b, hb, rfl⟩, rfl⟩ := hnum
  obtain ⟨_, ⟨b4, hb4, rfl⟩, hdir⟩ := hdir
  have hlen : b.length = 8 := length_of_paramBytes hb
  have hb4 : b4 = b.take 4 := by
    rw [paramBytes_take hb (by decide : sizeofInt ≤ sizeofLong)] at hb4
    exact (Except.ok.inj hb4).symm
  have hsplit : leNat b = leNat (b.take 4) + 2 ^ 32 * leNat (b.drop 4) := by
    conv_lhs => rw [← List.take_append_drop 4 b]
    rw [leNat_append, List.length_take, hlen]
    norm_num
  have hlow := leNat_lt (b.take 4)
  have hhigh := leNat_lt (b.drop 4)
  simp only [List.length_take, List.length_drop, hlen] at hlow hhigh
  subst hb4
  simp only [toSigned, sizeofInt, sizeofLong] at hdir ⊢
  norm_num at hdir hlow hhigh ⊢
  split_ifs at hdir ⊢ <;> omega

/-! ### What one step can do -/

section Steps

variable {lim : EspProtLimits} {db : AnchorDb}
  {send : HipHadbState → List LightUpdateItem → Int} {msg : HipCommon} {L i : Nat}
  {ha : HipHadbState} {p : ParamPtr}

/-- A chain of a trigger update either stops the loop with `-1`, its update slot being taken,
or gets the first `L` bytes of the parameter as its update anchor. -/
theorem triggerChain_cases {r : Int × HipHadbState × ParamPtr}
    (h : triggerChain lim msg L i ha p = .ok r) :
    r = (-1, ha, p) ∨
      ∃ row anchor, ha.espLocalUpdateAnchors[i]? = some row ∧
        slotEq row (zeroSlot lim) lim.maxHashLength = true ∧ paramBytes msg p 0 L = .ok anchor ∧
        L ≤ row.length ∧
        r = (0, { ha with espLocalUpdateAnchors :=
          ha.espLocalUpdateAnchors.set i (memcpySlot row anchor L) }, hipGetNextParam msg p) := by
  simp only [triggerChain, bind_eq_ok] at h
  obtain ⟨row, hrow, h⟩ := h
  cases hz : slotEq row (zeroSlot lim) lim.maxHashLength
  · simp only [hz, Bool.not_false, ite_true, pure_eq_ok, Except.ok.injEq] at h
    exact .inl h.symm
  · simp only [hz, Bool.not_true, Bool.false_eq_true, ite_false, bind_eq_ok, pure_eq_ok,
      Except.ok.injEq] at h
    obtain ⟨anchor, hanchor, rows, hrows, rfl⟩ := h
    obtain ⟨row', hrow', hlen, rfl⟩ := memcpyRow_eq_ok hrows
    have hrow := arrayGet_eq_ok.mp hrow
    rw [hrow, Option.some.injEq] at hrow'
    subst hrow'
    exact .inr ⟨row, anchor, hrow, hz, hanchor, hlen, rfl⟩

/-- A chain of an anchor change either stops the loop with `-1`, the parameter not starting with
its update anchor, or has that anchor copied into its active anchor and its update slot
cleared. -/
theorem changeChain_cases {r : Int × HipHadbState × ParamPtr}
    (h : changeChain lim msg L i ha p = .ok r) :
    r = (-1, ha, p) ∨
      ∃ row active, ha.espLocalUpdateAnchors[i]? = some row ∧
        ha.espLocalAnchors[i]? = some active ∧ paramBytes msg p 0 L = .ok (row.take L) ∧
        L ≤ active.length ∧ lim.maxHashLength ≤ row.length ∧
        r = (0, { ha with
          espLocalAnchors := ha.espLocalAnchors.set i (memcpySlot active row L),
          espLocalUpdateAnchors := ha.espLocalUpdateAnchors.set i
            (List.replicate lim.maxHashLength 0 ++ row.drop lim.maxHashLength) },
          hipGetNextParam msg p) := by
  simp only [changeChain, bind_eq_ok] at h
  obtain ⟨row, hrow, anchor, hanchor, h⟩ := h
  cases hs : slotEq row anchor L
  · simp only [hs, Bool.not_false, ite_true, pure_eq_ok, Except.ok.injEq] at h
    exact .inl h.symm
  · simp only [hs, Bool.not_true, Bool.false_eq_true, ite_false, bind_eq_ok, pure_eq_ok,
      Except.ok.injEq] at h
    obtain ⟨rows, hrows, cleared, hcleared, update, hupdate, rfl⟩ := h
    obtain ⟨active, hactive, hlen, rfl⟩ := memcpyRow_eq_ok hrows
    obtain ⟨hmax, rfl⟩ := memsetZero_eq_ok hcleared
    have htake : row.take L = anchor := by
      rw [(slotEq_iff _ _ _).mp hs, List.take_of_length_le (length_of_paramBytes hanchor).le]
    exact .inr ⟨row, active, arrayGet_eq_ok.mp hrow, hactive, htake ▸ hanchor, hlen, hmax,
      by rw [arraySet_eq_ok hupdate]⟩

/-- The roots and the soft update leave the transform and the local anchors alone. -/
theorem triggerRootsAndSoftUpdate_anchors {num : Int} {e : Int} {ha' : HipHadbState}
    (h : triggerRootsAndSoftUpdate send msg num ha p = .ok (e, ha')) :
    ha'.espProtTransform = ha.espProtTransform ∧ ha'.espLocalAnchors = ha.espLocalAnchors ∧
      ha'.espLocalUpdateAnchors = ha.espLocalUpdateAnchors := by
  simp only [triggerRootsAndSoftUpdate, bind_eq_ok] at h
  obtain ⟨rootLength, -, ⟨ha2, p2⟩, hroots, soft, -, h⟩ := h
  have hkeep : ha2.espProtTransform = ha.espProtTransform ∧
      ha2.espLocalAnchors = ha.espLocalAnchors ∧
      ha2.espLocalUpdateAnchors = ha.espLocalUpdateAnchors := by
    unfold triggerRoots at hroots
    split at hroots
    · refine forUpTo_inv (fun s : HipHadbState × ParamPtr ↦
          s.1.espProtTransform = ha.espProtTransform ∧
            s.1.espLocalAnchors = ha.espLocalAnchors ∧
            s.1.espLocalUpdateAnchors = ha.espLocalUpdateAnchors) ?_ hroots ⟨rfl, rfl, rfl⟩
      rintro i ⟨s, q⟩ s' hs hinv
      simp only [triggerRoot, bind_eq_ok, pure_eq_ok, Except.ok.injEq] at hs
      obtain ⟨_, -, _, -, rfl⟩ := hs
      exact hinv
    · cases hroots
      exact ⟨rfl, rfl, rfl⟩
  split at h
  · cases h
    exact hkeep
  · simp only [bind_eq_ok, pure_eq_ok, Except.ok.injEq] at h
    obtain ⟨_, -, h⟩ := h
    cases h
    exact hkeep

/-- A trigger update for a found association either returns it as it was, its transform not
being the message's, or runs the anchor loop over it with the message's hash item length and
keeps the transform and the anchors the loop leaves; it returns `0` only if the loop did. -/
theorem espProtHandleTriggerUpdateMsg_cases {e : Int} {entry' : Option HipHadbState}
    (h : espProtHandleTriggerUpdateMsg lim db send msg (some ha) = .ok (e, entry')) :
    (e = -1 ∧ entry' = some ha) ∨
      ∃ hashItemLength num c s ha',
        paramHostInt msg (hipGetNextParam msg (hipGetParam msg hipParamInt)) sizeofLong =
          .ok num ∧
        forUpToErr num
          (fun i s ↦ triggerChain lim msg (db.anchorLength ha.espProtTransform) i s.1 s.2)
          ({ ha with hashItemLength }, hipGetParam msg hipParamHchainAnchor) = .ok (c, s) ∧
        (e = 0 → c = 0) ∧ entry' = some ha' ∧ ha'.espProtTransform = s.1.espProtTransform ∧
        ha'.espLocalAnchors = s.1.espLocalAnchors ∧
        ha'.espLocalUpdateAnchors = s.1.espLocalUpdateAnchors := by
  simp only [espProtHandleTriggerUpdateMsg, bind_eq_ok] at h
  obtain ⟨_, -, _, -, tfm, -, h⟩ := h
  by_cases ht : ha.espProtTransform.toNat ≠ tfm
  · rw [if_pos ht, pure_eq_ok, Except.ok.injEq, Prod.mk.injEq] at h
    exact .inl ⟨h.1.symm, h.2.symm⟩
  simp only [if_neg ht, bind_eq_ok] at h
  obtain ⟨hashItemLength, -, num, hnum, ⟨c, ha1, p1⟩, hloop, h⟩ := h
  refine .inr ⟨hashItemLength, num, c, (ha1, p1), ?_⟩
  by_cases hc : c ≠ 0
  · simp only [if_pos hc, pure_eq_ok, Except.ok.injEq, Prod.mk.injEq] at h
    obtain ⟨rfl, rfl⟩ := h
    exact ⟨ha1, hnum, hloop, fun h0 ↦ absurd h0 hc, rfl, rfl, rfl, rfl⟩
  · simp only [if_neg hc, bind_eq_ok, pure_eq_ok, Except.ok.injEq, Prod.mk.injEq] at h
    obtain ⟨⟨e2, ha2⟩, htail, rfl, rfl⟩ := h
    obtain ⟨h1, h2, h3⟩ := triggerRootsAndSoftUpdate_anchors htail
    exact ⟨ha2, hnum, hloop, fun _ ↦ not_not.mp hc, rfl, h1, h2, h3⟩

/-- An anchor change for a found association either returns `-1` and the association as it
was, or, the direction being out, runs the chain loop over it with the number of chains read
as a `long` from the direction's parameter. -/
theorem espProtHandleAnchorChangeMsg_cases {e : Int} {entry' : Option HipHadbState}
    (h : espProtHandleAnchorChangeMsg lim db msg (some ha) = .ok (e, entry')) :
    (e = -1 ∧ entry' = some ha) ∨
      ∃ num s,
        paramHostInt msg (hipGetParam msg hipParamInt) sizeofInt = .ok hipSpiDirectionOut ∧
        paramHostInt msg (hipGetParam msg hipParamInt) sizeofLong = .ok num ∧
        forUpToErr num
          (fun i s ↦ changeChain lim msg (db.anchorLength ha.espProtTransform) i s.1 s.2)
          (ha, hipGetParam msg hipParamHchainAnchor) = .ok (e, s) ∧ entry' = some s.1 := by
  simp only [espProtHandleAnchorChangeMsg, bind_eq_ok] at h
  obtain ⟨direction, hdir, tfm, -, num, hnum, _, -, _, -, h⟩ := h
  by_cases ht : ha.espProtTransform.toNat ≠ tfm
  · rw [if_pos ht, pure_eq_ok, Except.ok.injEq, Prod.mk.injEq] at h
    exact .inl ⟨h.1.symm, h.2.symm⟩
  rw [if_neg ht] at h
  by_cases hd : direction ≠ hipSpiDirectionOut
  · rw [if_pos hd, pure_eq_ok, Except.ok.injEq, Prod.mk.injEq] at h
    exact .inl ⟨h.1.symm, h.2.symm⟩
  rw [if_neg hd, bind_eq_ok] at h
  obtain ⟨⟨c, ha1, p1⟩, hloop, h⟩ := h
  simp only [pure_eq_ok, Except.ok.injEq, Prod.mk.injEq] at h
  obtain ⟨rfl, rfl⟩ := h
  exact .inr ⟨num, (ha1, p1), not_not.mp hd ▸ hdir, hnum, hloop, rfl⟩

end Steps

/-! ### Where the anchors come from -/

/-- An anchor a trigger update can carry: the first `len` bytes of one of its parameters from
the first HCHAIN_ANCHOR on. -/
def TriggerAnchor (len : Nat) (msg : HipCommon) (a : Bytes) : Prop :=
  ∃ i j tlv, hipGetParam msg hipParamHchainAnchor = some i ∧ i ≤ j ∧
    msg.params[j]? = some tlv ∧ len ≤ tlv.contents.length ∧ a = tlv.contents.take len

/-- An anchor a trigger update among `msgs` can carry. -/
def RunAnchor (len : Nat) (msgs : List FwMsg) (a : Bytes) : Prop :=
  ∃ msg, FwMsg.triggerUpdate msg ∈ msgs ∧ TriggerAnchor len msg a

/-- Where the local anchors of an association can come from over a run of `msgs`: the first
`len` bytes of an anchor it had, zero, or an anchor a trigger update of the run carried. -/
def RunOrigin (ha : HipHadbState) (len : Nat) (msgs : List FwMsg) (a : Bytes) : Prop :=
  (∃ r ∈ ha.espLocalAnchors ++ ha.espLocalUpdateAnchors, a = r.take len) ∨
    a = List.replicate len 0 ∨ RunAnchor len msgs a

/-- Every local anchor of the association, active or update, starts with `len` bytes from
`origin`. -/
structure AnchorsFrom (origin : Bytes → Prop) (len : Nat) (ha : HipHadbState) : Prop where
  active : ∀ r ∈ ha.espLocalAnchors, origin (r.take len)
  update : ∀ r ∈ ha.espLocalUpdateAnchors, origin (r.take len)

theorem AnchorsFrom.mono {origin origin' : Bytes → Prop} {len : Nat} {ha : HipHadbState}
    (h : AnchorsFrom origin len ha) (hle : ∀ a, origin a → origin' a) :
    AnchorsFrom origin' len ha :=
  ⟨fun r hr ↦ hle _ (h.active r hr), fun r hr ↦ hle _ (h.update r hr)⟩

/-- The parameter the anchor loop of a trigger update reads is NULL or at or after the first
HCHAIN_ANCHOR. -/
def FromAnchorParam (msg : HipCommon) (p : ParamPtr) : Prop :=
  ∀ j, p = some j → ∃ i, hipGetParam msg hipParamHchainAnchor = some i ∧ i ≤ j

section Origins

variable {lim : EspProtLimits} {db : AnchorDb}
  {send : HipHadbState → List LightUpdateItem → Int} {msg : HipCommon} {L i : Nat}
  {ha : HipHadbState} {p : ParamPtr} {origin : Bytes → Prop}

theorem triggerChain_anchorsFrom (horigin : ∀ a, TriggerAnchor L msg a → origin a)
    {r : Int × HipHadbState × ParamPtr} (h : triggerChain lim msg L i ha p = .ok r)
    (hinv : AnchorsFrom origin L ha) (hp : FromAnchorParam msg p) :
    r.2.1.espProtTransform = ha.espProtTransform ∧ AnchorsFrom origin L r.2.1 ∧
      FromAnchorParam msg r.2.2 := by
  rcases triggerChain_cases h with rfl | ⟨row, anchor, -, -, hanchor, hlen, rfl⟩
  · exact ⟨rfl, hinv, hp⟩
  obtain ⟨j, tlv, rfl, hj, hl, rfl⟩ := paramBytes_eq_ok hanchor
  obtain ⟨i0, hi0, hij⟩ := hp j rfl
  refine ⟨rfl, ⟨hinv.active, fun r hr ↦ ?_⟩, fun k hk ↦ ?_⟩
  · rcases List.mem_or_eq_of_mem_set hr with hr | rfl
    · exact hinv.update r hr
    · rw [take_memcpySlot _ _ _ (by simp; omega)]
      exact horigin _ ⟨i0, j, tlv, hi0, hij, hj, by omega, by simp⟩
  · simp only [hipGetNextParam] at hk
    split at hk
    · cases hk
      exact ⟨i0, hi0, by omega⟩
    · cases hk

theorem changeChain_anchorsFrom (hzero : origin (List.replicate L 0))
    (hL : L ≤ lim.maxHashLength) {r : Int × HipHadbState × ParamPtr}
    (h : changeChain lim msg L i ha p = .ok r) (hinv : AnchorsFrom origin L ha) :
    r.2.1.espProtTransform = ha.espProtTransform ∧ AnchorsFrom origin L r.2.1 := by
  rcases changeChain_cases h with rfl | ⟨row, active, hrow, -, -, -, hmax, rfl⟩
  · exact ⟨rfl, hinv⟩
  refine ⟨rfl, fun r hr ↦ ?_, fun r hr ↦ ?_⟩
  · rcases List.mem_or_eq_of_mem_set hr with hr | rfl
    · exact hinv.active r hr
    · rw [take_memcpySlot _ _ _ (by omega)]
      exact hinv.update row (List.getElem?_mem hrow)
  · rcases List.mem_or_eq_of_mem_set hr with hr | rfl
    · exact hinv.update r hr
    · rwa [List.take_append_of_le_length (by simpa using hL), List.take_replicate,
        Nat.min_eq_left hL]

theorem espProtHandleTriggerUpdateMsg_anchorsFrom {e : Int} {entry' : Option HipHadbState}
    (horigin : ∀ a, TriggerAnchor (db.anchorLength ha.espProtTransform) msg a → origin a)
    (hinv : AnchorsFrom origin (db.anchorLength ha.espProtTransform) ha)
    (h : espProtHandleTriggerUpdateMsg lim db send msg (some ha) = .ok (e, entry')) :
    ∃ ha', entry' = some ha' ∧ ha'.espProtTransform = ha.espProtTransform ∧
      AnchorsFrom origin (db.anchorLength ha.espProtTransform) ha' := by
  rcases espProtHandleTriggerUpdateMsg_cases h with
    ⟨-, rfl⟩ | ⟨_, _, c, s, ha', -, hloop, -, rfl, h1, h2, h3⟩
  · exact ⟨ha, rfl, rfl, hinv⟩
  have hs := forUpToErr_inv (fun s : HipHadbState × ParamPtr ↦
      s.1.espProtTransform = ha.espProtTransform ∧
        AnchorsFrom origin (db.anchorLength ha.espProtTransform) s.1 ∧ FromAnchorParam msg s.2)
    (fun _ s _ hs ⟨ht, hinv, hp⟩ ↦ by
      obtain ⟨ht', hinv', hp'⟩ := triggerChain_anchorsFrom horigin hs hinv hp
      exact ⟨ht'.trans ht, hinv', hp'⟩)
    hloop ⟨rfl, ⟨hinv.active, hinv.update⟩, fun j hj ↦ ⟨j, hj, le_rfl⟩⟩
  obtain ⟨ht, hinv', -⟩ := hs
  exact ⟨ha', rfl, h1.trans ht, ⟨h2 ▸ hinv'.active, h3 ▸ hinv'.update⟩⟩

theorem espProtHandleAnchorChangeMsg_anchorsFrom {e : Int} {entry' : Option HipHadbState}
    (hzero : origin (List.replicate (db.anchorLength ha.espProtTransform) 0))
    (hL : db.anchorLength ha.espProtTransform ≤ lim.maxHashLength)
    (hinv : AnchorsFrom origin (db.anchorLength ha.espProtTransform) ha)
    (h : espProtHandleAnchorChangeMsg lim db msg (some ha) = .ok (e, entry')) :
    ∃ ha', entry' = some ha' ∧ ha'.espProtTransform = ha.espProtTransform ∧
      AnchorsFrom origin (db.anchorLength ha.espProtTransform) ha' := by
  rcases espProtHandleAnchorChangeMsg_cases h with ⟨-, rfl⟩ | ⟨_, s, -, -, hloop, rfl⟩
  · exact ⟨ha, rfl, rfl, hinv⟩
  have hs := forUpToErr_inv (fun s : HipHadbState × ParamPtr ↦
      s.1.espProtTransform = ha.espProtTransform ∧
        AnchorsFrom origin (db.anchorLength ha.espProtTransform) s.1)
    (fun _ s _ hs ⟨ht, hinv⟩ ↦ by
      obtain ⟨ht', hinv'⟩ := changeChain_anchorsFrom hzero hL hs hinv
      exact ⟨ht'.trans ht, hinv'⟩) hloop ⟨rfl, hinv⟩
  exact ⟨s.1, rfl, hs⟩

theorem handoverRun_cons {entry entry' : Option HipHadbState} {m : FwMsg} {ms : List FwMsg}
    {errs : List Int} (h : handoverRun lim db send entry (m :: ms) = .ok (errs, entry')) :
    ∃ e entry1 errs', handleFwMsg lim db send m entry = .ok (e, entry1) ∧
      handoverRun lim db send entry1 ms = .ok (errs', entry') ∧ errs = e :: errs' := by
  simp only [handoverRun, bind_eq_ok, pure_eq_ok, Except.ok.injEq, Prod.mk.injEq] at h
  obtain ⟨⟨e, entry1⟩, h1, ⟨errs', entry2⟩, h2, rfl, rfl⟩ := h
  exact ⟨e, entry1, errs', h1, h2, rfl⟩

theorem handleFwMsg_anchorsFrom {m : FwMsg} {e : Int} {entry' : Option HipHadbState}
    (hzero : origin (List.replicate (db.anchorLength ha.espProtTransform) 0))
    (hL : db.anchorLength ha.espProtTransform ≤ lim.maxHashLength)
    (hinv : AnchorsFrom origin (db.anchorLength ha.espProtTransform) ha)
    (h : handleFwMsg lim db send m (some ha) = .ok (e, entry')) :
    ∃ ha', entry' = some ha' ∧ ha'.espProtTransform = ha.espProtTransform ∧
      AnchorsFrom (fun a ↦ origin a ∨ RunAnchor (db.anchorLength ha.espProtTransform) [m] a)
        (db.anchorLength ha.espProtTransform) ha' := by
  cases m with
  | triggerUpdate msg =>
    exact espProtHandleTriggerUpdateMsg_anchorsFrom
      (fun a ha ↦ .inr ⟨msg, List.mem_singleton_self _, ha⟩) (hinv.mono fun _ ↦ .inl) h
  | anchorChange msg =>
    obtain ⟨ha', h1, h2, h3⟩ := espProtHandleAnchorChangeMsg_anchorsFrom hzero hL hinv h
    exact ⟨ha', h1, h2, h3.mono fun _ ↦ .inl⟩

/-- Over a run, the anchors stay attributed to what they came from before, or to a trigger
update of the run. -/
theorem handoverRun_anchorsFrom_of :
    ∀ (msgs : List FwMsg) {ha ha' : HipHadbState} {errs : List Int} {origin : Bytes → Prop},
      origin (List.replicate (db.anchorLength ha.espProtTransform) 0) →
      db.anchorLength ha.espProtTransform ≤ lim.maxHashLength →
      AnchorsFrom origin (db.anchorLength ha.espProtTransform) ha →
      handoverRun lim db send (some ha) msgs = .ok (errs, some ha') →
      ha'.espProtTransform = ha.espProtTransform ∧
        AnchorsFrom (fun a ↦ origin a ∨ RunAnchor (db.anchorLength ha.espProtTransform) msgs a)
          (db.anchorLength ha.espProtTransform) ha'
  | [], ha, ha', errs, origin, _, _, hinv, h => by
    simp only [handoverRun, pure_eq_ok, Except.ok.injEq, Prod.mk.injEq, Option.some.injEq] at h
    obtain ⟨-, rfl⟩ := h
    exact ⟨rfl, hinv.mono fun _ ↦ .inl⟩
  | m :: ms, ha, ha', errs, origin, hzero, hL, hinv, h => by
    obtain ⟨e, entry1, errs', h1, h2, -⟩ := handoverRun_cons h
    obtain ⟨ha1, rfl, ht, hinv1⟩ := handleFwMsg_anchorsFrom hzero hL hinv h1
    have hlen : db.anchorLength ha1.espProtTransform = db.anchorLength ha.espProtTransform := by
      rw [ht]
    rw [← hlen] at hzero hL hinv1
    obtain ⟨ht', hinv'⟩ := handoverRun_anchorsFrom_of ms (.inl hzero) hL hinv1 h2
    rw [hlen] at hinv'
    refine ⟨ht'.trans ht, hinv'.mono fun a ha ↦ ?_⟩
    rcases ha with (ha | ⟨msg, hmsg, ha⟩) | ⟨msg, hmsg, ha⟩
    · exact .inl ha
    · exact .inr ⟨msg, List.mem_cons.mpr (.inl (List.mem_singleton.mp hmsg)), ha⟩
    · exact .inr ⟨msg, List.mem_cons_of_mem _ hmsg, ha⟩

/-- Over any run of the firewall's messages, every local anchor of an association, active or
update, starts with the first bytes of an anchor it had, with zeros, or with an anchor that a
trigger update of the run carried. -/
theorem handoverRun_anchorsFrom {msgs : List FwMsg} {errs : List Int} {ha' : HipHadbState}
    (hL : db.anchorLength ha.espProtTransform = L) (hmax : L ≤ lim.maxHashLength)
    (h : handoverRun lim db send (some ha) msgs = .ok (errs, some ha')) :
    AnchorsFrom (RunOrigin ha L msgs) L ha' := by
  subst hL
  have hinit : AnchorsFrom (fun a ↦ (∃ r ∈ ha.espLocalAnchors ++ ha.espLocalUpdateAnchors,
      a = r.take (db.anchorLength ha.espProtTransform)) ∨
      a = List.replicate (db.anchorLength ha.espProtTransform) 0)
      (db.anchorLength ha.espProtTransform) ha :=
    ⟨fun r hr ↦ .inl ⟨r, List.mem_append_left _ hr, rfl⟩,
      fun r hr ↦ .inl ⟨r, List.mem_append_right _ hr, rfl⟩⟩
  refine (handoverRun_anchorsFrom_of msgs (.inr rfl) hmax hinit h).2.mono fun a ha ↦ ?_
  rcases ha with (ha | ha) | ha
  · exact .inl ha
  · exact .inr (.inl ha)
  · exact .inr (.inr ha)

/-- The handover of both chains of `twoChainHa`. -/
theorem twoChainHandover_anchorsFrom :
    handoverRun twoChainLimits twoByteAnchors (fun _ _ ↦ 0) (some twoChainHa) twoChainHandover =
        .ok ([0, 0], some movedHa) ∧
      AnchorsFrom (RunOrigin twoChainHa 2 twoChainHandover) 2 movedHa :=
  have hrun : handoverRun twoChainLimits twoByteAnchors (fun _ _ ↦ 0) (some twoChainHa)
      twoChainHandover = .ok ([0, 0], some movedHa) := rfl
  ⟨hrun, handoverRun_anchorsFrom (by rfl) (by decide) hrun⟩

end Origins

/-! ### The number of chains of an anchor change -/

/-- Chain `i`'s update slot is taken: not all of its `MAX_HASH_LENGTH` bytes are zero. -/
def SlotTaken (lim : EspProtLimits) (ha : HipHadbState) (i : Nat) : Prop :=
  ∃ row, ha.espLocalUpdateAnchors[i]? = some row ∧
    slotEq row (zeroSlot lim) lim.maxHashLength = false

section FirstChain

variable {lim : EspProtLimits} {db : AnchorDb}
  {send : HipHadbState → List LightUpdateItem → Int} {msg : HipCommon} {L : Nat}
  {ha : HipHadbState}

/-- A loop of an anchor change that ends with `0` ran once per update slot at most. -/
theorem changeLoop_toNat_le_length {num : Int} {p : ParamPtr} {s : HipHadbState × ParamPtr}
    (hloop : forUpToErr num (fun i s ↦ changeChain lim msg L i s.1 s.2) (ha, p) = .ok (0, s)) :
    num.toNat ≤ ha.espLocalUpdateAnchors.length := by
  rw [forUpToErr_toNat] at hloop
  rcases hk : num.toNat with _ | k
  · exact Nat.zero_le _
  rw [hk] at hloop
  obtain ⟨t, ht, hlast⟩ := forUpToErr_succ_eq_zero hloop
  have hlen := forUpToErr_inv (fun s : HipHadbState × ParamPtr ↦
      s.1.espLocalUpdateAnchors.length = ha.espLocalUpdateAnchors.length)
    (fun _ s _ hs hl ↦ by
      rcases changeChain_cases hs with rfl | ⟨_, _, -, -, -, -, -, rfl⟩
      · exact hl
      · exact (List.length_set ..).trans hl) ht rfl
  rcases changeChain_cases hlast with h | ⟨row, -, hrow, -⟩
  · exact absurd (Prod.mk.inj h).1 (by decide)
  · have hk : k < t.1.espLocalUpdateAnchors.length := by
      by_contra hk
      rw [List.getElem?_eq_none (by omega)] at hrow
      cases hrow
    simp only at hlen
    omega

/-- With the direction out, the loop of an anchor change that ends with `0` ran at most once when
there are at most `2 ^ 32` update slots: the count it read has the direction's low bytes. -/
theorem changeLoop_toNat_le_one {q p : ParamPtr} {num : Int} {s : HipHadbState × ParamPtr}
    (hlen : ha.espLocalUpdateAnchors.length ≤ 2 ^ 32)
    (hdir : paramHostInt msg q sizeofInt = .ok hipSpiDirectionOut)
    (hnum : paramHostInt msg q sizeofLong = .ok num)
    (hloop : forUpToErr num (fun i s ↦ changeChain lim msg L i s.1 s.2) (ha, p) = .ok (0, s)) :
    num.toNat ≤ 1 := by
  have hcount := changeLoop_toNat_le_length hloop
  rcases paramHostInt_long_of_int_eq_one hdir hnum with rfl | hneg | hbig <;> omega

/-- An anchor change that returns `0` for an association with at most `2 ^ 32` update slots did
nothing to it or ran the body for the first chain. -/
theorem espProtHandleAnchorChangeMsg_eq_zero {entry' : Option HipHadbState}
    (hlen : ha.espLocalUpdateAnchors.length ≤ 2 ^ 32)
    (h : espProtHandleAnchorChangeMsg lim db msg (some ha) = .ok (0, entry')) :
    ∃ s : HipHadbState × ParamPtr, entry' = some s.1 ∧
      (s = (ha, hipGetParam msg hipParamHchainAnchor) ∨
        changeChain lim msg (db.anchorLength ha.espProtTransform) 0 ha
          (hipGetParam msg hipParamHchainAnchor) = .ok (0, s)) := by
  rcases espProtHandleAnchorChangeMsg_cases h with ⟨h0, -⟩ | ⟨num, s, hdir, hnum, hloop, hs⟩
  · exact absurd h0 (by decide)
  refine ⟨s, hs, ?_⟩
  rcases forUpToErr_of_toNat_le_one (changeLoop_toNat_le_one hlen hdir hnum hloop) hloop
    with h1 | h1
  · exact .inl (Prod.mk.inj h1).2
  · exact .inr h1

/-- An anchor change that succeeds moves the first chain at most, whatever the message says:
it leaves the association as it was, or makes the first chain's update anchor its active anchor
and clears the update slot. -/
theorem espProtHandleAnchorChangeMsg_firstChain {ha' : HipHadbState}
    (hlen : ha.espLocalUpdateAnchors.length ≤ 2 ^ 32)
    (h : espProtHandleAnchorChangeMsg lim db msg (some ha) = .ok (0, some ha')) :
    ha' = ha ∨
      ∃ row active, ha.espLocalUpdateAnchors[0]? = some row ∧
        ha.espLocalAnchors[0]? = some active ∧
        ha' = { ha with
          espLocalAnchors :=
            ha.espLocalAnchors.set 0 (memcpySlot active row (db.anchorLength ha.espProtTransform)),
          espLocalUpdateAnchors := ha.espLocalUpdateAnchors.set 0
            (List.replicate lim.maxHashLength 0 ++ row.drop lim.maxHashLength) } := by
  obtain ⟨s, hs, h1 | h1⟩ := espProtHandleAnchorChangeMsg_eq_zero hlen h
  · obtain rfl := Option.some.inj hs
    exact .inl (by rw [h1])
  obtain rfl := Option.some.inj hs
  rcases changeChain_cases h1 with h2 | ⟨row, active, hrow, hactive, -, -, -, h2⟩
  · exact absurd (Prod.mk.inj h2).1 (by decide)
  · exact .inr ⟨row, active, hrow, hactive, by rw [(Prod.mk.inj h2).2]⟩

/-- Both chains pending and an anchor change naming both: the first chain moves, the second
stays pending. -/
theorem twoChainChange_firstChain :
    espProtHandleAnchorChangeMsg twoChainLimits twoByteAnchors (twoChainChange [5, 5] [6, 6])
        (some pendingHa) = .ok (0, some movedHa) ∧
      (movedHa = pendingHa ∨
        ∃ row active, pendingHa.espLocalUpdateAnchors[0]? = some row ∧
          pendingHa.espLocalAnchors[0]? = some active ∧
          movedHa = { pendingHa with
            espLocalAnchors := pendingHa.espLocalAnchors.set 0
              (memcpySlot active row (twoByteAnchors.anchorLength pendingHa.espProtTransform)),
            espLocalUpdateAnchors := pendingHa.espLocalUpdateAnchors.set 0
              (List.replicate twoChainLimits.maxHashLength 0 ++
                row.drop twoChainLimits.maxHashLength) }) :=
  have hchange : espProtHandleAnchorChangeMsg twoChainLimits twoByteAnchors
      (twoChainChange [5, 5] [6, 6]) (some pendingHa) = .ok (0, some movedHa) := rfl
  ⟨hchange, espProtHandleAnchorChangeMsg_firstChain (by decide) hchange⟩

/-- A trigger update leaves a chain whose update slot is taken as it was. -/
theorem espProtHandleTriggerUpdateMsg_keeps_taken {i : Nat} {e : Int}
    {entry' : Option HipHadbState} (htaken : SlotTaken lim ha i)
    (h : espProtHandleTriggerUpdateMsg lim db send msg (some ha) = .ok (e, entry')) :
    ∃ ha', entry' = some ha' ∧ ha'.espLocalAnchors[i]? = ha.espLocalAnchors[i]? ∧
      ha'.espLocalUpdateAnchors[i]? = ha.espLocalUpdateAnchors[i]? ∧
      ha'.espLocalUpdateAnchors.length = ha.espLocalUpdateAnchors.length := by
  rcases espProtHandleTriggerUpdateMsg_cases h with
    ⟨-, rfl⟩ | ⟨_, _, _, s, ha', -, hloop, -, rfl, -, h2, h3⟩
  · exact ⟨ha, rfl, rfl, rfl, rfl⟩
  obtain ⟨row0, hrow0, hz0⟩ := htaken
  have hs := forUpToErr_inv (fun s : HipHadbState × ParamPtr ↦
      s.1.espLocalAnchors = ha.espLocalAnchors ∧
        s.1.espLocalUpdateAnchors[i]? = ha.espLocalUpdateAnchors[i]? ∧
        s.1.espLocalUpdateAnchors.length = ha.espLocalUpdateAnchors.length)
    (fun k s _ hs ⟨h1, h2, h3⟩ ↦ by
      rcases triggerChain_cases hs with rfl | ⟨row, _, hrow, hz, -, -, rfl⟩
      · exact ⟨h1, h2, h3⟩
      have hki : k ≠ i := by
        rintro rfl
        rw [h2, hrow0, Option.some.injEq] at hrow
        rw [hrow, hz] at hz0
        cases hz0
      exact ⟨h1, by rw [List.getElem?_set_ne hki, h2], by rw [List.length_set, h3]⟩)
    hloop ⟨rfl, rfl, rfl⟩
  obtain ⟨h1, h2', h3'⟩ := hs
  exact ⟨ha', rfl, by rw [← h1, h2], by rw [h3, h2'], by rw [h3, h3']⟩

/-- An anchor change that returns `0` leaves every chain but the first as it was. -/
theorem espProtHandleAnchorChangeMsg_keeps {i : Nat} {entry' : Option HipHadbState} (hi : 0 < i)
    (hlen : ha.espLocalUpdateAnchors.length ≤ 2 ^ 32)
    (h : espProtHandleAnchorChangeMsg lim db msg (some ha) = .ok (0, entry')) :
    ∃ ha', entry' = some ha' ∧ ha'.espLocalAnchors[i]? = ha.espLocalAnchors[i]? ∧
      ha'.espLocalUpdateAnchors[i]? = ha.espLocalUpdateAnchors[i]? ∧
      ha'.espLocalUpdateAnchors.length = ha.espLocalUpdateAnchors.length := by
  obtain ⟨s, rfl, h1 | h1⟩ := espProtHandleAnchorChangeMsg_eq_zero hlen h
  · exact ⟨s.1, rfl, by rw [h1], by rw [h1], by rw [h1]⟩
  rcases changeChain_cases h1 with h2 | ⟨_, _, -, -, -, -, -, h2⟩
  · exact absurd (Prod.mk.inj h2).1 (by decide)
  rw [(Prod.mk.inj h2).2]
  exact ⟨_, rfl, List.getElem?_set_ne hi.ne, List.getElem?_set_ne hi.ne, List.length_set ..⟩

/-- In a run in which every anchor change succeeds, a chain other than the first whose update
slot is taken keeps its active anchor and its update anchor to the end: the update anchor never
becomes active, and no trigger update replaces it. -/
theorem handoverRun_pendingStuck {i : Nat} {msgs : List FwMsg} {errs : List Int}
    {ha' : HipHadbState} (hi : 0 < i) (hlen : ha.espLocalUpdateAnchors.length ≤ 2 ^ 32)
    (htaken : SlotTaken lim ha i)
    (h : handoverRun lim db send (some ha) msgs = .ok (errs, some ha'))
    (hchanges : ∀ cmsg e, (FwMsg.anchorChange cmsg, e) ∈ msgs.zip errs → e = 0) :
    ha'.espLocalAnchors[i]? = ha.espLocalAnchors[i]? ∧
      ha'.espLocalUpdateAnchors[i]? = ha.espLocalUpdateAnchors[i]? := by
  induction msgs generalizing ha errs with
  | nil =>
    simp only [handoverRun, pure_eq_ok, Except.ok.injEq, Prod.mk.injEq, Option.some.injEq] at h
    obtain ⟨-, rfl⟩ := h
    exact ⟨rfl, rfl⟩
  | cons m ms ih =>
    obtain ⟨e, entry1, errs', h1, h2, rfl⟩ := handoverRun_cons h
    have hstep : ∃ ha1, entry1 = some ha1 ∧ ha1.espLocalAnchors[i]? = ha.espLocalAnchors[i]? ∧
        ha1.espLocalUpdateAnchors[i]? = ha.espLocalUpdateAnchors[i]? ∧
        ha1.espLocalUpdateAnchors.length = ha.espLocalUpdateAnchors.length := by
      cases m with
      | triggerUpdate msg => exact espProtHandleTriggerUpdateMsg_keeps_taken htaken h1
      | anchorChange msg =>
        have he : e = 0 := hchanges msg e (by simp)
        subst he
        exact espProtHandleAnchorChangeMsg_keeps hi hlen h1
    obtain ⟨ha1, rfl, ha1_active, ha1_update, ha1_len⟩ := hstep
    obtain ⟨row, hrow, hz⟩ := htaken
    obtain ⟨h1', h2'⟩ := ih (by rwa [ha1_len]) ⟨row, by rwa [ha1_update], hz⟩ h2
      (fun cmsg e he ↦ hchanges cmsg e (by simp [he]))
    exact ⟨h1'.trans ha1_active, h2'.trans ha1_update⟩

/-- The change to both pending anchors returns `0` and the next trigger update `-1`; the second
chain keeps its anchors. -/
theorem twoChainNextUpdate_pendingStuck :
    handoverRun twoChainLimits twoByteAnchors (fun _ _ ↦ 0) (some pendingHa) twoChainNextUpdate =
        .ok ([0, -1], some stuckHa) ∧
      stuckHa.espLocalAnchors[1]? = pendingHa.espLocalAnchors[1]? ∧
      stuckHa.espLocalUpdateAnchors[1]? = pendingHa.espLocalUpdateAnchors[1]? :=
  have hrun : handoverRun twoChainLimits twoByteAnchors (fun _ _ ↦ 0) (some pendingHa)
      twoChainNextUpdate = .ok ([0, -1], some stuckHa) := rfl
  ⟨hrun, handoverRun_pendingStuck (by decide) (by decide) ⟨[6, 6], rfl, by rfl⟩ hrun
    (fun _ _ h ↦ by simp [twoChainNextUpdate] at h; exact h.2)⟩

end FirstChain

/-! ### From the trigger update to the SA -/

section SaAdd

variable {lim : EspProtLimits} {db : AnchorDb}
  {send : HipHadbState → List LightUpdateItem → Int} {msg : HipCommon} {ha ha' : HipHadbState}

/-- A trigger update that returns `0` after reading a positive number of chains keeps the
transform, and the first chain's update anchor starts with the first HCHAIN_ANCHOR. -/
theorem espProtHandleTriggerUpdateMsg_firstAnchor {k : Int}
    (h : espProtHandleTriggerUpdateMsg lim db send msg (some ha) = .ok (0, some ha'))
    (hk : paramHostInt msg (hipGetNextParam msg (hipGetParam msg hipParamInt)) sizeofLong = .ok k)
    (hk0 : 0 < k) :
    ha'.espProtTransform = ha.espProtTransform ∧
      ∃ i tlv row, hipGetParam msg hipParamHchainAnchor = some i ∧ msg.params[i]? = some tlv ∧
        ha'.espLocalUpdateAnchors[0]? = some row ∧
        db.anchorLength ha.espProtTransform ≤ row.length ∧
        row.take (db.anchorLength ha.espProtTransform) =
          tlv.contents.take (db.anchorLength ha.espProtTransform) := by
  rcases espProtHandleTriggerUpdateMsg_cases h with
    ⟨h0, -⟩ | ⟨_, num, c, s, _, hnum, hloop, hc, hs, h1, -, h3⟩
  · exact absurd h0 (by decide)
  obtain rfl := Option.some.inj hs
  obtain rfl : num = k := Except.ok.inj (hnum.symm.trans hk)
  obtain rfl := hc rfl
  rw [forUpToErr_toNat] at hloop
  set L := db.anchorLength ha.espProtTransform
  set p0 := hipGetParam msg hipParamHchainAnchor
  have hrun := forUpToErr_inv_count (fun j (s : HipHadbState × ParamPtr) ↦
      s.1.espProtTransform = ha.espProtTransform ∧ (j = 0 → s.2 = p0) ∧
        (0 < j → ∃ i tlv row, p0 = some i ∧ msg.params[i]? = some tlv ∧
          s.1.espLocalUpdateAnchors[0]? = some row ∧ L ≤ row.length ∧
          row.take L = tlv.contents.take L))
    hloop ⟨rfl, fun _ ↦ rfl, fun h ↦ absurd h (Nat.lt_irrefl 0)⟩
    (fun j t t' hbody ⟨ht, hp, hfirst⟩ ↦ by
      rcases triggerChain_cases hbody with h | ⟨row, anchor, hrow, -, hanchor, hlen, h⟩
      · exact absurd (Prod.mk.inj h).1 (by decide)
      obtain rfl := (Prod.mk.inj h).2
      refine ⟨ht, fun h ↦ absurd h (Nat.succ_ne_zero j), fun _ ↦ ?_⟩
      rcases Nat.eq_zero_or_pos j with rfl | hj
      · obtain ⟨i, tlv, hpi, hi, hl, rfl⟩ := paramBytes_eq_ok hanchor
        have hp0 : p0 = some i := (hp rfl).symm.trans hpi
        have hlt : 0 < t.1.espLocalUpdateAnchors.length := (List.getElem?_eq_some_iff.mp hrow).1
        refine ⟨i, tlv, _, hp0, hi, List.getElem?_set_self hlt, ?_, ?_⟩
        · simp only [memcpySlot, List.length_append, List.length_take, List.length_drop]
          omega
        · rw [take_memcpySlot _ _ _ (by simp; omega)]
          simp
      · obtain ⟨i, tlv, row0, hpi, hi, hrow0, hl0, htake⟩ := hfirst hj
        exact ⟨i, tlv, row0, hpi, hi,
          by rw [List.getElem?_set_ne (Nat.pos_iff_ne_zero.mp hj), hrow0], hl0, htake⟩)
  obtain ⟨ht, -, hfirst⟩ := hrun
  obtain ⟨i, tlv, row, hpi, hi, hrow, hl, htake⟩ := hfirst (by omega)
  exact ⟨h1.trans ht, i, tlv, row, hpi, hi, h3 ▸ hrow, hl, htake⟩

/-- An anchor change that returns `0` having read the count `1` made the first chain's update
anchor its active anchor. -/
theorem espProtHandleAnchorChangeMsg_one
    (h : espProtHandleAnchorChangeMsg lim db msg (some ha) = .ok (0, some ha'))
    (hnum : paramHostInt msg (hipGetParam msg hipParamInt) sizeofLong = .ok 1) :
    ha'.espProtTransform = ha.espProtTransform ∧
      ∃ row active, ha.espLocalUpdateAnchors[0]? = some row ∧
        ha.espLocalAnchors[0]? = some active ∧
        db.anchorLength ha.espProtTransform ≤ active.length ∧
        ha'.espLocalAnchors[0]? =
          some (memcpySlot active row (db.anchorLength ha.espProtTransform)) := by
  rcases espProtHandleAnchorChangeMsg_cases h with ⟨h0, -⟩ | ⟨num, s, -, hnum', hloop, hs⟩
  · exact absurd h0 (by decide)
  obtain rfl := Option.some.inj hs
  obtain rfl : num = 1 := Except.ok.inj (hnum'.symm.trans hnum)
  rw [forUpToErr_one] at hloop
  rcases changeChain_cases hloop with h2 | ⟨row, active, hrow, hactive, -, hlen, -, h2⟩
  · exact absurd (Prod.mk.inj h2).1 (by decide)
  obtain rfl := (Prod.mk.inj h2).2
  have hlt : 0 < ha.espLocalAnchors.length := (List.getElem?_eq_some_iff.mp hactive).1
  exact ⟨rfl, row, active, hrow, hactive, hlen, List.getElem?_set_self hlt⟩

/-- The SA message of an outbound SA that is not an update carries, after the transform, the
hash item length and the number of chains, the first bytes of the first chain's active
anchor. -/
theorem espProtSaAdd_firstAnchor {g : HipdGlobals} {out sa : HipCommon} {e : Int}
    (htfm : espProtTfmUnused < ha.espProtTransform) (hg : 0 < g.espProtNumParallelHchains)
    (h : espProtSaAdd g db ha out hipSpiDirectionOut 0 = .ok (e, sa)) :
    ∃ active, ha.espLocalAnchors[0]? = some active ∧
      sa.params[out.params.length + 3]? =
        some ⟨hipParamHchainAnchor, active.take (db.anchorLength ha.espProtTransform)⟩ := by
  simp only [espProtSaAdd, if_pos htfm, ne_eq, not_true_eq_false, ite_false, ite_true,
    bind_eq_ok, pure_eq_ok, Except.ok.injEq, Prod.mk.injEq] at h
  obtain ⟨m, hloop, -, rfl⟩ := h
  rw [forUpTo_toNat] at hloop
  set L := db.anchorLength ha.espProtTransform
  set base := hipBuildParam (hipBuildParam (hipBuildParam out _) _) _ with hbase
  have hrun := forUpTo_inv_count (fun j (m : HipCommon) ↦
      ∃ rest, m.params = base.params ++ rest ∧ rest.length = j ∧
        (0 < j → ∃ active, ha.espLocalAnchors[0]? = some active ∧
          rest[0]? = some ⟨hipParamHchainAnchor, active.take L⟩))
    hloop ⟨[], by simp, rfl, fun h ↦ absurd h (Nat.lt_irrefl 0)⟩
    (fun j m m' hbody ⟨rest, hm, hlen, hfirst⟩ ↦ by
      simp only [bind_eq_ok, pure_eq_ok, Except.ok.injEq] at hbody
      obtain ⟨a, ⟨row, hrow, hpre⟩, rfl⟩ := hbody
      refine ⟨rest ++ [⟨hipParamHchainAnchor, a⟩], by simp [hipBuildParam, hm],
        by simp [hlen], fun _ ↦ ?_⟩
      rcases Nat.eq_zero_or_pos j with rfl | hj
      · obtain rfl := List.length_eq_zero.mp hlen
        unfold arrayPrefix at hpre
        split at hpre
        · cases hpre
          exact ⟨row, arrayGet_eq_ok.mp hrow, rfl⟩
        · cases hpre
      · obtain ⟨active, hactive, hrest⟩ := hfirst hj
        exact ⟨active, hactive, by rw [List.getElem?_append_left (by omega), hrest]⟩)
  obtain ⟨rest, hm, -, hfirst⟩ := hrun
  obtain ⟨active, hactive, hrest⟩ := hfirst (by omega)
  refine ⟨active, hactive, ?_⟩
  have hlen : base.params.length = out.params.length + 3 := by simp [hbase, hipBuildParam]
  rw [hm, ← hlen, List.getElem?_append_right (le_refl _), Nat.sub_self, hrest]

/-- A trigger update of at least one chain, then an anchor change of one chain, both
returning `0`: the next outbound SA the daemon adds starts from the first anchor of the trigger
update, which the SA message carries after the transform, the hash item length and the number of
chains. -/
theorem handover_saAdd {g : HipdGlobals} {tmsg cmsg out sa : HipCommon} {ha1 ha2 : HipHadbState}
    {k e : Int} (htfm : espProtTfmUnused < ha.espProtTransform)
    (hg : 0 < g.espProtNumParallelHchains)
    (htrig : espProtHandleTriggerUpdateMsg lim db send tmsg (some ha) = .ok (0, some ha1))
    (hk : paramHostInt tmsg (hipGetNextParam tmsg (hipGetParam tmsg hipParamInt)) sizeofLong =
      .ok k) (hk0 : 0 < k)
    (hchange : espProtHandleAnchorChangeMsg lim db cmsg (some ha1) = .ok (0, some ha2))
    (hnum : paramHostInt cmsg (hipGetParam cmsg hipParamInt) sizeofLong = .ok 1)
    (hsa : espProtSaAdd g db ha2 out hipSpiDirectionOut 0 = .ok (e, sa)) :
    ∃ i tlv, hipGetParam tmsg hipParamHchainAnchor = some i ∧ tmsg.params[i]? = some tlv ∧
      sa.params[out.params.length + 3]? = some
        ⟨hipParamHchainAnchor, tlv.contents.take (db.anchorLength ha.espProtTransform)⟩ := by
  obtain ⟨ht1, i, tlv, row, hi, htlv, hrow, hlen, htake⟩ :=
    espProtHandleTriggerUpdateMsg_firstAnchor htrig hk hk0
  obtain ⟨ht2, row', active, hrow', -, -, hnew⟩ := espProtHandleAnchorChangeMsg_one hchange hnum
  rw [hrow, Option.some.injEq] at hrow'
  subst hrow'
  have ht : ha2.espProtTransform = ha.espProtTransform := ht2.trans ht1
  obtain ⟨active', hactive', hsa'⟩ := espProtSaAdd_firstAnchor (ht ▸ htfm) hg hsa
  rw [hnew, Option.some.injEq] at hactive'
  subst hactive'
  refine ⟨i, tlv, hi, htlv, ?_⟩
  rw [hsa', ht, ← ht1, take_memcpySlot _ _ _ (ht1 ▸ hlen), ht1, htake]

/-- The handover of both chains of `twoChainHa`, then the SA message of an outbound SA. -/
theorem twoChainHandover_saAdd :
    espProtHandleTriggerUpdateMsg twoChainLimits twoByteAnchors (fun _ _ ↦ 0)
        (twoChainTrigger [5, 5] [6, 6]) (some twoChainHa) = .ok (0, some pendingHa) ∧
      espProtHandleAnchorChangeMsg twoChainLimits twoByteAnchors (twoChainChange [5, 5] [6, 6])
        (some pendingHa) = .ok (0, some movedHa) ∧
      ∃ sa, espProtSaAdd twoChainGlobals twoByteAnchors movedHa (fwMsg []) hipSpiDirectionOut 0 =
          .ok (0, sa) ∧
        ∃ i tlv, hipGetParam (twoChainTrigger [5, 5] [6, 6]) hipParamHchainAnchor = some i ∧
          (twoChainTrigger [5, 5] [6, 6]).params[i]? = some tlv ∧
          sa.params[(fwMsg []).params.length + 3]? = some ⟨hipParamHchainAnchor,
            tlv.contents.take (twoByteAnchors.anchorLength twoChainHa.espProtTransform)⟩ := by
  have htrig : espProtHandleTriggerUpdateMsg twoChainLimits twoByteAnchors (fun _ _ ↦ 0)
      (twoChainTrigger [5, 5] [6, 6]) (some twoChainHa) = .ok (0, some pendingHa) := rfl
  have hchange : espProtHandleAnchorChangeMsg twoChainLimits twoByteAnchors
      (twoChainChange [5, 5] [6, 6]) (some pendingHa) = .ok (0, some movedHa) := rfl
  obtain ⟨sa, hsa⟩ : ∃ sa, espProtSaAdd twoChainGlobals twoByteAnchors movedHa (fwMsg [])
      hipSpiDirectionOut 0 = .ok (0, sa) := ⟨_, rfl⟩
  exact ⟨htrig, hchange, sa, hsa,
    handover_saAdd (by decide) (by decide) htrig (by rfl) (by decide) hchange (by rfl) hsa⟩

end SaAdd

end Hipl.Hipd
