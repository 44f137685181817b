import Hipl.Hipd.EspProtBex

/-!
# The anchor update of the daemon

A host whose hash chains run low announces the next anchor of every parallel chain in a pure
anchor UPDATE. The sender adds to the UPDATE it is building, which carries a SEQ, one
ESP_PROT_ANCHOR per chain with the active anchor and the next one, and the roots of its link
trees when it has any (`espProtUpdateAddAnchor`). The receiver checks each anchor against what
it knows of the sender's chains and keeps the next anchors as the peer's update anchors
(`espProtUpdateHandleAnchor`), then acknowledges with an UPDATE of ESP_INFO, ACK, HMAC and
signature (`espProtSendUpdateResponse`); `espProtHandleFirstUpdatePacket` is the two in order.

`esp_prot_update_handle_anchor` has three loops. The first runs on the very first update after
the base exchange, when the peer's update anchors are still zero, and checks each active anchor
against the peer's anchors. The second runs when the first active anchor is the one announced
by the last update, and moves each update anchor into the peer's anchors. The third runs
otherwise, checks each active anchor against the peer's anchors, and reads the same parameter
for every chain: it never advances the parameter pointer. The per-chain bodies are their own
definitions, and the step all three end with is `setPeerUpdateAnchor`.

What the steps do is proved first: the sender's UPDATE is its parameters followed by the anchors
and roots of every chain (`espProtUpdateAddAnchor_ok`), the receiver's first and second loops
store the next anchors of every chain (`updateFirstChain_all`, `updateNextChain_all`), so does
its third over one chain (`updateNewerChain_one`), and the response carries the SPI and the
acknowledged sequence number (`espProtSendUpdateResponse_ok`).

Scope. HMAC and signature are keyed functions the host association holds (`HipSigner`); the
crypto code is not among the sources. Sending never fails.
-/

set_option autoImplicit false
set_option relaxedAutoImplicit false

namespace Hipl.Hipd

open Hipl.Wire Hipl.EspProt

/-! ### Sending the anchors -/

/-- The body of the first loop of `esp_prot_update_add_anchor` for chain `i`: an ESP_PROT_ANCHOR
with the chain's active and update anchors, `hashLength` bytes of each. -/
def addUpdateAnchor (ha : HipHadbState) (hashLength i : Nat) (update : HipCommon) :
    Except Fault HipCommon := do
  let active ← arrayGet ha.espLocalAnchors i >>= (arrayPrefix · hashLength)
  let next ← arrayGet ha.espLocalUpdateAnchors i >>= (arrayPrefix · hashLength)
  pure (hipBuildParamEspProtAnchor update ha.espProtTransform active (some next)
    ha.hashItemLength)

/-- The body of the second loop of `esp_prot_update_add_anchor` for chain `i`: an ESP_PROT_ROOT
with the first `esp_root_length` bytes of the chain's root. -/
def addUpdateRoot (ha : HipHadbState) (i : Nat) (update : HipCommon) : Except Fault HipCommon := do
  let root ← arrayGet ha.espRoot i >>= (arrayPrefix · ha.espRootLength.toNat)
  pure (hipBuildParamEspProtRoot update root)

/-- `esp_prot_update_add_anchor`: when a transform is in use and the UPDATE under construction
has a SEQ, the anchors of every parallel chain and, when the host has roots, their roots. -/
def espProtUpdateAddAnchor (g : HipdGlobals) (db : AnchorDb) (ha : HipHadbState)
    (update : HipCommon) : Except Fault (Int × HipHadbState × HipCommon) :=
  if espProtTfmUnused < ha.espProtTransform ∧ (hipGetParam update .seq).isSome then do
    let update ← forUpTo g.espProtNumParallelHchains
      (addUpdateAnchor ha (db.anchorLength ha.espProtTransform)) update
    let update ← if 0 < ha.espRootLength then
        forUpTo g.espProtNumParallelHchains (addUpdateRoot ha) update
      else pure update
    pure (0, { ha with espLocalUpdateLength := db.hashItemLength ha.espProtTransform }, update)
  else pure (0, ha, update)

/-! ### Receiving the anchors -/

/-- What all three loops of `esp_prot_update_handle_anchor` end with for chain `i`: the next
anchor of the parameter `p` points to becomes the peer's update anchor, and its item length the
peer's update length. -/
def setPeerUpdateAnchor (msg : HipCommon) (p : ParamPtr) (hashLength i : Nat)
    (ha : HipHadbState) : Except Fault HipHadbState := do
  let next ← espProtAnchorAnchors msg p hashLength hashLength
  let espPeerUpdateAnchors ← memcpyRow ha.espPeerUpdateAnchors i next hashLength
  let espPeerUpdateLength ← espProtAnchorHashItemLength msg p
  pure { ha with espPeerUpdateAnchors, espPeerUpdateLength }

/-- The body of the first loop, on the first update after the base exchange, for chain `i`: the
anchor must have the agreed transform and, as active anchor, the peer's anchor of the chain. -/
def updateFirstChain (msg : HipCommon) (hashLength i : Nat) (s : HipHadbState × ParamPtr) :
    Except Fault (Int × HipHadbState × ParamPtr) := do
  let t ← espProtAnchorTransform msg s.2
  if s.1.espProtTransform ≠ t then pure (-1, s) else do
  let active ← espProtAnchorAnchors msg s.2 0 hashLength
  let peer ← arrayGet s.1.espPeerAnchors i
  if !slotEq active peer hashLength then pure (-1, s) else do
  let ha ← setPeerUpdateAnchor msg s.2 hashLength i s.1
  pure (0, ha, hipGetNextParam msg s.2)

/-- The body of the second loop, when the update builds on the last one, for chain `i`: the
active anchor must be the peer's update anchor of the chain, which becomes the peer's anchor. -/
def updateNextChain (msg : HipCommon) (hashLength i : Nat) (s : HipHadbState × ParamPtr) :
    Except Fault (Int × HipHadbState × ParamPtr) := do
  let active ← espProtAnchorAnchors msg s.2 0 hashLength
  let update ← arrayGet s.1.espPeerUpdateAnchors i
  if !slotEq active update hashLength then pure (-1, s) else do
  let espPeerAnchors ← memcpyRow s.1.espPeerAnchors i update hashLength
  let ha ← setPeerUpdateAnchor msg s.2 hashLength i { s.1 with espPeerAnchors }
  pure (0, ha, hipGetNextParam msg s.2)

/-- The body of the third loop for chain `i`: the active anchor of the parameter `p` points to,
which the loop never advances, must be the peer's anchor of the chain. -/
def updateNewerChain (msg : HipCommon) (p : ParamPtr) (hashLength i : Nat) (ha : HipHadbState) :
    Except Fault (Int × HipHadbState) := do
  let active ← espProtAnchorAnchors msg p 0 hashLength
  let peer ← arrayGet ha.espPeerAnchors i
  if !slotEq active peer hashLength then pure (-1, ha) else do
  let ha ← setPeerUpdateAnchor msg p hashLength i ha
  pure (0, ha)

/-- `esp_prot_update_handle_anchor`: the return value, the host association afterwards and the
SPI written through `spi`, the inbound SPI on success and `0` otherwise. -/
def espProtUpdateHandleAnchor (g : HipdGlobals) (db : AnchorDb) (ha : HipHadbState)
    (msg : HipCommon) : Except Fault (Int × HipHadbState × UInt32) :=
  let p := hipGetParam msg .espProtAnchor
  if p.isNone then pure (0, ha, 0) else do
  let hashLength := db.anchorLength ha.espProtTransform
  let update0 ← arrayGet ha.espPeerUpdateAnchors 0
  let r ← if update0.all (· == 0) then
      (fun r ↦ (r.1, r.2.1)) <$>
        forUpToErr g.espProtNumParallelHchains (updateFirstChain msg hashLength) (ha, p)
    else do
      let active ← espProtAnchorAnchors msg p 0 hashLength
      if slotEq update0 active hashLength then
        (fun r ↦ (r.1, r.2.1)) <$>
          forUpToErr g.espProtNumParallelHchains (updateNextChain msg hashLength) (ha, p)
      else forUpToErr g.espProtNumParallelHchains (updateNewerChain msg p hashLength) ha
  pure (r.1, r.2, if r.1 = 0 then r.2.spiInboundCurrent else 0)

/-! ### The acknowledgement -/

/-- The keyed functions of a host association: the HMAC `hip_build_param_hmac_contents` computes
with `hip_hmac_out` over the message so far, and the signature `entry->sign` computes with the
private key, which can fail. -/
structure HipSigner where
  hmac : HipCommon → Bytes
  sign : HipCommon → Option Bytes

/-- `esp_prot_send_update_response`: the return value and the UPDATE sent, an ESP_INFO with the
KEYMAT index and `spi` as old and new SPI, the ACK of the received SEQ, the HMAC and the
signature. -/
def espProtSendUpdateResponse (ha : HipHadbState) (signer : HipSigner) (recv : HipCommon)
    (spi : UInt32) : Except Fault (Int × Option HipCommon) :=
  let seq := hipGetParam recv .seq
  if seq.isNone then pure (-1, none) else do
  let updateId ← hipSeqUpdateId recv seq
  let resp : HipCommon :=
    ⟨hipUpdate, ha.hipVersion.toNat, 0, recv.hitReceiver, recv.hitSender, []⟩
  let resp := hipBuildParamEspInfo resp ha.currentKeymatIndex.toNat spi.toNat spi.toNat
  let resp := hipBuildParamAck resp updateId
  let resp := hipBuildParam resp ⟨.hmac, signer.hmac resp⟩
  match signer.sign resp with
  | none => pure (-22, none)
  | some signature => pure (0, some (hipBuildParam resp ⟨.hipSignature, signature⟩))

/-- `esp_prot_handle_first_update_packet`: the anchors of the UPDATE, then the acknowledgement
for the SPI the handling returned. -/
def espProtHandleFirstUpdatePacket (g : HipdGlobals) (db : AnchorDb) (signer : HipSigner)
    (ha : HipHadbState) (recv : HipCommon) :
    Except Fault (Int × HipHadbState × Option HipCommon) := do
  let (err, ha, spi) ← espProtUpdateHandleAnchor g db ha recv
  if err ≠ 0 then pure (-1, ha, none) else do
  let (err, sent) ← espProtSendUpdateResponse ha signer recv spi
  if err ≠ 0 then pure (-1, ha, none) else pure (0, ha, sent)

/-! ### What the sender builds -/

/-- The active and the next anchor an anchor UPDATE announces for chain `i`, `hashLength` bytes
of each. -/
def announcedAnchor (ha : HipHadbState) (hashLength i : Nat) : Bytes × Bytes :=
  ((ha.espLocalAnchors.getD i []).take hashLength,
    (ha.espLocalUpdateAnchors.getD i []).take hashLength)

/-- The anchors an anchor UPDATE announces for `n` chains. -/
def announcedAnchors (ha : HipHadbState) (hashLength n : Nat) : List (Bytes × Bytes) :=
  (List.range n).map (announcedAnchor ha hashLength)

/-- The root an anchor UPDATE announces for chain `i`. -/
def announcedRoot (ha : HipHadbState) (i : Nat) : Bytes :=
  (ha.espRoot.getD i []).take ha.espRootLength.toNat

/-- The roots an anchor UPDATE announces for `n` chains. -/
def announcedRoots (ha : HipHadbState) (n : Nat) : List Bytes :=
  (List.range n).map (announcedRoot ha)

section Send

variable {lim : EspProtLimits} {ha : HipHadbState}

theorem addUpdateAnchor_ok {hashLength i : Nat} (update : HipCommon)
    (hA : AnchorRows lim ha.espLocalAnchors) (hU : AnchorRows lim ha.espLocalUpdateAnchors)
    (hlen : hashLength ≤ lim.maxHashLength) (hi : i < lim.maxNumParallelHchains) :
    addUpdateAnchor ha hashLength i update = .ok (hipBuildParam update
      (espProtAnchorTlv ha.espProtTransform (announcedAnchor ha hashLength i).1
        (some (announcedAnchor ha hashLength i).2) ha.hashItemLength)) := by
  have hiA : i < ha.espLocalAnchors.length := hA.1 ▸ hi
  have hiU : i < ha.espLocalUpdateAnchors.length := hU.1 ▸ hi
  simp [addUpdateAnchor, announcedAnchor, hipBuildParamEspProtAnchor, arrayPrefix, hiA, hiU,
    hA.le_getElem_length hlen, hU.le_getElem_length hlen]

theorem addUpdateRoot_ok {i : Nat} (update : HipCommon) (hR : AnchorRows lim ha.espRoot)
    (hlen : ha.espRootLength.toNat ≤ lim.maxHashLength) (hi : i < lim.maxNumParallelHchains) :
    addUpdateRoot ha i update =
      .ok (hipBuildParam update (espProtRootTlv (announcedRoot ha i))) := by
  have hiR : i < ha.espRoot.length := hR.1 ▸ hi
  simp [addUpdateRoot, announcedRoot, hipBuildParamEspProtRoot, arrayPrefix, hiR,
    hR.le_getElem_length hlen]

/-- With a transform in use and a SEQ in the UPDATE, the sender appends the anchors of every
chain, then their roots when it has any. -/
theorem espProtUpdateAddAnchor_ok (g : HipdGlobals) (db : AnchorDb) (update : HipCommon)
    (ht : espProtTfmUnused < ha.espProtTransform) (hseq : (hipGetParam update .seq).isSome)
    (hn : g.espProtNumParallelHchains.toNat ≤ lim.maxNumParallelHchains)
    (hA : AnchorRows lim ha.espLocalAnchors) (hU : AnchorRows lim ha.espLocalUpdateAnchors)
    (hR : AnchorRows lim ha.espRoot) (hlen : db.anchorLength ha.espProtTransform ≤ lim.maxHashLength)
    (hroot : ha.espRootLength.toNat ≤ lim.maxHashLength) :
    espProtUpdateAddAnchor g db ha update = .ok (0,
      { ha with espLocalUpdateLength := db.hashItemLength ha.espProtTransform },
      withParams update ((announcedAnchors ha (db.anchorLength ha.espProtTransform)
          g.espProtNumParallelHchains.toNat).map
            (fun a ↦ espProtAnchorTlv ha.espProtTransform a.1 (some a.2) ha.hashItemLength) ++
        if 0 < ha.espRootLength then
          (announcedRoots ha g.espProtNumParallelHchains.toNat).map espProtRootTlv
        else [])) := by
  have hanchors : forUpTo (g.espProtNumParallelHchains.toNat : Int)
      (addUpdateAnchor ha (db.anchorLength ha.espProtTransform)) update =
      .ok (withParams update ((announcedAnchors ha (db.anchorLength ha.espProtTransform)
        g.espProtNumParallelHchains.toNat).map
          (fun a ↦ espProtAnchorTlv ha.espProtTransform a.1 (some a.2) ha.hashItemLength))) := by
    rw [announcedAnchors, List.map_map]
    exact forUpTo_hipBuildParam _ _ _ fun i hi m ↦ addUpdateAnchor_ok m hA hU hlen (by omega)
  have hroots : ∀ m, forUpTo (g.espProtNumParallelHchains.toNat : Int) (addUpdateRoot ha) m =
      .ok (withParams m ((announcedRoots ha g.espProtNumParallelHchains.toNat).map
        espProtRootTlv)) := by
    intro m
    rw [announcedRoots, List.map_map]
    exact forUpTo_hipBuildParam _ _ _ fun i hi m ↦ addUpdateRoot_ok m hR hroot (by omega)
  rw [espProtUpdateAddAnchor, if_pos ⟨ht, hseq⟩, forUpTo_toNat, hanchors, ok_bind]
  split
  · rw [forUpTo_toNat, hroots]
    simp
  · simp

theorem length_announcedAnchors (hashLength n : Nat) :
    (announcedAnchors ha hashLength n).length = n := by
  simp [announcedAnchors]

theorem length_announcedRoots (n : Nat) : (announcedRoots ha n).length = n := by
  simp [announcedRoots]

/-- Every announced anchor has the anchor length, when the rows hold that many bytes. -/
theorem announcedAnchors_length {hashLength n : Nat} (hA : AnchorRows lim ha.espLocalAnchors)
    (hU : AnchorRows lim ha.espLocalUpdateAnchors) (hlen : hashLength ≤ lim.maxHashLength)
    (hn : n ≤ lim.maxNumParallelHchains) :
    ∀ a ∈ announcedAnchors ha hashLength n, a.1.length = hashLength ∧ a.2.length = hashLength := by
  simp only [announcedAnchors, List.mem_map, List.mem_range]
  rintro _ ⟨i, hi, rfl⟩
  have hiA : i < ha.espLocalAnchors.length := by rw [hA.1]; omega
  have hiU : i < ha.espLocalUpdateAnchors.length := by rw [hU.1]; omega
  simp [announcedAnchor, hiA, hiU, hA.le_getElem_length hlen, hU.le_getElem_length hlen]

/-- Every announced root has the root length, when the rows hold that many bytes. -/
theorem announcedRoots_length {n : Nat} (hR : AnchorRows lim ha.espRoot)
    (hlen : ha.espRootLength.toNat ≤ lim.maxHashLength) (hn : n ≤ lim.maxNumParallelHchains) :
    ∀ r ∈ announcedRoots ha n, r.length = ha.espRootLength.toNat := by
  simp only [announcedRoots, List.mem_map, List.mem_range]
  rintro _ ⟨i, hi, rfl⟩
  have hiR : i < ha.espRoot.length := by rw [hR.1]; omega
  simp [announcedRoot, hiR, hR.le_getElem_length hlen]

end Send

/-! ### What the receiver stores -/

/-- The host association after the first `j` chains of the first loop (`moved` false) or the
second (`moved` true) of `esp_prot_update_handle_anchor`: the next anchors of the first `j`
anchor parameters are the peer's update anchors, after the second loop moved the update anchors
they replace into the peer's anchors, and nothing else changed but the update length. -/
structure UpdatedPeer (ha : HipHadbState) (as : List (Bytes × Bytes)) (len hashItemLength : Nat)
    (moved : Bool) (j : Nat) (ha' : HipHadbState) : Prop where
  peer_eq : ha'.espPeerAnchors = if moved then
    writeRows ha.espPeerAnchors (ha.espPeerUpdateAnchors.take j) len else ha.espPeerAnchors
  update_eq : ha'.espPeerUpdateAnchors =
    writeRows ha.espPeerUpdateAnchors ((as.map Prod.snd).take j) len
  length_eq : 0 < j → ha'.espPeerUpdateLength = hashItemLength % 2 ^ 32
  others : { ha' with
    espPeerAnchors := ha.espPeerAnchors
    espPeerUpdateAnchors := ha.espPeerUpdateAnchors
    espPeerUpdateLength := ha.espPeerUpdateLength } = ha

/-- The anchors `as` that `esp_prot_update_handle_anchor` stores for every chain: in its first
loop, on the first update after the base exchange, when the active anchors are the peer's
anchors; in its second, when they are the peer's update anchors; and, for one chain, in its
third, when the active anchor is the peer's anchor. -/
def AnchorsAccepted (ha : HipHadbState) (as : List (Bytes × Bytes)) (len : Nat) : Prop :=
  (∀ u ∈ ha.espPeerUpdateAnchors[0]?, ∀ b ∈ u, b = 0) ∧ AnchorsMatch ha.espPeerAnchors as len ∨
    (∃ u ∈ ha.espPeerUpdateAnchors[0]?, ∃ b ∈ u, b ≠ 0) ∧
      (AnchorsMatch ha.espPeerUpdateAnchors as len ∨
        as.length = 1 ∧ AnchorsMatch ha.espPeerAnchors as len)

section Receive

variable {lim : EspProtLimits} {msg : HipCommon} {t : UInt8} {hashItemLength len : Nat}
  {pre post : List HipTlv} {as : List (Bytes × Bytes)} {ha : HipHadbState}

/-- The walk over the anchors after `j` chains: `UpdatedPeer`, and the parameter pointer at
anchor `j`. -/
def UpdateWalk (ha : HipHadbState) (pre : List HipTlv) (as : List (Bytes × Bytes))
    (len hashItemLength : Nat) (moved : Bool) (j : Nat) (s : HipHadbState × ParamPtr) : Prop :=
  UpdatedPeer ha as len hashItemLength moved j s.1 ∧ (j < as.length → s.2 = some (pre.length + j))

theorem UpdatedPeer.transform_eq {moved : Bool} {j : Nat} {ha' : HipHadbState}
    (h : UpdatedPeer ha as len hashItemLength moved j ha') :
    ha'.espProtTransform = ha.espProtTransform := by
  rw [← h.others]

theorem UpdatedPeer.spiInboundCurrent_eq {moved : Bool} {j : Nat} {ha' : HipHadbState}
    (h : UpdatedPeer ha as len hashItemLength moved j ha') :
    ha'.spiInboundCurrent = ha.spiInboundCurrent := by
  rw [← h.others]

theorem setPeerUpdateAnchor_ok
    (hmsg : msg.params =
      pre ++ as.map (fun a ↦ espProtAnchorTlv t a.1 (some a.2) hashItemLength) ++ post)
    (has : ∀ a ∈ as, a.1.length = len ∧ a.2.length = len) (hU : AnchorRows lim ha.espPeerUpdateAnchors)
    (hlen : len ≤ lim.maxHashLength) (hn : as.length ≤ lim.maxNumParallelHchains) {j : Nat}
    (hj : j < as.length) (ha' : HipHadbState)
    (hupd : ha'.espPeerUpdateAnchors =
      writeRows ha.espPeerUpdateAnchors ((as.map Prod.snd).take j) len) :
    setPeerUpdateAnchor msg (some (pre.length + j)) len j ha' = .ok { ha' with
      espPeerUpdateAnchors := writeRows ha.espPeerUpdateAnchors ((as.map Prod.snd).take (j + 1)) len,
      espPeerUpdateLength := hashItemLength % 2 ^ 32 } := by
  obtain ⟨-, hitem, -, hnext⟩ := updateAnchorParams_fields hmsg has hj
  have hmem := memcpyRow_writeRows_take (show j < (as.map Prod.snd).length by simpa using hj)
    (by rw [hU.1]; omega) (hU.le_getElem_length hlen j (by rw [hU.1]; omega))
  simp only [List.getElem_map] at hmem
  simp only [setPeerUpdateAnchor, hnext, hupd, hmem, hitem, ok_bind, pure_eq_ok]

theorem hipGetNextParam_updateAnchor (hmsg : msg.params =
      pre ++ as.map (fun a ↦ espProtAnchorTlv t a.1 (some a.2) hashItemLength) ++ post)
    {j : Nat} (hj : j + 1 < as.length) :
    hipGetNextParam msg (some (pre.length + j)) = some (pre.length + (j + 1)) := by
  rw [hipGetNextParam_some (by rw [hmsg]; simp; omega)]
  rfl

theorem updatedPeer_zero (moved : Bool) : UpdatedPeer ha as len hashItemLength moved 0 ha :=
  ⟨by simp, by simp, fun h ↦ absurd h (lt_irrefl 0), rfl⟩

section Walk

variable (hmsg : msg.params =
      pre ++ as.map (fun a ↦ espProtAnchorTlv t a.1 (some a.2) hashItemLength) ++ post)
  (has : ∀ a ∈ as, a.1.length = len ∧ a.2.length = len)
  (hP : AnchorRows lim ha.espPeerAnchors) (hU : AnchorRows lim ha.espPeerUpdateAnchors)
  (hlen : len ≤ lim.maxHashLength) (hn : as.length ≤ lim.maxNumParallelHchains)
include hmsg has hP hU hlen hn

theorem updateFirstChain_step (ht : ha.espProtTransform = t)
    (hmatch : AnchorsMatch ha.espPeerAnchors as len) {j : Nat} {s : HipHadbState × ParamPtr}
    (hj : j < as.length) (hs : UpdateWalk ha pre as len hashItemLength false j s) :
    ∃ s', updateFirstChain msg len j s = .ok (0, s') ∧
      UpdateWalk ha pre as len hashItemLength false (j + 1) s' := by
  obtain ⟨hpeer, hptr⟩ := hs
  obtain ⟨htfm, -, hact, -⟩ := updateAnchorParams_fields hmsg has hj
  have hjP : j < ha.espPeerAnchors.length := by rw [hP.1]; omega
  have hrow : ha.espPeerAnchors[j].take len = as[j].1 := by
    simpa [List.getElem?_eq_getElem hjP] using hmatch j hj
  have hslot : slotEq as[j].1 ha.espPeerAnchors[j] len = true := by
    rw [slotEq_iff, hrow, List.take_of_length_le (has _ (List.getElem_mem hj)).1.le]
  have hpeerRows : s.1.espPeerAnchors = ha.espPeerAnchors := by simpa using hpeer.peer_eq
  have htr : ¬ s.1.espProtTransform ≠ t := not_not.mpr (hpeer.transform_eq.trans ht)
  constructor
  constructor
  · simp only [updateFirstChain, hptr hj, htfm, htr, if_false, hact, hpeerRows,
      arrayGet_of_lt _ _ hjP, hslot, Bool.not_true, Bool.false_eq_true,
      setPeerUpdateAnchor_ok hmsg has hU hlen hn hj s.1 hpeer.update_eq, ok_bind, pure_eq_ok]
    rfl
  · exact ⟨⟨by simp, rfl, fun _ ↦ rfl, hpeer.others⟩,
      fun hj1 ↦ hipGetNextParam_updateAnchor hmsg hj1⟩

theorem updateNextChain_step (hmatch : AnchorsMatch ha.espPeerUpdateAnchors as len) {j : Nat}
    {s : HipHadbState × ParamPtr} (hj : j < as.length)
    (hs : UpdateWalk ha pre as len hashItemLength true j s) :
    ∃ s', updateNextChain msg len j s = .ok (0, s') ∧
      UpdateWalk ha pre as len hashItemLength true (j + 1) s' := by
  obtain ⟨hpeer, hptr⟩ := hs
  obtain ⟨-, -, hact, -⟩ := updateAnchorParams_fields hmsg has hj
  have hjU : j < ha.espPeerUpdateAnchors.length := by rw [hU.1]; omega
  have hjP : j < ha.espPeerAnchors.length := by rw [hP.1]; omega
  have hrow : ha.espPeerUpdateAnchors[j].take len = as[j].1 := by
    simpa [List.getElem?_eq_getElem hjU] using hmatch j hj
  have hslot : slotEq as[j].1 ha.espPeerUpdateAnchors[j] len = true := by
    rw [slotEq_iff, hrow, List.take_of_length_le (has _ (List.getElem_mem hj)).1.le]
  have hget : arrayGet s.1.espPeerUpdateAnchors j = .ok ha.espPeerUpdateAnchors[j] := by
    rw [hpeer.update_eq, arrayGet,
      getElem?_writeRows_ge _ _ _ _ (by simp only [List.length_take, List.length_map]; omega),
      List.getElem?_eq_getElem hjU]
  have hmove := memcpyRow_writeRows_take hjU hjP (hP.le_getElem_length hlen j hjP)
  have hpeerRows : s.1.espPeerAnchors =
      writeRows ha.espPeerAnchors (ha.espPeerUpdateAnchors.take j) len := by
    simpa using hpeer.peer_eq
  constructor
  constructor
  · simp only [updateNextChain, hptr hj, hact, hget, hslot, Bool.not_true, Bool.false_eq_true,
      if_false, hpeerRows, hmove, ok_bind,
      setPeerUpdateAnchor_ok hmsg has hU hlen hn hj { s.1 with
        espPeerAnchors := writeRows ha.espPeerAnchors (ha.espPeerUpdateAnchors.take (j + 1)) len }
        hpeer.update_eq, pure_eq_ok]
    rfl
  · exact ⟨⟨by simp, rfl, fun _ ↦ rfl, hpeer.others⟩,
      fun hj1 ↦ hipGetNextParam_updateAnchor hmsg hj1⟩

theorem updateFirstChain_all (ht : ha.espProtTransform = t)
    (hmatch : AnchorsMatch ha.espPeerAnchors as len) :
    ∃ s, forUpToErr as.length (updateFirstChain msg len) (ha, some pre.length) = .ok (0, s) ∧
      UpdatedPeer ha as len hashItemLength false as.length s.1 := by
  obtain ⟨s, hloop, hs, -⟩ := forUpToErr_run (UpdateWalk ha pre as len hashItemLength false)
    (show UpdateWalk ha pre as len hashItemLength false 0 (ha, some pre.length) from
      ⟨updatedPeer_zero false, fun _ ↦ rfl⟩)
    (fun _ _ hj hs ↦ updateFirstChain_step hmsg has hP hU hlen hn ht hmatch hj hs) _ le_rfl
  exact ⟨s, hloop, hs⟩

theorem updateNextChain_all (hmatch : AnchorsMatch ha.espPeerUpdateAnchors as len) :
    ∃ s, forUpToErr as.length (updateNextChain msg len) (ha, some pre.length) = .ok (0, s) ∧
      UpdatedPeer ha as len hashItemLength true as.length s.1 := by
  obtain ⟨s, hloop, hs, -⟩ := forUpToErr_run (UpdateWalk ha pre as len hashItemLength true)
    (show UpdateWalk ha pre as len hashItemLength true 0 (ha, some pre.length) from
      ⟨updatedPeer_zero true, fun _ ↦ rfl⟩)
    (fun _ _ hj hs ↦ updateNextChain_step hmsg has hP hU hlen hn hmatch hj hs) _ le_rfl
  exact ⟨s, hloop, hs⟩

/-- The third loop over one chain: an active anchor that is the peer's anchor has its next anchor
stored as the peer's update anchor. -/
theorem updateNewerChain_one (hone : as.length = 1)
    (hmatch : AnchorsMatch ha.espPeerAnchors as len) :
    ∃ ha', updateNewerChain msg (some pre.length) len 0 ha = .ok (0, ha') ∧
      UpdatedPeer ha as len hashItemLength false as.length ha' := by
  have has0 : 0 < as.length := by omega
  obtain ⟨-, -, hact, -⟩ := updateAnchorParams_fields hmsg has has0
  have hset := setPeerUpdateAnchor_ok hmsg has hU hlen hn has0 ha (by simp)
  simp only [Nat.add_zero] at hact hset
  have hP0 : 0 < ha.espPeerAnchors.length := by rw [hP.1]; omega
  have hrow : ha.espPeerAnchors[0].take len = as[0].1 := by
    simpa [List.getElem?_eq_getElem hP0] using hmatch 0 has0
  have hslot : slotEq as[0].1 ha.espPeerAnchors[0] len = true := by
    rw [slotEq_iff, hrow, List.take_of_length_le (has _ (List.getElem_mem has0)).1.le]
  refine ⟨{ ha with
      espPeerUpdateAnchors := writeRows ha.espPeerUpdateAnchors ((as.map Prod.snd).take (0 + 1)) len
      espPeerUpdateLength := hashItemLength % 2 ^ 32 }, ?_, rfl, by rw [hone], fun _ ↦ rfl, rfl⟩
  simp only [updateNewerChain, hact, arrayGet_of_lt _ _ hP0, hslot, Bool.not_true,
    Bool.false_eq_true, if_false, hset, ok_bind, pure_eq_ok]

/-- An anchor UPDATE the receiver accepts in its first or second loop, or for one chain in its
third: every chain's next anchor becomes the peer's update anchor, and the SPI written is the
inbound SPI. -/
theorem espProtUpdateHandleAnchor_accepts (g : HipdGlobals) (db : AnchorDb)
    (hpre : ∀ x ∈ pre, x.type ≠ .espProtAnchor) (hne : as ≠ [])
    (hchains : g.espProtNumParallelHchains = as.length) (ht : ha.espProtTransform = t)
    (hdb : db.anchorLength t = len)
    (hbranch : AnchorsAccepted ha as len) :
    ∃ ha' moved, espProtUpdateHandleAnchor g db ha msg = .ok (0, ha', ha.spiInboundCurrent) ∧
      UpdatedPeer ha as len hashItemLength moved as.length ha' := by
  have hp : hipGetParam msg .espProtAnchor = some pre.length := by
    obtain ⟨a, as', rfl⟩ := List.exists_cons_of_ne_nil hne
    have hmsg' : msg.params = pre ++ espProtAnchorTlv t a.1 (some a.2) hashItemLength ::
        (as'.map (fun a ↦ espProtAnchorTlv t a.1 (some a.2) hashItemLength) ++ post) := by
      simp [hmsg]
    exact hipGetParam_eq_some hmsg' hpre rfl
  have has0 : 0 < as.length := List.length_pos.mpr hne
  have hU0 : 0 < ha.espPeerUpdateAnchors.length := by rw [hU.1]; omega
  have hget0 : ha.espPeerUpdateAnchors[0]? = some ha.espPeerUpdateAnchors[0] :=
    List.getElem?_eq_getElem hU0
  have hlen' : db.anchorLength ha.espProtTransform = len := ht ▸ hdb
  unfold espProtUpdateHandleAnchor
  simp only [hp, Option.isNone_some, Bool.false_eq_true, if_false, hlen',
    arrayGet_of_lt _ _ hU0, ok_bind, hchains]
  rcases hbranch with ⟨hzero, hmatch⟩ | ⟨⟨u, hu, b, hb, hb0⟩, hnext⟩
  · -- the first loop
    have hall : ha.espPeerUpdateAnchors[0].all (· == 0) = true := by
      simpa using hzero _ hget0
    obtain ⟨s, hloop, hs⟩ := updateFirstChain_all hmsg has hP hU hlen hn ht hmatch
    refine ⟨s.1, false, ?_, hs⟩
    simp [hall, hloop, hs.spiInboundCurrent_eq]
  have hall : ha.espPeerUpdateAnchors[0].all (· == 0) = false := by
    rw [hget0, Option.mem_some_iff] at hu
    subst hu
    simpa using ⟨b, hb, hb0⟩
  obtain ⟨-, -, hact, -⟩ := updateAnchorParams_fields hmsg has has0
  simp only [Nat.add_zero] at hact
  have hlen0 := (has _ (List.getElem_mem has0)).1
  have hslot_of : AnchorsMatch ha.espPeerUpdateAnchors as len →
      slotEq ha.espPeerUpdateAnchors[0] as[0].1 len = true := fun hmatch ↦ by
    have h0 := hmatch 0 has0
    rw [hget0, Option.map_some', Option.some.injEq] at h0
    rw [slotEq_iff, h0, List.take_of_length_le hlen0.le]
  by_cases hslot : slotEq ha.espPeerUpdateAnchors[0] as[0].1 len = true
  · -- the second loop; over one chain the slot comparison is the whole match
    have hmatch : AnchorsMatch ha.espPeerUpdateAnchors as len :=
      hnext.elim id fun ⟨hone, _⟩ j hj ↦ by
        obtain rfl : j = 0 := by omega
        rw [hget0, Option.map_some', (slotEq_iff _ _ _).1 hslot, List.take_of_length_le hlen0.le]
    obtain ⟨s, hloop, hs⟩ := updateNextChain_all hmsg has hP hU hlen hn hmatch
    refine ⟨s.1, true, ?_, hs⟩
    simp [hall, hact, hslot, hloop, hs.spiInboundCurrent_eq]
  · -- the third loop, over one chain
    obtain ⟨hone, hmatch⟩ := hnext.resolve_left fun hm ↦ hslot (hslot_of hm)
    obtain ⟨ha', hrun, hup⟩ := updateNewerChain_one hmsg has hP hU hlen hn hone hmatch
    refine ⟨ha', false, ?_, hup⟩
    simp [hall, hact, hslot, hone, forUpToErr_one, hrun, hup.spiInboundCurrent_eq]

end Walk

end Receive

/-- A host on PLAIN with two chains of two-byte anchors, after an update that announced `5 6`
and `7 8`. -/
def midUpdateHa : HipHadbState where
  espProtTransform := espProtTfmPlain
  espProtParam := true
  espLocalAnchors := [[0, 0], [0, 0]]
  espLocalUpdateAnchors := [[0, 0], [0, 0]]
  espPeerAnchors := [[1, 2], [3, 4]]
  espPeerUpdateAnchors := [[5, 6], [7, 8]]
  espLocalActiveLength := 0
  espLocalUpdateLength := 0
  espPeerActiveLength := 8
  espPeerUpdateLength := 8
  espRootLength := 0
  espRoot := [[0, 0], [0, 0]]
  hashItemLength := 8
  currentKeymatIndex := 0
  spiInboundCurrent := 7
  hipVersion := 2

/-- Two-byte anchors of eight elements, none left to hand out. -/
def twoByteAnchorDb : AnchorDb :=
  ⟨fun _ ↦ [], fun _ ↦ 2, fun _ ↦ 8, fun _ _ h ↦ by simp at h⟩

/-- The next UPDATE announces `9 10` after `5 6` on the first chain but starts the second from
`0 0`, not from `7 8`: `esp_prot_update_handle_anchor` returns -1, with the first chain already
moved on, its anchor `5 6` and its update anchor `9 10`. -/
theorem laterChainMismatch_firstChainMoved :
    espProtUpdateHandleAnchor ⟨true, 1, [espProtTfmPlain], 2⟩ twoByteAnchorDb midUpdateHa
        ⟨hipUpdate, 2, 0, 2, 1, [espProtAnchorTlv espProtTfmPlain [5, 6] (some [9, 10]) 8,
          espProtAnchorTlv espProtTfmPlain [0, 0] (some [11, 12]) 8]⟩ =
      .ok (-1, { midUpdateHa with
        espPeerAnchors := [[5, 6], [3, 4]]
        espPeerUpdateAnchors := [[9, 10], [7, 8]] }, 0) :=
  rfl

/-! ### What the acknowledgement carries -/

/-- The acknowledgement `esp_prot_send_update_response` sends for the UPDATE `recv`: from the
receiver's HIT to the sender's, the ESP_INFO with the KEYMAT index and `spi` as old and new SPI,
the ACK of the UPDATE's number, the HMAC and the signature. -/
def updateResponse (ha : HipHadbState) (recv : HipCommon) (spi : UInt32) (updateId : Nat)
    (hmac signature : Bytes) : HipCommon :=
  ⟨hipUpdate, ha.hipVersion.toNat, 0, recv.hitReceiver, recv.hitSender,
    [⟨.espInfo, [0, 0] ++ beBytes 2 ha.currentKeymatIndex.toNat ++ beBytes 4 spi.toNat ++
      beBytes 4 spi.toNat⟩, ⟨.ack, beBytes 4 updateId⟩, ⟨.hmac, hmac⟩,
      ⟨.hipSignature, signature⟩]⟩

theorem UpdatedPeer.updateResponse_eq {ha ha' : HipHadbState} {as : List (Bytes × Bytes)}
    {len hashItemLength j : Nat} {moved : Bool} (h : UpdatedPeer ha as len hashItemLength moved j ha')
    (recv : HipCommon) (spi : UInt32) (updateId : Nat) (hmac signature : Bytes) :
    updateResponse ha' recv spi updateId hmac signature =
      updateResponse ha recv spi updateId hmac signature := by
  rw [← h.others]
  rfl

/-- What the firewall reads from the acknowledgement: no SEQ and no anchor, the ACK of the
UPDATE's number and the ESP_INFO with `spi` as old SPI. -/
theorem updateResponse_reads (ha : HipHadbState) (recv : HipCommon) (spi : UInt32)
    (updateId : Nat) (hmac signature : Bytes) :
    hipGetParam (updateResponse ha recv spi updateId hmac signature) .seq = none ∧
      hipGetParam (updateResponse ha recv spi updateId hmac signature) .espProtAnchor = none ∧
      hipGetParam (updateResponse ha recv spi updateId hmac signature) .ack = some 1 ∧
      hipGetParam (updateResponse ha recv spi updateId hmac signature) .espInfo = some 0 ∧
      hipEspInfoOldSpi (updateResponse ha recv spi updateId hmac signature) (some 0) =
        .ok spi.toNat ∧
      hipAckPeerUpdateId (updateResponse ha recv spi updateId hmac signature) (some 1) =
        .ok (updateId % 2 ^ 32) := by
  have hspi : paramNat (updateResponse ha recv spi updateId hmac signature) (some 0)
      ([0, 0] ++ beBytes 2 ha.currentKeymatIndex.toNat).length 4 = .ok (spi.toNat % 256 ^ 4) :=
    paramNat_of_getElem? rfl
  have hack : paramNat (updateResponse ha recv spi updateId hmac signature) (some 1)
      ([] : Bytes).length 4 = .ok (updateId % 256 ^ 4) :=
    paramNat_of_getElem? (show (updateResponse ha recv spi updateId hmac signature).params[1]? =
      some ⟨.ack, ([] : Bytes) ++ beBytes 4 updateId ++ []⟩ by simp [updateResponse])
  have hlt : spi.toNat < 256 ^ 4 := spi.val.isLt
  simp only [List.length_append, length_beBytes, List.length_cons, List.length_nil] at hspi hack
  refine ⟨rfl, rfl, rfl, rfl, ?_, ?_⟩
  · rw [hipEspInfoOldSpi, hspi, Nat.mod_eq_of_lt hlt]
  · rw [hipAckPeerUpdateId, hack, show (256 : Nat) ^ 4 = 2 ^ 32 by decide]

/-- With a readable SEQ and a signature, the acknowledgement is sent. -/
theorem espProtSendUpdateResponse_ok (ha : HipHadbState) (signer : HipSigner) (recv : HipCommon)
    (spi : UInt32) {updateId : Nat}
    (hseq : hipSeqUpdateId recv (hipGetParam recv .seq) = .ok updateId)
    (hsign : ∀ m, (signer.sign m).isSome) :
    ∃ hmac signature, espProtSendUpdateResponse ha signer recv spi =
      .ok (0, some (updateResponse ha recv spi updateId hmac signature)) := by
  have hsome : (hipGetParam recv .seq).isNone = false := by
    cases h : hipGetParam recv .seq
    · simp [h, hipSeqUpdateId, paramNat, Functor.map, Except.map] at hseq
    · rfl
  simp only [espProtSendUpdateResponse, hsome, Bool.false_eq_true, if_false, hseq, ok_bind]
  split
  · rename_i h
    rw [← Option.not_isSome_iff_eq_none] at h
    exact absurd (hsign _) h
  · exact ⟨_, _, rfl⟩

section First

variable {lim : EspProtLimits} {msg : HipCommon} {t : UInt8} {hashItemLength len : Nat}
  {pre post : List HipTlv} {as : List (Bytes × Bytes)} {ha : HipHadbState}

/-- The first packet of an anchor update that the receiver accepts (`AnchorsAccepted`) is
acknowledged for the inbound SPI, and every chain's next anchor becomes the peer's update
anchor. -/
theorem espProtHandleFirstUpdatePacket_accepts (g : HipdGlobals) (db : AnchorDb)
    (signer : HipSigner)
    (hmsg : msg.params =
      pre ++ as.map (fun a ↦ espProtAnchorTlv t a.1 (some a.2) hashItemLength) ++ post)
    (has : ∀ a ∈ as, a.1.length = len ∧ a.2.length = len)
    (hP : AnchorRows lim ha.espPeerAnchors) (hU : AnchorRows lim ha.espPeerUpdateAnchors)
    (hlen : len ≤ lim.maxHashLength) (hn : as.length ≤ lim.maxNumParallelHchains)
    (hpre : ∀ x ∈ pre, x.type ≠ .espProtAnchor) (hne : as ≠ [])
    (hchains : g.espProtNumParallelHchains = as.length) (ht : ha.espProtTransform = t)
    (hdb : db.anchorLength t = len)
    (hbranch : AnchorsAccepted ha as len)
    {updateId : Nat} (hseq : hipSeqUpdateId msg (hipGetParam msg .seq) = .ok updateId)
    (hsign : ∀ m, (signer.sign m).isSome) :
    ∃ ha' moved hmac signature, espProtHandleFirstUpdatePacket g db signer ha msg = .ok (0, ha',
        some (updateResponse ha msg ha.spiInboundCurrent updateId hmac signature)) ∧
      UpdatedPeer ha as len hashItemLength moved as.length ha' := by
  obtain ⟨ha', moved, hh, hup⟩ := espProtUpdateHandleAnchor_accepts hmsg has hP hU hlen hn g db
    hpre hne hchains ht hdb hbranch
  obtain ⟨hmac, signature, hr⟩ :=
    espProtSendUpdateResponse_ok ha' signer msg ha.spiInboundCurrent hseq hsign
  refine ⟨ha', moved, hmac, signature, ?_, hup⟩
  simp [espProtHandleFirstUpdatePacket, hh, hr, hup.updateResponse_eq]

end First

end Hipl.Hipd
