import Hipl.Hipd.State
import Hipl.Wire.Params

/-!
# The ESP protection parameters of the base exchange

The six steps esp_prot_hipd_msg.c takes in a base exchange. The responder advertises its
preferred transforms in the R1 (`espProtR1AddTransforms`); the initiator selects the first of
its own transforms the responder also advertised (`espProtR1HandleTransforms`) and sends one
anchor per parallel chain in the I2 (`espProtI2AddAnchor`); the responder stores them as the
peer's anchors (`espProtI2HandleAnchor`) and sends its own anchors in the R2
(`espProtR2AddAnchor`), which the initiator stores (`espProtR2HandleAnchor`). A host without
enough anchors falls back to UNUSED and tells its peer with an UNUSED anchor parameter.

The number of parallel chains and the anchor length are local settings of each host, never
sent: a receiver reads as many anchors, and as many bytes of each, as its own settings say
(`espProtBex` runs the six steps).

Each step returns the C function's return value; a builder never fails.

The last part says what each step does on the messages the steps before built: the sending
loops take the first anchors of the database (`addLocalAnchor_loop`), the receiving loops store
consecutive anchor parameters (`storePeerAnchor_all`), and each step either goes on with the
agreed transform or falls back to UNUSED.
-/

set_option autoImplicit false
set_option relaxedAutoImplicit false

namespace Hipl.Hipd

open Hipl.Wire Hipl.EspProt

/-! ### Transform negotiation -/

/-- `esp_prot_r1_add_transforms`: the first `esp_prot_num_transforms` preferred transforms, in
an ESP_PROT_TRANSFORMS parameter, when userspace IPsec is on. -/
def espProtR1AddTransforms (g : HipdGlobals) (msg : HipCommon) : Except Fault (Int × HipCommon) :=
  if g.hipUseUserspaceIpsec then do
    let tfms ← arrayPrefix g.espProtTransforms g.espProtNumTransforms.toNat
    pure (0, hipBuildParamEspProtTransform msg tfms)
  else pure (0, msg)

/-- The inner loop of `esp_prot_select_transform`: whether the peer's transforms from index `j`
on, `fuel` of them, contain `t`. -/
def peerHasTransform (msg : HipCommon) (p : ParamPtr) (t : UInt8) (j : Nat) :
    Nat → Except Fault Bool
  | 0 => pure false
  | fuel + 1 => do
    let peer ← espProtPreferredTfmsAt msg p j
    if peer = t then pure true else peerHasTransform msg p t (j + 1) fuel

/-- `esp_prot_select_transform`: the first of the local preferred transforms, from index `i` on,
that the peer's list of `num` transforms contains; UNUSED when there is none. -/
def espProtSelectTransform (g : HipdGlobals) (msg : HipCommon) (p : ParamPtr) (num : Nat) :
    Nat → Nat → Except Fault UInt8
  | _, 0 => pure espProtTfmUnused
  | i, fuel + 1 => do
    let t ← arrayGet g.espProtTransforms i
    if ← peerHasTransform msg p t 0 num then pure t
    else espProtSelectTransform g msg p num (i + 1) fuel

/-- `esp_prot_r1_handle_transforms`: the transform selected from the R1's list, or UNUSED. -/
def espProtR1HandleTransforms (g : HipdGlobals) (msg : HipCommon) (ha : HipHadbState) :
    Except Fault (Int × HipHadbState) :=
  if g.hipUseUserspaceIpsec then
    let p := hipGetParam msg .espProtTransforms
    if p.isSome then do
      let num ← espProtPreferredTfmsNum msg p
      let t ← espProtSelectTransform g msg p num 0 g.espProtNumTransforms.toNat
      pure (0, { ha with espProtParam := true, espProtTransform := t })
    else pure (0, { ha with espProtParam := false, espProtTransform := espProtTfmUnused })
  else pure (0, { ha with espProtTransform := espProtTfmUnused })

/-! ### Sending anchors -/

/-- The body of the loop of `esp_prot_i2_add_anchor` and `esp_prot_r2_add_anchor` for chain
`i`: the next anchor of the database goes into an ESP_PROT_ANCHOR parameter and into the local
anchors; `-1` when the database has none left. -/
def addLocalAnchor (t : UInt8) (hashLength hashItemLength : Nat) (i : Nat)
    (s : HipHadbState × AnchorDb × HipCommon) :
    Except Fault (Int × HipHadbState × AnchorDb × HipCommon) :=
  match s.2.1.getAnchor t with
  | (none, db) => pure (-1, s.1, db, s.2.2)
  | (some anchor, db) => do
    let out := hipBuildParamEspProtAnchor s.2.2 t anchor none hashItemLength
    let espLocalAnchors ← memcpyRow s.1.espLocalAnchors i anchor hashLength
    pure (0, { s.1 with espLocalAnchors, espLocalActiveLength := hashItemLength }, db, out)

/-- The part `esp_prot_i2_add_anchor` and `esp_prot_r2_add_anchor` share: the anchors of all
parallel chains when the database has enough of them; otherwise the fall back to UNUSED and
the UNUSED anchor parameter. -/
def addLocalAnchors (g : HipdGlobals) (db : AnchorDb) (ha : HipHadbState) (out : HipCommon) :
    Except Fault (Int × HipHadbState × AnchorDb × HipCommon) :=
  let t := ha.espProtTransform
  if g.espProtNumParallelHchains ≤ (db.getNumAnchors t : Int) then
    forUpToErr g.espProtNumParallelHchains
      (addLocalAnchor t (db.anchorLength t) (db.hashItemLength t)) (ha, db, out)
  else
    pure (0, { ha with espProtTransform := espProtTfmUnused }, db,
      hipBuildParamEspProtAnchor out espProtTfmUnused [] none 0)

/-- `esp_prot_i2_add_anchor`: the anchors for the agreed transform; with no transform agreed,
the UNUSED anchor parameter when the R1 advertised transforms. -/
def espProtI2AddAnchor (g : HipdGlobals) (db : AnchorDb) (ha : HipHadbState) (out : HipCommon) :
    Except Fault (Int × HipHadbState × AnchorDb × HipCommon) :=
  if espProtTfmUnused < ha.espProtTransform then addLocalAnchors g db ha out
  else if ha.espProtParam then
    pure (0, { ha with espProtTransform := espProtTfmUnused }, db,
      hipBuildParamEspProtAnchor out espProtTfmUnused [] none 0)
  else pure (0, { ha with espProtTransform := espProtTfmUnused }, db, out)

/-- `esp_prot_r2_add_anchor`: the anchors for the agreed transform, nothing without one. -/
def espProtR2AddAnchor (g : HipdGlobals) (db : AnchorDb) (ha : HipHadbState) (out : HipCommon) :
    Except Fault (Int × HipHadbState × AnchorDb × HipCommon) :=
  if espProtTfmUnused < ha.espProtTransform then addLocalAnchors g db ha out
  else pure (0, { ha with espProtTransform := espProtTfmUnused }, db, out)

/-! ### Receiving anchors -/

/-- The body of the loop of `esp_prot_i2_handle_anchor` and `esp_prot_r2_handle_anchor` for
chain `i`: the anchor `p` points to becomes the peer's anchor when it has the agreed transform,
and the walk moves to the next parameter; `-1` otherwise. `derefFirst` is the order of the test
of `esp_prot_r2_handle_anchor`, which reads the transform before it tests for NULL. -/
def storePeerAnchor (msg : HipCommon) (t : UInt8) (hashLength : Nat) (derefFirst : Bool)
    (i : Nat) (s : HipHadbState × ParamPtr) : Except Fault (Int × HipHadbState × ParamPtr) :=
  if s.2.isNone ∧ !derefFirst then pure (-1, s) else do
  let t' ← espProtAnchorTransform msg s.2
  if t' ≠ t then pure (-1, s) else do
  let anchor ← espProtAnchorAnchors msg s.2 0 hashLength
  let espPeerAnchors ← memcpyRow s.1.espPeerAnchors i anchor hashLength
  pure (0, { s.1 with espPeerAnchors }, hipGetNextParam msg s.2)

/-- `esp_prot_i2_handle_anchor`: the transform of the I2's first anchor when it is one of the
preferred transforms, and the anchors of all parallel chains. -/
def espProtI2HandleAnchor (g : HipdGlobals) (db : AnchorDb) (ha : HipHadbState) (msg : HipCommon) :
    Except Fault (Int × HipHadbState) :=
  if g.hipUseUserspaceIpsec ∧ 1 < g.espProtNumTransforms then
    let p := hipGetParam msg .espProtAnchor
    if p.isNone then pure (0, { ha with espProtTransform := espProtTfmUnused }) else do
    let t ← espProtAnchorTransform msg p
    let idx ← espProtCheckTransform g.espProtNumTransforms g.espProtTransforms t
    if idx < 0 then pure (0, { ha with espProtTransform := espProtTfmUnused }) else
    let ha := { ha with espProtTransform := t }
    if t = espProtTfmUnused then pure (0, ha) else do
    let itemLength ← espProtAnchorHashItemLength msg p
    let r ← forUpToErr g.espProtNumParallelHchains (storePeerAnchor msg t (db.anchorLength t) false)
      ({ ha with espPeerActiveLength := itemLength }, p)
    pure (r.1, r.2.1)
  else pure (0, { ha with espProtTransform := espProtTfmUnused })

/-- `esp_prot_r2_handle_anchor`: the R2's anchors when they have the agreed transform; any
other transform, or no anchor, falls back to UNUSED. -/
def espProtR2HandleAnchor (g : HipdGlobals) (db : AnchorDb) (ha : HipHadbState) (msg : HipCommon) :
    Except Fault (Int × HipHadbState) :=
  if espProtTfmUnused < ha.espProtTransform then
    let p := hipGetParam msg .espProtAnchor
    if p.isNone then pure (0, { ha with espProtTransform := espProtTfmUnused }) else do
    let t ← espProtAnchorTransform msg p
    if t = ha.espProtTransform then do
      let itemLength ← espProtAnchorHashItemLength msg p
      let r ← forUpToErr g.espProtNumParallelHchains
        (storePeerAnchor msg t (db.anchorLength t) true)
        ({ ha with espPeerActiveLength := itemLength }, p)
      pure (r.1, r.2.1)
    else pure (0, { ha with espProtTransform := espProtTfmUnused })
  else pure (0, { ha with espProtTransform := espProtTfmUnused })

/-! ### One base exchange -/

/-- A hipd instance as the ESP protection steps of a base exchange see it: its globals, its
anchor database and the host association of the exchange. -/
structure HipdHost where
  g : HipdGlobals
  db : AnchorDb
  ha : HipHadbState

/-- The ESP protection steps of one base exchange between the initiator `hI` and the responder
`hR`, in order, each step on the message the one before built: the return values of the six
steps and the two hosts afterwards. `r1`, `i2` and `r2` are the messages as their builders had
them when the step ran, and `r1Rest`, `i2Rest` and `r2Rest` the parameters added after it. -/
def espProtBex (hI hR : HipdHost) (r1 i2 r2 : HipCommon) (r1Rest i2Rest r2Rest : List HipTlv) :
    Except Fault (List Int × HipdHost × HipdHost) := do
  let (e1, r1) ← espProtR1AddTransforms hR.g r1
  let (e2, haI) ← espProtR1HandleTransforms hI.g (withParams r1 r1Rest) hI.ha
  let (e3, haI, dbI, i2) ← espProtI2AddAnchor hI.g hI.db haI i2
  let (e4, haR) ← espProtI2HandleAnchor hR.g hR.db hR.ha (withParams i2 i2Rest)
  let (e5, haR, dbR, r2) ← espProtR2AddAnchor hR.g hR.db haR r2
  let (e6, haI) ← espProtR2HandleAnchor hI.g dbI haI (withParams r2 r2Rest)
  pure ([e1, e2, e3, e4, e5, e6], ⟨hI.g, dbI, haI⟩, ⟨hR.g, dbR, haR⟩)

/-! ### The anchor database and the message under construction -/

@[simp] theorem AnchorDb.getAnchor_fst (db : AnchorDb) (t : UInt8) :
    (db.getAnchor t).1 = (db.anchors t).head? := by
  unfold AnchorDb.getAnchor; split <;> simp_all

@[simp] theorem AnchorDb.getAnchor_anchors (db : AnchorDb) (t : UInt8) :
    (db.getAnchor t).2.anchors t = (db.anchors t).tail := by
  unfold AnchorDb.getAnchor; split <;> simp_all

@[simp] theorem AnchorDb.getAnchor_anchorLength (db : AnchorDb) (t : UInt8) :
    (db.getAnchor t).2.anchorLength = db.anchorLength := by
  unfold AnchorDb.getAnchor; split <;> rfl

section AddLocal

variable (t : UInt8) (hashLength hashItemLength : Nat) (ha : HipHadbState) (db : AnchorDb)
  (out : HipCommon)

/-- The state after the first `j` chains of `addLocalAnchors`: the first `j` anchors of the
database are taken, written into the local anchors and sent. -/
structure AddedLocal (j : Nat) (s : HipHadbState × AnchorDb × HipCommon) : Prop where
  local_eq : s.1.espLocalAnchors = writeRows ha.espLocalAnchors ((db.anchors t).take j) hashLength
  transform_eq : s.1.espProtTransform = ha.espProtTransform
  peer_eq : s.1.espPeerAnchors = ha.espPeerAnchors
  anchors_eq : s.2.1.anchors t = (db.anchors t).drop j
  anchorLength_eq : s.2.1.anchorLength = db.anchorLength
  msg_eq : s.2.2 = withParams out
    (((db.anchors t).take j).map fun a ↦ espProtAnchorTlv t a none hashItemLength)

theorem addedLocal_step {j : Nat} {s : HipHadbState × AnchorDb × HipCommon}
    (hs : AddedLocal t hashLength hashItemLength ha db out j s) (hj : j < (db.anchors t).length)
    (hrows : j < ha.espLocalAnchors.length) (hrow : hashLength ≤ ha.espLocalAnchors[j].length) :
    ∃ s', addLocalAnchor t hashLength hashItemLength j s = .ok (0, s') ∧
      AddedLocal t hashLength hashItemLength ha db out (j + 1) s' := by
  have hhead : (s.2.1.anchors t).head? = some (db.anchors t)[j] := by
    rw [hs.anchors_eq, List.head?_drop, List.getElem?_eq_getElem hj]
  have hget : s.2.1.getAnchor t = (some (db.anchors t)[j], (s.2.1.getAnchor t).2) :=
    Prod.ext (by simp [hhead]) rfl
  have htake : (db.anchors t).take (j + 1) = (db.anchors t).take j ++ [(db.anchors t)[j]] := by
    rw [List.take_succ, List.getElem?_eq_getElem hj]
    rfl
  have hmem := memcpyRow_writeRows_take hj hrows hrow
  refine ⟨({ s.1 with
      espLocalAnchors := writeRows ha.espLocalAnchors ((db.anchors t).take (j + 1)) hashLength
      espLocalActiveLength := hashItemLength }, (s.2.1.getAnchor t).2,
    hipBuildParamEspProtAnchor s.2.2 t (db.anchors t)[j] none hashItemLength), ?_, ?_⟩
  · unfold addLocalAnchor
    rw [hget]
    simp only [hs.local_eq, hmem, ok_bind]
    rfl
  · refine ⟨rfl, hs.transform_eq, hs.peer_eq, ?_, ?_, ?_⟩
    · simp [hs.anchors_eq, List.tail_drop]
    · simp [hs.anchorLength_eq]
    · rw [hs.msg_eq, htake, List.map_append]
      exact hipBuildParam_withParams _ _ _

theorem addedLocal_zero : AddedLocal t hashLength hashItemLength ha db out 0 (ha, db, out) :=
  ⟨by simp, rfl, rfl, by simp, rfl, by simp⟩

/-- With enough anchors in the database and room in the local anchors, the loop over `k`
chains takes the first `k` anchors of the database, writes them and sends them. -/
theorem addLocalAnchor_loop (k : Nat) (hk : k ≤ (db.anchors t).length)
    (hrows : k ≤ ha.espLocalAnchors.length)
    (hrow : ∀ i (hi : i < ha.espLocalAnchors.length), i < k →
      hashLength ≤ ha.espLocalAnchors[i].length) :
    ∃ s, forUpToErr k (addLocalAnchor t hashLength hashItemLength) (ha, db, out) = .ok (0, s) ∧
      AddedLocal t hashLength hashItemLength ha db out k s := by
  induction k with
  | zero => exact ⟨_, rfl, addedLocal_zero t hashLength hashItemLength ha db out⟩
  | succ k ih =>
    obtain ⟨s, hloop, hs⟩ := ih (by omega) (by omega) (fun i hi hik ↦ hrow i hi (by omega))
    obtain ⟨s', hstep, hs'⟩ := addedLocal_step t hashLength hashItemLength ha db out hs
      (by omega) (by omega) (hrow k (by omega) (by omega))
    refine ⟨s', ?_, hs'⟩
    unfold forUpToErr at hloop ⊢
    rw [forUpTo_succ, hloop]
    exact hstep

end AddLocal

/-- What a host with enough anchors sent: a run of anchor parameters of its transform, one per
chain and of its anchor length, with which its local anchors begin. -/
theorem AddedLocal.sent {t : UInt8} {hashLength hashItemLength : Nat} {ha : HipHadbState}
    {db : AnchorDb} {out : HipCommon} {n : Nat} {s : HipHadbState × AnchorDb × HipCommon}
    (hs : AddedLocal t hashLength hashItemLength ha db out n s) (hk : n ≤ (db.anchors t).length)
    (rest : List HipTlv) :
    (withParams s.2.2 rest).params = out.params ++
        ((db.anchors t).take n).map (fun a ↦ espProtAnchorTlv t a none hashItemLength) ++ rest ∧
      ((db.anchors t).take n).length = n ∧
      (∀ a ∈ (db.anchors t).take n, a.length = db.anchorLength t) ∧
      s.1.espLocalAnchors = writeRows ha.espLocalAnchors ((db.anchors t).take n) hashLength := by
  refine ⟨?_, by simp; omega, fun a ha ↦ db.anchors_length t a (List.mem_of_mem_take ha),
    hs.local_eq⟩
  rw [hs.msg_eq]
  simp only [withParams, List.append_assoc]

/-! ### Receiving all anchors -/

section StorePeer

variable {msg : HipCommon} {t : UInt8} {hashLength hashItemLength : Nat} (derefFirst : Bool)
  (ha : HipHadbState) {pre rest : List HipTlv} {as : List Bytes}

/-- The state after the first `j` chains of the walk over the anchors: the first `j` anchors
are the peer's anchors, and the walk points at anchor `j`. -/
structure StoredPeer (ha : HipHadbState) (pre : List HipTlv) (as : List Bytes) (hashLength j : Nat)
    (s : HipHadbState × ParamPtr) : Prop where
  ha_eq : s.1 = { ha with espPeerAnchors := writeRows ha.espPeerAnchors (as.take j) hashLength }
  ptr_eq : j < as.length → s.2 = some (pre.length + j)

theorem storedPeer_step (hmsg : msg.params =
      pre ++ as.map (fun a ↦ espProtAnchorTlv t a none hashItemLength) ++ rest)
    (has : ∀ a ∈ as, a.length = hashLength) {j : Nat} {s : HipHadbState × ParamPtr}
    (hs : StoredPeer ha pre as hashLength j s) (hj : j < as.length)
    (hrows : j < ha.espPeerAnchors.length) (hrow : hashLength ≤ ha.espPeerAnchors[j].length) :
    ∃ s', storePeerAnchor msg t hashLength derefFirst j s = .ok (0, s') ∧
      StoredPeer ha pre as hashLength (j + 1) s' := by
  have hp := hs.ptr_eq hj
  have hget := getElem?_anchorParams hmsg hj
  obtain ⟨htfm, -, hanchor, -⟩ := espProtAnchorTlv_fields hget
  rw [has _ (List.getElem_mem hj)] at hanchor
  have hmem := memcpyRow_writeRows_take hj hrows hrow
  refine ⟨({ ha with espPeerAnchors := writeRows ha.espPeerAnchors (as.take (j + 1)) hashLength },
    hipGetNextParam msg (some (pre.length + j))), ?_, rfl, fun hj1 ↦ ?_⟩
  · simp only [storePeerAnchor, hp, Option.isNone_some, Bool.false_eq_true, false_and, if_false,
      htfm, ok_bind, ne_eq, not_true_eq_false, hanchor, hs.ha_eq, hmem]
    rfl
  · rw [hipGetNextParam_some]
    · rfl
    · rw [hmsg]; simp; omega

theorem storedPeer_loop (hmsg : msg.params =
      pre ++ as.map (fun a ↦ espProtAnchorTlv t a none hashItemLength) ++ rest)
    (has : ∀ a ∈ as, a.length = hashLength) (hrows : as.length ≤ ha.espPeerAnchors.length)
    (hrow : ∀ i (hi : i < ha.espPeerAnchors.length), i < as.length →
      hashLength ≤ ha.espPeerAnchors[i].length) :
    ∀ j ≤ as.length, ∃ s, forUpToErr j (storePeerAnchor msg t hashLength derefFirst)
      (ha, some pre.length) = .ok (0, s) ∧ StoredPeer ha pre as hashLength j s
  | 0, _ => ⟨_, rfl, by simp, fun _ ↦ rfl⟩
  | j + 1, hj => by
    obtain ⟨s, hloop, hs⟩ := storedPeer_loop hmsg has hrows hrow j (by omega)
    obtain ⟨s', hstep, hs'⟩ := storedPeer_step derefFirst ha hmsg has hs (by omega)
      (by omega) (hrow j (by omega) (by omega))
    refine ⟨s', ?_, hs'⟩
    unfold forUpToErr at hloop ⊢
    rw [forUpTo_succ, hloop]
    exact hstep

/-- Walking over `as.length` anchor parameters that all have the expected transform stores
each of them as the peer's anchor of its chain. -/
theorem storePeerAnchor_all (hmsg : msg.params =
      pre ++ as.map (fun a ↦ espProtAnchorTlv t a none hashItemLength) ++ rest)
    (has : ∀ a ∈ as, a.length = hashLength) (hrows : as.length ≤ ha.espPeerAnchors.length)
    (hrow : ∀ i (hi : i < ha.espPeerAnchors.length), i < as.length →
      hashLength ≤ ha.espPeerAnchors[i].length) :
    ∃ p, forUpToErr as.length (storePeerAnchor msg t hashLength derefFirst) (ha, some pre.length) =
      .ok (0, { ha with espPeerAnchors := writeRows ha.espPeerAnchors as hashLength }, p) := by
  obtain ⟨s, hloop, hs⟩ := storedPeer_loop derefFirst ha hmsg has hrows hrow as.length le_rfl
  refine ⟨s.2, ?_⟩
  rw [hloop, ← List.take_length as, ← hs.ha_eq]

end StorePeer

/-! ### What each step does -/

theorem espProtR1AddTransforms_ok (g : HipdGlobals) (msg : HipCommon)
    (h : g.espProtNumTransforms.toNat ≤ g.espProtTransforms.length) :
    espProtR1AddTransforms g msg = .ok (0, if g.hipUseUserspaceIpsec then
      hipBuildParamEspProtTransform msg (g.espProtTransforms.take g.espProtNumTransforms.toNat)
      else msg) := by
  unfold espProtR1AddTransforms
  split <;> simp [arrayPrefix, h, *]

section Select

variable {msg : HipCommon} {p : ParamPtr} {peer : List UInt8}

theorem peerHasTransform_mem (t : UInt8) {num : Nat}
    (hread : ∀ j < num, ∃ x ∈ peer, espProtPreferredTfmsAt msg p j = .ok x) :
    ∀ (j fuel : Nat), j + fuel ≤ num →
      ∃ b, peerHasTransform msg p t j fuel = .ok b ∧ (b = true → t ∈ peer)
  | _, 0, _ => ⟨false, rfl, by simp⟩
  | j, fuel + 1, hj' => by
    obtain ⟨x, hx, hj⟩ := hread j (by omega)
    obtain ⟨b, hb, hbt⟩ := peerHasTransform_mem t hread (j + 1) fuel (by omega)
    by_cases hxt : x = t
    · exact ⟨true, by simp [peerHasTransform, hj, hxt], fun _ ↦ hxt ▸ hx⟩
    · exact ⟨b, by simp [peerHasTransform, hj, hxt, hb], hbt⟩

/-- With the local transforms in their array and every peer transform readable, the selection
answers UNUSED or one of the peer's transforms. -/
theorem espProtSelectTransform_mem (g : HipdGlobals) (num : Nat)
    (hread : ∀ j < num, ∃ x ∈ peer, espProtPreferredTfmsAt msg p j = .ok x) :
    ∀ (i fuel : Nat), i + fuel ≤ g.espProtTransforms.length →
      ∃ t, espProtSelectTransform g msg p num i fuel = .ok t ∧ (t = espProtTfmUnused ∨ t ∈ peer)
  | _, 0, _ => ⟨_, rfl, .inl rfl⟩
  | i, fuel + 1, hi => by
    have hil : i < g.espProtTransforms.length := by omega
    obtain ⟨b, hb, hbt⟩ := peerHasTransform_mem g.espProtTransforms[i] hread 0 num (by omega)
    obtain ⟨t, ht, htm⟩ := espProtSelectTransform_mem g num hread (i + 1) fuel (by omega)
    cases b with
    | true => exact ⟨_, by simp [espProtSelectTransform, hb, hil], .inr (hbt rfl)⟩
    | false => exact ⟨t, by simp [espProtSelectTransform, hb, ht, hil], htm⟩

/-- Over a peer list `T` that reads back entry by entry, the inner loop answers whether the local
transform is among the `fuel` entries from `j` on. -/
theorem peerHasTransform_eq {T : List UInt8} (t : UInt8)
    (hread : ∀ j (hj : j < T.length), espProtPreferredTfmsAt msg p j = .ok T[j]) :
    ∀ (j fuel : Nat), j + fuel ≤ T.length →
      peerHasTransform msg p t j fuel = .ok (decide (t ∈ (T.drop j).take fuel))
  | _, 0, _ => by simp [peerHasTransform]
  | j, fuel + 1, hj' => by
    have hj : j < T.length := by omega
    rw [List.drop_eq_getElem_cons hj, List.take_succ_cons]
    by_cases hxt : T[j] = t
    · simp [peerHasTransform, hread j hj, hxt]
    · simp [peerHasTransform, hread j hj, hxt, Ne.symm hxt,
        peerHasTransform_eq t hread (j + 1) fuel (by omega)]

/-- The selection over a peer list `T` that reads back: the first local transform, from `i` on
and within `fuel`, that `T` contains, and UNUSED when there is none. -/
theorem espProtSelectTransform_eq (g : HipdGlobals) {T : List UInt8}
    (hread : ∀ j (hj : j < T.length), espProtPreferredTfmsAt msg p j = .ok T[j]) :
    ∀ (i fuel : Nat), i + fuel ≤ g.espProtTransforms.length →
      espProtSelectTransform g msg p T.length i fuel =
        .ok ((((g.espProtTransforms.drop i).take fuel).find? (· ∈ T)).getD espProtTfmUnused)
  | _, 0, _ => rfl
  | i, fuel + 1, hi => by
    have hil : i < g.espProtTransforms.length := by omega
    have hmem := peerHasTransform_eq g.espProtTransforms[i] hread 0 T.length (by omega)
    rw [List.drop_zero, List.take_length] at hmem
    rw [List.drop_eq_getElem_cons hil, List.take_succ_cons]
    by_cases ht : g.espProtTransforms[i] ∈ T
    · simp [espProtSelectTransform, hil, hmem, ht]
    · simp [espProtSelectTransform, hil, hmem, ht,
        espProtSelectTransform_eq g hread (i + 1) fuel (by omega)]

end Select

/-- The transform the initiator takes from the responder's R1: UNUSED, or one of the transforms
the responder advertised. -/
theorem espProtR1HandleTransforms_r1 (gI gR : HipdGlobals) (r1 : HipCommon)
    (r1Rest : List HipTlv) (ha : HipHadbState)
    (hnone : ∀ tlv ∈ r1.params ++ r1Rest, tlv.type ≠ .espProtTransforms)
    (htfms : gI.espProtNumTransforms.toNat ≤ gI.espProtTransforms.length) :
    ∃ param t, espProtR1HandleTransforms gI (withParams (if gR.hipUseUserspaceIpsec then
        hipBuildParamEspProtTransform r1 (gR.espProtTransforms.take gR.espProtNumTransforms.toNat)
        else r1) r1Rest) ha = .ok (0, { ha with espProtParam := param, espProtTransform := t }) ∧
      (t = espProtTfmUnused ∨
        gR.hipUseUserspaceIpsec ∧ t ∈ gR.espProtTransforms.take gR.espProtNumTransforms.toNat) := by
  unfold espProtR1HandleTransforms
  by_cases hI : gI.hipUseUserspaceIpsec
  swap
  · exact ⟨ha.espProtParam, _, by simp [hI], .inl rfl⟩
  by_cases hR : gR.hipUseUserspaceIpsec
  swap
  · have hp : hipGetParam (withParams r1 r1Rest) .espProtTransforms = none :=
      hipGetParam_eq_none (by simpa [withParams] using hnone)
    exact ⟨false, _, by simp [hI, hR, hp], .inl rfl⟩
  set tfms := gR.espProtTransforms.take gR.espProtNumTransforms.toNat
  have hmsg : (withParams (hipBuildParamEspProtTransform r1 tfms) r1Rest).params =
      r1.params ++ ⟨.espProtTransforms, UInt8.ofNat tfms.length :: tfms⟩ :: r1Rest := by
    simp [withParams, hipBuildParamEspProtTransform, hipBuildParam]
  have hp := hipGetParam_eq_some hmsg (fun t ht ↦ hnone t (by simp [ht])) rfl
  obtain ⟨hnum, hread⟩ := preferredTfms_read hmsg
  obtain ⟨t, ht, htm⟩ := espProtSelectTransform_mem gI (tfms.length % 256)
    (fun j hj ↦ ⟨_, List.getElem_mem _, hread j (lt_of_lt_of_le hj (Nat.mod_le _ _))⟩) 0
    gI.espProtNumTransforms.toNat (by omega)
  refine ⟨true, t, ?_, htm.imp_right fun h ↦ ⟨hR, h⟩⟩
  simp [hI, hR, hp, hnum, ht]

/-- What the sending half of an anchor exchange does: with enough anchors, the first
`esp_prot_num_parallel_hchains` anchors of the database are taken, written into the local
anchors and sent; otherwise the host falls back to UNUSED and sends the UNUSED anchor. -/
theorem addLocalAnchors_spec (lim : EspProtLimits) (g : HipdGlobals) (db : AnchorDb)
    (ha : HipHadbState) (out : HipCommon)
    (hk : g.espProtNumParallelHchains ≤ lim.maxNumParallelHchains)
    (hrows : AnchorRows lim ha.espLocalAnchors)
    (hlen : db.anchorLength ha.espProtTransform ≤ lim.maxHashLength) :
    (g.espProtNumParallelHchains.toNat ≤ (db.anchors ha.espProtTransform).length ∧
      ∃ s, addLocalAnchors g db ha out = .ok (0, s) ∧
      AddedLocal ha.espProtTransform (db.anchorLength ha.espProtTransform)
        (db.hashItemLength ha.espProtTransform) ha db out g.espProtNumParallelHchains.toNat s) ∨
    addLocalAnchors g db ha out = .ok (0, { ha with espProtTransform := espProtTfmUnused }, db,
      hipBuildParamEspProtAnchor out espProtTfmUnused [] none 0) := by
  by_cases hnum : g.espProtNumParallelHchains ≤ (db.getNumAnchors ha.espProtTransform : Int)
  · left
    have hk' : g.espProtNumParallelHchains.toNat ≤ (db.anchors ha.espProtTransform).length := by
      unfold AnchorDb.getNumAnchors at hnum; omega
    refine ⟨hk', ?_⟩
    simp only [addLocalAnchors, if_pos hnum]
    rw [forUpToErr_toNat]
    refine addLocalAnchor_loop _ _ _ ha db out _ hk' ?_ fun i hi _ ↦ ?_
    · rw [hrows.1]; omega
    · rw [hrows.2 _ (List.getElem_mem hi)]; exact hlen
  · right
    simp only [addLocalAnchors, if_neg hnum]
    rfl

section Receive

variable {g : HipdGlobals} {db : AnchorDb} {ha : HipHadbState} {msg : HipCommon}

theorem espProtI2HandleAnchor_none (hno : hipGetParam msg .espProtAnchor = none) :
    espProtI2HandleAnchor g db ha msg = .ok (0, { ha with espProtTransform := espProtTfmUnused }) := by
  unfold espProtI2HandleAnchor
  split <;> simp [hno]

theorem espProtI2HandleAnchor_unused {k : Nat} (hp : hipGetParam msg .espProtAnchor = some k)
    (htfm : espProtAnchorTransform msg (some k) = .ok espProtTfmUnused)
    (hnum : g.espProtNumTransforms.toNat ≤ g.espProtTransforms.length) :
    espProtI2HandleAnchor g db ha msg = .ok (0, { ha with espProtTransform := espProtTfmUnused }) := by
  obtain ⟨r, hr, -⟩ := espProtCheckTransform_ge_zero_iff g.espProtNumTransforms
    g.espProtTransforms espProtTfmUnused hnum
  unfold espProtI2HandleAnchor
  split
  · by_cases hr0 : r < 0 <;> simp [hp, htfm, hr, hr0]
  · rfl

/-- An I2 whose anchors all have an advertised transform other than UNUSED, as many as the
responder's chains and of the responder's anchor length, gives the responder that transform and
those anchors as the peer's. -/
theorem espProtI2HandleAnchor_anchors {pre rest : List HipTlv} {t : UInt8} {as : List Bytes}
    {hashItemLength : Nat}
    (hmsg : msg.params = pre ++ as.map (fun a ↦ espProtAnchorTlv t a none hashItemLength) ++ rest)
    (hpre : ∀ x ∈ pre, x.type ≠ .espProtAnchor) (has : as ≠ [])
    (ht : t ≠ espProtTfmUnused) (hmem : t ∈ g.espProtTransforms.take g.espProtNumTransforms.toNat)
    (hnum : g.espProtNumTransforms.toNat ≤ g.espProtTransforms.length)
    (hn : g.espProtNumParallelHchains = as.length)
    (hlen : ∀ a ∈ as, a.length = db.anchorLength t) (hrows : as.length ≤ ha.espPeerAnchors.length)
    (hrow : ∀ i (hi : i < ha.espPeerAnchors.length), i < as.length →
      db.anchorLength t ≤ ha.espPeerAnchors[i].length) :
    espProtI2HandleAnchor g db ha msg = .ok (0,
      if g.hipUseUserspaceIpsec ∧ 1 < g.espProtNumTransforms then
        { ha with espProtTransform := t, espPeerActiveLength := hashItemLength % 2 ^ 32,
                  espPeerAnchors := writeRows ha.espPeerAnchors as (db.anchorLength t) }
      else { ha with espProtTransform := espProtTfmUnused }) := by
  obtain ⟨hp, htfm, hitem⟩ := anchorParams_first hmsg hpre has
  obtain ⟨r, hr, hr0⟩ := espProtCheckTransform_ge_zero_iff g.espProtNumTransforms
    g.espProtTransforms t hnum
  obtain ⟨q, hloop⟩ := storePeerAnchor_all false
    { ha with espProtTransform := t, espPeerActiveLength := hashItemLength % 2 ^ 32 } hmsg hlen
    hrows hrow
  unfold espProtI2HandleAnchor
  split
  · simp only [hp, Option.isNone_some, Bool.false_eq_true, if_false, htfm, hr, ok_bind,
      show ¬ r < 0 from Int.not_lt.mpr (hr0.mpr hmem), ht, hitem, hn, hloop]
    rfl
  · rfl

theorem espProtR2HandleAnchor_fallback
    (h : ¬ espProtTfmUnused < ha.espProtTransform ∨ hipGetParam msg .espProtAnchor = none ∨
      ∃ k t', hipGetParam msg .espProtAnchor = some k ∧
        espProtAnchorTransform msg (some k) = .ok t' ∧ t' ≠ ha.espProtTransform) :
    espProtR2HandleAnchor g db ha msg = .ok (0, { ha with espProtTransform := espProtTfmUnused }) := by
  unfold espProtR2HandleAnchor
  rcases h with hT | hno | ⟨k, t', hp, htfm, hne⟩
  · simp [hT]
  · split <;> simp [hno]
  · split <;> simp [hp, htfm, hne]

/-- An R2 whose anchors have the agreed transform, as many as the initiator's chains and of the
initiator's anchor length, gives the initiator those anchors as the peer's. -/
theorem espProtR2HandleAnchor_anchors {pre rest : List HipTlv} {as : List Bytes}
    {hashItemLength : Nat} (hT : espProtTfmUnused < ha.espProtTransform)
    (hmsg : msg.params = pre ++
      as.map (fun a ↦ espProtAnchorTlv ha.espProtTransform a none hashItemLength) ++ rest)
    (hpre : ∀ x ∈ pre, x.type ≠ .espProtAnchor) (has : as ≠ [])
    (hn : g.espProtNumParallelHchains = as.length)
    (hlen : ∀ a ∈ as, a.length = db.anchorLength ha.espProtTransform)
    (hrows : as.length ≤ ha.espPeerAnchors.length)
    (hrow : ∀ i (hi : i < ha.espPeerAnchors.length), i < as.length →
      db.anchorLength ha.espProtTransform ≤ ha.espPeerAnchors[i].length) :
    espProtR2HandleAnchor g db ha msg = .ok (0,
      { ha with espPeerActiveLength := hashItemLength % 2 ^ 32,
                espPeerAnchors := writeRows ha.espPeerAnchors as (db.anchorLength ha.espProtTransform) }) := by
  obtain ⟨hp, htfm, hitem⟩ := anchorParams_first hmsg hpre has
  obtain ⟨q, hloop⟩ := storePeerAnchor_all true
    { ha with espPeerActiveLength := hashItemLength % 2 ^ 32 } hmsg hlen hrows hrow
  unfold espProtR2HandleAnchor
  simp only [hT, if_true, hp, Option.isNone_some, Bool.false_eq_true, if_false, htfm, ok_bind,
    hitem, hn, hloop]
  rfl

end Receive

/-- Without an agreed transform the I2 carries at most the UNUSED anchor, and the responder
falls back to UNUSED. -/
theorem espProtI2_noTransform (gI gR : HipdGlobals) (dbI dbR : AnchorDb) (haI haR : HipHadbState)
    (i2 : HipCommon) (i2Rest : List HipTlv) (hT : ¬ espProtTfmUnused < haI.espProtTransform)
    (hi2 : ∀ tlv ∈ i2.params ++ i2Rest, tlv.type ≠ .espProtAnchor)
    (hnum : gR.espProtNumTransforms.toNat ≤ gR.espProtTransforms.length) :
    ∃ haI' dbI' i2', espProtI2AddAnchor gI dbI haI i2 = .ok (0, haI', dbI', i2') ∧
      espProtI2HandleAnchor gR dbR haR (withParams i2' i2Rest) =
        .ok (0, { haR with espProtTransform := espProtTfmUnused }) := by
  rw [espProtI2AddAnchor, if_neg hT]
  split
  · obtain ⟨hp, htfm⟩ := emptyAnchor_read i2 i2Rest espProtTfmUnused
      fun x hx ↦ hi2 x (by simp [hx])
    exact ⟨_, _, _, rfl, espProtI2HandleAnchor_unused hp htfm hnum⟩
  · exact ⟨_, _, _, rfl, espProtI2HandleAnchor_none (hipGetParam_eq_none (by simpa [withParams] using hi2))⟩

end Hipl.Hipd
