import Hipl.Hipd.EspProtBex

/-!
# What one base exchange leaves on both hosts

`espProtBex` runs the six ESP protection steps of a base exchange between two hipd instances.
The number of parallel chains and the anchor length are settings of each host that the
exchange never sends: the responder reads as many anchors of the I2 as its own count says, and
each receiver copies as many bytes of an anchor as its own anchor length says.

`espProtBex_agreement` is the exchange's correctness: for two hosts with the same settings
(`BexSettings`), every step returns 0, both hosts end on the same transform, and unless that is
UNUSED each side's peer anchors are the other side's local anchors (`BexAgreement`). The proof
follows the exchange: the transform the initiator selects, whether each sender has enough
anchors, and whether the responder accepts the initiator's transform. Once the responder is on
UNUSED the rest of the exchange is fixed (`espProtBex_responder_unused`).

Hosts whose chain counts differ do not agree: the responder walks past the initiator's anchors
and `esp_prot_i2_handle_anchor` returns -1.
-/

set_option autoImplicit false
set_option relaxedAutoImplicit false

namespace Hipl.Hipd

open Hipl.Wire Hipl.EspProt

/-- What the exchange should leave: both hosts on the same transform, and unless that is UNUSED,
for each of the `n` chains the first `len` bytes of each side's peer anchor are those of the
other side's local anchor. -/
def BexAgreement (len n : Nat) (haI haR : HipHadbState) : Prop :=
  haI.espProtTransform = haR.espProtTransform ∧
    (haI.espProtTransform ≠ espProtTfmUnused → ∀ i < n,
      (haI.espPeerAnchors[i]?).map (·.take len) = (haR.espLocalAnchors[i]?).map (·.take len) ∧
      (haR.espPeerAnchors[i]?).map (·.take len) = (haI.espLocalAnchors[i]?).map (·.take len))

/-- What the agreement needs of the two hosts: the same number of parallel chains, within the
anchor arrays, the same anchor length for every transform, within a hash slot, the preferred
transforms within their array, and the anchor arrays of the shape state.h declares. -/
structure BexSettings (lim : EspProtLimits) (hI hR : HipdHost) : Prop where
  hchains_eq : hI.g.espProtNumParallelHchains = hR.g.espProtNumParallelHchains
  hchains_le : hI.g.espProtNumParallelHchains ≤ lim.maxNumParallelHchains
  anchorLength_eq : ∀ t, hI.db.anchorLength t = hR.db.anchorLength t
  anchorLength_le : ∀ t, hI.db.anchorLength t ≤ lim.maxHashLength
  tfmsI : hI.g.espProtNumTransforms.toNat ≤ hI.g.espProtTransforms.length
  tfmsR : hR.g.espProtNumTransforms.toNat ≤ hR.g.espProtTransforms.length
  localI : AnchorRows lim hI.ha.espLocalAnchors
  peerI : AnchorRows lim hI.ha.espPeerAnchors
  localR : AnchorRows lim hR.ha.espLocalAnchors
  peerR : AnchorRows lim hR.ha.espPeerAnchors

theorem bexAgreement_unused {len n : Nat} {haI haR : HipHadbState}
    (hI : haI.espProtTransform = espProtTfmUnused) (hR : haR.espProtTransform = espProtTfmUnused) :
    BexAgreement len n haI haR :=
  ⟨hI.trans hR.symm, fun h ↦ absurd hI h⟩

/-- Once the responder is on UNUSED, its R2 carries no anchor and the initiator falls back to
UNUSED. -/
theorem espProtBex_tail_unused (gI gR : HipdGlobals) (dbI dbR : AnchorDb)
    (haI haR : HipHadbState) (r2 : HipCommon) (r2Rest : List HipTlv)
    (hR : haR.espProtTransform = espProtTfmUnused)
    (hr2 : ∀ tlv ∈ r2.params ++ r2Rest, tlv.type ≠ .espProtAnchor) :
    espProtR2AddAnchor gR dbR haR r2 =
        .ok (0, { haR with espProtTransform := espProtTfmUnused }, dbR, r2) ∧
      espProtR2HandleAnchor gI dbI haI (withParams r2 r2Rest) =
        .ok (0, { haI with espProtTransform := espProtTfmUnused }) := by
  refine ⟨?_, espProtR2HandleAnchor_fallback (.inr (.inl (hipGetParam_eq_none ?_)))⟩
  · rw [espProtR2AddAnchor, if_neg (by rw [hR]; decide)]
    rfl
  · simpa [withParams] using hr2

section Run

variable {hI hR : HipdHost} {r1 i2 r2 r1' i2' r2' : HipCommon} {r1Rest i2Rest r2Rest : List HipTlv}
  {haI1 haI3 haI6 haR4 haR5 : HipHadbState} {dbI dbR : AnchorDb}

/-- The six steps in order, each returning 0. -/
theorem espProtBex_ok (h1 : espProtR1AddTransforms hR.g r1 = .ok (0, r1'))
    (h2 : espProtR1HandleTransforms hI.g (withParams r1' r1Rest) hI.ha = .ok (0, haI1))
    (h3 : espProtI2AddAnchor hI.g hI.db haI1 i2 = .ok (0, haI3, dbI, i2'))
    (h4 : espProtI2HandleAnchor hR.g hR.db hR.ha (withParams i2' i2Rest) = .ok (0, haR4))
    (h5 : espProtR2AddAnchor hR.g hR.db haR4 r2 = .ok (0, haR5, dbR, r2'))
    (h6 : espProtR2HandleAnchor hI.g dbI haI3 (withParams r2' r2Rest) = .ok (0, haI6)) :
    espProtBex hI hR r1 i2 r2 r1Rest i2Rest r2Rest =
      .ok ([0, 0, 0, 0, 0, 0], ⟨hI.g, dbI, haI6⟩, ⟨hR.g, dbR, haR5⟩) := by
  simp only [espProtBex, h1, h2, h3, h4, h5, h6, ok_bind]
  rfl

/-- Once the responder has fallen back to UNUSED on the I2, the exchange ends with both hosts on
UNUSED. -/
theorem espProtBex_responder_unused (h1 : espProtR1AddTransforms hR.g r1 = .ok (0, r1'))
    (h2 : espProtR1HandleTransforms hI.g (withParams r1' r1Rest) hI.ha = .ok (0, haI1))
    (h3 : espProtI2AddAnchor hI.g hI.db haI1 i2 = .ok (0, haI3, dbI, i2'))
    (h4 : espProtI2HandleAnchor hR.g hR.db hR.ha (withParams i2' i2Rest) =
      .ok (0, { hR.ha with espProtTransform := espProtTfmUnused }))
    (hr2 : ∀ tlv ∈ r2.params ++ r2Rest, tlv.type ≠ .espProtAnchor) :
    ∃ hI' hR', espProtBex hI hR r1 i2 r2 r1Rest i2Rest r2Rest = .ok ([0, 0, 0, 0, 0, 0], hI', hR') ∧
      ∀ len n, BexAgreement len n hI'.ha hR'.ha := by
  obtain ⟨h5, h6⟩ := espProtBex_tail_unused hI.g hR.g dbI hR.db haI3
    { hR.ha with espProtTransform := espProtTfmUnused } r2 r2Rest rfl hr2
  exact ⟨_, _, espProtBex_ok h1 h2 h3 h4 h5 h6, fun _ _ ↦ bexAgreement_unused rfl rfl⟩

end Run

/-- Two hosts with the same chain count and anchor lengths, exchanging messages that carry no
other transform list or anchor: every step returns 0 and the hosts agree on the transform and on
each other's anchors. -/
theorem espProtBex_agreement (lim : EspProtLimits) (hI hR : HipdHost) (r1 i2 r2 : HipCommon)
    (r1Rest i2Rest r2Rest : List HipTlv) (hs : BexSettings lim hI hR)
    (hr1 : ∀ tlv ∈ r1.params ++ r1Rest, tlv.type ≠ .espProtTransforms)
    (hi2 : ∀ tlv ∈ i2.params ++ i2Rest, tlv.type ≠ .espProtAnchor)
    (hr2 : ∀ tlv ∈ r2.params ++ r2Rest, tlv.type ≠ .espProtAnchor) :
    ∃ hI' hR', espProtBex hI hR r1 i2 r2 r1Rest i2Rest r2Rest = .ok ([0, 0, 0, 0, 0, 0], hI', hR') ∧
      BexAgreement (hI.db.anchorLength hI'.ha.espProtTransform)
        hI.g.espProtNumParallelHchains.toNat hI'.ha hR'.ha := by
  have h1 := espProtR1AddTransforms_ok hR.g r1 hs.tfmsR
  obtain ⟨param, T, h2, hTm⟩ := espProtR1HandleTransforms_r1 hI.g hR.g r1 r1Rest hI.ha hr1 hs.tfmsI
  set haI1 : HipHadbState := { hI.ha with espProtParam := param, espProtTransform := T }
  by_cases hTU : espProtTfmUnused < T
  swap
  · obtain ⟨haI3, dbI, i2', h3, h4⟩ := espProtI2_noTransform hI.g hR.g hI.db hR.db haI1 hR.ha i2
      i2Rest hTU hi2 hs.tfmsR
    obtain ⟨_, _, hrun, hag⟩ := espProtBex_responder_unused h1 h2 h3 h4 hr2
    exact ⟨_, _, hrun, hag _ _⟩
  have hTR := hTm.resolve_left (ne_espProtTfmUnused_of_lt hTU)
  have hlenI : hI.db.anchorLength T ≤ lim.maxHashLength := hs.anchorLength_le T
  have hlenR : hR.db.anchorLength T = hI.db.anchorLength T := (hs.anchorLength_eq T).symm
  have h3eq : espProtI2AddAnchor hI.g hI.db haI1 i2 = addLocalAnchors hI.g hI.db haI1 i2 :=
    if_pos hTU
  rcases addLocalAnchors_spec lim hI.g hI.db haI1 i2 hs.hchains_le hs.localI hlenI with
    ⟨hk, ⟨haI3, dbI, i2'⟩, h3, hs3⟩ | h3 <;> rw [← h3eq] at h3
  swap
  · -- the initiator falls back and sends the UNUSED anchor
    obtain ⟨hp, htfm⟩ := emptyAnchor_read i2 i2Rest espProtTfmUnused
      fun x hx ↦ hi2 x (by simp [hx])
    obtain ⟨_, _, hrun, hag⟩ := espProtBex_responder_unused h1 h2 h3
      (espProtI2HandleAnchor_unused hp htfm hs.tfmsR) hr2
    exact ⟨_, _, hrun, hag _ _⟩
  -- the initiator sends the first anchors of its database, one per chain
  set n := hI.g.espProtNumParallelHchains
  change n.toNat ≤ (hI.db.anchors T).length at hk
  change AddedLocal T (hI.db.anchorLength T) (hI.db.hashItemLength T) haI1 hI.db i2 n.toNat
    (haI3, dbI, i2') at hs3
  set as := (hI.db.anchors T).take n.toNat
  have hasl : as.length = n.toNat := by simp only [as, List.length_take]; omega
  have hasI : ∀ a ∈ as, a.length = hI.db.anchorLength T :=
    fun a ha ↦ hI.db.anchors_length T a (List.mem_of_mem_take ha)
  have hmsgI : (withParams i2' i2Rest).params =
      i2.params ++ as.map (fun a ↦ espProtAnchorTlv T a none (hI.db.hashItemLength T)) ++ i2Rest := by
    rw [show i2' = _ from hs3.msg_eq]; simp only [withParams, List.append_assoc]
  rcases Nat.eq_zero_or_pos n.toNat with hn0 | hn0
  · -- no parallel chains: the I2 carries no anchor
    have hnil : as = [] := List.length_eq_zero.mp (hasl.trans hn0)
    have hp : hipGetParam (withParams i2' i2Rest) .espProtAnchor = none :=
      hipGetParam_eq_none fun x hx ↦ hi2 x (by simpa [hmsgI, hnil] using hx)
    obtain ⟨_, _, hrun, hag⟩ := espProtBex_responder_unused h1 h2 h3 (espProtI2HandleAnchor_none hp) hr2
    exact ⟨_, _, hrun, hag _ _⟩
  -- the responder stores them when it takes the transform
  have hnR : hR.g.espProtNumParallelHchains = as.length := by rw [← hs.hchains_eq, hasl]; omega
  have hrowsR : as.length ≤ hR.ha.espPeerAnchors.length := by
    rw [hs.peerR.1, hasl]; have := hs.hchains_le; omega
  have h4 := espProtI2HandleAnchor_anchors hmsgI (fun x hx ↦ hi2 x (by simp [hx]))
    (List.ne_nil_of_length_pos (by omega)) (ne_espProtTfmUnused_of_lt hTU) hTR.2 hs.tfmsR hnR
    (fun a ha ↦ (hasI a ha).trans hlenR.symm) hrowsR
    (fun i hi _ ↦ hs.peerR.le_getElem_length (hlenR ▸ hlenI) i hi)
  by_cases hc : hR.g.hipUseUserspaceIpsec ∧ 1 < hR.g.espProtNumTransforms
  swap
  · rw [if_neg hc] at h4
    obtain ⟨_, _, hrun, hag⟩ := espProtBex_responder_unused h1 h2 h3 h4 hr2
    exact ⟨_, _, hrun, hag _ _⟩
  rw [if_pos hc] at h4
  have hT3 : haI3.espProtTransform = T := hs3.transform_eq
  -- the responder answers with its own anchors, or falls back
  set haR4 : HipHadbState := { hR.ha with
    espProtTransform := T
    espPeerActiveLength := hI.db.hashItemLength T % 2 ^ 32
    espPeerAnchors := writeRows hR.ha.espPeerAnchors as (hR.db.anchorLength T) }
  have h5eq : espProtR2AddAnchor hR.g hR.db haR4 r2 = addLocalAnchors hR.g hR.db haR4 r2 :=
    if_pos hTU
  rcases addLocalAnchors_spec lim hR.g hR.db haR4 r2 (hs.hchains_eq ▸ hs.hchains_le) hs.localR
      (hlenR ▸ hlenI) with ⟨hkR, ⟨haR5, dbR, r2'⟩, h5, hs5⟩ | h5 <;> rw [← h5eq] at h5
  swap
  · obtain ⟨hp, htfm⟩ := emptyAnchor_read r2 r2Rest espProtTfmUnused
      fun x hx ↦ hr2 x (by simp [hx])
    exact ⟨_, _, espProtBex_ok h1 h2 h3 h4 h5 (espProtR2HandleAnchor_fallback
      (.inr (.inr ⟨_, _, hp, htfm, fun h ↦ ne_espProtTfmUnused_of_lt hTU (hT3 ▸ h.symm)⟩))),
      bexAgreement_unused rfl rfl⟩
  -- both hosts sent their anchors: the initiator stores the responder's
  rw [← hs.hchains_eq] at hkR hs5
  change n.toNat ≤ (hR.db.anchors T).length at hkR
  change AddedLocal T (hR.db.anchorLength T) (hR.db.hashItemLength T) haR4 hR.db r2 n.toNat
    (haR5, dbR, r2') at hs5
  set asR := (hR.db.anchors T).take n.toNat
  have hasRl : asR.length = n.toNat := by simp only [asR, List.length_take]; omega
  have hasR : ∀ a ∈ asR, a.length = hI.db.anchorLength T :=
    fun a ha ↦ (hR.db.anchors_length T a (List.mem_of_mem_take ha)).trans hlenR
  have hdbI : dbI.anchorLength = hI.db.anchorLength := hs3.anchorLength_eq
  have hpeerI : haI3.espPeerAnchors = hI.ha.espPeerAnchors := hs3.peer_eq
  have hpeer3 : AnchorRows lim haI3.espPeerAnchors := hpeerI ▸ hs.peerI
  have hmsgR : (withParams r2' r2Rest).params = r2.params ++
      asR.map (fun a ↦ espProtAnchorTlv haI3.espProtTransform a none (hR.db.hashItemLength T)) ++
        r2Rest := by
    rw [hT3, show r2' = _ from hs5.msg_eq]; simp only [withParams, List.append_assoc]
  have hnI : hI.g.espProtNumParallelHchains = asR.length := by rw [hasRl]; omega
  have h6 := espProtR2HandleAnchor_anchors (hT3 ▸ hTU) hmsgR (fun x hx ↦ hr2 x (by simp [hx]))
    (List.ne_nil_of_length_pos (by omega)) hnI (fun a ha ↦ by rw [hdbI, hT3]; exact hasR a ha)
    (by rw [hpeer3.1, hasRl]; have := hs.hchains_le; omega)
    (fun i hi _ ↦ by rw [hdbI, hT3]; exact hpeer3.le_getElem_length hlenI i hi)
  have hn : as.length ≤ lim.maxNumParallelHchains := by rw [hasl]; have := hs.hchains_le; omega
  refine ⟨_, _, espProtBex_ok h1 h2 h3 h4 h5 h6, ?_, fun _ i hi ↦ ⟨?_, ?_⟩⟩
  · exact hT3.trans hs5.transform_eq.symm
  · have hlocR : haR5.espLocalAnchors = writeRows hR.ha.espLocalAnchors asR (hR.db.anchorLength T) :=
      hs5.local_eq
    show ((writeRows haI3.espPeerAnchors asR (dbI.anchorLength haI3.espProtTransform))[i]?).map
        (·.take (hI.db.anchorLength haI3.espProtTransform)) =
      (haR5.espLocalAnchors[i]?).map (·.take (hI.db.anchorLength haI3.espProtTransform))
    rw [hlocR, hpeerI, hdbI, hT3, hlenR]
    exact AnchorRows.take_getElem?_writeRows_eq hs.peerI hs.localR (hasRl ▸ hasl ▸ hn) hasR (by omega)
  · have hpeerR : haR5.espPeerAnchors = writeRows hR.ha.espPeerAnchors as (hR.db.anchorLength T) :=
      hs5.peer_eq
    have hlocI : haI3.espLocalAnchors = writeRows hI.ha.espLocalAnchors as (hI.db.anchorLength T) :=
      hs3.local_eq
    show (haR5.espPeerAnchors[i]?).map (·.take (hI.db.anchorLength haI3.espProtTransform)) =
      (haI3.espLocalAnchors[i]?).map (·.take (hI.db.anchorLength haI3.espProtTransform))
    rw [hpeerR, hlocI, hT3, hlenR]
    exact AnchorRows.take_getElem?_writeRows_eq hs.peerR hs.localI hn hasI (by omega)

/-! ### Two hosts -/

/-- Arrays of two chains of two-byte anchors. -/
def bexLimits : EspProtLimits := ⟨2, 6, 5, 2, 2⟩

/-- Two anchors of the PLAIN transform. -/
def bexDb : AnchorDb where
  anchors t := if t = espProtTfmPlain then [[1, 2], [3, 4]] else []
  anchorLength _ := 2
  hashItemLength _ := 8
  anchors_length t a ha := by
    simp only at ha ⊢
    split at ha
    · simp only [List.mem_cons, List.mem_singleton, List.not_mem_nil, or_false] at ha
      rcases ha with rfl | rfl <;> rfl
    · simp at ha

def bexHa : HipHadbState where
  espProtTransform := espProtTfmUnused
  espProtParam := false
  espLocalAnchors := [[0, 0], [0, 0]]
  espLocalUpdateAnchors := [[0, 0], [0, 0]]
  espPeerAnchors := [[0, 0], [0, 0]]
  espPeerUpdateAnchors := [[0, 0], [0, 0]]
  espLocalActiveLength := 0
  espLocalUpdateLength := 0
  espPeerActiveLength := 0
  espPeerUpdateLength := 0
  espRootLength := 0
  espRoot := [[0, 0], [0, 0]]
  hashItemLength := 0
  currentKeymatIndex := 0
  spiInboundCurrent := 7
  hipVersion := 2

/-- A host preferring PLAIN over UNUSED, with `n` parallel chains. -/
def bexHost (n : Int) : HipdHost :=
  ⟨⟨true, 2, [espProtTfmPlain, espProtTfmUnused, 0, 0, 0, 0], n⟩, bexDb, bexHa⟩

def emptyMsg : HipCommon := ⟨1, 2, 0, 1, 2, []⟩

theorem bexHost_one_agreement : BexSettings bexLimits (bexHost 1) (bexHost 1) ∧
    ∃ hI' hR', espProtBex (bexHost 1) (bexHost 1) emptyMsg emptyMsg emptyMsg [] [] [] =
      .ok ([0, 0, 0, 0, 0, 0], hI', hR') ∧
      BexAgreement (bexDb.anchorLength hI'.ha.espProtTransform) 1 hI'.ha hR'.ha :=
  have hs : BexSettings bexLimits (bexHost 1) (bexHost 1) :=
    ⟨rfl, by decide, fun _ ↦ rfl, fun _ ↦ le_rfl, by decide, by decide, ⟨rfl, by decide⟩,
      ⟨rfl, by decide⟩, ⟨rfl, by decide⟩, ⟨rfl, by decide⟩⟩
  ⟨hs, espProtBex_agreement bexLimits _ _ emptyMsg emptyMsg emptyMsg [] [] [] hs
    (by simp [emptyMsg]) (by simp [emptyMsg]) (by simp [emptyMsg])⟩

/-- One chain on the initiator, two on the responder: the I2 carries one anchor, the responder
looks for a second one and `esp_prot_i2_handle_anchor` returns -1. -/
theorem mismatchedHchains_i2_fails :
    (espProtBex (bexHost 1) (bexHost 2) emptyMsg emptyMsg emptyMsg [] [] []).map (·.1) =
      .ok [0, 0, 0, -1, 0, 0] := rfl

/-! ### The transform taken from an R1 -/

/-- The transform HIP's preference rule picks from a peer's list `T`: the first of the local
preferred transforms `esp_prot_transforms[0..esp_prot_num_transforms)`, in their order, that `T`
contains, and UNUSED when there is none. -/
def firstPreferredTransform (g : HipdGlobals) (T : List UInt8) : UInt8 :=
  ((g.espProtTransforms.take g.espProtNumTransforms.toNat).find? (· ∈ T)).getD espProtTfmUnused

/-- The transform an initiator takes from an R1 whose ESP_PROT_TRANSFORMS reads back as the list
`T`: `esp_prot_select_transform` answers the preferred one, and `esp_prot_r1_handle_transforms`
stores it with userspace IPsec and UNUSED without. -/
theorem espProtR1HandleTransforms_selects (g : HipdGlobals) (msg : HipCommon) (ha : HipHadbState)
    (T : List UInt8) (htfms : g.espProtNumTransforms.toNat ≤ g.espProtTransforms.length)
    (hp : (hipGetParam msg .espProtTransforms).isSome = true)
    (hnum : espProtPreferredTfmsNum msg (hipGetParam msg .espProtTransforms) = .ok T.length)
    (hread : ∀ j (hj : j < T.length),
      espProtPreferredTfmsAt msg (hipGetParam msg .espProtTransforms) j = .ok T[j]) :
    espProtSelectTransform g msg (hipGetParam msg .espProtTransforms) T.length 0
        g.espProtNumTransforms.toNat = .ok (firstPreferredTransform g T) ∧
      espProtR1HandleTransforms g msg ha = .ok (0, if g.hipUseUserspaceIpsec
        then { ha with espProtParam := true, espProtTransform := firstPreferredTransform g T }
        else { ha with espProtTransform := espProtTfmUnused }) := by
  have hsel := espProtSelectTransform_eq g hread 0 g.espProtNumTransforms.toNat (by omega)
  rw [List.drop_zero] at hsel
  refine ⟨hsel, ?_⟩
  unfold espProtR1HandleTransforms
  by_cases hI : g.hipUseUserspaceIpsec = true
  · simp [hI, hp, hnum, hsel, firstPreferredTransform]
  · simp [hI]

/-- An R1 that lists UNUSED before PLAIN. -/
def unusedFirstR1 : HipCommon :=
  hipBuildParamEspProtTransform emptyMsg [espProtTfmUnused, espProtTfmPlain]

theorem unusedFirstR1_read :
    espProtPreferredTfmsNum unusedFirstR1 (hipGetParam unusedFirstR1 .espProtTransforms) =
        .ok [espProtTfmUnused, espProtTfmPlain].length ∧
      ∀ j (hj : j < [espProtTfmUnused, espProtTfmPlain].length),
        espProtPreferredTfmsAt unusedFirstR1 (hipGetParam unusedFirstR1 .espProtTransforms) j =
          .ok [espProtTfmUnused, espProtTfmPlain][j] :=
  @preferredTfms_read unusedFirstR1 [] [] [espProtTfmUnused, espProtTfmPlain] rfl

/-- A host preferring PLAIN takes PLAIN from an R1 that lists UNUSED first. -/
theorem espProtR1HandleTransforms_selects_plain :
    firstPreferredTransform (bexHost 1).g [espProtTfmUnused, espProtTfmPlain] = espProtTfmPlain ∧
      (bexHost 1).g.espProtNumTransforms.toNat ≤ (bexHost 1).g.espProtTransforms.length ∧
      (hipGetParam unusedFirstR1 .espProtTransforms).isSome = true ∧
      espProtPreferredTfmsNum unusedFirstR1 (hipGetParam unusedFirstR1 .espProtTransforms) =
        .ok [espProtTfmUnused, espProtTfmPlain].length ∧
      (∀ j (hj : j < [espProtTfmUnused, espProtTfmPlain].length),
        espProtPreferredTfmsAt unusedFirstR1 (hipGetParam unusedFirstR1 .espProtTransforms) j =
          .ok [espProtTfmUnused, espProtTfmPlain][j]) ∧
      (espProtSelectTransform (bexHost 1).g unusedFirstR1
          (hipGetParam unusedFirstR1 .espProtTransforms) 2 0 2 =
        .ok (firstPreferredTransform (bexHost 1).g [espProtTfmUnused, espProtTfmPlain]) ∧
      espProtR1HandleTransforms (bexHost 1).g unusedFirstR1 bexHa = .ok (0,
        if (bexHost 1).g.hipUseUserspaceIpsec
        then { bexHa with espProtParam := true, espProtTransform :=
          firstPreferredTransform (bexHost 1).g [espProtTfmUnused, espProtTfmPlain] }
        else { bexHa with espProtTransform := espProtTfmUnused })) :=
  ⟨by decide, by decide, rfl, unusedFirstR1_read.1, unusedFirstR1_read.2,
    espProtR1HandleTransforms_selects (bexHost 1).g unusedFirstR1 bexHa
      [espProtTfmUnused, espProtTfmPlain] (by decide) rfl unusedFirstR1_read.1
      unusedFirstR1_read.2⟩

/-- Without userspace IPsec the same host stays on UNUSED, although the selection answers
PLAIN. -/
theorem kernelIpsecHost_ignoresR1Transforms :
    espProtSelectTransform ⟨false, 2, [espProtTfmPlain, espProtTfmUnused], 1⟩ unusedFirstR1
        (some 0) 2 0 2 = .ok espProtTfmPlain ∧
      espProtR1HandleTransforms ⟨false, 2, [espProtTfmPlain, espProtTfmUnused], 1⟩ unusedFirstR1
        bexHa = .ok (0, { bexHa with espProtTransform := espProtTfmUnused }) :=
  ⟨rfl, rfl⟩

end Hipl.Hipd
