import Hipl.Hipd.BexAgreement
import Hipl.Hipfw.Conntrack.Bex

/-!
# An on-path firewall tracking the base exchange

The anchors a hipd sends in its I2 (`espProtI2AddAnchor`) or R2 (`espProtR2AddAnchor`) pass a
hipfw on the path, which tracks them in the esp_tuple of the message's direction
(`espProtConntrackI2Anchor`, `espProtConntrackR2Anchor`). For this to work the firewall has to
agree with the sender on what the exchange never sends (`FwMatches`): the number of parallel
chains, and for the sender's transform, that the R1 advertised it and the firewall supports it
with the sender's anchor length as its hash length. `FwMatches.of_r1Tfms` shows the recording
half from `esp_prot_conntrack_R1_tfms`.

`TrackedSend` says what the firewall answers, by the transform the sender ended on: the anchors
of a transform other than UNUSED are accepted and tracked; the UNUSED anchor parameter a host
sends when it falls back is dropped with 1, since both handlers take the branch for a transform
that is not greater than UNUSED (or fail the check against the recorded transforms); a message
without an anchor parameter passes with 0.
-/

set_option autoImplicit false
set_option relaxedAutoImplicit false

namespace Hipl.OnPath

open Hipl.Wire Hipl.EspProt Hipl.Hipd Hipl.Hipfw

/-- What the firewall shares with a sender whose transform is `t`: ESP protection on, the
sender's chain count within the arrays, a recorded transform list within its array, and unless
`t` is UNUSED, `t` among the recorded transforms with the sender's anchor length, within a hash
slot, as its hash length. -/
structure FwMatches (lim : EspProtLimits) (fw : FwGlobals) (conn : Connection) (g : HipdGlobals)
    (db : AnchorDb) (t : UInt8) : Prop where
  protection : fw.hipEspProtection
  hchains : fw.numParallelHchains = g.espProtNumParallelHchains
  hchains_le : g.espProtNumParallelHchains ≤ lim.maxNumParallelHchains
  numTfms : conn.numEspProtTfms.toNat ≤ conn.espProtTfms.length
  recorded : espProtTfmUnused < t → t ∈ conn.espProtTfms.take conn.numEspProtTfms.toNat
  hashLength : espProtTfmUnused < t → resolveHashLength fw t = .ok (db.anchorLength t)
  hashLength_le : db.anchorLength t ≤ lim.maxHashLength

/-- What the firewall answers to a message an anchor builder sent, by what the sender ended
with: on a transform other than UNUSED, 0, and with at least one chain, the direction's one
esp_tuple tracks the sender's local anchors of all `n` chains; on UNUSED, 1 exactly when the
message carries an anchor parameter. -/
def TrackedSend (n len : Nat) (ha : HipHadbState) (carries : Bool) (tp : Tuple) (r : Int) :
    Prop :=
  if ha.espProtTransform = espProtTfmUnused then r = if carries then 1 else 0
  else r = 0 ∧ (0 < n → ∃ e, tp.espTuples = [e] ∧
    TracksAnchors e ha.espProtTransform (ha.espLocalAnchors.take n) len)

section Send

variable (lim : EspProtLimits) (fw : FwGlobals) (ceilLog2 : Nat → Nat) {conn : Connection}
  {d : Direction} {g : HipdGlobals} {db : AnchorDb} {ha : HipHadbState} {out : HipCommon}

/-- The I2 a host builds, whatever its transform, as the firewall on its path tracks it. -/
theorem espProtI2AddAnchor_tracked {rest : List HipTlv} (hfm : FwMatches lim fw conn g db ha.espProtTransform)
    (hempty : (conn.tuple d).espTuples = []) (hrows : AnchorRows lim ha.espLocalAnchors)
    (hout : ∀ tlv ∈ out.params ++ rest, tlv.type ≠ .espProtAnchor) :
    ∃ ha' db' out' r conn', espProtI2AddAnchor g db ha out = .ok (0, ha', db', out') ∧
      espProtConntrackI2Anchor lim fw ceilLog2 conn d (withParams out' rest) = .ok (r, conn') ∧
      TrackedSend g.espProtNumParallelHchains.toNat (db.anchorLength ha'.espProtTransform) ha'
        (hipGetParam (withParams out' rest) .espProtAnchor).isSome (conn'.tuple d) r := by
  have hpre : ∀ x ∈ out.params, x.type ≠ .espProtAnchor := fun x hx ↦ hout x (by simp [hx])
  obtain ⟨hunused, hunusedTfm⟩ := emptyAnchor_read out rest espProtTfmUnused hpre
  by_cases hT : espProtTfmUnused < ha.espProtTransform
  swap
  · -- no transform agreed: the UNUSED anchor when the R1 advertised transforms, else nothing
    by_cases hparam : ha.espProtParam
    · refine ⟨_, _, _, 1, conn, by rw [espProtI2AddAnchor, if_neg hT, if_pos hparam]; rfl,
        espProtConntrackI2Anchor_unused lim ceilLog2 hfm.protection hunused hunusedTfm hempty
          hfm.numTfms, ?_⟩
      simp [TrackedSend, hunused]
    · have hp : hipGetParam (withParams out rest) .espProtAnchor = none :=
        hipGetParam_eq_none fun x hx ↦ hout x (by simpa [withParams] using hx)
      refine ⟨_, _, _, 0, conn, by rw [espProtI2AddAnchor, if_neg hT, if_neg hparam]; rfl,
        espProtConntrackI2Anchor_none lim ceilLog2 hp, ?_⟩
      simp [TrackedSend, hp]
  have h3 : espProtI2AddAnchor g db ha out = addLocalAnchors g db ha out := if_pos hT
  rcases addLocalAnchors_spec lim g db ha out hfm.hchains_le hrows hfm.hashLength_le with
    ⟨hk, ⟨ha', db', out'⟩, hadd, hs⟩ | hadd <;> rw [← h3] at hadd
  swap
  · -- not enough anchors: the UNUSED anchor
    refine ⟨_, _, _, 1, conn, hadd, espProtConntrackI2Anchor_unused lim ceilLog2 hfm.protection
      hunused hunusedTfm hempty hfm.numTfms, ?_⟩
    simp [TrackedSend, hunused]
  -- the anchors of all chains
  obtain ⟨hmsg, hasl, hlen, hloc⟩ := hs.sent hk rest
  have hT' : ha'.espProtTransform = ha.espProtTransform := hs.transform_eq
  have hsend : ¬ ha'.espProtTransform = espProtTfmUnused := hT' ▸ ne_espProtTfmUnused_of_lt hT
  rcases Nat.eq_zero_or_pos g.espProtNumParallelHchains.toNat with hn0 | hn0
  · -- no chains: nothing is sent
    have hp : hipGetParam (withParams out' rest) .espProtAnchor = none :=
      hipGetParam_eq_none fun x hx ↦ hout x (by simpa [hmsg, hn0] using hx)
    refine ⟨_, _, _, 0, conn, hadd, espProtConntrackI2Anchor_none lim ceilLog2 hp, ?_⟩
    rw [TrackedSend, if_neg hsend]
    exact ⟨rfl, fun h ↦ absurd h (by omega)⟩
  have hk' : ((db.anchors ha.espProtTransform).take g.espProtNumParallelHchains.toNat).length ≤
      lim.maxNumParallelHchains := by
    rw [hasl]; have := hfm.hchains_le; omega
  obtain ⟨e, hfw, htr⟩ := espProtConntrackI2Anchor_anchors lim ceilLog2 hmsg hpre
    (List.ne_nil_of_length_pos (by omega)) hfm.protection hempty (hfm.recorded hT) hfm.numTfms hT
    (hfm.hashLength hT) (by rw [hfm.hchains, hasl]; omega) hlen hk' hfm.hashLength_le
  refine ⟨_, _, _, 0, _, hadd, hfw, ?_⟩
  rw [TrackedSend, if_neg hsend]
  refine ⟨rfl, fun _ ↦ ⟨e, by simp, ?_⟩⟩
  have htrack := htr.take_writeRows hrows hk' hlen
  rwa [hasl, ← hloc, ← hT'] at htrack

/-- The R2 a host builds, whatever its transform, as the firewall on its path tracks it in the
esp_tuple set up for the R2's direction. -/
theorem espProtR2AddAnchor_tracked {rest : List HipTlv} {e : EspTuple}
    (hfm : FwMatches lim fw conn g db ha.espProtTransform)
    (hone : (conn.tuple d).espTuples = [e]) (hshape : e.AnchorShape lim)
    (hrows : AnchorRows lim ha.espLocalAnchors)
    (hout : ∀ tlv ∈ out.params ++ rest, tlv.type ≠ .espProtAnchor) :
    ∃ ha' db' out' r conn', espProtR2AddAnchor g db ha out = .ok (0, ha', db', out') ∧
      espProtConntrackR2Anchor fw ceilLog2 conn d (withParams out' rest) = .ok (r, conn') ∧
      TrackedSend g.espProtNumParallelHchains.toNat (db.anchorLength ha'.espProtTransform) ha'
        (hipGetParam (withParams out' rest) .espProtAnchor).isSome (conn'.tuple d) r := by
  have hpre : ∀ x ∈ out.params, x.type ≠ .espProtAnchor := fun x hx ↦ hout x (by simp [hx])
  by_cases hT : espProtTfmUnused < ha.espProtTransform
  swap
  · -- no transform agreed: nothing is sent
    have hp : hipGetParam (withParams out rest) .espProtAnchor = none :=
      hipGetParam_eq_none fun x hx ↦ hout x (by simpa [withParams] using hx)
    refine ⟨_, _, _, 0, conn, by rw [espProtR2AddAnchor, if_neg hT]; rfl,
      espProtConntrackR2Anchor_none ceilLog2 hp, ?_⟩
    simp [TrackedSend, hp]
  have h5 : espProtR2AddAnchor g db ha out = addLocalAnchors g db ha out := if_pos hT
  rcases addLocalAnchors_spec lim g db ha out hfm.hchains_le hrows hfm.hashLength_le with
    ⟨hk, ⟨ha', db', out'⟩, hadd, hs⟩ | hadd <;> rw [← h5] at hadd
  swap
  · -- not enough anchors: the UNUSED anchor
    obtain ⟨hp, htfm⟩ := emptyAnchor_read out rest espProtTfmUnused hpre
    obtain ⟨conn', hfw⟩ := espProtConntrackR2Anchor_unused ceilLog2 hfm.protection hp htfm hone
      hfm.numTfms
    refine ⟨_, _, _, 1, conn', hadd, hfw, ?_⟩
    simp [TrackedSend, hp]
  -- the anchors of all chains
  obtain ⟨hmsg, hasl, hlen, hloc⟩ := hs.sent hk rest
  have hT' : ha'.espProtTransform = ha.espProtTransform := hs.transform_eq
  have hsend : ¬ ha'.espProtTransform = espProtTfmUnused := hT' ▸ ne_espProtTfmUnused_of_lt hT
  rcases Nat.eq_zero_or_pos g.espProtNumParallelHchains.toNat with hn0 | hn0
  · -- no chains: nothing is sent
    have hp : hipGetParam (withParams out' rest) .espProtAnchor = none :=
      hipGetParam_eq_none fun x hx ↦ hout x (by simpa [hmsg, hn0] using hx)
    refine ⟨_, _, _, 0, conn, hadd, espProtConntrackR2Anchor_none ceilLog2 hp, ?_⟩
    rw [TrackedSend, if_neg hsend]
    exact ⟨rfl, fun h ↦ absurd h (by omega)⟩
  have hk' : ((db.anchors ha.espProtTransform).take g.espProtNumParallelHchains.toNat).length ≤
      lim.maxNumParallelHchains := by
    rw [hasl]; have := hfm.hchains_le; omega
  obtain ⟨e', hfw, htr⟩ := espProtConntrackR2Anchor_anchors lim ceilLog2 hmsg hpre
    (List.ne_nil_of_length_pos (by omega)) hfm.protection hone hshape (hfm.recorded hT)
    hfm.numTfms hT (hfm.hashLength hT) (by rw [hfm.hchains, hasl]; omega) hlen hk'
    hfm.hashLength_le
  refine ⟨_, _, _, 0, _, hadd, hfw, ?_⟩
  rw [TrackedSend, if_neg hsend]
  refine ⟨rfl, fun _ ↦ ⟨e', by simp, ?_⟩⟩
  have htrack := htr.take_writeRows hrows hk' hlen
  rwa [hasl, ← hloc, ← hT'] at htrack

end Send

/-- The anchors of the I2 and the R2 as the firewall on the path tracks them. -/
theorem espProtConntrack_bexAnchors (lim : EspProtLimits) (fw : FwGlobals)
    (ceilLog2 : Nat → Nat) :
    (∀ (conn : Connection) (d : Direction) (g : HipdGlobals) (db : AnchorDb) (ha : HipHadbState)
        (i2 : HipCommon) (rest : List HipTlv), FwMatches lim fw conn g db ha.espProtTransform →
        (conn.tuple d).espTuples = [] → AnchorRows lim ha.espLocalAnchors →
        (∀ tlv ∈ i2.params ++ rest, tlv.type ≠ .espProtAnchor) →
        ∃ ha' db' i2' r conn', espProtI2AddAnchor g db ha i2 = .ok (0, ha', db', i2') ∧
          espProtConntrackI2Anchor lim fw ceilLog2 conn d (withParams i2' rest) = .ok (r, conn') ∧
          TrackedSend g.espProtNumParallelHchains.toNat (db.anchorLength ha'.espProtTransform) ha'
            (hipGetParam (withParams i2' rest) .espProtAnchor).isSome (conn'.tuple d) r) ∧
    (∀ (conn : Connection) (d : Direction) (g : HipdGlobals) (db : AnchorDb) (ha : HipHadbState)
        (r2 : HipCommon) (rest : List HipTlv) (e : EspTuple),
        FwMatches lim fw conn g db ha.espProtTransform → (conn.tuple d).espTuples = [e] →
        e.AnchorShape lim → AnchorRows lim ha.espLocalAnchors →
        (∀ tlv ∈ r2.params ++ rest, tlv.type ≠ .espProtAnchor) →
        ∃ ha' db' r2' r conn', espProtR2AddAnchor g db ha r2 = .ok (0, ha', db', r2') ∧
          espProtConntrackR2Anchor fw ceilLog2 conn d (withParams r2' rest) = .ok (r, conn') ∧
          TrackedSend g.espProtNumParallelHchains.toNat (db.anchorLength ha'.espProtTransform) ha'
            (hipGetParam (withParams r2' rest) .espProtAnchor).isSome (conn'.tuple d) r) :=
  ⟨fun _ _ _ _ _ _ _ hfm hempty hrows hout ↦
      espProtI2AddAnchor_tracked lim fw ceilLog2 hfm hempty hrows hout,
    fun _ _ _ _ _ _ _ _ hfm hone hshape hrows hout ↦
      espProtR2AddAnchor_tracked lim fw ceilLog2 hfm hone hshape hrows hout⟩

/-! ### A firewall between two hosts -/

/-- A firewall supporting PLAIN with two-byte hashes, one chain. -/
def trackFw : FwGlobals :=
  ⟨true, 1, 64, 2, 1, 1, [⟨0, false⟩, ⟨2, true⟩, ⟨0, false⟩, ⟨0, false⟩, ⟨0, false⟩, ⟨0, false⟩]⟩

/-- A connection before the R1: no esp_tuple for the initiator's direction, a fresh one for the
responder's. -/
def untrackedConn : Connection :=
  ⟨⟨[], 0⟩, ⟨[EspTuple.empty bexLimits], 0⟩, 0, List.replicate 6 0⟩

/-- The connection after the R1 of `bexHost 1`, which advertises PLAIN and UNUSED. -/
def trackConn : Connection :=
  ⟨⟨[], 0⟩, ⟨[EspTuple.empty bexLimits], 0⟩, 2, [espProtTfmPlain, 0, 0, 0, 0, 0]⟩

example : (espProtR1AddTransforms (bexHost 1).g emptyMsg >>= fun r ↦
    espProtConntrackR1Tfms bexLimits trackFw untrackedConn r.2) = .ok trackConn := rfl

/-- An anchor database that has run out. -/
def emptyDb : AnchorDb := ⟨fun _ ↦ [], fun _ ↦ 2, fun _ ↦ 8, by simp⟩

/-- An initiator that agreed on PLAIN from an R1 with transforms. -/
def plainHa : HipHadbState :=
  { bexHa with espProtTransform := espProtTfmPlain, espProtParam := true }

theorem plainHost_i2_tracked : FwMatches bexLimits trackFw trackConn (bexHost 1).g bexDb
      espProtTfmPlain ∧
    ∃ ha' db' i2' r conn', espProtI2AddAnchor (bexHost 1).g bexDb plainHa emptyMsg =
        .ok (0, ha', db', i2') ∧
      espProtConntrackI2Anchor bexLimits trackFw (fun _ ↦ 0) trackConn .original
        (withParams i2' []) = .ok (r, conn') ∧
      TrackedSend 1 (bexDb.anchorLength ha'.espProtTransform) ha'
        (hipGetParam (withParams i2' []) .espProtAnchor).isSome (conn'.tuple .original) r :=
  have hfm : FwMatches bexLimits trackFw trackConn (bexHost 1).g bexDb espProtTfmPlain :=
    ⟨rfl, rfl, by decide, by decide, fun _ ↦ by decide, fun _ ↦ rfl, le_rfl⟩
  ⟨hfm, (espProtConntrack_bexAnchors bexLimits trackFw (fun _ ↦ 0)).1 trackConn .original
    (bexHost 1).g bexDb plainHa emptyMsg [] hfm rfl ⟨rfl, by decide⟩ (by simp [emptyMsg])⟩

/-- A firewall that matches the initiator (`FwMatches`) drops the I2 of an initiator whose anchors
ran out: the initiator falls back to UNUSED and sends the UNUSED anchor, which
`esp_prot_conntrack_I2_anchor` answers with 1. -/
theorem unusedAnchor_i2_dropped : FwMatches bexLimits trackFw trackConn (bexHost 1).g emptyDb
      espProtTfmPlain ∧
    (espProtI2AddAnchor (bexHost 1).g emptyDb plainHa emptyMsg >>= fun r ↦
      espProtConntrackI2Anchor bexLimits trackFw (fun _ ↦ 0) trackConn .original r.2.2.2) =
      .ok (1, trackConn) :=
  ⟨⟨rfl, rfl, by decide, by decide, fun _ ↦ by decide, fun _ ↦ rfl, le_rfl⟩, rfl⟩

end Hipl.OnPath
