import Hipl.Hipfw.Conntrack.State

/-!
# Tracking the ESP protection parameters of a base exchange

What an on-path hipfw does with the ESP protection parameters of a base exchange. From the R1 it
records the transforms the responder advertised, keeping those it supports and writing UNUSED
for the others (`espProtConntrackR1Tfms`). From the I2 it sets up the esp_tuple of the I2's
direction with the initiator's anchors (`espProtConntrackI2Anchor`), and from the R2 it fills in
the esp_tuple the caller has already set up for the R2's direction with the responder's
anchors (`espProtConntrackR2Anchor`). The caller, conntrack.c, is not among the sources.

Both anchor handlers store as many anchors as the firewall's own `num_parallel_hchains` says,
each of the hash length of the firewall's entry for the transform (`storeTupleAnchor`), and
both drop an anchor whose transform is UNUSED: it either fails the check against the recorded
transforms or reaches the branch for transforms that are not greater than UNUSED.

The floating-point `ceil(log_x(2, ·))` of the hash tree depth is the parameter `ceilLog2`.
-/

set_option autoImplicit false
set_option relaxedAutoImplicit false

namespace Hipl.Hipfw

open Hipl.Wire Hipl.EspProt

/-- The body of the loop of `esp_prot_conntrack_R1_tfms` for entry `i`: the advertised
transform when the firewall supports it, UNUSED otherwise. -/
def storeR1Tfm (fw : FwGlobals) (msg : HipCommon) (p : ParamPtr) (i : Nat) (tfms : List UInt8) :
    Except Fault (List UInt8) := do
  let t ← espProtPreferredTfmsAt msg p i
  let entry ← arrayGet fw.conntrackTfms t.toNat
  arraySet tfms i (if entry.isUsed then t else espProtTfmUnused)

/-- `esp_prot_conntrack_R1_tfms`: the transforms of the R1, at most `NUM_TRANSFORMS + 1` of
them, each kept when the firewall supports it and UNUSED otherwise. -/
def espProtConntrackR1Tfms (lim : EspProtLimits) (fw : FwGlobals) (conn : Connection)
    (msg : HipCommon) : Except Fault Connection :=
  if fw.hipEspProtection then do
    let cleared ← memsetZero conn.espProtTfms (lim.numTransforms + 1)
    let p := hipGetParam msg .espProtTransforms
    if p.isNone then pure { conn with numEspProtTfms := 0, espProtTfms := cleared } else do
    let num ← espProtPreferredTfmsNum msg p
    let n := if num > lim.numTransforms + 1 then lim.numTransforms + 1 else num
    let espProtTfms ← forUpTo n (storeR1Tfm fw msg p) cleared
    pure { conn with numEspProtTfms := n, espProtTfms }
  else pure conn

/-- The body of the loop of `esp_prot_conntrack_I2_anchor` and `esp_prot_conntrack_R2_anchor`
for chain `i`: the anchor `p` points to becomes the active and the first active anchor of the
chain when it has the tuple's transform, and the walk moves to the next parameter; `-1` when
there is no anchor or it has another transform. -/
def storeTupleAnchor (msg : HipCommon) (hashLength : Nat) (i : Nat) (s : EspTuple × ParamPtr) :
    Except Fault (Int × EspTuple × ParamPtr) :=
  if s.2.isNone then pure (-1, s) else do
  let t ← espProtAnchorTransform msg s.2
  if t ≠ s.1.espProtTfm then pure (-1, s) else do
  let anchor ← espProtAnchorAnchors msg s.2 0 hashLength
  let activeAnchors ← memcpyRow s.1.activeAnchors i anchor hashLength
  let firstActiveAnchors ← memcpyRow s.1.firstActiveAnchors i anchor hashLength
  pure (0, { s.1 with activeAnchors, firstActiveAnchors }, hipGetNextParam msg s.2)

/-- What `esp_prot_conntrack_I2_anchor` and `esp_prot_conntrack_R2_anchor` do with an esp_tuple
once its transform is set to that of the first anchor `p` points to: for a transform greater
than UNUSED the hash item length (of the full leaf set for a tree) and the anchors of all
parallel chains; `1` for UNUSED. -/
def trackTupleAnchors (fw : FwGlobals) (ceilLog2 : Nat → Nat) (msg : HipCommon) (p : ParamPtr)
    (e : EspTuple) : Except Fault (Int × EspTuple) :=
  if espProtTfmUnused < e.espProtTfm then do
    let hashLength ← resolveHashLength fw e.espProtTfm
    let itemLength ← espProtAnchorHashItemLength msg p
    let tree := e.espProtTfm = espProtTfmTree
    let e := { e with
      hashTreeDepth := if tree then ceilLog2 itemLength else e.hashTreeDepth
      hashItemLength := if tree then 2 ^ ceilLog2 itemLength else itemLength }
    let r ← forUpToErr fw.numParallelHchains (storeTupleAnchor msg hashLength) (e, p)
    if r.1 = 0 then pure (0, { r.2.1 with numHchains := fw.numParallelHchains })
    else pure (r.1, r.2.1)
  else pure (1, e)

/-- `esp_prot_conntrack_I2_anchor` on the tuple of direction `d`: a new esp_tuple with the I2's
anchors when their transform is one of the recorded ones and greater than UNUSED, appended to
the direction's empty list; `-1` when the list is not empty, `1` for any other transform. The
esp_tuple is freed on every error. -/
def espProtConntrackI2Anchor (lim : EspProtLimits) (fw : FwGlobals) (ceilLog2 : Nat → Nat)
    (conn : Connection) (d : Direction) (msg : HipCommon) : Except Fault (Int × Connection) :=
  if fw.hipEspProtection then
    let p := hipGetParam msg .espProtAnchor
    if p.isNone then pure (0, conn) else
    if (conn.tuple d).espTuples ≠ [] then pure (-1, conn) else do
    let t ← espProtAnchorTransform msg p
    let idx ← espProtCheckTransform conn.numEspProtTfms conn.espProtTfms t
    if idx < 0 then pure (1, conn) else do
    let r ← trackTupleAnchors fw ceilLog2 msg p { EspTuple.empty lim with espProtTfm := t }
    if r.1 = 0 then
      pure (0, conn.setTuple d { conn.tuple d with espTuples := [{ r.2 with anchorCache := [] }] })
    else pure (r.1, conn)
  else pure (0, conn)

/-- `esp_prot_conntrack_R2_anchor` on the tuple of direction `d`: the R2's anchors into the one
esp_tuple of the direction when their transform is one of the recorded ones and greater than
UNUSED; `1` for any other transform. The esp_tuple is changed in place, also when the anchors
turn out wrong; an empty list is dereferenced. -/
def espProtConntrackR2Anchor (fw : FwGlobals) (ceilLog2 : Nat → Nat) (conn : Connection)
    (d : Direction) (msg : HipCommon) : Except Fault (Int × Connection) :=
  if fw.hipEspProtection then
    let p := hipGetParam msg .espProtAnchor
    if p.isNone then pure (0, conn) else do
    let t ← espProtAnchorTransform msg p
    let idx ← espProtCheckTransform conn.numEspProtTfms conn.espProtTfms t
    if idx < 0 then pure (1, conn) else
    match (conn.tuple d).espTuples with
    | [] => .error .nullDeref
    | _ :: _ :: _ => pure (-1, conn)
    | [e] => do
      let r ← trackTupleAnchors fw ceilLog2 msg p { e with espProtTfm := t }
      let e := if r.1 = 0 then { r.2 with anchorCache := [] } else r.2
      pure (r.1, conn.setTuple d { conn.tuple d with espTuples := [e] })
  else pure (0, conn)

/-! ### Recording the R1's transforms -/

/-- The transform the firewall records for an advertised one: itself when the firewall supports
it, UNUSED otherwise. -/
def recordedTfm (fw : FwGlobals) (t : UInt8) : UInt8 :=
  if (fw.conntrackTfms.getD t.toNat ⟨0, false⟩).isUsed then t else espProtTfmUnused

section R1

variable {fw : FwGlobals} {msg : HipCommon} {p : ParamPtr} {tfms : List UInt8}

theorem storeR1Tfm_loop
    (hread : ∀ j (hj : j < tfms.length), espProtPreferredTfmsAt msg p j = .ok tfms[j])
    (hsup : ∀ t ∈ tfms, t.toNat < fw.conntrackTfms.length) (base : List UInt8) :
    ∀ n : Nat, n ≤ tfms.length → n ≤ base.length →
      forUpTo n (storeR1Tfm fw msg p) base = .ok ((tfms.take n).map (recordedTfm fw) ++ base.drop n)
  | 0, _, _ => by simp
  | n + 1, hn, hb => by
    have hsupn := hsup _ (List.getElem_mem (by omega : n < tfms.length))
    have hlen : n < ((tfms.take n).map (recordedTfm fw) ++ base.drop n).length := by
      simp only [List.length_append, List.length_map, List.length_take, List.length_drop]; omega
    have hset : n - ((tfms.take n).map (recordedTfm fw)).length = 0 := by
      simp only [List.length_map, List.length_take]; omega
    have hv : (if (fw.conntrackTfms[tfms[n].toNat]).isUsed then tfms[n] else espProtTfmUnused) =
        recordedTfm fw tfms[n] := by
      simp [recordedTfm, List.getD_eq_getElem?_getD, List.getElem?_eq_getElem hsupn]
    rw [forUpTo_succ, storeR1Tfm_loop hread hsup base n (by omega) (by omega), ok_bind,
      storeR1Tfm, hread n (by omega), ok_bind, arrayGet_of_lt _ _ hsupn, ok_bind,
      arraySet_of_lt _ _ _ hlen, List.set_append_right _ _
        (by simp only [List.length_map, List.length_take]; omega), hset,
      List.drop_eq_getElem_cons (by omega : n < base.length), List.set_cons_zero, hv,
      List.take_succ, List.getElem?_eq_getElem (by omega : n < tfms.length)]
    simp only [List.map_append, Option.toList_some, List.map_cons, List.map_nil,
      List.append_assoc, List.singleton_append]

/-- The R1 the responder built, with the transforms `tfms`: the firewall records as many
transforms, each itself when supported and UNUSED otherwise. -/
theorem espProtConntrackR1Tfms_records (lim : EspProtLimits) (conn : Connection)
    {pre rest : List HipTlv}
    (hmsg : msg.params = pre ++ ⟨.espProtTransforms, UInt8.ofNat tfms.length :: tfms⟩ :: rest)
    (hpre : ∀ x ∈ pre, x.type ≠ .espProtTransforms) (hfw : fw.hipEspProtection)
    (hlen : tfms.length ≤ lim.numTransforms + 1) (h256 : tfms.length < 256)
    (hcap : lim.numTransforms + 1 ≤ conn.espProtTfms.length)
    (hsup : ∀ t ∈ tfms, t.toNat < fw.conntrackTfms.length) :
    espProtConntrackR1Tfms lim fw conn msg = .ok { conn with
      numEspProtTfms := tfms.length
      espProtTfms := tfms.map (recordedTfm fw) ++
        (List.replicate (lim.numTransforms + 1 - tfms.length) 0 ++
          conn.espProtTfms.drop (lim.numTransforms + 1)) } := by
  obtain ⟨hnum, hread⟩ := preferredTfms_read hmsg
  have hp := hipGetParam_eq_some hmsg hpre rfl
  have hloop := storeR1Tfm_loop hread hsup
    (List.replicate (lim.numTransforms + 1) 0 ++ conn.espProtTfms.drop (lim.numTransforms + 1))
    tfms.length le_rfl (by simp; omega)
  rw [List.take_length, List.drop_append_of_le_length (by simpa using hlen),
    List.drop_replicate] at hloop
  simp only [espProtConntrackR1Tfms, hfw, if_true, memsetZero, if_pos hcap, ok_bind, hp,
    Option.isNone_some, Bool.false_eq_true, if_false, hnum, Nat.mod_eq_of_lt h256,
    show ¬ tfms.length > lim.numTransforms + 1 by omega]
  rw [hloop]
  rfl

theorem mem_recordedTfms {t : UInt8} (l : List UInt8) (ht : t ∈ tfms)
    (hused : ∃ e, fw.conntrackTfms[t.toNat]? = some e ∧ e.isUsed) :
    t ∈ (tfms.map (recordedTfm fw) ++ l).take tfms.length := by
  obtain ⟨e, he, hu⟩ := hused
  have : recordedTfm fw t = t := by simp [recordedTfm, he, hu]
  rw [List.take_left' (by simp)]
  exact List.mem_map.mpr ⟨t, ht, this⟩

/-- After the R1, the firewall's recorded transforms are within their array and contain every
advertised transform it supports. -/
theorem espProtConntrackR1Tfms_recorded (lim : EspProtLimits) (conn : Connection)
    {pre rest : List HipTlv}
    (hmsg : msg.params = pre ++ ⟨.espProtTransforms, UInt8.ofNat tfms.length :: tfms⟩ :: rest)
    (hpre : ∀ x ∈ pre, x.type ≠ .espProtTransforms) (hfw : fw.hipEspProtection)
    (hlen : tfms.length ≤ lim.numTransforms + 1) (h256 : tfms.length < 256)
    (hcap : lim.numTransforms + 1 ≤ conn.espProtTfms.length)
    (hsup : ∀ t ∈ tfms, t.toNat < fw.conntrackTfms.length) :
    ∃ conn', espProtConntrackR1Tfms lim fw conn msg = .ok conn' ∧
      conn'.numEspProtTfms.toNat ≤ conn'.espProtTfms.length ∧
      ∀ t ∈ tfms, (∃ e, fw.conntrackTfms[t.toNat]? = some e ∧ e.isUsed) →
        t ∈ conn'.espProtTfms.take conn'.numEspProtTfms.toNat :=
  ⟨_, espProtConntrackR1Tfms_records lim conn hmsg hpre hfw hlen h256 hcap hsup,
    by simp, fun _ ht hused ↦ by
      simpa only [Int.toNat_ofNat] using mem_recordedTfms _ ht hused⟩

end R1

/-! ### Storing the anchors of all chains -/

section Store

variable {msg : HipCommon} {t : UInt8} {hashLength hashItemLength : Nat} (e : EspTuple)
  {pre rest : List HipTlv} {as : List Bytes}

/-- The state after the first `j` chains of the walk over the anchors: the first `j` anchors
are the active and the first active anchors, and the walk points at anchor `j`. -/
structure StoredTuple (e : EspTuple) (pre : List HipTlv) (as : List Bytes) (hashLength j : Nat)
    (s : EspTuple × ParamPtr) : Prop where
  tuple_eq : s.1 = { e with
    activeAnchors := writeRows e.activeAnchors (as.take j) hashLength
    firstActiveAnchors := writeRows e.firstActiveAnchors (as.take j) hashLength }
  ptr_eq : j < as.length → s.2 = some (pre.length + j)

theorem storedTuple_step (hmsg : msg.params =
      pre ++ as.map (fun a ↦ espProtAnchorTlv e.espProtTfm a none hashItemLength) ++ rest)
    (has : ∀ a ∈ as, a.length = hashLength) {j : Nat} {s : EspTuple × ParamPtr}
    (hs : StoredTuple e pre as hashLength j s) (hj : j < as.length)
    (hrows : j < e.activeAnchors.length ∧ j < e.firstActiveAnchors.length)
    (hrow : hashLength ≤ e.activeAnchors[j].length ∧ hashLength ≤ e.firstActiveAnchors[j].length) :
    ∃ s', storeTupleAnchor msg hashLength j s = .ok (0, s') ∧
      StoredTuple e pre as hashLength (j + 1) s' := by
  have hp := hs.ptr_eq hj
  obtain ⟨htfm, -, hanchor, -⟩ := espProtAnchorTlv_fields (getElem?_anchorParams hmsg hj)
  rw [has _ (List.getElem_mem hj)] at hanchor
  refine ⟨({ e with
      activeAnchors := writeRows e.activeAnchors (as.take (j + 1)) hashLength
      firstActiveAnchors := writeRows e.firstActiveAnchors (as.take (j + 1)) hashLength },
    hipGetNextParam msg (some (pre.length + j))), ?_, rfl, fun hj1 ↦ ?_⟩
  · simp only [storeTupleAnchor, hp, Option.isNone_some, Bool.false_eq_true, if_false, htfm,
      ok_bind, hs.tuple_eq, ne_eq, not_true_eq_false, hanchor,
      memcpyRow_writeRows_take hj hrows.1 hrow.1, memcpyRow_writeRows_take hj hrows.2 hrow.2]
    rfl
  · rw [hipGetNextParam_some]
    · rfl
    · rw [hmsg]; simp; omega

/-- Walking over `as.length` anchor parameters of the tuple's transform stores each of them as
the active and the first active anchor of its chain. -/
theorem storeTupleAnchor_all (hmsg : msg.params =
      pre ++ as.map (fun a ↦ espProtAnchorTlv e.espProtTfm a none hashItemLength) ++ rest)
    (has : ∀ a ∈ as, a.length = hashLength)
    (hrows : as.length ≤ e.activeAnchors.length ∧ as.length ≤ e.firstActiveAnchors.length)
    (hrow : ∀ i < as.length, ∀ (h : i < e.activeAnchors.length) (h' : i < e.firstActiveAnchors.length),
      hashLength ≤ e.activeAnchors[i].length ∧ hashLength ≤ e.firstActiveAnchors[i].length) :
    ∃ p, forUpToErr as.length (storeTupleAnchor msg hashLength) (e, some pre.length) =
      .ok (0, { e with
        activeAnchors := writeRows e.activeAnchors as hashLength
        firstActiveAnchors := writeRows e.firstActiveAnchors as hashLength }, p) := by
  have hloop : ∀ j ≤ as.length, ∃ s, forUpToErr j (storeTupleAnchor msg hashLength)
      (e, some pre.length) = .ok (0, s) ∧ StoredTuple e pre as hashLength j s := by
    intro j hj
    induction j with
    | zero => exact ⟨_, rfl, by simp, fun _ ↦ rfl⟩
    | succ j ih =>
      obtain ⟨s, hloop, hs⟩ := ih (by omega)
      obtain ⟨s', hstep, hs'⟩ := storedTuple_step e hmsg has hs (by omega) ⟨by omega, by omega⟩
        (hrow j (by omega) (by omega) (by omega))
      refine ⟨s', ?_, hs'⟩
      unfold forUpToErr at hloop ⊢
      rw [forUpTo_succ, hloop]
      exact hstep
  obtain ⟨s, hs, hst⟩ := hloop as.length le_rfl
  refine ⟨s.2, ?_⟩
  rw [hs, ← List.take_length as, ← hst.tuple_eq]

end Store

/-! ### What the anchor handlers do -/

/-- The anchor arrays of an esp_tuple have the shape hipfw_defines.h declares. -/
def EspTuple.AnchorShape (lim : EspProtLimits) (e : EspTuple) : Prop :=
  AnchorRows lim e.activeAnchors ∧ AnchorRows lim e.firstActiveAnchors

theorem EspTuple.empty_anchorShape (lim : EspProtLimits) : (EspTuple.empty lim).AnchorShape lim :=
  have h : AnchorRows lim (List.replicate lim.maxNumParallelHchains (zeroSlot lim)) :=
    ⟨by simp, fun r hr ↦ by rw [List.eq_of_mem_replicate hr]; simp [zeroSlot]⟩
  ⟨h, h⟩

/-- An esp_tuple that tracks the anchors `as` of the transform `t`: for every chain, the first
`hashLength` bytes of its active and of its first active anchor are those of the chain's
anchor. -/
structure TracksAnchors (e : EspTuple) (t : UInt8) (as : List Bytes) (hashLength : Nat) :
    Prop where
  tfm_eq : e.espProtTfm = t
  active_eq : ∀ i < as.length,
    (e.activeAnchors[i]?).map (·.take hashLength) = (as[i]?).map (·.take hashLength)
  firstActive_eq : ∀ i < as.length,
    (e.firstActiveAnchors[i]?).map (·.take hashLength) = (as[i]?).map (·.take hashLength)

/-- Tracking the anchors a host wrote into its anchor array is tracking the array's first rows. -/
theorem TracksAnchors.take_writeRows {e : EspTuple} {t : UInt8} {as : List Bytes} {len : Nat}
    {lim : EspProtLimits} {rows : List Bytes} (h : TracksAnchors e t as len)
    (hrows : AnchorRows lim rows) (hk : as.length ≤ lim.maxNumParallelHchains)
    (hlen : ∀ a ∈ as, a.length = len) :
    TracksAnchors e t ((writeRows rows as len).take as.length) len := by
  have hle : ∀ a ∈ as, len ≤ a.length := fun a ha ↦ (hlen a ha).ge
  have hrow : ∀ i < as.length, (((writeRows rows as len).take as.length)[i]?).map (·.take len) =
      (as[i]?).map (·.take len) := fun i hi ↦ by
    rw [List.getElem?_take_of_lt hi]
    exact take_getElem?_writeRows rows as len i (by rw [hrows.1]; exact hk) hle hi
  have hlt : ∀ i, i < ((writeRows rows as len).take as.length).length → i < as.length :=
    fun i hi ↦ lt_of_lt_of_le hi (List.length_take_le _ _)
  exact ⟨h.tfm_eq, fun i hi ↦ (h.active_eq i (hlt i hi)).trans (hrow i (hlt i hi)).symm,
    fun i hi ↦ (h.firstActive_eq i (hlt i hi)).trans (hrow i (hlt i hi)).symm⟩

section Track

variable {lim : EspProtLimits} {fw : FwGlobals} (ceilLog2 : Nat → Nat) {msg : HipCommon}
  {pre rest : List HipTlv} {as : List Bytes} {hashItemLength hashLength : Nat}

/-- With anchors of the tuple's transform, one per chain and of the firewall's hash length,
the tuple gets the item length and the anchors. -/
theorem trackTupleAnchors_anchors (e : EspTuple) (hmsg : msg.params =
      pre ++ as.map (fun a ↦ espProtAnchorTlv e.espProtTfm a none hashItemLength) ++ rest)
    (hpre : ∀ x ∈ pre, x.type ≠ .espProtAnchor) (has : as ≠ [])
    (ht : espProtTfmUnused < e.espProtTfm) (hres : resolveHashLength fw e.espProtTfm = .ok hashLength)
    (hn : fw.numParallelHchains = as.length) (hlen : ∀ a ∈ as, a.length = hashLength)
    (hshape : e.AnchorShape lim) (hk : as.length ≤ lim.maxNumParallelHchains)
    (hh : hashLength ≤ lim.maxHashLength) :
    ∃ e', trackTupleAnchors fw ceilLog2 msg (some pre.length) e = .ok (0, e') ∧
      TracksAnchors e' e.espProtTfm as hashLength ∧ e'.anchorCache = e.anchorCache := by
  obtain ⟨hp, htfm, hitem⟩ := anchorParams_first hmsg hpre has
  set tree := e.espProtTfm = espProtTfmTree
  set e₁ : EspTuple := { e with
    hashTreeDepth := if tree then ceilLog2 (hashItemLength % 2 ^ 32) else e.hashTreeDepth
    hashItemLength := if tree then 2 ^ ceilLog2 (hashItemLength % 2 ^ 32)
      else hashItemLength % 2 ^ 32 }
  obtain ⟨q, hloop⟩ := storeTupleAnchor_all e₁ hmsg hlen
    ⟨by rw [hshape.1.1]; exact hk, by rw [hshape.2.1]; exact hk⟩
    (fun i _ h h' ↦ ⟨hshape.1.le_getElem_length hh i h, hshape.2.le_getElem_length hh i h'⟩)
  have hle : ∀ a ∈ as, hashLength ≤ a.length := fun a ha ↦ (hlen a ha).ge
  refine ⟨{ e₁ with
      activeAnchors := writeRows e.activeAnchors as hashLength
      firstActiveAnchors := writeRows e.firstActiveAnchors as hashLength
      numHchains := fw.numParallelHchains }, ?_, ⟨rfl, fun i hi ↦ ?_, fun i hi ↦ ?_⟩, rfl⟩
  · simp only [trackTupleAnchors, if_pos ht, hres, ok_bind, hitem, hn, hloop, if_true]
    rfl
  · exact take_getElem?_writeRows _ as hashLength i (by rw [hshape.1.1]; exact hk) hle hi
  · exact take_getElem?_writeRows _ as hashLength i (by rw [hshape.2.1]; exact hk) hle hi

theorem trackTupleAnchors_unused {e : EspTuple} (p : ParamPtr)
    (ht : e.espProtTfm = espProtTfmUnused) :
    trackTupleAnchors fw ceilLog2 msg p e = .ok (1, e) := by
  rw [trackTupleAnchors, if_neg (by rw [ht]; decide)]
  rfl

variable (lim) {conn : Connection} {d : Direction}

theorem espProtConntrackI2Anchor_none (hp : hipGetParam msg .espProtAnchor = none) :
    espProtConntrackI2Anchor lim fw ceilLog2 conn d msg = .ok (0, conn) := by
  unfold espProtConntrackI2Anchor
  split <;> simp [hp]

theorem espProtConntrackR2Anchor_none (hp : hipGetParam msg .espProtAnchor = none) :
    espProtConntrackR2Anchor fw ceilLog2 conn d msg = .ok (0, conn) := by
  unfold espProtConntrackR2Anchor
  split <;> simp [hp]

/-- The UNUSED anchor parameter is dropped with 1, and the connection keeps no esp_tuple for
it. -/
theorem espProtConntrackI2Anchor_unused {k : Nat} (hfw : fw.hipEspProtection)
    (hp : hipGetParam msg .espProtAnchor = some k)
    (htfm : espProtAnchorTransform msg (some k) = .ok espProtTfmUnused)
    (hempty : (conn.tuple d).espTuples = [])
    (hnum : conn.numEspProtTfms.toNat ≤ conn.espProtTfms.length) :
    espProtConntrackI2Anchor lim fw ceilLog2 conn d msg = .ok (1, conn) := by
  obtain ⟨r, hr, -⟩ := espProtCheckTransform_ge_zero_iff _ _ espProtTfmUnused hnum
  by_cases hr0 : r < 0
  · simp [espProtConntrackI2Anchor, hfw, hp, hempty, htfm, hr, hr0]
  · simp [espProtConntrackI2Anchor, hfw, hp, hempty, htfm, hr, hr0,
      trackTupleAnchors_unused ceilLog2 (some k) (rfl : ({ EspTuple.empty lim with
        espProtTfm := espProtTfmUnused } : EspTuple).espProtTfm = espProtTfmUnused)]

/-- The UNUSED anchor parameter is dropped with 1. -/
theorem espProtConntrackR2Anchor_unused {k : Nat} {e : EspTuple} (hfw : fw.hipEspProtection)
    (hp : hipGetParam msg .espProtAnchor = some k)
    (htfm : espProtAnchorTransform msg (some k) = .ok espProtTfmUnused)
    (hone : (conn.tuple d).espTuples = [e])
    (hnum : conn.numEspProtTfms.toNat ≤ conn.espProtTfms.length) :
    ∃ conn', espProtConntrackR2Anchor fw ceilLog2 conn d msg = .ok (1, conn') := by
  obtain ⟨r, hr, -⟩ := espProtCheckTransform_ge_zero_iff _ _ espProtTfmUnused hnum
  by_cases hr0 : r < 0
  · exact ⟨conn, by simp [espProtConntrackR2Anchor, hfw, hp, htfm, hr, hr0]⟩
  · refine ⟨conn.setTuple d { conn.tuple d with
      espTuples := [{ e with espProtTfm := espProtTfmUnused }] }, ?_⟩
    simp only [espProtConntrackR2Anchor, hfw, if_true, hp, Option.isNone_some,
      Bool.false_eq_true, if_false, htfm, hr, ok_bind, hr0, hone,
      trackTupleAnchors_unused ceilLog2 (some k) (rfl : ({ e with
        espProtTfm := espProtTfmUnused } : EspTuple).espProtTfm = espProtTfmUnused)]
    rfl

/-- An I2 whose anchors have a recorded, supported transform, one per chain and of the
firewall's hash length, gives the I2's direction one esp_tuple that tracks them. -/
theorem espProtConntrackI2Anchor_anchors {t : UInt8} (hmsg : msg.params =
      pre ++ as.map (fun a ↦ espProtAnchorTlv t a none hashItemLength) ++ rest)
    (hpre : ∀ x ∈ pre, x.type ≠ .espProtAnchor) (has : as ≠ []) (hfw : fw.hipEspProtection)
    (hempty : (conn.tuple d).espTuples = [])
    (hrec : t ∈ conn.espProtTfms.take conn.numEspProtTfms.toNat)
    (hnum : conn.numEspProtTfms.toNat ≤ conn.espProtTfms.length)
    (ht : espProtTfmUnused < t) (hres : resolveHashLength fw t = .ok hashLength)
    (hn : fw.numParallelHchains = as.length) (hlen : ∀ a ∈ as, a.length = hashLength)
    (hk : as.length ≤ lim.maxNumParallelHchains) (hh : hashLength ≤ lim.maxHashLength) :
    ∃ e, espProtConntrackI2Anchor lim fw ceilLog2 conn d msg =
      .ok (0, conn.setTuple d { conn.tuple d with espTuples := [e] }) ∧
      TracksAnchors e t as hashLength := by
  obtain ⟨hp, htfm, -⟩ := anchorParams_first hmsg hpre has
  obtain ⟨r, hr, hr0⟩ := espProtCheckTransform_ge_zero_iff _ _ t hnum
  obtain ⟨e, htrack, he, -⟩ := trackTupleAnchors_anchors ceilLog2
    { EspTuple.empty lim with espProtTfm := t } hmsg hpre has ht hres hn hlen
    (EspTuple.empty_anchorShape lim) hk hh
  refine ⟨{ e with anchorCache := [] }, ?_, ⟨he.tfm_eq, he.active_eq, he.firstActive_eq⟩⟩
  simp only [espProtConntrackI2Anchor, hfw, if_true, hp, Option.isNone_some, Bool.false_eq_true,
    if_false, hempty, ne_eq, not_true_eq_false, htfm, hr, ok_bind,
    show ¬ r < 0 from Int.not_lt.mpr (hr0.mpr hrec), htrack]
  rfl

/-- An R2 whose anchors have a recorded, supported transform, one per chain and of the
firewall's hash length, makes the one esp_tuple of the R2's direction track them. -/
theorem espProtConntrackR2Anchor_anchors {t : UInt8} {e : EspTuple} (hmsg : msg.params =
      pre ++ as.map (fun a ↦ espProtAnchorTlv t a none hashItemLength) ++ rest)
    (hpre : ∀ x ∈ pre, x.type ≠ .espProtAnchor) (has : as ≠ []) (hfw : fw.hipEspProtection)
    (hone : (conn.tuple d).espTuples = [e]) (hshape : e.AnchorShape lim)
    (hrec : t ∈ conn.espProtTfms.take conn.numEspProtTfms.toNat)
    (hnum : conn.numEspProtTfms.toNat ≤ conn.espProtTfms.length)
    (ht : espProtTfmUnused < t) (hres : resolveHashLength fw t = .ok hashLength)
    (hn : fw.numParallelHchains = as.length) (hlen : ∀ a ∈ as, a.length = hashLength)
    (hk : as.length ≤ lim.maxNumParallelHchains) (hh : hashLength ≤ lim.maxHashLength) :
    ∃ e', espProtConntrackR2Anchor fw ceilLog2 conn d msg =
      .ok (0, conn.setTuple d { conn.tuple d with espTuples := [e'] }) ∧
      TracksAnchors e' t as hashLength := by
  obtain ⟨hp, htfm, -⟩ := anchorParams_first hmsg hpre has
  obtain ⟨r, hr, hr0⟩ := espProtCheckTransform_ge_zero_iff _ _ t hnum
  obtain ⟨e', htrack, he, -⟩ := trackTupleAnchors_anchors ceilLog2 { e with espProtTfm := t }
    hmsg hpre has ht hres hn hlen hshape hk hh
  refine ⟨{ e' with anchorCache := [] }, ?_, ⟨he.tfm_eq, he.active_eq, he.firstActive_eq⟩⟩
  simp only [espProtConntrackR2Anchor, hfw, if_true, hp, Option.isNone_some, Bool.false_eq_true,
    if_false, htfm, hr, ok_bind, show ¬ r < 0 from Int.not_lt.mpr (hr0.mpr hrec), hone, htrack]
  rfl

end Track

end Hipl.Hipfw
