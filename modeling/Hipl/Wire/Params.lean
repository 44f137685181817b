import Hipl.Wire.Message

/-!
# The parameters of the anchor update and of the base exchange

The packed structs the firewall and the daemon read the ESP protection parameters through,
and the builders that write them. A field read is `paramNat` or `paramBytes` at the field's
offset, so a read through a pointer to a parameter of another type reads that parameter's
bytes, as in C. The builders are in builder.c, which is not among the sources; they write the
fields the spec's table (§6) lists, in that order: an ESP_PROT_ANCHOR is the transform, the
hash item length and the active anchor, followed by the next anchor when there is one.

`espProtAnchorTlv_fields` reads back what the anchor builder wrote: the transform, the item
length and both anchors.
-/

set_option autoImplicit false
set_option relaxedAutoImplicit false

namespace Hipl.Wire

/-! ### Field reads -/

/-- `esp_prot_anchor->transform`. -/
def espProtAnchorTransform (msg : HipCommon) (p : ParamPtr) : Except Fault UInt8 :=
  (UInt8.ofNat ·) <$> paramNat msg p 0 1

/-- `ntohl(esp_prot_anchor->hash_item_length)`. -/
def espProtAnchorHashItemLength (msg : HipCommon) (p : ParamPtr) : Except Fault Nat :=
  paramNat msg p 1 4

/-- `esp_prot_anchor->hash_item_length` copied without `ntohl`: on a little-endian host the
bytes come out reversed. -/
def espProtAnchorHashItemLengthRaw (msg : HipCommon) (p : ParamPtr) : Except Fault Nat :=
  (fun b ↦ beNat b.reverse) <$> paramBytes msg p 1 4

/-- The `len` bytes of `esp_prot_anchor->anchors` from offset `off`. -/
def espProtAnchorAnchors (msg : HipCommon) (p : ParamPtr) (off len : Nat) : Except Fault Bytes :=
  paramBytes msg p (5 + off) len

/-- `esp_prot_root->root_length`. -/
def espProtRootLength (msg : HipCommon) (p : ParamPtr) : Except Fault Nat :=
  paramNat msg p 0 1

/-- The first `len` bytes of `esp_prot_root->root`. -/
def espProtRootRoot (msg : HipCommon) (p : ParamPtr) (len : Nat) : Except Fault Bytes :=
  paramBytes msg p 1 len

/-- `ntohl(esp_prot_branch->branch_length)`. -/
def espProtBranchLength (msg : HipCommon) (p : ParamPtr) : Except Fault Nat :=
  paramNat msg p 0 4

/-- `ntohl(esp_prot_branch->anchor_offset)`. -/
def espProtBranchAnchorOffset (msg : HipCommon) (p : ParamPtr) : Except Fault Nat :=
  paramNat msg p 4 4

/-- The first `len` bytes of `esp_prot_branch->branch_nodes`. -/
def espProtBranchNodes (msg : HipCommon) (p : ParamPtr) (len : Nat) : Except Fault Bytes :=
  paramBytes msg p 8 len

/-- `esp_prot_secret->secret_length`. -/
def espProtSecretLength (msg : HipCommon) (p : ParamPtr) : Except Fault Nat :=
  paramNat msg p 0 1

/-- The first `len` bytes of `esp_prot_secret->secret`. -/
def espProtSecretSecret (msg : HipCommon) (p : ParamPtr) (len : Nat) : Except Fault Bytes :=
  paramBytes msg p 1 len

/-- `ntohl(seq->update_id)`. -/
def hipSeqUpdateId (msg : HipCommon) (p : ParamPtr) : Except Fault Nat :=
  paramNat msg p 0 4

/-- `ntohl(ack->peer_update_id)`. -/
def hipAckPeerUpdateId (msg : HipCommon) (p : ParamPtr) : Except Fault Nat :=
  paramNat msg p 0 4

/-- `ntohs(esp_info->keymat_index)`. -/
def hipEspInfoKeymatIndex (msg : HipCommon) (p : ParamPtr) : Except Fault Nat :=
  paramNat msg p 2 2

/-- `ntohl(esp_info->old_spi)`. -/
def hipEspInfoOldSpi (msg : HipCommon) (p : ParamPtr) : Except Fault Nat :=
  paramNat msg p 4 4

/-- `ntohl(esp_info->new_spi)`. -/
def hipEspInfoNewSpi (msg : HipCommon) (p : ParamPtr) : Except Fault Nat :=
  paramNat msg p 8 4

/-- `prot_transforms->num_transforms`. -/
def espProtPreferredTfmsNum (msg : HipCommon) (p : ParamPtr) : Except Fault Nat :=
  paramNat msg p 0 1

/-- `prot_transforms->transforms[i]`. -/
def espProtPreferredTfmsAt (msg : HipCommon) (p : ParamPtr) (i : Nat) : Except Fault UInt8 :=
  (UInt8.ofNat ·) <$> paramNat msg p (1 + i) 1

/-- `PUZZLE_LENGTH`: the length of the puzzle's I and of its solution J. -/
def puzzleLength : Nat := 8

/-- `pz->K`, the difficulty of a PUZZLE. -/
def hipPuzzleK (msg : HipCommon) (p : ParamPtr) : Except Fault Nat :=
  paramNat msg p 0 1

/-- `pz->opaque`, the responder's two bytes of state. -/
def hipPuzzleOpaqueBytes (msg : HipCommon) (p : ParamPtr) : Except Fault Bytes :=
  paramBytes msg p 2 2

/-- `pz->I`. -/
def hipPuzzleI (msg : HipCommon) (p : ParamPtr) : Except Fault Bytes :=
  paramBytes msg p 4 puzzleLength

/-- `ntoh64(r1cntr->generation)`. -/
def hipR1CounterGeneration (msg : HipCommon) (p : ParamPtr) : Except Fault Nat :=
  paramNat msg p 4 8

/-- `solution->K`. -/
def hipSolutionK (msg : HipCommon) (p : ParamPtr) : Except Fault Nat :=
  paramNat msg p 0 1

/-- `solution->I`. -/
def hipSolutionI (msg : HipCommon) (p : ParamPtr) : Except Fault Bytes :=
  paramBytes msg p 4 puzzleLength

/-- `solution->J`. -/
def hipSolutionJ (msg : HipCommon) (p : ParamPtr) : Except Fault Bytes :=
  paramBytes msg p 12 puzzleLength

/-- `dh_param->pub_val.group_id`. -/
def hipDhGroupId (msg : HipCommon) (p : ParamPtr) : Except Fault Nat :=
  paramNat msg p 0 1

/-- `ntohs(dh_param->pub_val.pub_len)`. -/
def hipDhPubLen (msg : HipCommon) (p : ParamPtr) : Except Fault Nat :=
  paramNat msg p 1 2

/-! ### Builders -/

/-- The ESP_PROT_ANCHOR parameter `hip_build_param_esp_prot_anchor` writes: the transform, the
hash item length and the active anchor, then the next anchor if one is given. -/
def espProtAnchorTlv (transform : UInt8) (active : Bytes) (next : Option Bytes)
    (hashItemLength : Nat) : HipTlv :=
  ⟨.espProtAnchor, transform :: beBytes 4 hashItemLength ++ active ++ next.getD []⟩

/-- `hip_build_param_esp_prot_anchor`. -/
def hipBuildParamEspProtAnchor (msg : HipCommon) (transform : UInt8) (active : Bytes)
    (next : Option Bytes) (hashItemLength : Nat) : HipCommon :=
  hipBuildParam msg (espProtAnchorTlv transform active next hashItemLength)

/-- The ESP_PROT_ROOT parameter `hip_build_param_esp_prot_root` writes: the root length, then
the root. -/
def espProtRootTlv (root : Bytes) : HipTlv :=
  ⟨.espProtRoot, UInt8.ofNat root.length :: root⟩

/-- `hip_build_param_esp_prot_root`. -/
def hipBuildParamEspProtRoot (msg : HipCommon) (root : Bytes) : HipCommon :=
  hipBuildParam msg (espProtRootTlv root)

/-- `hip_build_param_esp_prot_transform`: the count, then the transforms. -/
def hipBuildParamEspProtTransform (msg : HipCommon) (transforms : List UInt8) : HipCommon :=
  hipBuildParam msg ⟨.espProtTransforms, UInt8.ofNat transforms.length :: transforms⟩

/-- `hip_build_param_esp_info`: reserved, KEYMAT index, old SPI, new SPI. -/
def hipBuildParamEspInfo (msg : HipCommon) (keymatIndex oldSpi newSpi : Nat) : HipCommon :=
  hipBuildParam msg
    ⟨.espInfo, [0, 0] ++ beBytes 2 keymatIndex ++ beBytes 4 oldSpi ++ beBytes 4 newSpi⟩

/-- `hip_build_param_ack`. -/
def hipBuildParamAck (msg : HipCommon) (updateId : Nat) : HipCommon :=
  hipBuildParam msg ⟨.ack, beBytes 4 updateId⟩

/-- `hip_build_param_seq`. -/
def hipBuildParamSeq (msg : HipCommon) (updateId : Nat) : HipCommon :=
  hipBuildParam msg ⟨.seq, beBytes 4 updateId⟩

/-- `hip_build_param_solution(msg, pz, J)`: a SOLUTION with the K, the opaque data and the I of
the PUZZLE `pz` of `pzMsg`, a reserved byte, and the solution `J` (§6). -/
def hipBuildParamSolution (msg pzMsg : HipCommon) (pz : ParamPtr) (J : Bytes) :
    Except Fault HipCommon := do
  let K ← paramBytes pzMsg pz 0 1
  let opq ← hipPuzzleOpaqueBytes pzMsg pz
  let I ← hipPuzzleI pzMsg pz
  pure (hipBuildParam msg ⟨.solution, K ++ [0] ++ opq ++ I ++ J⟩)

/-! ### Reading back what was built -/

theorem paramBytes_of_getElem? {msg : HipCommon} {i : Nat} {tlv : HipTlv}
    (h : msg.params[i]? = some tlv) (off len : Nat) (hlen : off + len ≤ tlv.contents.length) :
    paramBytes msg (some i) off len = .ok ((tlv.contents.drop off).take len) := by
  simp [paramBytes, h, hlen]

theorem paramBytes_of_getElem?_gt {msg : HipCommon} {i : Nat} {tlv : HipTlv}
    (h : msg.params[i]? = some tlv) (off len : Nat) (hlen : tlv.contents.length < off + len) :
    paramBytes msg (some i) off len = .error .readPastParam := by
  simp [paramBytes, h, Nat.not_le.mpr hlen]

/-- The fields of an anchor parameter `p` points to are the ones the builder wrote. -/
theorem espProtAnchorTlv_fields {msg : HipCommon} {i : Nat} {transform : UInt8}
    {active : Bytes} {next : Option Bytes} {hashItemLength : Nat}
    (h : msg.params[i]? = some (espProtAnchorTlv transform active next hashItemLength)) :
    espProtAnchorTransform msg (some i) = .ok transform ∧
      espProtAnchorHashItemLength msg (some i) = .ok (hashItemLength % 2 ^ 32) ∧
      espProtAnchorAnchors msg (some i) 0 active.length = .ok active ∧
      (∀ n, next = some n →
        espProtAnchorAnchors msg (some i) active.length n.length = .ok n) := by
  have hsplit : (espProtAnchorTlv transform active next hashItemLength).contents =
      (transform :: beBytes 4 hashItemLength) ++ active ++ next.getD [] := by
    simp [espProtAnchorTlv]
  have hhead : (transform :: beBytes 4 hashItemLength).length = 5 := by simp
  refine ⟨?_, ?_, ?_, ?_⟩
  · rw [espProtAnchorTransform, paramNat,
      paramBytes_of_getElem? h 0 1 (by simp [espProtAnchorTlv])]
    simp [espProtAnchorTlv, beNat]
  · rw [espProtAnchorHashItemLength, paramNat,
      paramBytes_of_getElem? h 1 4 (by simp [espProtAnchorTlv])]
    simp [espProtAnchorTlv, beNat_beBytes]
  · rw [espProtAnchorAnchors, paramBytes_of_getElem? h _ _ (by simp [espProtAnchorTlv]; omega),
      hsplit, List.append_assoc, ← hhead, Nat.add_zero, List.drop_left]
    simp
  · rintro n rfl
    rw [espProtAnchorAnchors, paramBytes_of_getElem? h _ _ (by simp [espProtAnchorTlv]; omega),
      hsplit, ← hhead, ← List.length_append, List.drop_left]
    simp

/-- A number a builder wrote as `width` big-endian bytes after `pre`, read back. -/
theorem paramNat_of_getElem? {msg : HipCommon} {i : Nat} {type : HipParamType} {pre post : Bytes}
    {width n : Nat} (h : msg.params[i]? = some ⟨type, pre ++ beBytes width n ++ post⟩) :
    paramNat msg (some i) pre.length width = .ok (n % 256 ^ width) := by
  rw [paramNat, paramBytes_of_getElem? h _ _ (by simp), List.append_assoc, List.drop_left,
    List.take_left' (length_beBytes width n)]
  simp [beNat_beBytes]

/-- The fields of a root parameter `p` points to are the ones the builder wrote. -/
theorem espProtRootTlv_fields {msg : HipCommon} {i : Nat} {root : Bytes}
    (h : msg.params[i]? = some (espProtRootTlv root)) (hlen : root.length < 256) :
    espProtRootLength msg (some i) = .ok root.length ∧
      espProtRootRoot msg (some i) root.length = .ok root := by
  constructor
  · rw [espProtRootLength, paramNat, paramBytes_of_getElem? h 0 1 (by simp [espProtRootTlv])]
    simp [espProtRootTlv, beNat, UInt8.toNat_ofNat_of_lt hlen]
  · rw [espProtRootRoot, paramBytes_of_getElem? h 1 _ (by simp [espProtRootTlv]; omega)]
    simp [espProtRootTlv]

/-- The SEQ of a message is still read the same after more parameters are appended. -/
theorem hipSeqUpdateId_withParams {msg : HipCommon} {l : List HipTlv} {x : Nat}
    (h : hipSeqUpdateId msg (hipGetParam msg .seq) = .ok x) :
    hipSeqUpdateId (withParams msg l) (hipGetParam (withParams msg l) .seq) = .ok x := by
  obtain ⟨i, hi⟩ := Option.isSome_iff_exists.mp (isSome_of_paramNat h)
  rw [hi] at h
  rwa [hipGetParam_withParams hi, hipSeqUpdateId,
    paramNat_withParams (lt_length_of_hipGetParam hi)]

/-- The raw item length of an anchor parameter can always be read. -/
theorem espProtAnchorTlv_raw {msg : HipCommon} {i : Nat} {transform : UInt8}
    {active : Bytes} {next : Option Bytes} {hashItemLength : Nat}
    (h : msg.params[i]? = some (espProtAnchorTlv transform active next hashItemLength)) :
    ∃ x, espProtAnchorHashItemLengthRaw msg (some i) = .ok x := by
  rw [espProtAnchorHashItemLengthRaw,
    paramBytes_of_getElem? h 1 4 (by simp only [espProtAnchorTlv, List.length_cons, List.length_append, length_beBytes]; omega)]
  exact ⟨_, rfl⟩

/-- The transform list an R1 carries, read back: its count and its entries. -/
theorem preferredTfms_read {msg : HipCommon} {pre rest : List HipTlv} {tfms : List UInt8}
    (hmsg : msg.params = pre ++ ⟨.espProtTransforms, UInt8.ofNat tfms.length :: tfms⟩ :: rest) :
    espProtPreferredTfmsNum msg (some pre.length) = .ok (tfms.length % 256) ∧
      ∀ j (hj : j < tfms.length), espProtPreferredTfmsAt msg (some pre.length) j = .ok tfms[j] := by
  have hget : msg.params[pre.length]? =
      some ⟨.espProtTransforms, UInt8.ofNat tfms.length :: tfms⟩ := by
    rw [hmsg, List.getElem?_append_right le_rfl]
    simp
  refine ⟨?_, fun j hj ↦ ?_⟩
  · rw [espProtPreferredTfmsNum, paramNat, paramBytes_of_getElem? hget 0 1 (by simp)]
    simp [beNat, UInt8.toNat, UInt8.ofNat]
  · rw [espProtPreferredTfmsAt, paramNat, paramBytes_of_getElem? hget (1 + j) 1 (by simp; omega)]
    simp only [Nat.add_comm 1 j, List.drop_succ_cons]
    rw [List.drop_eq_getElem_cons hj]
    simp only [List.take_succ_cons, List.take_zero]
    simp [beNat, uint8_ofNat_toNat]

/-! ### A run of anchor parameters -/

section AnchorRun

variable {msg : HipCommon} {t : UInt8} {hashItemLength : Nat} {pre rest : List HipTlv}
  {as : List Bytes}

/-- Anchor `j` of a run of anchor parameters after `pre`. -/
theorem getElem?_anchorParams (hmsg : msg.params =
      pre ++ as.map (fun a ↦ espProtAnchorTlv t a none hashItemLength) ++ rest)
    {j : Nat} (hj : j < as.length) :
    msg.params[pre.length + j]? = some (espProtAnchorTlv t as[j] none hashItemLength) :=
  getElem?_append_map hmsg hj

/-- The first anchor of a nonempty run is what `hip_get_param` finds, with the run's transform
and item length. -/
theorem anchorParams_first
    (hmsg : msg.params = pre ++ as.map (fun a ↦ espProtAnchorTlv t a none hashItemLength) ++ rest)
    (hpre : ∀ x ∈ pre, x.type ≠ .espProtAnchor) (has : as ≠ []) :
    hipGetParam msg .espProtAnchor = some pre.length ∧
      espProtAnchorTransform msg (some pre.length) = .ok t ∧
      espProtAnchorHashItemLength msg (some pre.length) = .ok (hashItemLength % 2 ^ 32) := by
  obtain ⟨a, as', rfl⟩ := List.exists_cons_of_ne_nil has
  have hmsg' : msg.params = pre ++ espProtAnchorTlv t a none hashItemLength ::
      (as'.map (fun a ↦ espProtAnchorTlv t a none hashItemLength) ++ rest) := by
    simp [hmsg]
  have hget : msg.params[pre.length]? = some (espProtAnchorTlv t a none hashItemLength) := by
    rw [hmsg', List.getElem?_append_right le_rfl]
    simp
  obtain ⟨htfm, hitem, -, -⟩ := espProtAnchorTlv_fields hget
  exact ⟨hipGetParam_eq_some hmsg' hpre rfl, htfm, hitem⟩

/-- The fields of anchor `j` of a run of anchor parameters that carry next anchors, each
anchor of `len` bytes. -/
theorem updateAnchorParams_fields {as : List (Bytes × Bytes)} {len : Nat}
    (hmsg : msg.params =
      pre ++ as.map (fun a ↦ espProtAnchorTlv t a.1 (some a.2) hashItemLength) ++ rest)
    (has : ∀ a ∈ as, a.1.length = len ∧ a.2.length = len) {j : Nat} (hj : j < as.length) :
    espProtAnchorTransform msg (some (pre.length + j)) = .ok t ∧
      espProtAnchorHashItemLength msg (some (pre.length + j)) = .ok (hashItemLength % 2 ^ 32) ∧
      espProtAnchorAnchors msg (some (pre.length + j)) 0 len = .ok as[j].1 ∧
      espProtAnchorAnchors msg (some (pre.length + j)) len len = .ok as[j].2 := by
  obtain ⟨h1, h2⟩ := has _ (List.getElem_mem hj)
  obtain ⟨htfm, hitem, hact, hnext⟩ := espProtAnchorTlv_fields (getElem?_append_map hmsg hj)
  have hnext := hnext _ rfl
  rw [h1, h2] at hnext
  exact ⟨htfm, hitem, h1 ▸ hact, hnext⟩

end AnchorRun

/-- An anchor parameter without anchors, such as the UNUSED anchor of a host that falls back,
as its peer reads it. -/
theorem emptyAnchor_read (out : HipCommon) (rest : List HipTlv) (t : UInt8)
    (hout : ∀ tlv ∈ out.params, tlv.type ≠ .espProtAnchor) :
    hipGetParam (withParams (hipBuildParamEspProtAnchor out t [] none 0) rest) .espProtAnchor =
        some out.params.length ∧
      espProtAnchorTransform (withParams (hipBuildParamEspProtAnchor out t [] none 0) rest)
        (some out.params.length) = .ok t := by
  have hmsg : (withParams (hipBuildParamEspProtAnchor out t [] none 0) rest).params =
      out.params ++ [([] : Bytes)].map (fun a ↦ espProtAnchorTlv t a none 0) ++ rest := by
    simp [withParams, hipBuildParamEspProtAnchor, hipBuildParam]
  obtain ⟨hp, htfm, -⟩ := anchorParams_first hmsg hout (List.cons_ne_nil _ _)
  exact ⟨hp, htfm⟩

theorem length_of_paramBytes {msg : HipCommon} {p : ParamPtr} {off len : Nat} {b : Bytes}
    (h : paramBytes msg p off len = .ok b) : b.length = len := by
  unfold paramBytes at h
  split at h
  · cases h
  split at h
  · cases h
  split at h
  · cases h
    simp only [List.length_take, List.length_drop]
    omega
  · cases h

/-- A SOLUTION reads back as it was written: its K and I, and its J when that has the length
of a solution. -/
theorem solutionTlv_fields {msg : HipCommon} {i : Nat} {K opq I J : Bytes}
    (hK : K.length = 1) (hopq : opq.length = 2) (hI : I.length = puzzleLength)
    (h : msg.params[i]? = some ⟨.solution, K ++ [0] ++ opq ++ I ++ J⟩) :
    hipSolutionK msg (some i) = .ok (beNat K) ∧ hipSolutionI msg (some i) = .ok I ∧
      (J.length = puzzleLength → hipSolutionJ msg (some i) = .ok J) := by
  have hfits : ∀ off len, off + len ≤ 12 + J.length →
      paramBytes msg (some i) off len = .ok (((K ++ [0] ++ opq ++ I ++ J).drop off).take len) :=
    fun off len hle ↦ paramBytes_of_getElem? h off len
      (by simp only [List.length_append, hK, hopq, hI, puzzleLength]; simp; omega)
  refine ⟨?_, ?_, fun hJ ↦ ?_⟩
  · rw [hipSolutionK, paramNat, hfits 0 1 (by omega), List.drop_zero, List.append_assoc,
      List.append_assoc, List.append_assoc, List.take_left' hK]
    rfl
  · rw [hipSolutionI, hfits 4 puzzleLength (by unfold puzzleLength; omega),
      show K ++ [0] ++ opq ++ I ++ J = (K ++ [0] ++ opq) ++ (I ++ J) by simp,
      List.drop_left' (by simp [hK, hopq]), List.take_left' hI]
  · rw [hipSolutionJ, hfits 12 puzzleLength (by omega),
      List.drop_left' (by simp [hK, hopq, hI, puzzleLength]), List.take_of_length_le hJ.le]

/-- What `hip_build_param_solution` appends: the SOLUTION made of the PUZZLE's fields and J. -/
theorem hipBuildParamSolution_eq_ok {msg pzMsg msg' : HipCommon} {pz : ParamPtr} {J : Bytes}
    (h : hipBuildParamSolution msg pzMsg pz J = .ok msg') :
    ∃ K opq I, paramBytes pzMsg pz 0 1 = .ok K ∧ hipPuzzleOpaqueBytes pzMsg pz = .ok opq ∧
      hipPuzzleI pzMsg pz = .ok I ∧
      msg' = hipBuildParam msg ⟨.solution, K ++ [0] ++ opq ++ I ++ J⟩ := by
  obtain ⟨K, hK, h⟩ := bind_eq_ok.1 h
  obtain ⟨opq, hopq, h⟩ := bind_eq_ok.1 h
  obtain ⟨I, hI, h⟩ := bind_eq_ok.1 h
  cases h
  exact ⟨K, opq, I, hK, hopq, hI, rfl⟩

end Hipl.Wire
