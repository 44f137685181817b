import Hipl.Hipfw.Conntrack.Cache

/-!
# Tracking anchor updates and light updates

`esp_prot_conntrack_update` classifies an UPDATE by which of SEQ, ACK, ESP_INFO and
ESP_PROT_ANCHOR it carries: a first anchor update (SEQ and anchors only) is cached, an
acknowledgement (ACK and ESP_INFO, no anchors) applies the cached update, and the mutual and
location variants are not implemented. `esp_prot_conntrack_lupdate` does the same for the
HHL-based light update, after checking its sequence number against the tuple's last one and
verifying the branches of its anchors.

Both collect the parameters of the parallel chains with the same walk (`collectParams`): from
the first parameter of the expected type, slot `i` gets the `i`-th parameter after it, whatever
its type, and after the last parameter the walk yields NULL and then starts over at the first
parameter of the message.
-/

set_option autoImplicit false
set_option relaxedAutoImplicit false

namespace Hipl.Hipfw

open Hipl.Wire Hipl.EspProt

/-- The body `arr[i] = param; param = hip_get_next_param(msg, param);` of the walk. -/
def collectParam (msg : HipCommon) (i : Nat) (s : PtrArray × ParamPtr) :
    Except Fault (PtrArray × ParamPtr) := do
  let arr ← arraySet s.1 i (some s.2)
  pure (arr, hipGetNextParam msg s.2)

/-- The loop `for (i = 0; i < n; i++) { arr[i] = param; param = hip_get_next_param(msg, param); }`:
the filled array and the pointer after the last slot. -/
def collectParams (msg : HipCommon) (n : Int) (arr : PtrArray) (start : ParamPtr) :
    Except Fault (PtrArray × ParamPtr) :=
  forUpTo n (collectParam msg) (arr, start)

/-- The walk over the ESP_PROT_ROOT parameters, which both functions make only when the message
has one; otherwise the array stays as it was declared. -/
def collectRoots (msg : HipCommon) (n : Int) (arr : PtrArray) : Except Fault PtrArray :=
  let rootParam := hipGetParam msg .espProtRoot
  if rootParam.isSome then Prod.fst <$> collectParams msg n arr rootParam else pure arr

/-- `esp_prot_conntrack_update`: the return value and the connection afterwards, for an UPDATE
passing in direction `d`. -/
def espProtConntrackUpdate (lim : EspProtLimits) (fw : FwGlobals) (conn : Connection)
    (d : Direction) (msg : HipCommon) : Except Fault (Int × Connection) :=
  if !fw.hipEspProtection then pure (0, conn) else
  let seq := hipGetParam msg .seq
  let espInfo := hipGetParam msg .espInfo
  let ack := hipGetParam msg .ack
  let param := hipGetParam msg .espProtAnchor
  if seq.isSome && ack.isNone && espInfo.isNone && param.isSome then do
    let espAnchors ← Prod.fst <$>
      collectParams msg fw.numParallelHchains (PtrArray.uninit lim) param
    let espRoots ← collectRoots msg fw.numParallelHchains (PtrArray.uninit lim)
    let r ← espProtConntrackCacheAnchor lim fw conn d msg seq espAnchors espRoots
    pure (if r.1 = 0 then 0 else -1, r.2)
  else if seq.isSome && ack.isSome && espInfo.isSome && param.isSome then pure (-1, conn)
  else if seq.isNone && ack.isSome && espInfo.isSome && param.isNone then do
    let r ← espProtConntrackUpdateAnchor fw conn d msg ack espInfo
    pure (if r.1 = 0 then 0 else -1, r.2)
  else if seq.isNone && ack.isSome && espInfo.isSome && param.isSome then pure (-1, conn)
  else pure (0, conn)

/-- `tuple->lupdate_seq = update_id` for the tuple of direction `d`. -/
def Connection.setLupdateSeq (conn : Connection) (d : Direction) (updateId : Nat) : Connection :=
  conn.setTuple d { conn.tuple d with lupdateSeq := updateId }

/-- `esp_prot_conntrack_lupdate`: the return value and the connection afterwards, for a light
UPDATE passing in direction `d`. -/
def espProtConntrackLupdate (lim : EspProtLimits) (fw : FwGlobals)
    (htreeVerifyBranch : HtreeVerify) (conn : Connection) (d : Direction) (msg : HipCommon) :
    Except Fault (Int × Connection) :=
  if !fw.hipEspProtection then pure (0, conn) else
  let seq := hipGetParam msg .seq
  let ack := hipGetParam msg .ack
  if seq.isSome then do
    let n := fw.numParallelHchains
    let espAnchors ← Prod.fst <$>
      collectParams msg n (PtrArray.uninit lim) (hipGetParam msg .espProtAnchor)
    let espBranches ← Prod.fst <$>
      collectParams msg n (PtrArray.uninit lim) (hipGetParam msg .espProtBranch)
    let espSecrets ← Prod.fst <$>
      collectParams msg n (PtrArray.uninit lim) (hipGetParam msg .espProtSecret)
    let espRoots ← collectRoots msg n (PtrArray.zero lim)
    let updateId ← hipSeqUpdateId msg seq
    if updateId < (conn.tuple d).lupdateSeq then pure (-1, conn) else do
    let conn := conn.setLupdateSeq d updateId
    let v ← espProtConntrackVerifyBranch fw htreeVerifyBranch conn d msg espAnchors espBranches
      espSecrets
    if v ≠ 0 then pure (-1, conn) else do
    let r ← espProtConntrackCacheAnchor lim fw conn d msg seq espAnchors espRoots
    pure (if r.1 = 0 then 0 else -1, r.2)
  else if ack.isSome then do
    let r ← espProtConntrackUpdateAnchor fw conn d msg ack (hipGetParam msg .espInfo)
    pure (if r.1 = 0 then 0 else -1, r.2)
  else pure (-1, conn)

/-! ### One tracked connection -/

/-- Bounds for the runs below: one parallel chain, hashes of two bytes. -/
def runLimits : EspProtLimits := ⟨1, 6, 5, 2, 2⟩

/-- A firewall tracking one chain, with the PLAIN transform of hash length 2. -/
def runFw : FwGlobals :=
  ⟨true, 1, 4, 0, 0, 0, [⟨0, false⟩, ⟨2, true⟩, ⟨0, false⟩, ⟨0, false⟩, ⟨0, false⟩, ⟨0, false⟩]⟩

/-- A connection after its base exchange: the original direction has the esp_tuple with SPI 7
and first active anchor `[1, 2]`. -/
def runConn : Connection :=
  ⟨⟨[{ EspTuple.empty runLimits with
        spi := 7, espProtTfm := 1, numHchains := 1,
        activeAnchors := [[1, 2]], firstActiveAnchors := [[1, 2]] }], 0⟩, ⟨[], 0⟩, 2, [0, 1]⟩

/-- A first anchor UPDATE with sequence number 5 announcing the next anchor `[3, 4]`, with an
ESP_PROT_ROOT or without. -/
def anchorUpdate (withRoot : Bool) : HipCommon :=
  ⟨16, 2, 0, 1, 2, [⟨.seq, beBytes 4 5⟩, espProtAnchorTlv 1 [1, 2] (some [3, 4]) 0] ++
    if withRoot then [⟨.espProtRoot, [2, 9, 9]⟩] else []⟩

/-- The acknowledgement of sequence number 5 for SPI 7. -/
def anchorAck : HipCommon :=
  ⟨16, 2, 0, 2, 1, [⟨.espInfo, [0, 0] ++ beBytes 2 0 ++ beBytes 4 7 ++ beBytes 4 7⟩,
    ⟨.ack, beBytes 4 5⟩]⟩

/-- A light UPDATE with the given sequence number: the anchor, an empty branch and an empty
secret of one chain. -/
def lightUpdate (updateId : Nat) : HipCommon :=
  ⟨16, 2, 0, 1, 2, [⟨.seq, beBytes 4 updateId⟩, espProtAnchorTlv 1 [1, 2] (some [3, 4]) 0,
    ⟨.espProtBranch, beBytes 4 0 ++ beBytes 4 0⟩, ⟨.espProtSecret, [0]⟩]⟩

/-- The first anchor UPDATE without ESP_PROT_ROOT reads an uninitialised slot of `esp_roots`. -/
theorem updateWithoutRoot_uninitRead :
    espProtConntrackUpdate runLimits runFw runConn .original (anchorUpdate false) =
      .error .uninitRead := rfl

/-! ### What a tracked UPDATE does to the anchor caches -/

/-- What one tracked UPDATE can do to the anchor caches of a connection: nothing; prepend one
item carrying the UPDATE's sequence number to the cache of an esp_tuple of its direction; or,
for an acknowledgement, apply the first cached item of an esp_tuple of the other direction with
the acknowledged number and remove that item. -/
inductive CacheEffect (conn : Connection) (d : Direction) (msg : HipCommon) : Connection → Prop
  | unchanged : CacheEffect conn d msg conn
  | cached (k : Nat) (e : EspTuple) (item : EspAnchorItem) :
      (conn.tuple d).espTuples[k]? = some e →
      hipSeqUpdateId msg (hipGetParam msg .seq) = .ok item.seq →
      CacheEffect conn d msg (conn.setEspTuple d k { e with anchorCache := item :: e.anchorCache })
  | acked (k : Nat) (e : EspTuple) (j : Nat) (item : EspAnchorItem) (ackId : Nat) (e' : EspTuple) :
      (conn.tuple d.other).espTuples[k]? = some e →
      hipAckPeerUpdateId msg (hipGetParam msg .ack) = .ok ackId →
      firstWith (·.seq == ackId) e.anchorCache = some (j, item) →
      ({ e with hashItemLength := item.hashItemLength } : EspTuple).SameButNext e' →
      CacheEffect conn d msg
        (conn.setEspTuple d.other k { e' with anchorCache := e.anchorCache.eraseIdx j })

section Effects

variable {lim : EspProtLimits} {fw : FwGlobals} {conn conn' : Connection} {d : Direction}
  {msg : HipCommon} {r : Int}

theorem cacheEffect_of_cacheAnchor {seq' : ParamPtr} {espAnchors espRoots : PtrArray}
    (hseq : seq' = hipGetParam msg .seq)
    (h : espProtConntrackCacheAnchor lim fw conn d msg seq' espAnchors espRoots = .ok (r, conn')) :
    CacheEffect conn d msg conn' := by
  rcases espProtConntrackCacheAnchor_ok h with ⟨-, rfl⟩ | ⟨-, k, e, item, he, hs, rfl⟩
  · exact .unchanged
  · exact .cached k e item he (hseq ▸ hs)

theorem cacheEffect_of_updateAnchor {espInfo : ParamPtr}
    (h : espProtConntrackUpdateAnchor fw conn d msg (hipGetParam msg .ack) espInfo =
      .ok (r, conn')) :
    CacheEffect conn d msg conn' := by
  rcases espProtConntrackUpdateAnchor_ok h with ⟨-, rfl⟩ |
    ⟨-, k, e, j, item, ackId, e', he, hack, hfirst, hsame, rfl⟩
  · exact .unchanged
  · exact .acked k e j item ackId e' he hack hfirst hsame

/-- Every call of `esp_prot_conntrack_update` that returns has one of the effects of
`CacheEffect` on the anchor caches, and changes nothing else. -/
theorem espProtConntrackUpdate_effect
    (h : espProtConntrackUpdate lim fw conn d msg = .ok (r, conn')) :
    CacheEffect conn d msg conn' := by
  simp only [espProtConntrackUpdate] at h
  by_cases hprot : (!fw.hipEspProtection) = true
  · rw [if_pos hprot] at h; cases h; exact .unchanged
  rw [if_neg hprot] at h
  split at h
  · simp only [bind_eq_ok, pure_eq_ok, Except.ok.injEq, Prod.mk.injEq] at h
    obtain ⟨_, -, _, -, ⟨r0, c0⟩, hc, -, rfl⟩ := h
    exact cacheEffect_of_cacheAnchor rfl hc
  split at h
  · cases h; exact .unchanged
  split at h
  · simp only [bind_eq_ok, pure_eq_ok, Except.ok.injEq, Prod.mk.injEq] at h
    obtain ⟨⟨r0, c0⟩, hc, -, rfl⟩ := h
    exact cacheEffect_of_updateAnchor hc
  split at h <;> (cases h; exact .unchanged)

/-- What a call of `esp_prot_conntrack_lupdate` that returns has done: nothing; raised the tuple's
light update sequence number to the received one and then rejected the branches or cached the
anchors; or applied an acknowledged update. -/
theorem espProtConntrackLupdate_ok {htreeVerifyBranch : HtreeVerify}
    (h : espProtConntrackLupdate lim fw htreeVerifyBranch conn d msg = .ok (r, conn')) :
    conn' = conn ∨
      (∃ updateId, hipSeqUpdateId msg (hipGetParam msg .seq) = .ok updateId ∧
        (conn.tuple d).lupdateSeq ≤ updateId ∧
        (conn' = conn.setLupdateSeq d updateId ∨
          ∃ espAnchors espRoots r0, espProtConntrackCacheAnchor lim fw (conn.setLupdateSeq d updateId)
            d msg (hipGetParam msg .seq) espAnchors espRoots = .ok (r0, conn') ∧
            r = if r0 = 0 then 0 else -1)) ∨
      ∃ r0, espProtConntrackUpdateAnchor fw conn d msg (hipGetParam msg .ack)
        (hipGetParam msg .espInfo) = .ok (r0, conn') ∧ r = if r0 = 0 then 0 else -1 := by
  simp only [espProtConntrackLupdate] at h
  by_cases hprot : (!fw.hipEspProtection) = true
  · rw [if_pos hprot] at h; cases h; exact .inl rfl
  rw [if_neg hprot] at h
  by_cases hseq : (hipGetParam msg .seq).isSome = true
  · simp only [if_pos hseq, bind_eq_ok] at h
    obtain ⟨_, -, _, -, _, -, _, -, updateId, hid, h⟩ := h
    split at h
    · cases h; exact .inl rfl
    refine .inr (.inl ⟨updateId, hid, by omega, ?_⟩)
    simp only [bind_eq_ok] at h
    obtain ⟨v, -, h⟩ := h
    split at h
    · cases h; exact .inl rfl
    simp only [bind_eq_ok, pure_eq_ok, Except.ok.injEq, Prod.mk.injEq] at h
    obtain ⟨⟨r0, c0⟩, hc, hr, rfl⟩ := h
    exact .inr ⟨_, _, r0, hc, hr.symm⟩
  rw [if_neg hseq] at h
  split at h
  · simp only [bind_eq_ok, pure_eq_ok, Except.ok.injEq, Prod.mk.injEq] at h
    obtain ⟨⟨r0, c0⟩, hc, hr, rfl⟩ := h
    exact .inr (.inr ⟨r0, hc, hr.symm⟩)
  · cases h; exact .inl rfl

/-- Every call of `esp_prot_conntrack_lupdate` that returns has one of the effects of
`CacheEffect` on the anchor caches, after raising the tuple's light update sequence number to
the received one or not, and changes nothing else. -/
theorem espProtConntrackLupdate_effect {htreeVerifyBranch : HtreeVerify}
    (h : espProtConntrackLupdate lim fw htreeVerifyBranch conn d msg = .ok (r, conn')) :
    CacheEffect conn d msg conn' ∨
      ∃ updateId, hipSeqUpdateId msg (hipGetParam msg .seq) = .ok updateId ∧
        (conn.tuple d).lupdateSeq ≤ updateId ∧
        CacheEffect (conn.setLupdateSeq d updateId) d msg conn' := by
  rcases espProtConntrackLupdate_ok h with rfl | ⟨updateId, hid, hle, rfl | ⟨_, _, _, hc, -⟩⟩ |
    ⟨_, hc, -⟩
  · exact .inl .unchanged
  · exact .inr ⟨updateId, hid, hle, .unchanged⟩
  · exact .inr ⟨updateId, hid, hle, cacheEffect_of_cacheAnchor rfl hc⟩
  · exact .inl (cacheEffect_of_updateAnchor hc)

/-- A light update that `esp_prot_conntrack_lupdate` rejects leaves the connection as it was, or
changes only the tuple's light update sequence number, to the received one when that is not
below it. -/
theorem espProtConntrackLupdate_reject {htreeVerifyBranch : HtreeVerify}
    (h : espProtConntrackLupdate lim fw htreeVerifyBranch conn d msg = .ok (-1, conn')) :
    conn' = conn ∨
      ∃ updateId, hipSeqUpdateId msg (hipGetParam msg .seq) = .ok updateId ∧
        (conn.tuple d).lupdateSeq ≤ updateId ∧ conn' = conn.setLupdateSeq d updateId := by
  rcases espProtConntrackLupdate_ok h with rfl | ⟨updateId, hid, hle, rfl | ⟨_, _, _, hc, hr⟩⟩ |
    ⟨_, hc, hr⟩
  · exact .inl rfl
  · exact .inr ⟨updateId, hid, hle, rfl⟩
  · rcases espProtConntrackCacheAnchor_ok hc with ⟨-, rfl⟩ | ⟨rfl, -⟩
    · exact .inr ⟨updateId, hid, hle, rfl⟩
    · simp at hr
  · rcases espProtConntrackUpdateAnchor_ok hc with ⟨-, rfl⟩ | ⟨rfl, -⟩
    · exact .inl rfl
    · simp at hr

theorem forgedLupdate_rejected :
    espProtConntrackLupdate runLimits runFw (fun _ _ _ _ _ _ _ ↦ false) runConn .original
        (lightUpdate 4294967295) = .ok (-1, runConn.setLupdateSeq .original 4294967295) ∧
      (runConn.setLupdateSeq .original 4294967295 = runConn ∨
        ∃ updateId, hipSeqUpdateId (lightUpdate 4294967295)
            (hipGetParam (lightUpdate 4294967295) .seq) = .ok updateId ∧
          (runConn.tuple .original).lupdateSeq ≤ updateId ∧
          runConn.setLupdateSeq .original 4294967295 = runConn.setLupdateSeq .original updateId) :=
  have hrun : espProtConntrackLupdate runLimits runFw (fun _ _ _ _ _ _ _ ↦ false) runConn
      .original (lightUpdate 4294967295) = .ok (-1, runConn.setLupdateSeq .original 4294967295) :=
    rfl
  ⟨hrun, espProtConntrackLupdate_reject hrun⟩

/-- A forged light UPDATE with the highest sequence number and a branch that does not verify is
rejected, and the genuine light UPDATE after it is then rejected as old. -/
theorem forgedLupdate_blocks_genuine :
    espProtConntrackLupdate runLimits runFw (fun _ _ _ _ _ _ _ ↦ false) runConn .original
        (lightUpdate 4294967295) = .ok (-1, runConn.setLupdateSeq .original 4294967295) ∧
      espProtConntrackLupdate runLimits runFw (fun _ _ _ _ _ _ _ ↦ true)
        (runConn.setLupdateSeq .original 4294967295) .original (lightUpdate 6) =
        .ok (-1, runConn.setLupdateSeq .original 4294967295) := ⟨rfl, rfl⟩

/-- Each call of `esp_prot_conntrack_update` or `esp_prot_conntrack_lupdate` that returns changes
the anchor caches as `CacheEffect` says, from any connection state: a first UPDATE that finds its
esp_tuple prepends an item with its sequence number whether or not one is cached already, and an
acknowledgement removes only the first item with its number. -/
theorem espProtConntrack_cacheEffect {htreeVerifyBranch : HtreeVerify} :
    (espProtConntrackUpdate lim fw conn d msg = .ok (r, conn') → CacheEffect conn d msg conn') ∧
      (espProtConntrackLupdate lim fw htreeVerifyBranch conn d msg = .ok (r, conn') →
        CacheEffect conn d msg conn' ∨
          ∃ updateId, hipSeqUpdateId msg (hipGetParam msg .seq) = .ok updateId ∧
            (conn.tuple d).lupdateSeq ≤ updateId ∧
            CacheEffect (conn.setLupdateSeq d updateId) d msg conn') :=
  ⟨espProtConntrackUpdate_effect, espProtConntrackLupdate_effect⟩

/-- The same first UPDATE tracked twice is cached twice, and its acknowledgement removes one of
the two items. -/
theorem duplicateUpdate_cached_twice :
    (do
      let c1 := (← espProtConntrackUpdate runLimits runFw runConn .original (anchorUpdate true)).2
      let c2 := (← espProtConntrackUpdate runLimits runFw c1 .original (anchorUpdate true)).2
      let c3 := (← espProtConntrackUpdate runLimits runFw c2 .reply anchorAck).2
      pure ((c2.tuple .original).espTuples.map (·.anchorCache.map (·.seq)),
        (c3.tuple .original).espTuples.map (·.anchorCache.map (·.seq)))) =
      (.ok ([[5, 5]], [[5]]) : Except Fault _) := rfl

end Effects

end Hipl.Hipfw
