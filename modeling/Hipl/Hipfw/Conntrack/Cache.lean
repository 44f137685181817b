import Hipl.Hipfw.Conntrack.State

/-!
# Caching anchor updates until their acknowledgement

An anchor update announces, per parallel chain, the active anchor it builds on and the next
anchor to switch to. The firewall cannot use the next anchor before every on-path device knows
it, so `esp_prot_conntrack_cache_anchor` stores the update in the anchor cache of the esp_tuple
whose first active anchor matches, and `esp_prot_conntrack_update_anchor` moves it into the
esp_tuple's next anchors when the acknowledgement for the update's sequence number passes in
the other direction. `esp_prot_conntrack_verify_branch` checks the HHL branches of a light
update against the active link-tree roots.

The per-chain loop bodies are their own definitions (`cacheAnchorChain`, `updateAnchorChain`,
`verifyBranchChain`), and the loops are `forUpTo`. The functions read the caller's arrays of
parameter pointers (`PtrArray`), so an uninitialised slot, a NULL pointer and a pointer to a
parameter of another type reach them as the caller left them.

`espProtConntrackCacheAnchor_ok` and `espProtConntrackUpdateAnchor_ok` say everything a
successful call can do to the connection: caching prepends one item to the cache of one
esp_tuple and changes nothing else; an acknowledgement that finds its update removes that one
item from its esp_tuple's cache and writes only that esp_tuple's next anchors and roots.

Scope. Allocation never fails. `find_esp_tuple` of conntrack.c, which is not among the
sources, is the lookup by SPI its callers rely on (`findEspTuple`), and
`htree_verify_branch` is a parameter.
-/

set_option autoImplicit false
set_option relaxedAutoImplicit false

namespace Hipl.Hipfw

open Hipl.Wire Hipl.EspProt

/-! ### Loops, pointer arrays and lookups -/

/-- A stack array of parameter pointers; `none` is a slot that was never written. -/
abbrev PtrArray := List (Option ParamPtr)

/-- A pointer array declared without an initialiser. -/
def PtrArray.uninit (lim : EspProtLimits) : PtrArray :=
  List.replicate lim.maxNumParallelHchains none

/-- A pointer array declared with the initialiser `{ 0 }`. -/
def PtrArray.zero (lim : EspProtLimits) : PtrArray :=
  List.replicate lim.maxNumParallelHchains (some none)

/-- Reading slot `i` of a pointer array. -/
def readPtr (arr : PtrArray) (i : Nat) : Except Fault ParamPtr := do
  match ← arrayGet arr i with
  | some p => pure p
  | none => throw .uninitRead

/-- Dereferencing a heap pointer held in a pointer slot. -/
def derefSlot (slot : Option Bytes) : Except Fault Bytes :=
  match slot with
  | some b => .ok b
  | none => .error .nullDeref

/-- The first element satisfying a test, with its index. -/
def firstWith {α : Type} (p : α → Bool) : List α → Option (Nat × α)
  | [] => none
  | a :: as => if p a then some (0, a) else (firstWith p as).map fun r ↦ (r.1 + 1, r.2)

/-- `find_esp_tuple` of conntrack.c: the first esp_tuple of a list with the SPI. -/
def findEspTuple (espTuples : List EspTuple) (spi : Nat) : Option (Nat × EspTuple) :=
  firstWith (·.spi == spi) espTuples

/-- `esp_prot_conntrack_find_esp_tuple`: the first esp_tuple whose first active anchor of chain
0 equals the received anchor in its first `hashLength` bytes. The anchor is read from the
packet only when there is an esp_tuple to compare it with. -/
def espProtConntrackFindEspTuple (espTuples : List EspTuple) (anchor : Except Fault Bytes)
    (hashLength : Nat) : Except Fault (Option (Nat × EspTuple)) :=
  go espTuples 0
where
  /-- The walk over the list from position `k`. -/
  go : List EspTuple → Nat → Except Fault (Option (Nat × EspTuple))
    | [], _ => pure none
    | e :: es, k => do
      let first ← arrayGet e.firstActiveAnchors 0
      let a ← anchor
      if slotEq first a hashLength then pure (some (k, e)) else go es (k + 1)

/-- Replacing the esp_tuple at position `k` of a direction. -/
def Connection.setEspTuple (conn : Connection) (d : Direction) (k : Nat) (e : EspTuple) :
    Connection :=
  conn.setTuple d { conn.tuple d with espTuples := (conn.tuple d).espTuples.set k e }

/-! ### Caching an update -/

/-- The body of the loop of `esp_prot_conntrack_cache_anchor` for chain `i`: the active anchor,
the next anchor unless it is all zeros, and the root when a root parameter was given. -/
def cacheAnchorChain (msg : HipCommon) (espAnchors espRoots : PtrArray) (hashLength : Nat)
    (i : Nat) (item : EspAnchorItem) : Except Fault EspAnchorItem := do
  let pa ← readPtr espAnchors i
  let active ← espProtAnchorAnchors msg pa 0 hashLength
  let activeAnchors ← arraySet item.activeAnchors i (some active)
  let next ← espProtAnchorAnchors msg pa hashLength hashLength
  let nextAnchors ← arraySet item.nextAnchors i
    (if next = List.replicate hashLength 0 then none else some next)
  let item := { item with activeAnchors, nextAnchors }
  match ← readPtr espRoots i with
  | none => pure item
  | some r => do
    let rootLength ← espProtRootLength msg (some r)
    let root ← espProtRootRoot msg (some r) rootLength
    let roots ← arraySet item.roots i (some root)
    pure { item with roots, rootLength }

/-- `esp_prot_conntrack_cache_anchor`: caches the update carried by the anchor parameters at
the front of the anchor cache of the matching esp_tuple of direction `d`. -/
def espProtConntrackCacheAnchor (lim : EspProtLimits) (fw : FwGlobals) (conn : Connection)
    (d : Direction) (msg : HipCommon) (seq : ParamPtr) (espAnchors espRoots : PtrArray) :
    Except Fault (Int × Connection) := do
  let p0 ← readPtr espAnchors 0
  if p0 = none then throw .assertion else
  let transform ← espProtAnchorTransform msg p0
  let hashLength ← resolveHashLength fw transform
  let found ← espProtConntrackFindEspTuple (conn.tuple d).espTuples
    (espProtAnchorAnchors msg p0 0 hashLength) hashLength
  match found with
  | none => pure (-1, conn)
  | some (k, e) => do
    let updateId ← hipSeqUpdateId msg seq
    let hashItemLength ← espProtAnchorHashItemLengthRaw msg p0
    let item0 : EspAnchorItem :=
      { seq := updateId, transform, hashItemLength,
        activeAnchors := List.replicate lim.maxNumParallelHchains none,
        nextAnchors := List.replicate lim.maxNumParallelHchains none,
        rootLength := 0, roots := List.replicate lim.maxNumParallelHchains none }
    let item ← forUpTo e.numHchains (cacheAnchorChain msg espAnchors espRoots hashLength) item0
    pure (0, conn.setEspTuple d k { e with anchorCache := item :: e.anchorCache })

/-! ### Applying an acknowledged update -/

/-- The body of the loop of `esp_prot_conntrack_update_anchor` for chain `i`: when the cached
active anchor is the esp_tuple's first active anchor, the cached next anchor becomes the next
anchor, and a cached root the next root. -/
def updateAnchorChain (item : EspAnchorItem) (hashLength : Nat) (i : Nat) (e : EspTuple) :
    Except Fault EspTuple := do
  let first ← arrayGet e.firstActiveAnchors i
  let active ← arrayGet item.activeAnchors i >>= derefSlot
  if slotEq first active hashLength then
    let next ← arrayGet item.nextAnchors i >>= derefSlot
    let slot ← arrayGet e.nextAnchors i
    let nextAnchors ← arraySet e.nextAnchors i (memcpySlot slot next hashLength)
    let e := { e with nextAnchors }
    match ← arrayGet item.roots i with
    | none => pure e
    | some root => do
      let nextRootLength ← arraySet e.nextRootLength i item.rootLength
      let nextRoots ← arraySet e.nextRoots i (some root)
      pure { e with nextRootLength, nextRoots }
  else pure e

/-- `esp_prot_conntrack_update_anchor`: an acknowledgement passing in direction `d` applies the
first cached update with its sequence number to the esp_tuple of the other direction that has
the SPI of its ESP_INFO, and removes it from the cache. -/
def espProtConntrackUpdateAnchor (fw : FwGlobals) (conn : Connection) (d : Direction)
    (msg : HipCommon) (ack espInfo : ParamPtr) : Except Fault (Int × Connection) :=
  if ack = none then .error .assertion else
  if espInfo = none then .error .assertion else do
  let oldSpi ← hipEspInfoOldSpi msg espInfo
  match findEspTuple (conn.tuple d.other).espTuples oldSpi with
  | none => pure (-1, conn)
  | some (k, e) =>
    if e.anchorCache = [] then pure (-1, conn) else do
    let ackId ← hipAckPeerUpdateId msg ack
    match firstWith (·.seq == ackId) e.anchorCache with
    | none => pure (-1, conn)
    | some (j, item) => do
      let hashLength ← resolveHashLength fw e.espProtTfm
      let e1 := { e with hashItemLength := item.hashItemLength }
      let e2 ← forUpTo e1.numHchains (updateAnchorChain item hashLength) e1
      pure (0, conn.setEspTuple d.other k { e2 with anchorCache := e2.anchorCache.eraseIdx j })

/-! ### Verifying the branches of a light update -/

/-- `htree_verify_branch(...) == 0` for a root, its length, the branch nodes and their length,
the verified data, its index and the secret: hashtree.c is not among the sources. -/
abbrev HtreeVerify := Option Bytes → Nat → Bytes → Nat → Bytes → Nat → Bytes → Bool

/-- The body of the loop of `esp_prot_conntrack_verify_branch` for chain `i`. -/
def verifyBranchChain (htreeVerifyBranch : HtreeVerify) (msg : HipCommon)
    (espAnchors espBranches espSecrets : PtrArray) (hashLength : Nat) (e : EspTuple) (i : Nat)
    (err : Int) : Except Fault Int := do
  let pb ← readPtr espBranches i
  let branchLength ← espProtBranchLength msg pb
  let anchorOffset ← espProtBranchAnchorOffset msg pb
  let root ← arrayGet e.activeRoots i
  let nodes ← espProtBranchNodes msg pb branchLength
  let pa ← readPtr espAnchors i
  let data ← espProtAnchorAnchors msg pa hashLength hashLength
  let ps ← readPtr espSecrets i
  let secretLength ← espProtSecretLength msg ps
  let secret ← espProtSecretSecret msg ps secretLength
  if htreeVerifyBranch root e.activeRootLength nodes branchLength data anchorOffset secret then
    pure err
  else pure (-1)

/-- `esp_prot_conntrack_verify_branch`: `0` when every chain's branch verifies against the
active root of the esp_tuple of direction `d` that the first anchor names, `-1` otherwise. -/
def espProtConntrackVerifyBranch (fw : FwGlobals) (htreeVerifyBranch : HtreeVerify)
    (conn : Connection) (d : Direction) (msg : HipCommon)
    (espAnchors espBranches espSecrets : PtrArray) : Except Fault Int := do
  let p0 ← readPtr espAnchors 0
  if p0 = none then throw .assertion else
  let b0 ← readPtr espBranches 0
  if b0 = none then throw .assertion else
  let s0 ← readPtr espSecrets 0
  if s0 = none then throw .assertion else
  let transform ← espProtAnchorTransform msg p0
  let hashLength ← resolveHashLength fw transform
  let found ← espProtConntrackFindEspTuple (conn.tuple d).espTuples
    (espProtAnchorAnchors msg p0 0 hashLength) hashLength
  match found with
  | none => pure (-1)
  | some (_, e) =>
    forUpTo e.numHchains
      (fun i err ↦ verifyBranchChain htreeVerifyBranch msg espAnchors espBranches espSecrets
        hashLength e i err) 0

/-! ### Loops and lookups -/

/-- The first element satisfying the test is at the index returned, and no element before it
satisfies the test. -/
theorem firstWith_eq_some {α : Type} {p : α → Bool} :
    ∀ {l : List α} {j : Nat} {a : α}, firstWith p l = some (j, a) →
      l[j]? = some a ∧ p a = true ∧ ∀ i < j, ∀ b, l[i]? = some b → p b = false
  | [], _, _, h => by simp [firstWith] at h
  | x :: l, j, a, h => by
    by_cases hx : p x
    · simp only [firstWith, hx, if_true, Option.some.injEq, Prod.mk.injEq] at h
      obtain ⟨rfl, rfl⟩ := h
      exact ⟨by simp, hx, fun i hi ↦ absurd hi (Nat.not_lt_zero _)⟩
    · simp only [firstWith, hx] at h
      obtain ⟨⟨j', a'⟩, hrec, hja⟩ := Option.map_eq_some'.mp h
      simp only [Prod.mk.injEq] at hja
      obtain ⟨rfl, rfl⟩ := hja
      obtain ⟨hget, hp, hbefore⟩ := firstWith_eq_some hrec
      refine ⟨by simpa using hget, hp, fun i hi b hb ↦ ?_⟩
      cases i with
      | zero =>
        simp only [List.getElem?_cons_zero, Option.some.injEq] at hb
        subst hb
        simpa using hx
      | succ i => exact hbefore i (by omega) b (by simpa using hb)

theorem espProtConntrackFindEspTuple_go_some {a : Except Fault Bytes} {hashLength : Nat} :
    ∀ {l : List EspTuple} {k0 k : Nat} {e : EspTuple},
      espProtConntrackFindEspTuple.go a hashLength l k0 = .ok (some (k, e)) →
        k0 ≤ k ∧ l[k - k0]? = some e
  | [], _, _, _, h => by simp [espProtConntrackFindEspTuple.go] at h
  | x :: l, k0, k, e, h => by
    simp only [espProtConntrackFindEspTuple.go, bind_eq_ok] at h
    obtain ⟨_, -, _, -, h⟩ := h
    split at h
    · simp only [pure_eq_ok, Except.ok.injEq, Option.some.injEq, Prod.mk.injEq] at h
      obtain ⟨rfl, rfl⟩ := h
      simp
    · obtain ⟨hle, hget⟩ := espProtConntrackFindEspTuple_go_some h
      refine ⟨by omega, ?_⟩
      rw [show k - k0 = (k - (k0 + 1)) + 1 by omega]
      simpa using hget

/-- The esp_tuple the anchor lookup returns is the one at the returned position. -/
theorem espProtConntrackFindEspTuple_some {l : List EspTuple} {a : Except Fault Bytes}
    {hashLength k : Nat} {e : EspTuple}
    (h : espProtConntrackFindEspTuple l a hashLength = .ok (some (k, e))) : l[k]? = some e := by
  simpa using (espProtConntrackFindEspTuple_go_some h).2

theorem findEspTuple_some {l : List EspTuple} {spi k : Nat} {e : EspTuple}
    (h : findEspTuple l spi = some (k, e)) : l[k]? = some e :=
  (firstWith_eq_some h).1

/-! ### What caching and acknowledging can do -/

theorem cacheAnchorChain_seq {msg : HipCommon} {espAnchors espRoots : PtrArray}
    {hashLength i : Nat} {item item' : EspAnchorItem}
    (h : cacheAnchorChain msg espAnchors espRoots hashLength i item = .ok item') :
    item'.seq = item.seq := by
  simp only [cacheAnchorChain, bind_eq_ok] at h
  obtain ⟨_, -, _, -, _, -, _, -, _, -, r, -, h⟩ := h
  cases r with
  | none => simp only [pure_eq_ok, Except.ok.injEq] at h; subst h; rfl
  | some r =>
    simp only [bind_eq_ok, pure_eq_ok, Except.ok.injEq] at h
    obtain ⟨_, -, _, -, _, -, rfl⟩ := h
    rfl

/-- What a call of `esp_prot_conntrack_cache_anchor` that returns can have done: nothing, or
prepended one item carrying the update's sequence number to the cache of one esp_tuple of its
direction, changing nothing else. -/
theorem espProtConntrackCacheAnchor_ok {lim : EspProtLimits} {fw : FwGlobals}
    {conn conn' : Connection}
    {d : Direction} {msg : HipCommon} {seq : ParamPtr} {espAnchors espRoots : PtrArray} {r : Int}
    (h : espProtConntrackCacheAnchor lim fw conn d msg seq espAnchors espRoots = .ok (r, conn')) :
    (r = -1 ∧ conn' = conn) ∨
      (r = 0 ∧ ∃ k e item, (conn.tuple d).espTuples[k]? = some e ∧
        hipSeqUpdateId msg seq = .ok item.seq ∧
        conn' = conn.setEspTuple d k { e with anchorCache := item :: e.anchorCache }) := by
  simp only [espProtConntrackCacheAnchor, bind_eq_ok] at h
  obtain ⟨p0, -, h⟩ := h
  split at h
  · simp at h
  simp only [bind_eq_ok] at h
  obtain ⟨_, -, _, -, found, hfound, h⟩ := h
  match found, hfound, h with
  | none, _, h =>
    simp only [pure_eq_ok, Except.ok.injEq, Prod.mk.injEq] at h
    exact .inl ⟨h.1.symm, h.2.symm⟩
  | some (k, e), hfound, h =>
    simp only [bind_eq_ok, pure_eq_ok, Except.ok.injEq, Prod.mk.injEq] at h
    obtain ⟨updateId, hseq, _, -, item, hloop, rfl, rfl⟩ := h
    refine .inr ⟨rfl, k, e, item, espProtConntrackFindEspTuple_some hfound, ?_, rfl⟩
    rw [hseq, forUpTo_inv (fun it : EspAnchorItem ↦ it.seq = updateId)
      (fun _ _ _ hs hp ↦ (cacheAnchorChain_seq hs).trans hp) hloop rfl]

/-- `e'` differs from `e` at most in its next anchors and next roots. -/
def EspTuple.SameButNext (e e' : EspTuple) : Prop :=
  { e' with nextAnchors := e.nextAnchors, nextRootLength := e.nextRootLength,
            nextRoots := e.nextRoots } = e

theorem EspTuple.SameButNext.trans {e e' e'' : EspTuple} (h1 : e.SameButNext e')
    (h2 : e'.SameButNext e'') : e.SameButNext e'' := by
  unfold EspTuple.SameButNext at *
  rw [← h1]
  conv_rhs => rw [← h2]

theorem EspTuple.SameButNext.anchorCache_eq {e e' : EspTuple} (h : e.SameButNext e') :
    e'.anchorCache = e.anchorCache := by
  unfold EspTuple.SameButNext at h
  simpa using congrArg EspTuple.anchorCache h

theorem updateAnchorChain_sameButNext {item : EspAnchorItem} {hashLength i : Nat}
    {e e' : EspTuple} (h : updateAnchorChain item hashLength i e = .ok e') : e.SameButNext e' := by
  simp only [updateAnchorChain, bind_eq_ok] at h
  obtain ⟨_, -, _, -, h⟩ := h
  split at h
  · simp only [bind_eq_ok] at h
    obtain ⟨_, -, _, -, _, -, root, -, h⟩ := h
    cases root with
    | none => simp only [pure_eq_ok, Except.ok.injEq] at h; subst h; rfl
    | some root =>
      simp only [bind_eq_ok, pure_eq_ok, Except.ok.injEq] at h
      obtain ⟨_, -, _, -, rfl⟩ := h
      rfl
  · simp only [pure_eq_ok, Except.ok.injEq] at h; subst h; rfl

/-- What a call of `esp_prot_conntrack_update_anchor` that returns can have done: nothing, or,
for the esp_tuple of the other direction with the ESP_INFO's SPI, removed from its cache the
first item with the acknowledged sequence number, after writing at most its item length and
its next anchors and roots. -/
theorem espProtConntrackUpdateAnchor_ok {fw : FwGlobals} {conn conn' : Connection}
    {d : Direction} {msg : HipCommon} {ack espInfo : ParamPtr} {r : Int}
    (h : espProtConntrackUpdateAnchor fw conn d msg ack espInfo = .ok (r, conn')) :
    (r = -1 ∧ conn' = conn) ∨
      (r = 0 ∧ ∃ k e j item ackId e', (conn.tuple d.other).espTuples[k]? = some e ∧
        hipAckPeerUpdateId msg ack = .ok ackId ∧
        firstWith (·.seq == ackId) e.anchorCache = some (j, item) ∧
        ({ e with hashItemLength := item.hashItemLength } : EspTuple).SameButNext e' ∧
        conn' = conn.setEspTuple d.other k
          { e' with anchorCache := e.anchorCache.eraseIdx j }) := by
  simp only [espProtConntrackUpdateAnchor] at h
  split at h
  · simp at h
  split at h
  · simp at h
  simp only [bind_eq_ok] at h
  obtain ⟨oldSpi, -, h⟩ := h
  match hfind : findEspTuple (conn.tuple d.other).espTuples oldSpi, h with
  | none, h =>
    simp only [hfind, pure_eq_ok, Except.ok.injEq, Prod.mk.injEq] at h
    exact .inl ⟨h.1.symm, h.2.symm⟩
  | some (k, e), h =>
    simp only [hfind] at h
    split at h
    · simp only [pure_eq_ok, Except.ok.injEq, Prod.mk.injEq] at h
      exact .inl ⟨h.1.symm, h.2.symm⟩
    simp only [bind_eq_ok] at h
    obtain ⟨ackId, hack, h⟩ := h
    match hfirst : firstWith (·.seq == ackId) e.anchorCache, h with
    | none, h =>
      simp only [hfirst, pure_eq_ok, Except.ok.injEq, Prod.mk.injEq] at h
      exact .inl ⟨h.1.symm, h.2.symm⟩
    | some (j, item), h =>
      simp only [hfirst, bind_eq_ok, pure_eq_ok, Except.ok.injEq, Prod.mk.injEq] at h
      obtain ⟨_, -, e2, hloop, rfl, rfl⟩ := h
      have hsame := forUpTo_inv
        ({ e with hashItemLength := item.hashItemLength } : EspTuple).SameButNext
        (fun _ _ _ hs hp ↦ hp.trans (updateAnchorChain_sameButNext hs)) hloop rfl
      have hcache : e2.anchorCache = e.anchorCache := hsame.anchorCache_eq
      refine .inr ⟨rfl, k, e, j, item, ackId, e2, findEspTuple_some hfind, hack, hfirst, hsame,
        ?_⟩
      rw [hcache]

end Hipl.Hipfw
