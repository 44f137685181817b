import Hipl.Hipfw.Conntrack.Update

/-!
# Caching and applying a well-formed anchor update

What the firewall does with an anchor UPDATE laid out as the daemon builds it: after some
parameters, one ESP_PROT_ANCHOR per chain with the active and the next anchor, then one
ESP_PROT_ROOT per chain. The walk over the anchors and the walk over the roots fill the pointer
arrays with consecutive parameters (`collectParams_run`). Caching stores, per chain, the active
anchor, the next anchor (NULL when it is all zeros) and the root (`cacheAnchorChain_all`), and
`esp_prot_conntrack_update` prepends that item to the cache of the esp_tuple the anchor lookup
finds (`espProtConntrackUpdate_cache`). The acknowledgement, for the esp_tuple the SPI lookup
finds and an item at the front of its cache, writes each chain's next anchor and root whose
active anchor is the esp_tuple's first active anchor (`updateAnchorChain_all`) and removes the
item (`espProtConntrackUpdate_ack`).

Both lookups are `firstWith` over the esp_tuples of a direction: by the first active anchor of
chain 0 (`espProtConntrackFindEspTuple_ok`) and by SPI (`findEspTuple`).
-/

set_option autoImplicit false
set_option relaxedAutoImplicit false

namespace Hipl.Hipfw

open Hipl.Wire Hipl.EspProt

/-! ### Lookups -/

theorem espProtConntrackFindEspTuple_go_ok (a : Bytes) (len : Nat) :
    ∀ {l : List EspTuple} (k0 : Nat), (∀ e ∈ l, e.firstActiveAnchors ≠ []) →
      espProtConntrackFindEspTuple.go (.ok a) len l k0 =
        .ok ((firstWith (fun e ↦ slotEq (e.firstActiveAnchors.headD []) a len) l).map
          fun r ↦ (r.1 + k0, r.2))
  | [], _, _ => rfl
  | e :: l, k0, hl => by
    obtain ⟨r, rs, hr⟩ := List.exists_cons_of_ne_nil (hl e (List.mem_cons_self _ _))
    have ih := espProtConntrackFindEspTuple_go_ok a len (k0 + 1)
      (fun e' he' ↦ hl e' (List.mem_cons_of_mem _ he'))
    by_cases h : slotEq r a len
    · simp [espProtConntrackFindEspTuple.go, firstWith, hr, h, arrayGet]
    · simp only [espProtConntrackFindEspTuple.go, firstWith, hr, h, arrayGet,
        List.getElem?_cons_zero, List.headD_cons, ok_bind, Bool.false_eq_true, if_false, ih,
        Option.map_map]
      congr 3
      funext x
      simp only [Function.comp_apply, Prod.mk.injEq, and_true]
      omega

/-- With every esp_tuple holding a first active anchor, the lookup by anchor is the first
esp_tuple whose first active anchor of chain 0 begins with the received anchor. -/
theorem espProtConntrackFindEspTuple_ok {l : List EspTuple} {a : Bytes} {len : Nat}
    (hl : ∀ e ∈ l, e.firstActiveAnchors ≠ []) :
    espProtConntrackFindEspTuple l (.ok a) len =
      .ok (firstWith (fun e ↦ slotEq (e.firstActiveAnchors.headD []) a len) l) := by
  simpa using espProtConntrackFindEspTuple_go_ok a len 0 hl

/-- Replacing the element a search found by one the test also accepts keeps it found. -/
theorem firstWith_set {α : Type} {p : α → Bool} :
    ∀ {l : List α} {k : Nat} {a a' : α}, firstWith p l = some (k, a) → p a' = true →
      firstWith p (l.set k a') = some (k, a')
  | [], _, _, _, h, _ => by simp [firstWith] at h
  | x :: l, k, a, a', h, ha' => by
    by_cases hx : p x
    · simp only [firstWith, hx, if_true, Option.some.injEq, Prod.mk.injEq] at h
      obtain ⟨rfl, rfl⟩ := h
      simp [firstWith, ha']
    · simp only [firstWith, hx, Bool.false_eq_true, if_false] at h
      obtain ⟨⟨k', a''⟩, hrec, hka⟩ := Option.map_eq_some'.mp h
      simp only [Prod.mk.injEq] at hka
      obtain ⟨rfl, rfl⟩ := hka
      simp [firstWith, hx, firstWith_set hrec ha']

/-- Replacing the esp_tuple the SPI lookup found by one with the same SPI keeps it found. -/
theorem findEspTuple_set {l : List EspTuple} {spi k : Nat} {e e' : EspTuple}
    (h : findEspTuple l spi = some (k, e)) (hspi : e'.spi = e.spi) :
    findEspTuple (l.set k e') spi = some (k, e') :=
  firstWith_set h (by simpa [hspi] using (firstWith_eq_some h).2.1)

theorem Connection.tuple_setEspTuple_self (conn : Connection) (d : Direction) (k : Nat)
    (e : EspTuple) : ((conn.setEspTuple d k e).tuple d).espTuples = (conn.tuple d).espTuples.set k e := by
  simp [Connection.setEspTuple]

/-! ### Walking over consecutive parameters -/

/-- The pointer array after a walk over `n` consecutive parameters from `start`. -/
def walkedPtrs (arr : PtrArray) (start n : Nat) : PtrArray :=
  overwrite arr ((List.range n).map fun i ↦ some (some (start + i)))

/-- The walk from parameter `start` over `n` parameters that all exist fills the first `n`
slots with pointers to them. -/
theorem collectParams_run {msg : HipCommon} {arr : PtrArray} {start n : Nat}
    (hn : n ≤ arr.length) (hmsg : start + n ≤ msg.params.length) :
    ∃ p, collectParams msg n arr (some start) = .ok (walkedPtrs arr start n, p) := by
  have hrun : ∀ j ≤ n, ∃ s, forUpTo j (collectParam msg) (arr, some start) = .ok s ∧
      s.1 = walkedPtrs arr start j ∧ (j < n → s.2 = some (start + j)) :=
    forUpTo_run _ ⟨by simp [walkedPtrs], fun _ ↦ rfl⟩ fun j s hj ⟨h1, h2⟩ ↦ by
      have hset := @arraySet_overwrite _ arr ((List.range j).map fun i ↦ some (some (start + i)))
        (some (some (start + j))) (by simp; omega)
      simp only [List.length_map, List.length_range] at hset
      refine ⟨(walkedPtrs arr start (j + 1), hipGetNextParam msg (some (start + j))), ?_, rfl,
        fun hj1 ↦ hipGetNextParam_some (by omega)⟩
      simp only [collectParam, h1, h2 hj, walkedPtrs, hset, ok_bind, pure_eq_ok, List.range_succ,
        List.map_append, List.map_singleton]
  obtain ⟨s, hloop, hs, -⟩ := hrun n le_rfl
  exact ⟨s.2, by rw [collectParams, hloop, ← hs]⟩

theorem readPtr_walkedPtrs {arr : PtrArray} {start n i : Nat} (hi : i < n) :
    readPtr (walkedPtrs arr start n) i = .ok (some (start + i)) := by
  rw [readPtr, arrayGet, walkedPtrs,
    getElem?_overwrite_lt (by simpa using hi : i < ((List.range n).map _).length)]
  simp [hi]

/-! ### The layout of an anchor update -/

/-- `msg` is an anchor UPDATE as the daemon lays one out: after `pre`, one ESP_PROT_ANCHOR per
chain with the active and the next anchor of `len` bytes each, then one ESP_PROT_ROOT per chain
with a root of `rl` bytes, then `post`. -/
structure UpdateLayout (msg : HipCommon) (pre : List HipTlv) (as : List (Bytes × Bytes))
    (roots : List Bytes) (post : List HipTlv) (t : UInt8) (hashItemLength len rl : Nat) : Prop where
  params_eq : msg.params = pre ++ as.map (fun a ↦ espProtAnchorTlv t a.1 (some a.2) hashItemLength) ++
    roots.map espProtRootTlv ++ post
  anchor_length : ∀ a ∈ as, a.1.length = len ∧ a.2.length = len
  root_length : ∀ r ∈ roots, r.length = rl
  rl_lt : rl < 256
  roots_length : roots.length = as.length

section Layout

variable {msg : HipCommon} {pre post : List HipTlv} {as : List (Bytes × Bytes)}
  {roots : List Bytes} {t : UInt8} {hashItemLength len rl : Nat}

theorem UpdateLayout.anchor_fields
    (hl : UpdateLayout msg pre as roots post t hashItemLength len rl) {j : Nat}
    (hj : j < as.length) :
    espProtAnchorTransform msg (some (pre.length + j)) = .ok t ∧
      espProtAnchorHashItemLength msg (some (pre.length + j)) = .ok (hashItemLength % 2 ^ 32) ∧
      espProtAnchorAnchors msg (some (pre.length + j)) 0 len = .ok as[j].1 ∧
      espProtAnchorAnchors msg (some (pre.length + j)) len len = .ok as[j].2 :=
  updateAnchorParams_fields (by rw [hl.params_eq, List.append_assoc]) hl.anchor_length hj

theorem UpdateLayout.root_fields
    (hl : UpdateLayout msg pre as roots post t hashItemLength len rl) {j : Nat}
    (hj : j < roots.length) :
    espProtRootLength msg (some (pre.length + as.length + j)) = .ok rl ∧
      espProtRootRoot msg (some (pre.length + as.length + j)) rl = .ok roots[j] := by
  have hget := getElem?_append_map
    (show msg.params = (pre ++ as.map (fun a ↦ espProtAnchorTlv t a.1 (some a.2) hashItemLength)) ++
      roots.map espProtRootTlv ++ post from hl.params_eq) hj
  have hlen := hl.root_length _ (List.getElem_mem hj)
  simp only [List.length_append, List.length_map] at hget
  rw [← hlen]
  exact espProtRootTlv_fields hget (hlen ▸ hl.rl_lt)

theorem UpdateLayout.length_params (hl : UpdateLayout msg pre as roots post t hashItemLength len rl) :
    msg.params.length = pre.length + as.length + as.length + post.length := by
  rw [hl.params_eq]
  simp only [List.length_append, List.length_map, hl.roots_length, Nat.add_assoc]

end Layout

/-! ### Caching the update -/

/-- What `esp_prot_conntrack_cache_anchor` cached for an update with anchors `as` and roots
`roots`: its sequence number, and per chain the active anchor, the next anchor (NULL when it
is all zeros) and the root, with the root length. -/
structure CachesUpdate (item : EspAnchorItem) (updateId : Nat) (as : List (Bytes × Bytes))
    (roots : List Bytes) (len rl : Nat) : Prop where
  seq_eq : item.seq = updateId
  active : ∀ j (hj : j < as.length), item.activeAnchors[j]? = some (some as[j].1)
  next : ∀ j (hj : j < as.length), item.nextAnchors[j]? =
    some (if as[j].2 = List.replicate len 0 then none else some as[j].2)
  roots : ∀ j (hj : j < roots.length), item.roots[j]? = some (some roots[j])
  rootLength_eq : item.rootLength = rl

/-- The item after the first `j` chains of the caching loop, started from `item0`. -/
structure CachedChains (item0 : EspAnchorItem) (as : List (Bytes × Bytes)) (roots : List Bytes)
    (len rl j : Nat) (item : EspAnchorItem) : Prop where
  active_eq : item.activeAnchors =
    overwrite item0.activeAnchors ((as.take j).map fun a ↦ some a.1)
  next_eq : item.nextAnchors = overwrite item0.nextAnchors
    ((as.take j).map fun a ↦ if a.2 = List.replicate len 0 then none else some a.2)
  roots_eq : item.roots = overwrite item0.roots ((roots.take j).map some)
  rootLength_eq : 0 < j → item.rootLength = rl
  seq_eq : item.seq = item0.seq

section Cache

variable {msg : HipCommon} {pre post : List HipTlv} {as : List (Bytes × Bytes)}
  {roots : List Bytes} {t : UInt8} {hashItemLength len rl : Nat}

theorem cacheAnchorChain_step (hl : UpdateLayout msg pre as roots post t hashItemLength len rl)
    {arrA arrR : PtrArray} {item0 item : EspAnchorItem} {j : Nat} (hj : j < as.length)
    (hA : as.length ≤ item0.activeAnchors.length) (hN : as.length ≤ item0.nextAnchors.length)
    (hR : as.length ≤ item0.roots.length) (hs : CachedChains item0 as roots len rl j item) :
    ∃ item', cacheAnchorChain msg (walkedPtrs arrA pre.length as.length)
        (walkedPtrs arrR (pre.length + as.length) as.length) len j item = .ok item' ∧
      CachedChains item0 as roots len rl (j + 1) item' := by
  have hjr : j < roots.length := hl.roots_length ▸ hj
  obtain ⟨-, -, hact, hnext⟩ := hl.anchor_fields hj
  obtain ⟨hrl, hroot⟩ := hl.root_fields hjr
  have hsetA := arraySet_overwrite_take (fun a : Bytes × Bytes ↦ some a.1) hj
    (show j < item0.activeAnchors.length by omega)
  have hsetN := arraySet_overwrite_take
    (fun a : Bytes × Bytes ↦ if a.2 = List.replicate len 0 then none else some a.2) hj
    (show j < item0.nextAnchors.length by omega)
  have hsetR := arraySet_overwrite_take some hjr (show j < item0.roots.length by omega)
  constructor
  constructor
  · simp only [cacheAnchorChain, readPtr_walkedPtrs hj, hact, hs.active_eq, hsetA, hnext,
      hs.next_eq, hsetN, hrl, hroot, hs.roots_eq, hsetR, ok_bind, pure_eq_ok]
    rfl
  · exact ⟨rfl, rfl, rfl, fun _ ↦ rfl, hs.seq_eq⟩

theorem cacheAnchorChain_all (hl : UpdateLayout msg pre as roots post t hashItemLength len rl)
    (arrA arrR : PtrArray) (item0 : EspAnchorItem)
    (hA : as.length ≤ item0.activeAnchors.length) (hN : as.length ≤ item0.nextAnchors.length)
    (hR : as.length ≤ item0.roots.length) :
    ∃ item, forUpTo as.length (cacheAnchorChain msg (walkedPtrs arrA pre.length as.length)
        (walkedPtrs arrR (pre.length + as.length) as.length) len) item0 = .ok item ∧
      CachedChains item0 as roots len rl as.length item := by
  obtain ⟨item, hloop, hs⟩ := forUpTo_run (CachedChains item0 as roots len rl)
    ⟨by simp, by simp, by simp, fun h ↦ absurd h (lt_irrefl 0), rfl⟩
    (fun _ _ hj hs ↦ cacheAnchorChain_step hl hj hA hN hR hs) as.length le_rfl
  exact ⟨item, hloop, hs⟩

theorem CachedChains.cachesUpdate {item0 item : EspAnchorItem} {updateId : Nat}
    (hs : CachedChains item0 as roots len rl as.length item) (hseq : item0.seq = updateId)
    (hroots : roots.length = as.length) (hne : 0 < as.length) :
    CachesUpdate item updateId as roots len rl := by
  refine ⟨hs.seq_eq.trans hseq, fun j hj ↦ ?_, fun j hj ↦ ?_, fun j hj ↦ ?_, hs.rootLength_eq hne⟩
  · rw [hs.active_eq, List.take_length, getElem?_overwrite_lt (by simpa using hj)]
    simp [hj]
  · rw [hs.next_eq, List.take_length, getElem?_overwrite_lt (by simpa using hj)]
    simp [hj]
  · rw [hs.roots_eq, ← hroots, List.take_length, getElem?_overwrite_lt (by simpa using hj)]
    simp [hj]

/-- `esp_prot_conntrack_cache_anchor` on an anchor update whose pointer arrays the walks filled:
the esp_tuple the anchor lookup finds gets the item that caches the update at the front of its
cache. -/
theorem espProtConntrackCacheAnchor_layout {lim : EspProtLimits} {fw : FwGlobals}
    {conn : Connection} {d : Direction}
    (hl : UpdateLayout msg pre as roots post t hashItemLength len rl) (h0 : 0 < as.length)
    (hn : as.length ≤ lim.maxNumParallelHchains) (hres : resolveHashLength fw t = .ok len)
    (hfirst : ∀ e ∈ (conn.tuple d).espTuples, e.firstActiveAnchors ≠ []) {k : Nat} {e : EspTuple}
    (hfind : firstWith (fun e ↦ slotEq (e.firstActiveAnchors.headD []) as[0].1 len)
      (conn.tuple d).espTuples = some (k, e))
    (hnum : e.numHchains = as.length) {seq : ParamPtr} {updateId : Nat}
    (hseq : hipSeqUpdateId msg seq = .ok updateId) (arrA arrR : PtrArray) :
    ∃ item, espProtConntrackCacheAnchor lim fw conn d msg seq
        (walkedPtrs arrA pre.length as.length) (walkedPtrs arrR (pre.length + as.length) as.length) =
        .ok (0, conn.setEspTuple d k { e with anchorCache := item :: e.anchorCache }) ∧
      CachesUpdate item updateId as roots len rl := by
  obtain ⟨htfm, -, hact, -⟩ := hl.anchor_fields h0
  obtain ⟨raw, hraw⟩ := espProtAnchorTlv_raw
    (getElem?_append_map (by rw [hl.params_eq, List.append_assoc]) h0)
  simp only [Nat.add_zero] at htfm hact hraw
  obtain ⟨item, hloop, hs⟩ := cacheAnchorChain_all hl arrA arrR
    { seq := updateId, transform := t, hashItemLength := raw,
      activeAnchors := List.replicate lim.maxNumParallelHchains none,
      nextAnchors := List.replicate lim.maxNumParallelHchains none,
      rootLength := 0, roots := List.replicate lim.maxNumParallelHchains none }
    (by simpa using hn) (by simpa using hn) (by simpa using hn)
  refine ⟨item, ?_, hs.cachesUpdate rfl hl.roots_length h0⟩
  have hp0 := @readPtr_walkedPtrs arrA pre.length as.length 0 h0
  simp only [Nat.add_zero] at hp0
  simp only [espProtConntrackCacheAnchor, hp0, ok_bind, reduceCtorEq, if_false, htfm, hres, hact,
    espProtConntrackFindEspTuple_ok hfirst, hfind, hseq, hraw, hnum, hloop, pure_eq_ok]

/-- `esp_prot_conntrack_update` on a first anchor update, SEQ and anchors and roots but no ACK
and no ESP_INFO: the walks fill the pointer arrays and the update is cached. -/
theorem espProtConntrackUpdate_cache {lim : EspProtLimits} {fw : FwGlobals} {conn : Connection}
    {d : Direction} (hl : UpdateLayout msg pre as roots post t hashItemLength len rl)
    (h0 : 0 < as.length) (hn : as.length ≤ lim.maxNumParallelHchains)
    (hfw : fw.hipEspProtection = true) (hchains : fw.numParallelHchains = as.length)
    (hpre : ∀ x ∈ pre, x.type ≠ .espProtAnchor ∧ x.type ≠ .espProtRoot)
    (hnoack : ∀ x ∈ msg.params, x.type ≠ .ack ∧ x.type ≠ .espInfo)
    (hres : resolveHashLength fw t = .ok len)
    (hfirst : ∀ e ∈ (conn.tuple d).espTuples, e.firstActiveAnchors ≠ []) {k : Nat} {e : EspTuple}
    (hfind : firstWith (fun e ↦ slotEq (e.firstActiveAnchors.headD []) as[0].1 len)
      (conn.tuple d).espTuples = some (k, e))
    (hnum : e.numHchains = as.length) {updateId : Nat}
    (hseq : hipSeqUpdateId msg (hipGetParam msg .seq) = .ok updateId) :
    ∃ item, espProtConntrackUpdate lim fw conn d msg =
        .ok (0, conn.setEspTuple d k { e with anchorCache := item :: e.anchorCache }) ∧
      CachesUpdate item updateId as roots len rl := by
  have hne : as ≠ [] := List.ne_nil_of_length_pos h0
  have hseqSome : (hipGetParam msg .seq).isSome = true := by
    cases h : hipGetParam msg .seq
    · simp [h, hipSeqUpdateId, paramNat, Functor.map, Except.map] at hseq
    · rfl
  have hack : hipGetParam msg .ack = none := hipGetParam_eq_none fun x hx ↦ (hnoack x hx).1
  have hinfo : hipGetParam msg .espInfo = none := hipGetParam_eq_none fun x hx ↦ (hnoack x hx).2
  have hanchor : hipGetParam msg .espProtAnchor = some pre.length :=
    hipGetParam_append_map (by rw [hl.params_eq, List.append_assoc]) (fun x hx ↦ (hpre x hx).1)
      hne fun _ ↦ rfl
  have hroot : hipGetParam msg .espProtRoot = some (pre.length + as.length) := by
    have h := hipGetParam_append_map hl.params_eq (fun x hx ↦ by
      simp only [List.mem_append, List.mem_map] at hx
      rcases hx with hx | ⟨a, -, rfl⟩
      · exact (hpre x hx).2
      · exact nofun) (by rw [← List.length_pos, hl.roots_length]; exact h0) fun _ ↦ rfl
    simpa using h
  have hlen := hl.length_params
  have hun : as.length ≤ (PtrArray.uninit lim).length := by simpa [PtrArray.uninit] using hn
  obtain ⟨pA, hA⟩ := collectParams_run hun
    (show pre.length + as.length ≤ msg.params.length by omega)
  obtain ⟨pR, hR⟩ := collectParams_run hun
    (show pre.length + as.length + as.length ≤ msg.params.length by omega)
  obtain ⟨item, hc, hs⟩ := espProtConntrackCacheAnchor_layout hl h0 hn hres hfirst hfind hnum
    hseq (PtrArray.uninit lim) (PtrArray.uninit lim)
  refine ⟨item, ?_, hs⟩
  simp only [espProtConntrackUpdate, hfw, Bool.not_true, Bool.false_eq_true, if_false, hseqSome,
    hack, hinfo, hanchor, Option.isNone_none, Option.isSome_some, Bool.and_self, if_true,
    hchains, hA, collectRoots, hroot, hR, Functor.map, Except.map, ok_bind, hc, pure_eq_ok]

end Cache

/-! ### Applying the acknowledged update -/

/-- The esp_tuple after the acknowledgement applied the first `j` chains of an update with
anchors `as` and roots `roots`: their next anchors and roots, of length `rl`. -/
def appliedChains (e : EspTuple) (as : List (Bytes × Bytes)) (roots : List Bytes)
    (len rl j : Nat) : EspTuple :=
  { e with
    nextAnchors := writeRows e.nextAnchors ((as.map Prod.snd).take j) len
    nextRootLength := overwrite e.nextRootLength ((roots.take j).map fun _ ↦ rl)
    nextRoots := overwrite e.nextRoots ((roots.take j).map some) }

@[simp] theorem appliedChains_anchorCache (e : EspTuple) (as : List (Bytes × Bytes))
    (roots : List Bytes) (len rl j : Nat) :
    (appliedChains e as roots len rl j).anchorCache = e.anchorCache := rfl

@[simp] theorem appliedChains_zero (e : EspTuple) (as : List (Bytes × Bytes)) (roots : List Bytes)
    (len rl : Nat) : appliedChains e as roots len rl 0 = e := by
  simp [appliedChains]

section Apply

variable {as : List (Bytes × Bytes)} {roots : List Bytes} {len rl : Nat} {item : EspAnchorItem}
  {updateId : Nat} {e : EspTuple}

/-- The shape of an esp_tuple the acknowledgement of an update of `n` chains writes into. -/
structure NextShape (e : EspTuple) (n : Nat) : Prop where
  next_length : n ≤ e.nextAnchors.length
  rootLength_length : n ≤ e.nextRootLength.length
  roots_length : n ≤ e.nextRoots.length

theorem updateAnchorChain_step (hc : CachesUpdate item updateId as roots len rl)
    (hroots : roots.length = as.length) (has : ∀ a ∈ as, a.1.length = len)
    (hnext : ∀ a ∈ as, a.2 ≠ List.replicate len 0)
    (hmatch : AnchorsMatch e.firstActiveAnchors as len) (hshape : NextShape e as.length)
    {j : Nat} (hj : j < as.length) :
    updateAnchorChain item len j (appliedChains e as roots len rl j) =
      .ok (appliedChains e as roots len rl (j + 1)) := by
  have hjr : j < roots.length := hroots ▸ hj
  have hjF : j < e.firstActiveAnchors.length := by
    have h := hmatch j hj
    by_contra hF
    rw [List.getElem?_eq_none (by omega)] at h
    cases h
  have hjN : j < e.nextAnchors.length := by have := hshape.next_length; omega
  have hjL : j < e.nextRootLength.length := by have := hshape.rootLength_length; omega
  have hjR : j < e.nextRoots.length := by have := hshape.roots_length; omega
  have hfirst := hmatch.slotEq has hj hjF
  have hnext' : (if as[j].2 = List.replicate len 0 then none else some as[j].2) = some as[j].2 :=
    if_neg (hnext _ (List.getElem_mem hj))
  have hslot : (writeRows e.nextAnchors ((as.map Prod.snd).take j) len)[j]? =
      some e.nextAnchors[j] := by
    rw [getElem?_writeRows_ge _ _ _ _ (by simp only [List.length_take, List.length_map]; omega),
      List.getElem?_eq_getElem hjN]
  have hsetN := @arraySet_writeRows_take e.nextAnchors (as.map Prod.snd) len j
    (by simpa using hj) hjN
  simp only [List.getElem_map] at hsetN
  have hsetL := arraySet_overwrite_take (fun _ : Bytes ↦ rl) hjr hjL
  have hsetR := arraySet_overwrite_take some hjr hjR
  simp only [updateAnchorChain, appliedChains, arrayGet, List.getElem?_eq_getElem hjF, hc.active j hj,
    hc.next j hj, hnext', derefSlot, hfirst, hslot, hsetN, hc.roots j hjr, hc.rootLength_eq,
    hsetL, hsetR, ok_bind, if_true, pure_eq_ok]

theorem updateAnchorChain_all (hc : CachesUpdate item updateId as roots len rl)
    (hroots : roots.length = as.length) (has : ∀ a ∈ as, a.1.length = len)
    (hnext : ∀ a ∈ as, a.2 ≠ List.replicate len 0)
    (hmatch : AnchorsMatch e.firstActiveAnchors as len) (hshape : NextShape e as.length) :
    forUpTo as.length (updateAnchorChain item len) e =
      .ok (appliedChains e as roots len rl as.length) := by
  obtain ⟨s, hloop, rfl⟩ := forUpTo_run (fun j s ↦ s = appliedChains e as roots len rl j)
    (appliedChains_zero e as roots len rl).symm
    (fun j s hj hs ↦ ⟨_, hs ▸ updateAnchorChain_step hc hroots has hnext hmatch hshape hj, rfl⟩)
    as.length le_rfl
  exact hloop

/-- `esp_prot_conntrack_update_anchor` for the esp_tuple the SPI lookup finds, with the
acknowledged update at the front of its cache: every chain's next anchor and root are written
and the item is removed. -/
theorem espProtConntrackUpdateAnchor_cached {fw : FwGlobals} {conn : Connection} {d : Direction}
    {msg : HipCommon} {pa pi oldSpi k : Nat} {rest : List EspAnchorItem}
    (hinfo : hipEspInfoOldSpi msg (some pi) = .ok oldSpi)
    (hfind : findEspTuple (conn.tuple d.other).espTuples oldSpi = some (k, e))
    (hack : hipAckPeerUpdateId msg (some pa) = .ok updateId)
    (hcache : e.anchorCache = item :: rest) (hc : CachesUpdate item updateId as roots len rl)
    (hres : resolveHashLength fw e.espProtTfm = .ok len) (hnum : e.numHchains = as.length)
    (hroots : roots.length = as.length) (has : ∀ a ∈ as, a.1.length = len)
    (hnext : ∀ a ∈ as, a.2 ≠ List.replicate len 0)
    (hmatch : AnchorsMatch e.firstActiveAnchors as len) (hshape : NextShape e as.length) :
    espProtConntrackUpdateAnchor fw conn d msg (some pa) (some pi) = .ok (0,
      conn.setEspTuple d.other k { appliedChains { e with hashItemLength := item.hashItemLength }
        as roots len rl as.length with anchorCache := rest }) := by
  have hne : ¬ e.anchorCache = [] := by simp [hcache]
  have hfirst : firstWith (·.seq == updateId) e.anchorCache = some (0, item) := by
    simp [hcache, firstWith, hc.seq_eq]
  have hrest : e.anchorCache.eraseIdx 0 = rest := by rw [hcache]; rfl
  have hloop : forUpTo e.numHchains (updateAnchorChain item len)
      { e with hashItemLength := item.hashItemLength } =
      .ok (appliedChains { e with hashItemLength := item.hashItemLength } as roots len rl
        as.length) := by
    rw [hnum]
    exact updateAnchorChain_all hc hroots has hnext hmatch ⟨hshape.1, hshape.2, hshape.3⟩
  simp only [espProtConntrackUpdateAnchor, reduceCtorEq, if_false, hinfo, ok_bind, hfind, hne,
    hack, hfirst, hres, hloop, appliedChains_anchorCache, hrest, pure_eq_ok]

/-- `esp_prot_conntrack_update` on an acknowledgement, ACK and ESP_INFO but no SEQ and no
anchor, of the update at the front of the cache of the esp_tuple with the ESP_INFO's SPI. -/
theorem espProtConntrackUpdate_ack {lim : EspProtLimits} {fw : FwGlobals} {conn : Connection}
    {d : Direction} {msg : HipCommon} {pa pi oldSpi k : Nat} {rest : List EspAnchorItem}
    (hfw : fw.hipEspProtection = true) (hseq : hipGetParam msg .seq = none)
    (hanchor : hipGetParam msg .espProtAnchor = none) (hackp : hipGetParam msg .ack = some pa)
    (hinfop : hipGetParam msg .espInfo = some pi)
    (hinfo : hipEspInfoOldSpi msg (some pi) = .ok oldSpi)
    (hfind : findEspTuple (conn.tuple d.other).espTuples oldSpi = some (k, e))
    (hack : hipAckPeerUpdateId msg (some pa) = .ok updateId)
    (hcache : e.anchorCache = item :: rest) (hc : CachesUpdate item updateId as roots len rl)
    (hres : resolveHashLength fw e.espProtTfm = .ok len) (hnum : e.numHchains = as.length)
    (hroots : roots.length = as.length) (has : ∀ a ∈ as, a.1.length = len)
    (hnext : ∀ a ∈ as, a.2 ≠ List.replicate len 0)
    (hmatch : AnchorsMatch e.firstActiveAnchors as len) (hshape : NextShape e as.length) :
    espProtConntrackUpdate lim fw conn d msg = .ok (0,
      conn.setEspTuple d.other k { appliedChains { e with hashItemLength := item.hashItemLength }
        as roots len rl as.length with anchorCache := rest }) := by
  simp only [espProtConntrackUpdate, hfw, Bool.not_true, Bool.false_eq_true, if_false, hseq,
    hanchor, hackp, hinfop, Option.isSome_none, Option.isNone_none, Option.isSome_some,
    Option.isNone_some, Bool.false_and, Bool.and_false, Bool.and_self, Bool.true_and, if_true,
    espProtConntrackUpdateAnchor_cached hinfo hfind hack hcache hc hres hnum hroots has hnext
      hmatch hshape, ok_bind, pure_eq_ok]

end Apply

end Hipl.Hipfw
