import Hipl.OnPath.BaseExchange
import Hipl.Hipd.EspProtUpdate
import Hipl.Hipfw.Conntrack.Apply

/-!
# An on-path firewall tracking an anchor update

Host `a` announces the next anchors of its parallel chains in an anchor UPDATE
(`espProtUpdateAddAnchor`); host `b` stores them as its peer's update anchors and acknowledges
(`espProtHandleFirstUpdatePacket`); a hipfw on the path caches the announcement in the esp_tuple
of the update's direction and applies it when the acknowledgement passes the other way
(`espProtConntrackUpdate`). `anchorUpdateRun` is these four steps in order.

`anchorUpdate_applied` says what a run leaves when the three parties agree (`AnchorSender`,
`AnchorReceiver`, `UpdateTracker`): every step returns 0, the receiver and the firewall hold the
announced next anchors of every chain, the firewall the announced roots, and no item for the
update's number stays cached. Each party's part is its own lemma, built on the step lemmas of
the daemon and of the firewall.

The agreement is what the code needs, not what it checks. The firewall keeps no record of
the updates it has cached, so the same UPDATE seen twice is cached twice, and the
acknowledgement removes one of the two copies (`retransmittedUpdate_stays_cached`). The
receiver's third loop is admitted for one chain only: over more it stores the first parameter's
next anchor for every chain. An all-zero next anchor is left out: the firewall caches it as NULL
and then copies from it.
-/

set_option autoImplicit false
set_option relaxedAutoImplicit false

namespace Hipl.OnPath

open Hipl.Wire Hipl.EspProt Hipl.Hipd Hipl.Hipfw

/-- One anchor update through an on-path firewall. Host `a` adds the anchors of its chains to
`update`, the UPDATE it is building with its SEQ, and sends it with `rest` (its HMAC and
signature) appended; the firewall tracks it in direction `d`; host `b` handles it and
acknowledges, and the firewall tracks the acknowledgement, when there is one, in the other
direction. The return values of the steps, the two hosts and the connection afterwards. -/
def anchorUpdateRun (lim : EspProtLimits) (fw : FwGlobals) (conn : Connection) (d : Direction)
    (a b : HipdHost) (signer : HipSigner) (update : HipCommon) (rest : List HipTlv) :
    Except Fault (List Int × HipdHost × HipdHost × Connection) := do
  let (e1, haA, u) ← espProtUpdateAddAnchor a.g a.db a.ha update
  let u := withParams u rest
  let (e2, conn) ← espProtConntrackUpdate lim fw conn d u
  let (e3, haB, reply) ← espProtHandleFirstUpdatePacket b.g b.db signer b.ha u
  match reply with
  | none => pure ([e1, e2, e3], ⟨a.g, a.db, haA⟩, ⟨b.g, b.db, haB⟩, conn)
  | some r => do
    let (e4, conn) ← espProtConntrackUpdate lim fw conn d.other r
    pure ([e1, e2, e3, e4], ⟨a.g, a.db, haA⟩, ⟨b.g, b.db, haB⟩, conn)

/-- The parameters the sender adds: the anchors of `n` chains of `len` bytes, then their
roots. -/
def announcedParams (ha : HipHadbState) (n len : Nat) : List HipTlv :=
  (announcedAnchors ha len n).map
      (fun x ↦ espProtAnchorTlv ha.espProtTransform x.1 (some x.2) ha.hashItemLength) ++
    (announcedRoots ha n).map espProtRootTlv

theorem getElem_announcedAnchors {ha : HipHadbState} {len n i : Nat}
    (hi : i < (announcedAnchors ha len n).length) :
    (announcedAnchors ha len n)[i] = announcedAnchor ha len i := by
  simp [announcedAnchors]

theorem getElem_announcedRoots {ha : HipHadbState} {n i : Nat}
    (hi : i < (announcedRoots ha n).length) : (announcedRoots ha n)[i] = announcedRoot ha i := by
  simp [announcedRoots]

/-! ### The parties -/

/-- What the sender of an anchor update has: a transform in use, `n` parallel chains within the
arrays, anchor and root arrays of the shape state.h declares, an anchor length `len` and a root
length within a hash slot, roots to send, and next anchors that are not all zeros. -/
structure AnchorSender (lim : EspProtLimits) (a : HipdHost) (n len : Nat) : Prop where
  transform : espProtTfmUnused < a.ha.espProtTransform
  hchains : a.g.espProtNumParallelHchains = n
  hchains_pos : 0 < n
  hchains_le : n ≤ lim.maxNumParallelHchains
  anchorLength : a.db.anchorLength a.ha.espProtTransform = len
  anchorLength_le : len ≤ lim.maxHashLength
  local_rows : AnchorRows lim a.ha.espLocalAnchors
  update_rows : AnchorRows lim a.ha.espLocalUpdateAnchors
  root_rows : AnchorRows lim a.ha.espRoot
  rootLength_pos : 0 < a.ha.espRootLength
  rootLength_le : a.ha.espRootLength.toNat ≤ lim.maxHashLength
  next_nonzero : ∀ x ∈ announcedAnchors a.ha len n, x.2 ≠ List.replicate len 0

/-- The UPDATE the sender builds on: its SEQ reads `updateId`, and neither it nor the
parameters added after the anchors carry an ACK or an ESP_INFO; it has no anchor or root
before them. -/
structure SeqUpdate (update : HipCommon) (rest : List HipTlv) (updateId : Nat) : Prop where
  seq : hipSeqUpdateId update (hipGetParam update .seq) = .ok updateId
  params : ∀ x ∈ update.params, x.type ≠ .espProtAnchor ∧ x.type ≠ .espProtRoot ∧
    x.type ≠ .ack ∧ x.type ≠ .espInfo
  rest : ∀ x ∈ rest, x.type ≠ .ack ∧ x.type ≠ .espInfo

/-- What the receiver of the anchors of `a` has: the sender's transform, chain count and anchor
length, peer anchor arrays of the shape state.h declares, a signing key, and anchors it accepts
in the first loop of `esp_prot_update_handle_anchor` (no update since the base exchange, the
active anchors are the peer's anchors), in the second (the active anchors are the peer's
update anchors) or, for one chain, in the third (the active anchor is the peer's anchor). -/
structure AnchorReceiver (lim : EspProtLimits) (signer : HipSigner) (a b : HipdHost)
    (n len : Nat) : Prop where
  transform : b.ha.espProtTransform = a.ha.espProtTransform
  hchains : b.g.espProtNumParallelHchains = n
  anchorLength : b.db.anchorLength a.ha.espProtTransform = len
  peer_rows : AnchorRows lim b.ha.espPeerAnchors
  peerUpdate_rows : AnchorRows lim b.ha.espPeerUpdateAnchors
  signs : ∀ m, (signer.sign m).isSome
  accepts : AnchorsAccepted b.ha (announcedAnchors a.ha len n) len

/-- What the firewall has to track the update of `a` to `b` in direction `d`: ESP protection on
with `n` chains, the sender's transform with `len` as its hash length, esp_tuples with first
active anchors, and the esp_tuple `e` at position `k`, which is the first whose first active
anchor is the sender's and the first with the receiver's inbound SPI, has `n` chains of hash
length `len` whose first active anchors are the announced ones, room for the next anchors, and
no cached item of the update's number. -/
structure UpdateTracker (fw : FwGlobals) (conn : Connection) (d : Direction) (a b : HipdHost)
    (n len updateId k : Nat) (e : EspTuple) : Prop where
  protection : fw.hipEspProtection = true
  hchains : fw.numParallelHchains = n
  hashLength : resolveHashLength fw a.ha.espProtTransform = .ok len
  first_ne : ∀ e ∈ (conn.tuple d).espTuples, e.firstActiveAnchors ≠ []
  found_anchor : firstWith
    (fun e ↦ slotEq (e.firstActiveAnchors.headD []) (announcedAnchor a.ha len 0).1 len)
    (conn.tuple d).espTuples = some (k, e)
  found_spi : findEspTuple (conn.tuple d).espTuples b.ha.spiInboundCurrent.toNat = some (k, e)
  tfm_hashLength : resolveHashLength fw e.espProtTfm = .ok len
  numHchains : e.numHchains = n
  first_match : AnchorsMatch e.firstActiveAnchors (announcedAnchors a.ha len n) len
  shape : NextShape e n
  fresh : ∀ x ∈ e.anchorCache, x.seq ≠ updateId

/-- What an anchor update of `n` chains of `len` bytes announced by `ha` leaves: the receiver's
peer update anchors are the announced next anchors, and the firewall's esp_tuple `e` has them
as next anchors and the announced roots as next roots, and caches no item of the update's
number. -/
structure AnchorUpdateApplied (ha : HipHadbState) (n len updateId : Nat) (hb : HipHadbState)
    (e : EspTuple) : Prop where
  peer_update : ∀ i < n,
    (hb.espPeerUpdateAnchors[i]?).map (·.take len) = some (announcedAnchor ha len i).2
  next_anchors : ∀ i < n,
    (e.nextAnchors[i]?).map (·.take len) = some (announcedAnchor ha len i).2
  next_roots : ∀ i < n, e.nextRoots[i]? = some (some (announcedRoot ha i))
  uncached : ∀ x ∈ e.anchorCache, x.seq ≠ updateId

/-! ### Each party's part -/

section Parties

variable {lim : EspProtLimits} {a : HipdHost} {n len : Nat}

theorem AnchorSender.announced_length (hs : AnchorSender lim a n len) :
    ∀ x ∈ announcedAnchors a.ha len n, x.1.length = len ∧ x.2.length = len :=
  announcedAnchors_length hs.local_rows hs.update_rows hs.anchorLength_le hs.hchains_le

/-- The sender appends the anchors and roots of its `n` chains. -/
theorem AnchorSender.addAnchor (hs : AnchorSender lim a n len) {update : HipCommon}
    (hseq : (hipGetParam update .seq).isSome) :
    espProtUpdateAddAnchor a.g a.db a.ha update = .ok (0,
      { a.ha with espLocalUpdateLength := a.db.hashItemLength a.ha.espProtTransform },
      withParams update (announcedParams a.ha n len)) := by
  have hn : a.g.espProtNumParallelHchains.toNat = n := by rw [hs.hchains]; rfl
  rw [espProtUpdateAddAnchor_ok a.g a.db update hs.transform hseq (by rw [hn]; exact hs.hchains_le)
    hs.local_rows hs.update_rows hs.root_rows (by rw [hs.anchorLength]; exact hs.anchorLength_le)
    hs.rootLength_le, if_pos hs.rootLength_pos, hn, hs.anchorLength, announcedParams]

/-- The UPDATE as sent is laid out as the firewall's lemmas take it. -/
theorem AnchorSender.layout (hs : AnchorSender lim a n len) (update : HipCommon)
    (rest : List HipTlv) :
    UpdateLayout (withParams (withParams update (announcedParams a.ha n len)) rest) update.params
      (announcedAnchors a.ha len n) (announcedRoots a.ha n) rest a.ha.espProtTransform
      a.ha.hashItemLength len a.ha.espRootLength.toNat where
  params_eq := by simp [withParams, announcedParams]
  anchor_length := hs.announced_length
  root_length := announcedRoots_length hs.root_rows hs.rootLength_le hs.hchains_le
  rl_lt := a.ha.espRootLength.val.isLt
  roots_length := by rw [length_announcedRoots, length_announcedAnchors]

end Parties

/-- The rows written with the second components of `as` hold them in their first `len`
bytes. -/
theorem take_getElem?_writeRows_snd {rows : List Bytes} {as : List (Bytes × Bytes)} {len i : Nat}
    (hrows : as.length ≤ rows.length) (has : ∀ x ∈ as, x.2.length = len) (hi : i < as.length) :
    ((writeRows rows ((as.map Prod.snd).take as.length) len)[i]?).map (·.take len) =
      some as[i].2 := by
  have hmap : (as.map Prod.snd).take as.length = as.map Prod.snd := by
    rw [← List.length_map as Prod.snd, List.take_length]
  rw [hmap, take_getElem?_writeRows _ _ _ _ (by simpa using hrows)
    (fun b hb ↦ by obtain ⟨x, hx, rfl⟩ := List.mem_map.mp hb; exact (has x hx).ge)
    (by simpa using hi), List.getElem?_map, List.getElem?_eq_getElem hi, Option.map_some',
    Option.map_some', List.take_of_length_le (has _ (List.getElem_mem hi)).le]

/-! ### The run -/

/-- An anchor update through an on-path firewall, from any state in which the sender, the
receiver and the firewall agree: every step returns 0, the receiver keeps the announced next
anchors as its peer's update anchors, and the firewall's esp_tuple of the update's direction
has them as next anchors and the announced roots as next roots, with its cache as it was
before the update, so without an item of the update's number. -/
theorem anchorUpdate_applied (lim : EspProtLimits) (fw : FwGlobals) (conn : Connection)
    (d : Direction) (a b : HipdHost) (signer : HipSigner) (update : HipCommon)
    (rest : List HipTlv) {n len updateId k : Nat} {e : EspTuple}
    (hs : AnchorSender lim a n len) (hu : SeqUpdate update rest updateId)
    (hr : AnchorReceiver lim signer a b n len) (ht : UpdateTracker fw conn d a b n len updateId k e) :
    ∃ a' b' conn' e', anchorUpdateRun lim fw conn d a b signer update rest =
        .ok ([0, 0, 0, 0], a', b', conn') ∧
      (conn'.tuple d).espTuples[k]? = some e' ∧ e'.anchorCache = e.anchorCache ∧
      AnchorUpdateApplied a.ha n len updateId b'.ha e' := by
  set as := announcedAnchors a.ha len n
  set roots := announcedRoots a.ha n
  set u := withParams (withParams update (announcedParams a.ha n len)) rest
  have hl := hs.layout update rest
  have has : as.length = n := length_announcedAnchors len n
  have h0 : 0 < as.length := has ▸ hs.hchains_pos
  have hseq : hipSeqUpdateId u (hipGetParam u .seq) = .ok updateId :=
    hipSeqUpdateId_withParams (hipSeqUpdateId_withParams hu.seq)
  -- the sender
  have hadd := hs.addAnchor (isSome_of_paramNat hu.seq)
  -- the firewall caches the update
  have hfind : firstWith (fun e ↦ slotEq (e.firstActiveAnchors.headD []) as[0].1 len)
      (conn.tuple d).espTuples = some (k, e) := by
    rw [getElem_announcedAnchors]; exact ht.found_anchor
  obtain ⟨item, hcache, hc⟩ := espProtConntrackUpdate_cache hl h0 (has ▸ hs.hchains_le)
    ht.protection (by rw [ht.hchains, has]) (fun x hx ↦ ⟨(hu.params x hx).1, (hu.params x hx).2.1⟩)
    (fun x hx ↦ by
      simp only [u, withParams, announcedParams, List.mem_append, List.mem_map] at hx
      rcases hx with (hx | ⟨_, -, rfl⟩ | ⟨_, -, rfl⟩) | hx
      · exact ⟨(hu.params x hx).2.2.1, (hu.params x hx).2.2.2⟩
      · exact ⟨nofun, nofun⟩
      · exact ⟨nofun, nofun⟩
      · exact hu.rest x hx)
    (hr.transform ▸ ht.hashLength) ht.first_ne hfind (by rw [has]; exact ht.numHchains) hseq
  -- the receiver
  obtain ⟨hb', moved, hmac, signature, hhandle, hup⟩ :=
    @espProtHandleFirstUpdatePacket_accepts lim u a.ha.espProtTransform a.ha.hashItemLength len
      update.params (roots.map espProtRootTlv ++ rest) as b.ha b.g b.db signer
      (by rw [hl.params_eq]; simp only [List.append_assoc]) hs.announced_length hr.peer_rows
      hr.peerUpdate_rows hs.anchorLength_le (has ▸ hs.hchains_le) (fun x hx ↦ (hu.params x hx).1)
      (List.ne_nil_of_length_pos h0) (by rw [hr.hchains, has]) hr.transform hr.anchorLength
      hr.accepts updateId hseq hr.signs
  -- the firewall applies the acknowledged update
  have hid : updateId % 2 ^ 32 = updateId :=
    Nat.mod_eq_of_lt (lt_of_lt_of_eq (paramNat_lt hu.seq) (by decide))
  obtain ⟨hrs, hra, hrack, hrinfo, hroldspi, hrackid⟩ :=
    updateResponse_reads b.ha u b.ha.spiInboundCurrent updateId hmac signature
  rw [hid] at hrackid
  have hfind' : findEspTuple
      ((conn.setEspTuple d k { e with anchorCache := item :: e.anchorCache }).tuple
        d.other.other).espTuples b.ha.spiInboundCurrent.toNat =
      some (k, { e with anchorCache := item :: e.anchorCache }) := by
    rw [Direction.other_other, Connection.tuple_setEspTuple_self]
    exact findEspTuple_set ht.found_spi rfl
  have hack : espProtConntrackUpdate lim fw _ d.other _ = _ :=
    espProtConntrackUpdate_ack ht.protection hrs hra hrack hrinfo hroldspi
    hfind' hrackid rfl hc ht.tfm_hashLength (by rw [has]; exact ht.numHchains) hl.roots_length
    (fun x hx ↦ (hs.announced_length x hx).1) hs.next_nonzero ht.first_match
    (by rw [has]; exact ⟨ht.shape.1, ht.shape.2, ht.shape.3⟩)
  have hk : k < (conn.tuple d).espTuples.length :=
    (List.getElem?_eq_some_iff.mp (firstWith_eq_some ht.found_spi).1).1
  have hrows : as.length ≤ b.ha.espPeerUpdateAnchors.length := by
    rw [hr.peerUpdate_rows.1, has]; exact hs.hchains_le
  set e1 : EspTuple := { e with anchorCache := item :: e.anchorCache }
  set e2 : EspTuple := { appliedChains { e1 with hashItemLength := item.hashItemLength } as roots
    len a.ha.espRootLength.toNat as.length with anchorCache := e.anchorCache }
  refine ⟨⟨a.g, a.db, { a.ha with espLocalUpdateLength := a.db.hashItemLength a.ha.espProtTransform }⟩,
    ⟨b.g, b.db, hb'⟩, (conn.setEspTuple d k e1).setEspTuple d.other.other k e2, e2, ?_, ?_, rfl, ⟨fun i hi ↦ ?_, fun i hi ↦ ?_, fun i hi ↦ ?_, ht.fresh⟩⟩
  · simp only [anchorUpdateRun, hadd, ok_bind, hcache, hhandle, hack, pure_eq_ok]
  · rw [Direction.other_other, Connection.tuple_setEspTuple_self,
      Connection.tuple_setEspTuple_self, List.getElem?_set_self (by simpa using hk)]
  · rw [hup.update_eq, take_getElem?_writeRows_snd hrows (fun x hx ↦ (hs.announced_length x hx).2)
      (has ▸ hi), getElem_announcedAnchors]
  · rw [← has] at hi
    rw [← getElem_announcedAnchors hi]
    exact take_getElem?_writeRows_snd (by rw [has]; exact ht.shape.next_length)
      (fun x hx ↦ (hs.announced_length x hx).2) hi
  · have hir : i < roots.length := by rw [length_announcedRoots]; exact hi
    show (overwrite e.nextRoots ((roots.take as.length).map some))[i]? = _
    rw [← hl.roots_length, List.take_length, getElem?_overwrite_lt (by simpa using hir),
      List.getElem?_map, List.getElem?_eq_getElem hir, getElem_announcedRoots]
    rfl

/-! ### One update of two chains -/

/-- A host on PLAIN with two chains, their next anchors and their roots. -/
def updateSender : HipdHost :=
  ⟨(bexHost 2).g, bexDb, { plainHa with
    espLocalAnchors := [[1, 2], [3, 4]]
    espLocalUpdateAnchors := [[5, 6], [7, 8]]
    espRootLength := 2
    espRoot := [[9, 9], [10, 10]]
    hashItemLength := 8
    spiInboundCurrent := 3 }⟩

/-- Its peer after the base exchange: the sender's anchors are its peer anchors. -/
def updatePeer : HipdHost :=
  ⟨(bexHost 2).g, bexDb, { plainHa with espPeerAnchors := [[1, 2], [3, 4]] }⟩

/-- A firewall for two chains. -/
def updateFw : FwGlobals := { trackFw with numParallelHchains := 2 }

/-- A connection whose original direction tracks the sender's two chains under the peer's
inbound SPI. -/
def updateConn : Connection :=
  ⟨⟨[{ EspTuple.empty bexLimits with
      spi := 7
      espProtTfm := espProtTfmPlain
      numHchains := 2
      activeAnchors := [[1, 2], [3, 4]]
      firstActiveAnchors := [[1, 2], [3, 4]] }], 0⟩, ⟨[], 0⟩, 2,
    [espProtTfmPlain, 0, 0, 0, 0, 0]⟩

def updateSigner : HipSigner := ⟨fun _ ↦ [1], fun _ ↦ some [2]⟩

/-- An UPDATE with the SEQ 5. -/
def seqMsg : HipCommon := ⟨hipUpdate, 2, 0, 1, 2, [⟨.seq, beBytes 4 5⟩]⟩

theorem twoChainUpdate_applied : AnchorSender bexLimits updateSender 2 2 ∧ SeqUpdate seqMsg [] 5 ∧
    AnchorReceiver bexLimits updateSigner updateSender updatePeer 2 2 ∧
    UpdateTracker updateFw updateConn .original updateSender updatePeer 2 2 5 0
      ((updateConn.tuple .original).espTuples.headD (EspTuple.empty bexLimits)) ∧
    ∃ a' b' conn' e', anchorUpdateRun bexLimits updateFw updateConn .original updateSender
        updatePeer updateSigner seqMsg [] = .ok ([0, 0, 0, 0], a', b', conn') ∧
      (conn'.tuple .original).espTuples[0]? = some e' ∧
      e'.anchorCache = ((updateConn.tuple .original).espTuples.headD (EspTuple.empty bexLimits)).anchorCache ∧
      AnchorUpdateApplied updateSender.ha 2 2 5 b'.ha e' :=
  have hs : AnchorSender bexLimits updateSender 2 2 :=
    ⟨by decide, rfl, by decide, le_rfl, rfl, le_rfl, ⟨rfl, by decide⟩, ⟨rfl, by decide⟩,
      ⟨rfl, by decide⟩, by decide, le_rfl, by decide⟩
  have hu : SeqUpdate seqMsg [] 5 := ⟨rfl, by decide, by simp⟩
  have hr : AnchorReceiver bexLimits updateSigner updateSender updatePeer 2 2 :=
    ⟨rfl, rfl, rfl, ⟨rfl, by decide⟩, ⟨rfl, by decide⟩, fun _ ↦ rfl,
      Or.inl ⟨by simp [updatePeer, plainHa, bexHa], by unfold AnchorsMatch; decide⟩⟩
  have ht : UpdateTracker updateFw updateConn .original updateSender updatePeer 2 2 5 0
      ((updateConn.tuple .original).espTuples.headD (EspTuple.empty bexLimits)) :=
    ⟨rfl, rfl, rfl, by decide, rfl, rfl, rfl, rfl, by unfold AnchorsMatch; decide,
      ⟨by decide, by decide, by decide⟩, by simp [updateConn, Connection.tuple, EspTuple.empty]⟩
  ⟨hs, hu, hr, ht, anchorUpdate_applied bexLimits updateFw updateConn .original updateSender
    updatePeer updateSigner seqMsg [] hs hu hr ht⟩

/-- The firewall sees the UPDATE twice, the second time as the retransmission after the first
copy was lost on the way to the receiver. The run of the retransmission succeeds at every step,
and an item of the update's number is still cached: each copy was cached, and the
acknowledgement removed one. -/
theorem retransmittedUpdate_stays_cached : (do
    let (_, _, u) ← espProtUpdateAddAnchor updateSender.g updateSender.db updateSender.ha seqMsg
    let (_, conn) ← espProtConntrackUpdate bexLimits updateFw updateConn .original (withParams u [])
    let (codes, _, _, conn) ← anchorUpdateRun bexLimits updateFw conn .original updateSender
      updatePeer updateSigner seqMsg []
    pure (codes, (conn.tuple .original).espTuples.map fun e ↦ e.anchorCache.map (·.seq))) =
      (.ok ([0, 0, 0, 0], [[5]]) : Except Fault (List Int × List (List Nat))) := rfl

end Hipl.OnPath
