import Hipl.Hipfw.Conntrack.Verify

/-!
# Hash chains over a whole flow

What `esp_prot_conntrack_verify` guarantees over all the packets of a flow rather than one.
`verifyRun` verifies the packets of an esp_tuple one after the other. The caller of
`esp_prot_conntrack_verify` (conntrack.c, not among the sources) keeps the tuple's sequence
number, so a run pairs each packet with the sequence number the tuple holds when the packet is
verified, and the results hold for every choice the caller makes.

`verifyRun_activeLinked` is the soundness of the tracking: whatever packets arrive, in whatever
order, the active anchor of each chain after the run hashes, in some number of steps, to the
chain's active anchor before the run or to its next anchor (`ActiveLinked`). No token moves an
anchor unless its sender knows a preimage of one of the two.

`verifyRun_honestRun` is the completeness for a PLAIN flow: the packets of a sender that releases
the elements of the hash chain behind the active anchor in order are all accepted when they
arrive in order with gaps no wider than the window, as the spec's last_seen_seq counts them, and
the active anchor follows the last element received.

Scope. The hash function is a parameter whose digests have the hash length of the flow's
transform. A packet holds that many token bytes, which the code reads without a length check.
-/

set_option autoImplicit false
set_option relaxedAutoImplicit false

namespace Hipl.Hipfw

open Hipl.Wire Hipl.EspProt

/-- The packets of a flow verified one after the other: each packet is verified after the
caller has stored the sequence number paired with it in the tuple. Returns the verdicts and
the tuple afterwards. -/
def verifyRun (fw : FwGlobals) (hash : Bytes → Bytes) (verifyHtreeElement : HtreeElementVerify) :
    EspTuple → List (Nat × EspPacket) → Except Fault (List Int × EspTuple)
  | e, [] => pure ([], e)
  | e, (seqNo, pkt) :: run => do
    let (r, e) ← espProtConntrackVerify fw hash verifyHtreeElement pkt { e with seqNo }
    let (rs, e) ← verifyRun fw hash verifyHtreeElement e run
    pure (r :: rs, e)

/-- A slot is linked to an anchor when some number of hashes of its first `L` bytes agrees with
the anchor on the first `L` bytes, the bytes the verification compares. -/
def Linked (hash : Bytes → Bytes) (L : Nat) (x anchor : Bytes) : Prop :=
  ∃ m, (hash^[m] (x.take L)).take L = anchor.take L

/-- Every active anchor of `e'` is linked to the active anchor of its chain in `e` or to the
chain's next anchor in `e`. -/
def ActiveLinked (hash : Bytes → Bytes) (L : Nat) (e e' : EspTuple) : Prop :=
  ∀ (h : Nat) (a' : Bytes), e'.activeAnchors[h]? = some a' → ∃ a, e.activeAnchors[h]? = some a ∧
    (Linked hash L a' a ∨ ∃ n, e.nextAnchors[h]? = some n ∧ Linked hash L a' n)

section Links

variable {hash : Bytes → Bytes} {L : Nat}

theorem Linked.of_take {x y : Bytes} (h : x.take L = y.take L) : Linked hash L x y :=
  ⟨0, by rw [Function.iterate_zero_apply, List.take_take, min_self]; exact h⟩

/-- With digests of `L` bytes, links compose: the numbers of hashes add up. -/
theorem Linked.trans (hhash : ∀ x, (hash x).length = L) {x y z : Bytes}
    (hxy : Linked hash L x y) (hyz : Linked hash L y z) : Linked hash L x z := by
  obtain ⟨m, hm⟩ := hxy
  obtain ⟨m', hm'⟩ := hyz
  cases m with
  | zero =>
    refine ⟨m', ?_⟩
    simp only [Function.iterate_zero, id, List.take_take, min_self] at hm
    rw [hm]
    exact hm'
  | succ m =>
    have hdigest : hash^[m + 1] (x.take L) = y.take L := by
      rw [← hm, Function.iterate_succ_apply', List.take_of_length_le (hhash _).le]
    exact ⟨m' + (m + 1), by rw [Function.iterate_add_apply, hdigest, hm']⟩

/-- The token copied over a slot is linked to an anchor when some hashes of it reach the
anchor. -/
theorem Linked.memcpySlot {slot token anchor : Bytes} (htoken : L ≤ token.length) {k : Nat}
    (hk : (hash^[k] (token.take L)).take L = anchor.take L) :
    Linked hash L (memcpySlot slot token L) anchor :=
  ⟨k, by rw [take_memcpySlot slot token L htoken, hk]⟩

theorem ActiveLinked.refl (e : EspTuple) : ActiveLinked hash L e e :=
  fun _ a' ha' ↦ ⟨a', ha', .inl ⟨0, by simp⟩⟩

theorem ActiveLinked.of_activeAnchors {e e' : EspTuple}
    (hactive : e'.activeAnchors = e.activeAnchors) : ActiveLinked hash L e e' := by
  intro h a' ha'
  rw [hactive] at ha'
  exact ActiveLinked.refl e h a' ha'

/-- Overwriting the active anchor of chain `h` with a slot linked to the old one or to the
chain's next anchor. -/
theorem ActiveLinked.set {e e' : EspTuple} {h : Nat} {x : Bytes}
    (hset : e'.activeAnchors = e.activeAnchors.set h x)
    (hx : ∀ a, e.activeAnchors[h]? = some a →
      Linked hash L x a ∨ ∃ n, e.nextAnchors[h]? = some n ∧ Linked hash L x n) :
    ActiveLinked hash L e e' := by
  intro j a' ha'
  rw [hset, List.getElem?_set] at ha'
  split at ha'
  · subst j
    split at ha'
    · cases ha'
      exact ⟨_, List.getElem?_eq_getElem ‹_›, hx _ (List.getElem?_eq_getElem ‹_›)⟩
    · cases ha'
  · exact ActiveLinked.refl e j a' ha'

/-- The invariant composes over runs whose next anchors stay in place. -/
theorem ActiveLinked.trans (hhash : ∀ x, (hash x).length = L) {e₀ e e' : EspTuple}
    (h₀ : ActiveLinked hash L e₀ e) (h : ActiveLinked hash L e e')
    (hnext : e.nextAnchors = e₀.nextAnchors) : ActiveLinked hash L e₀ e' := by
  intro j a' ha'
  obtain ⟨a, ha, hlink | ⟨n, hn, hlink⟩⟩ := h j a' ha'
  · obtain ⟨a₀, ha₀, hlink₀ | ⟨n₀, hn₀, hlink₀⟩⟩ := h₀ j a ha
    · exact ⟨a₀, ha₀, .inl (hlink.trans hhash hlink₀)⟩
    · exact ⟨a₀, ha₀, .inr ⟨n₀, hn₀, hlink.trans hhash hlink₀⟩⟩
  · obtain ⟨a₀, ha₀, -⟩ := h₀ j a ha
    exact ⟨a₀, ha₀, .inr ⟨n, hnext ▸ hn, hlink⟩⟩

end Links

/-! ### One verification -/

theorem any_hchainHashes {hash : Bytes → Bytes} {anchor : Bytes} {L : Nat} :
    ∀ (n : Nat) (t : Bytes), (hchainHashes hash t n).any (slotEq · anchor L) = true ↔
      ∃ k, 0 < k ∧ k ≤ n ∧ (hash^[k] t).take L = anchor.take L
  | 0, t => by
    simp only [hchainHashes, List.any_nil, Bool.false_eq_true, false_iff, not_exists, not_and]
    intro k hk hk0
    omega
  | n + 1, t => by
    simp only [hchainHashes, List.any_cons, Bool.or_eq_true, slotEq_iff,
      any_hchainHashes n (hash t)]
    constructor
    · rintro (h | ⟨k, hk, hkn, h⟩)
      · exact ⟨1, by omega, by omega, h⟩
      · exact ⟨k + 1, by omega, by omega, by rwa [Function.iterate_succ_apply]⟩
    · rintro ⟨k, hk, hkn, h⟩
      cases k with
      | zero => omega
      | succ k =>
        cases k with
        | zero => exact .inl h
        | succ k => exact .inr ⟨k + 1, by omega, by omega, by rwa [← Function.iterate_succ_apply]⟩

/-- What a verdict that is not an error says about the token: accepted (`0`) when hashes of it
reach the active anchor, which then becomes the token; an anchor change (`1`) when they reach
the next anchor. -/
theorem espProtVerifyHchainElement_nonneg {hash : Bytes → Bytes} {L n : Nat}
    {active next token active' : Bytes} {err : Int}
    (hv : espProtVerifyHchainElement hash L active next token n = (err, active'))
    (herr : 0 ≤ err) :
    (err = 0 ∧ active' = memcpySlot active token L ∧
        ∃ k, 0 < k ∧ k ≤ n ∧ (hash^[k] (token.take L)).take L = active.take L) ∨
      (err = 1 ∧ active' = active ∧
        ∃ k, 0 < k ∧ k ≤ n ∧ (hash^[k] (token.take L)).take L = next.take L) := by
  dsimp only [espProtVerifyHchainElement] at hv
  split at hv
  · cases hv
    exact .inl ⟨rfl, rfl, (any_hchainHashes n _).mp ‹_›⟩
  · split at hv
    · cases hv
      exact .inr ⟨rfl, rfl, (any_hchainHashes n _).mp ‹_›⟩
    · cases hv
      omega

/-- A token some of whose first `n` hashes reach the active anchor is accepted and becomes the
active anchor. -/
theorem espProtVerifyHchainElement_accept {hash : Bytes → Bytes} {L n : Nat}
    {active next token : Bytes} {k : Nat} (hk : 0 < k) (hkn : k ≤ n)
    (hreach : (hash^[k] (token.take L)).take L = active.take L) :
    espProtVerifyHchainElement hash L active next token n = (0, memcpySlot active token L) := by
  have hany := (@any_hchainHashes hash active L n (token.take L)).mpr
    ⟨k, hk, hkn, hreach⟩
  simp only [espProtVerifyHchainElement, hany, ite_true]

theorem trackCumulative_eq {fw : FwGlobals} {pkt : EspPacket} {e e' : EspTuple}
    (ht : trackCumulative fw pkt e = .ok e') : ∃ hashBuffer, e' = { e with hashBuffer } := by
  unfold trackCumulative at ht
  split at ht
  · refine forUpTo_inv (fun x : EspTuple ↦ ∃ hashBuffer, x = { e with hashBuffer }) ?_ ht
      ⟨e.hashBuffer, rfl⟩
    rintro i s s' hs ⟨hb, rfl⟩
    simp only [trackCumulativeItem, bind_eq_ok] at hs
    obtain ⟨_, -, _, -, _, -, hs⟩ := hs
    split at hs
    · simp only [bind_eq_ok, pure_eq_ok, Except.ok.injEq] at hs
      obtain ⟨hb', -, rfl⟩ := hs
      exact ⟨hb', rfl⟩
    · cases hs
      exact ⟨hb, rfl⟩
  · cases ht
    exact ⟨e.hashBuffer, rfl⟩

theorem anchorChange_eq {useHashTrees : Bool} {L h : Nat} {token : Bytes} {e e' : EspTuple}
    (hc : anchorChange useHashTrees L h token e = .ok e') :
    ∃ active next, e.activeAnchors[h]? = some active ∧ e.nextAnchors[h]? = some next ∧
      e'.activeAnchors =
        e.activeAnchors.set h (memcpySlot active (if useHashTrees then next else token) L) ∧
      e'.espProtTfm = e.espProtTfm := by
  simp only [anchorChange, bind_eq_ok, pure_eq_ok, Except.ok.injEq] at hc
  obtain ⟨next, hnext, active, hactive, _, hset, _, -, _, -, _, -, _, -, _, -, _, -, _, -, rfl⟩ :=
    hc
  refine ⟨active, next, ?_, ?_, ?_, rfl⟩
  · exact arrayGet_eq_ok.mp hactive
  · exact arrayGet_eq_ok.mp hnext
  · unfold arraySet at hset
    split at hset
    · exact (Except.ok.inj hset).symm
    · cases hset

/-- What the end of a verification can do: nothing for a verdict `err ≤ 0`, and for `err > 0`
the switch of chain `h`, whose active anchor becomes the next anchor (hash trees) or the token
(hash chains). -/
theorem finishVerify_cases {useHashTrees : Bool} {L h : Nat} {token : Bytes} {err r : Int}
    {e e' : EspTuple} (hf : finishVerify useHashTrees L h token err e = .ok (r, e')) :
    (err ≤ 0 ∧ e' = e) ∨
      (0 < err ∧ ∃ active next, e.activeAnchors[h]? = some active ∧
        e.nextAnchors[h]? = some next ∧
        e'.activeAnchors =
          e.activeAnchors.set h (memcpySlot active (if useHashTrees then next else token) L) ∧
        e'.espProtTfm = e.espProtTfm) := by
  unfold finishVerify at hf
  split at hf
  · obtain ⟨e'', hc, he⟩ := map_eq_ok.mp hf
    cases he
    exact .inr ⟨‹_›, anchorChange_eq hc⟩
  · cases hf
    exact .inl ⟨by omega, rfl⟩

/-- One verification keeps every active anchor linked to the active or the next anchor of its
chain, and keeps the transform. -/
theorem espProtConntrackVerify_activeLinked {fw : FwGlobals} {hash : Bytes → Bytes}
    {verifyHtreeElement : HtreeElementVerify} {pkt : EspPacket} {e e' : EspTuple} {r : Int}
    {L : Nat} (hv : espProtConntrackVerify fw hash verifyHtreeElement pkt e = .ok (r, e'))
    (hL : resolveHashLength fw e.espProtTfm = .ok L) (htoken : L ≤ pkt.token.length)
    (hnext : ∀ n ∈ e.nextAnchors, L ≤ n.length) :
    ActiveLinked hash L e e' ∧ e'.espProtTfm = e.espProtTfm := by
  unfold espProtConntrackVerify at hv
  by_cases hprot : (!fw.hipEspProtection) = true
  · rw [if_pos hprot] at hv; cases hv; exact ⟨.refl e, rfl⟩
  by_cases htfm : e.espProtTfm ≤ espProtTfmUnused
  · rw [if_neg hprot, if_pos htfm] at hv; cases hv; exact ⟨.refl e, rfl⟩
  simp only [if_neg hprot, if_neg htfm, hL, ok_bind, bind_eq_ok] at hv
  obtain ⟨h, -, hv⟩ := hv
  by_cases htree : e.espProtTfm = espProtTfmTree
  · simp only [if_pos htree, bind_eq_ok] at hv
    obtain ⟨_, -, _, -, _, -, _, -, _, -, hv⟩ := hv
    split at hv
    · cases hv; exact ⟨.refl e, rfl⟩
    rcases finishVerify_cases hv with ⟨-, rfl⟩ | ⟨-, active, next, -, hn, hset, htfm'⟩
    · exact ⟨.refl _, rfl⟩
    · have hlen := hnext next (List.getElem?_mem hn)
      exact ⟨.set hset fun _ _ ↦ .inr ⟨next, hn, .of_take (take_memcpySlot _ _ _ hlen)⟩, htfm'⟩
  rw [if_neg htree] at hv
  split at hv
  · simp only [bind_eq_ok] at hv
    obtain ⟨active, hactive, next, hnext', hv⟩ := hv
    rcases hver : espProtVerifyHchainElement hash L active next pkt.token (u32Sub pkt.seq e.seqNo)
      with ⟨err, active'⟩
    rw [hver] at hv
    dsimp only at hv
    split at hv
    · cases hv; exact ⟨.refl e, rfl⟩
    simp only [bind_eq_ok] at hv
    obtain ⟨aa, haa, e1, ht, hf⟩ := hv
    obtain ⟨hb, rfl⟩ := trackCumulative_eq ht
    have hactive := arrayGet_eq_ok.mp hactive
    have hset := arraySet_eq_ok haa
    rcases espProtVerifyHchainElement_nonneg hver (by omega) with
      ⟨rfl, rfl, k, -, -, hk⟩ | ⟨rfl, rfl, k, -, -, hk⟩
    · rcases finishVerify_cases hf with ⟨-, rfl⟩ | ⟨h0, -⟩
      · refine ⟨.set hset fun a ha ↦ .inl ?_, rfl⟩
        rw [hactive] at ha
        cases ha
        exact .memcpySlot htoken hk
      · omega
    · rcases finishVerify_cases hf with ⟨h0, -⟩ | ⟨-, active1, next1, -, -, hchange, htfm'⟩
      · omega
      · have hswitch : e'.activeAnchors =
            e.activeAnchors.set h (memcpySlot active1 pkt.token L) := by
          rw [hchange]
          simp only [hset, List.set_set, Bool.false_eq_true, ite_false]
        exact ⟨.set hswitch fun _ _ ↦ .inr ⟨next, arrayGet_eq_ok.mp hnext', .memcpySlot htoken hk⟩,
          htfm'⟩
  split at hv
  · simp only [bind_eq_ok] at hv
    obtain ⟨_, -, _, -, hv⟩ := hv
    split at hv
    · obtain ⟨e'', ht, he⟩ := map_eq_ok.mp hv
      cases he
      obtain ⟨hb, rfl⟩ := trackCumulative_eq ht
      exact ⟨.of_activeAnchors rfl, rfl⟩
    · cases hv; exact ⟨.refl e, rfl⟩
  · cases hv; exact ⟨.refl e, rfl⟩

/-! ### A whole flow -/

/-- Whatever packets arrive, in whatever order, and whatever sequence number the caller stores
before each, the active anchor of every chain after the run is linked to the chain's active
anchor before the run or to its next anchor; the next anchors and the transform stay in
place. -/
theorem verifyRun_activeLinked {fw : FwGlobals} {hash : Bytes → Bytes}
    {verifyHtreeElement : HtreeElementVerify} {L : Nat} {run : List (Nat × EspPacket)}
    {e e' : EspTuple} {rs : List Int} (hhash : ∀ x, (hash x).length = L)
    (hrun : verifyRun fw hash verifyHtreeElement e run = .ok (rs, e'))
    (hL : resolveHashLength fw e.espProtTfm = .ok L) (htoken : ∀ p ∈ run, L ≤ p.2.token.length)
    (hnext : ∀ n ∈ e.nextAnchors, L ≤ n.length) :
    ActiveLinked hash L e e' ∧ e'.nextAnchors = e.nextAnchors ∧ e'.espProtTfm = e.espProtTfm := by
  induction run generalizing e rs with
  | nil =>
    cases hrun
    exact ⟨.refl _, rfl, rfl⟩
  | cons step run ih =>
    obtain ⟨seqNo, pkt⟩ := step
    simp only [verifyRun, bind_eq_ok] at hrun
    obtain ⟨⟨r, e₁⟩, hv, ⟨rs', e₂⟩, hrest, hres⟩ := hrun
    cases hres
    have hLs : resolveHashLength fw ({ e with seqNo } : EspTuple).espProtTfm = .ok L := hL
    have hnexts : ∀ n ∈ ({ e with seqNo } : EspTuple).nextAnchors, L ≤ n.length := hnext
    obtain ⟨hlink₁, htfm₁⟩ :=
      espProtConntrackVerify_activeLinked hv hLs (htoken _ (List.mem_cons_self _ _)) hnexts
    have hlink₁ : ActiveLinked hash L e e₁ := hlink₁
    have hnext₁ : e₁.nextAnchors = e.nextAnchors := by
      have hsame := espProtConntrackVerify_nextAnchors hv
      exact hsame
    have hL₁ : resolveHashLength fw e₁.espProtTfm = .ok L := htfm₁.symm ▸ hL
    obtain ⟨hlink₂, hnext₂, htfm₂⟩ := ih hrest hL₁
      (fun p hp ↦ htoken p (List.mem_cons_of_mem _ hp)) (hnext₁.symm ▸ hnext)
    exact ⟨hlink₁.trans hhash hlink₂ hnext₁, hnext₂.trans hnext₁, htfm₂.trans htfm₁⟩

/-- One packet of a PLAIN flow and a token two hashes before the active anchor: the run keeps
the token linked to the anchor. -/
theorem verifyRun_plainToken :
    ActiveLinked (fun x ↦ [x.headD 0 + 1]) 1 chainTuple
        { chainTuple with activeAnchors := [[3]] } ∧
      ({ chainTuple with activeAnchors := [[3]] } : EspTuple).nextAnchors =
        chainTuple.nextAnchors ∧
      ({ chainTuple with activeAnchors := [[3]] } : EspTuple).espProtTfm =
        chainTuple.espProtTfm :=
  @verifyRun_activeLinked chainFw _ (fun _ _ _ _ _ _ _ ↦ 0) 1 [(0, ⟨2, [3], [], []⟩)] _ _ [0]
    (fun _ ↦ rfl) rfl rfl (by decide) (by decide)

/-! ### An honest PLAIN sender -/

/-- Element `i` of a hash chain of `n` links built from `seed`: element `0` is the anchor, `n`
hashes of the seed, and each later element is one hash fewer, up to the seed itself. A sender
releases the elements after the anchor one per packet. -/
def chainElement (hash : Bytes → Bytes) (seed : Bytes) (n i : Nat) : Bytes :=
  hash^[n - i] seed

/-- The packets of an honest PLAIN sender that reach the firewall, each paired with the sequence
number of the packet before it that arrived: the packet with sequence number `seq0 + i` carries
element `i` of the chain, and `received` lists the elements that arrive, in order. -/
def honestRun (hash : Bytes → Bytes) (seed : Bytes) (n seq0 : Nat) :
    Nat → List Nat → List (Nat × EspPacket)
  | _, [] => []
  | last, i :: received =>
    (seq0 + last, ⟨seq0 + i, chainElement hash seed n i, [], []⟩) ::
      honestRun hash seed n seq0 i received

theorem iterate_chainElement (hash : Bytes → Bytes) (seed : Bytes) {n i j : Nat} (hij : i ≤ j)
    (hjn : j ≤ n) :
    hash^[j - i] (chainElement hash seed n j) = chainElement hash seed n i := by
  rw [chainElement, chainElement, ← Function.iterate_add_apply]
  congr 1
  omega

theorem length_chainElement {hash : Bytes → Bytes} {seed : Bytes} {L : Nat}
    (hhash : ∀ x, (hash x).length = L) (hseed : seed.length = L) (n i : Nat) :
    (chainElement hash seed n i).length = L := by
  unfold chainElement
  cases n - i with
  | zero => exact hseed
  | succ k => rw [Function.iterate_succ_apply', hhash]

theorem u32Sub_of_le {a b : Nat} (hb : b ≤ a) (ha : a < 2 ^ 32) : u32Sub a b = a - b := by
  rw [u32Sub, Nat.mod_eq_of_lt ha, Nat.mod_eq_of_lt (lt_of_le_of_lt hb ha)]
  omega

/-- A PLAIN packet inside the window whose token reaches the active anchor in `k` hashes, `k`
within the window, is accepted and its token becomes the active anchor. -/
theorem espProtConntrackVerify_plain_accept {fw : FwGlobals} {hash : Bytes → Bytes}
    {verifyHtreeElement : HtreeElementVerify} {pkt : EspPacket} {e : EspTuple} {L k : Nat}
    {a : Bytes} (hprot : fw.hipEspProtection = true) (htfm : e.espProtTfm = espProtTfmPlain)
    (hL : resolveHashLength fw espProtTfmPlain = .ok L) (hone : e.numHchains = 1)
    (hactive : e.activeAnchors[0]? = some a) (hnext : 0 < e.nextAnchors.length)
    (hwindow : u32Sub pkt.seq e.seqNo ≤ toUnsigned fw.windowSize) (hk : 0 < k)
    (hkw : k ≤ u32Sub pkt.seq e.seqNo)
    (hreach : (hash^[k] (pkt.token.take L)).take L = a.take L) :
    espProtConntrackVerify fw hash verifyHtreeElement pkt e =
      .ok (0, { e with activeAnchors := e.activeAnchors.set 0 (memcpySlot a pkt.token L) }) := by
  have hlt : 0 < e.activeAnchors.length := (List.getElem?_eq_some_iff.mp hactive).1
  have hget : arrayGet e.activeAnchors 0 = .ok a := arrayGet_eq_ok.mpr hactive
  have hplain : ¬espProtTfmPlain ≤ espProtTfmUnused := by decide
  have hnotTree : espProtTfmPlain ≠ espProtTfmTree := by decide
  have hnotCumul : ¬(espProtTfmPlain = espProtTfmCumulative ∨
      espProtTfmPlain = espProtTfmParaCumul) := by decide
  have hchain : activeHchain pkt.seq e.numHchains = .ok 0 := by
    simp [activeHchain, hone, Nat.mod_one]
  rw [espProtConntrackVerify, if_neg (by simp [hprot]), htfm, if_neg hplain, hL, ok_bind, hchain,
    ok_bind, if_neg hnotTree, if_pos ⟨lt_of_lt_of_le hk hkw, hwindow⟩, hget, ok_bind,
    arrayGet_of_lt _ _ hnext, ok_bind, espProtVerifyHchainElement_accept hk hkw hreach]
  dsimp only
  rw [if_neg (lt_irrefl 0), arraySet_of_lt _ _ _ hlt, ok_bind]
  simp only [trackCumulative, if_neg hnotCumul, pure_bind, finishVerify, lt_irrefl, ite_false]
  rfl

/-- An honest PLAIN flow is accepted: when the elements of the chain behind the active anchor
arrive in order, each no more than the window after the one that arrived before it, every
packet is accepted and the active anchor ends at the last element received. -/
theorem verifyRun_honestRun {fw : FwGlobals} {hash : Bytes → Bytes}
    {verifyHtreeElement : HtreeElementVerify} {seed : Bytes} {n seq0 L : Nat}
    (hhash : ∀ x, (hash x).length = L) (hseed : seed.length = L)
    (hprot : fw.hipEspProtection = true) (hL : resolveHashLength fw espProtTfmPlain = .ok L)
    (hwrap : seq0 + n < 2 ^ 32) {received : List Nat} {e : EspTuple} {last : Nat} {a : Bytes}
    (htfm : e.espProtTfm = espProtTfmPlain) (hone : e.numHchains = 1)
    (hnext : 0 < e.nextAnchors.length) (hactive : e.activeAnchors[0]? = some a)
    (ha : a.take L = chainElement hash seed n last)
    (hgaps : received.Chain (fun i j ↦ i < j ∧ j - i ≤ toUnsigned fw.windowSize) last)
    (hn : ∀ i ∈ received, i ≤ n) :
    ∃ e', verifyRun fw hash verifyHtreeElement e (honestRun hash seed n seq0 last received) =
        .ok (received.map fun _ ↦ 0, e') ∧
      ∃ a', e'.activeAnchors[0]? = some a' ∧
        a'.take L = chainElement hash seed n (received.getLastD last) := by
  induction received generalizing e last a with
  | nil => exact ⟨e, rfl, a, hactive, ha⟩
  | cons i received ih =>
    obtain ⟨⟨hlast, hwindow⟩, hgaps⟩ := List.chain_cons.mp hgaps
    have hi : i ≤ n := hn i (List.mem_cons_self _ _)
    have hlen := length_chainElement hhash hseed n i
    have hsub : u32Sub (seq0 + i) (seq0 + last) = i - last :=
      (u32Sub_of_le (by omega) (by omega)).trans (by omega)
    have hreach : (hash^[i - last] ((chainElement hash seed n i).take L)).take L = a.take L := by
      rw [List.take_of_length_le hlen.le, iterate_chainElement hash seed hlast.le hi, ha,
        List.take_of_length_le (length_chainElement hhash hseed n last).le]
    have hlt : 0 < e.activeAnchors.length := (List.getElem?_eq_some_iff.mp hactive).1
    have hv := @espProtConntrackVerify_plain_accept fw hash verifyHtreeElement
      ⟨seq0 + i, chainElement hash seed n i, [], []⟩ { e with seqNo := seq0 + last } L (i - last) a
      hprot htfm hL hone hactive hnext (hsub ▸ hwindow) (by omega) hsub.ge hreach
    obtain ⟨e', hrun, a', ha', hlast'⟩ := @ih
      { e with seqNo := seq0 + last,
               activeAnchors := e.activeAnchors.set 0 (memcpySlot a (chainElement hash seed n i) L) }
      i (memcpySlot a (chainElement hash seed n i) L) htfm hone hnext (List.getElem?_set_self hlt)
      (by rw [take_memcpySlot _ _ _ hlen.ge, List.take_of_length_le hlen.le]) hgaps
      (fun j hj ↦ hn j (List.mem_cons_of_mem _ hj))
    refine ⟨e', ?_, a', ha', by rwa [List.getLastD_cons]⟩
    simp only [honestRun, verifyRun, hv, ok_bind, hrun, List.map_cons]
    rfl

/-- A chain of three links from the seed `[0]` whose second element is lost: the first and the
third are accepted, and the active anchor ends at the seed. -/
theorem verifyRun_lostPacket :
    ∃ e', verifyRun chainFw (fun x ↦ [x.headD 0 + 1]) (fun _ _ _ _ _ _ _ ↦ 0)
        { chainTuple with activeAnchors := [[3]] }
        (honestRun (fun x ↦ [x.headD 0 + 1]) [0] 3 0 0 [1, 3]) = .ok ([1, 3].map fun _ ↦ 0, e') ∧
      ∃ a', e'.activeAnchors[0]? = some a' ∧
        a'.take 1 = chainElement (fun x ↦ [x.headD 0 + 1]) [0] 3 ([1, 3].getLastD 0) :=
  @verifyRun_honestRun chainFw (fun x ↦ [x.headD 0 + 1]) (fun _ _ _ _ _ _ _ ↦ 0) [0] 3 0 1
    (fun _ ↦ rfl) rfl rfl rfl (by decide) [1, 3] { chainTuple with activeAnchors := [[3]] } 0 [3]
    rfl rfl (by decide) rfl rfl (.cons (by decide) (.cons (by decide) .nil)) (by decide)

end Hipl.Hipfw
