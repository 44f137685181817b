import Hipl.Hipfw.Conntrack.Cache
import Hipl.Hipfw.Config

/-!
# Verifying the token of an ESP packet

`esp_prot_conntrack_verify` checks the token an ESP packet carries after its header against the
esp_tuple of its flow. The chain the packet belongs to is its sequence number minus one modulo
the number of parallel chains. In the hash chain modes the token must hash, within the window
of sequence numbers since the last packet, to the active anchor of that chain, or to its next
anchor, which switches the chain to the next anchor. In the cumulative modes a packet behind
the window is still accepted when its hash was announced by a later packet, and each accepted
packet announces hashes of earlier packets into the ring buffer.

The arithmetic is the code's: sequence numbers are 32-bit and subtract modulo `2 ^ 32`, the
window and the ring buffer size are converted to unsigned, and the chain index is the remainder
of a `long` division, undefined for zero chains (`activeHchain`).

Scope. The hash function is a parameter. `esp_prot_verify_hchain_element` and
`esp_prot_verify_htree_element` are in esp_prot_common.c, which is not among the sources: the
first is `espProtVerifyHchainElement`, the second a parameter. The packet is given by the fields
the function reads (`EspPacket`).

`espProtConntrackVerify_nextAnchors` says that no call changes the next anchors: after the
switch to the next anchor of a chain, the same next anchor stays in place.
-/

set_option autoImplicit false
set_option relaxedAutoImplicit false

namespace Hipl.Hipfw

open Hipl.Wire Hipl.EspProt

/-- What `esp_prot_conntrack_verify` reads of an ESP packet: `ntohl(esp->esp_seq)`, the token
after the ESP header, the cumulative items after the token, and the packet the cumulative mode
hashes. -/
structure EspPacket where
  seq : Nat
  token : Bytes
  cumulative : List EspCumulativeItem
  bytes : Bytes
  deriving DecidableEq, Repr

/-- `a - b` on `uint32_t`. -/
def u32Sub (a b : Nat) : Nat :=
  (a % 2 ^ 32 + 2 ^ 32 - b % 2 ^ 32) % 2 ^ 32

/-- An `int` converted to `unsigned`. -/
def toUnsigned (n : Int) : Nat :=
  (n % 2 ^ 32).toNat

/-- `(current_seq - 1) % esp_tuple->num_hchains`: the unsigned difference is converted to
`long`, and the remainder of a non-negative dividend is taken modulo the divisor's absolute
value; a zero divisor is undefined. -/
def activeHchain (seq : Nat) (numHchains : Int) : Except Fault Nat :=
  if numHchains = 0 then .error .divByZero
  else .ok (u32Sub seq 1 % numHchains.natAbs)

/-- `x % ring_buffer_size` for an unsigned `x`: the size is converted to unsigned. -/
def ringIndex (x : Nat) (ringBufferSize : Int) : Except Fault Nat :=
  if toUnsigned ringBufferSize = 0 then .error .divByZero
  else .ok (x % 2 ^ 32 % toUnsigned ringBufferSize)

/-- The values `H(token), H(H(token)), ...` a window of `n` sequence numbers compares. -/
def hchainHashes (hash : Bytes → Bytes) (token : Bytes) : Nat → List Bytes
  | 0 => []
  | n + 1 => hash token :: hchainHashes hash (hash token) n

/-- Modelled from the spec: `esp_prot_verify_hchain_element`, which is not among the sources.
It accepts (`0`) when one of `H^k(token)`, `1 ≤ k ≤ numVerify`, is the active anchor, and then
stores the token as the active anchor; otherwise it reports an anchor change (`1`) when one of
them is the next anchor; otherwise it rejects (`-1`). Returns the verdict and the active anchor
afterwards. -/
def espProtVerifyHchainElement (hash : Bytes → Bytes) (hashLength : Nat)
    (active next token : Bytes) (numVerify : Nat) : Int × Bytes :=
  let hashes := hchainHashes hash (token.take hashLength) numVerify
  if hashes.any (slotEq · active hashLength) then (0, memcpySlot active token hashLength)
  else if hashes.any (slotEq · next hashLength) then (1, active)
  else (-1, active)

/-- `esp_prot_verify_htree_element(...) >= 0` read as the verdict, for the active anchor, the
next anchor, the active root and its length, the next root and its length, and the token. -/
abbrev HtreeElementVerify :=
  Bytes → Bytes → Option Bytes → Nat → Option Bytes → Nat → Bytes → Int

/-- Item `i` of the cumulative items after the token; past the end of the packet the read is
out of the packet. -/
def cumulativeItem (pkt : EspPacket) (i : Nat) : Except Fault EspCumulativeItem :=
  match pkt.cumulative[i]? with
  | some it => .ok it
  | none => .error .readPastParam

/-- The body of the loop that keeps the ring buffer filled with fresh hashes: item `i` of the
packet replaces the buffer entry at its sequence number when it is newer. -/
def trackCumulativeItem (fw : FwGlobals) (pkt : EspPacket) (i : Nat) (e : EspTuple) :
    Except Fault EspTuple := do
  let item ← cumulativeItem pkt i
  let idx ← ringIndex item.seq fw.ringBufferSize
  let slot ← arrayGet e.hashBuffer idx
  if slot.seq < item.seq then
    let hashBuffer ← arraySet e.hashBuffer idx item
    pure { e with hashBuffer }
  else pure e

/-- The tracking of announced hashes, made in the cumulative modes for every accepted packet. -/
def trackCumulative (fw : FwGlobals) (pkt : EspPacket) (e : EspTuple) : Except Fault EspTuple :=
  if e.espProtTfm = espProtTfmCumulative ∨ e.espProtTfm = espProtTfmParaCumul then
    forUpTo (fw.numLinearElements + fw.numRandomElements) (trackCumulativeItem fw pkt) e
  else pure e

/-- The switch of chain `h` to its next anchor after a verdict `err > 0`: the active anchor
becomes the next anchor (hash trees) or the verified token (hash chains), the first active
anchor becomes the next anchor, and the next root becomes the active root. -/
def anchorChange (useHashTrees : Bool) (hashLength h : Nat) (token : Bytes) (e : EspTuple) :
    Except Fault EspTuple := do
  let next ← arrayGet e.nextAnchors h
  let active ← arrayGet e.activeAnchors h
  let activeAnchors ← arraySet e.activeAnchors h
    (memcpySlot active (if useHashTrees then next else token) hashLength)
  let first ← arrayGet e.firstActiveAnchors h
  let firstActiveAnchors ← arraySet e.firstActiveAnchors h (memcpySlot first next hashLength)
  let nextRoot ← arrayGet e.nextRoots h
  let activeRoots ← arraySet e.activeRoots h nextRoot
  let nextRoots ← arraySet e.nextRoots h none
  let activeRootLength ← arrayGet e.nextRootLength h
  let nextRootLength ← arraySet e.nextRootLength h 0
  pure { e with activeAnchors, firstActiveAnchors, activeRoots, nextRoots, activeRootLength,
                nextRootLength }

/-- The end of `esp_prot_conntrack_verify` for a verdict that is not an error: an anchor
change for `err > 0`, and `0` returned. -/
def finishVerify (useHashTrees : Bool) (hashLength h : Nat) (token : Bytes) (err : Int)
    (e : EspTuple) : Except Fault (Int × EspTuple) :=
  if 0 < err then (fun e ↦ (0, e)) <$> anchorChange useHashTrees hashLength h token e
  else pure (err, e)

/-- `esp_prot_conntrack_verify`: the return value and the esp_tuple afterwards, for an ESP
packet of the flow of `e`. -/
def espProtConntrackVerify (fw : FwGlobals) (hash : Bytes → Bytes)
    (verifyHtreeElement : HtreeElementVerify) (pkt : EspPacket) (e : EspTuple) :
    Except Fault (Int × EspTuple) :=
  if !fw.hipEspProtection then pure (0, e) else
  if e.espProtTfm ≤ espProtTfmUnused then pure (0, e) else do
  let hashLength ← resolveHashLength fw e.espProtTfm
  let h ← activeHchain pkt.seq e.numHchains
  if e.espProtTfm = espProtTfmTree then do
    let active ← arrayGet e.activeAnchors h
    let next ← arrayGet e.nextAnchors h
    let activeRoot ← arrayGet e.activeRoots h
    let nextRoot ← arrayGet e.nextRoots h
    let nextRootLength ← arrayGet e.nextRootLength h
    let err := verifyHtreeElement active next activeRoot e.activeRootLength nextRoot
      nextRootLength pkt.token
    if err < 0 then pure (-1, e) else finishVerify true hashLength h pkt.token err e
  else
    let numVerify := u32Sub pkt.seq e.seqNo
    if 0 < numVerify ∧ numVerify ≤ toUnsigned fw.windowSize then do
      let active ← arrayGet e.activeAnchors h
      let next ← arrayGet e.nextAnchors h
      let (err, active') := espProtVerifyHchainElement hash hashLength active next pkt.token
        numVerify
      if err < 0 then pure (-1, e) else do
      let activeAnchors ← arraySet e.activeAnchors h active'
      let e ← trackCumulative fw pkt { e with activeAnchors }
      finishVerify false hashLength h pkt.token err e
    else if (e.espProtTfm = espProtTfmCumulative ∨ e.espProtTfm = espProtTfmParaCumul) ∧
        u32Sub e.seqNo pkt.seq ≠ 0 then do
      let idx ← ringIndex pkt.seq fw.ringBufferSize
      let cached ← arrayGet e.hashBuffer idx
      if cached.seq = pkt.seq % 2 ^ 32 ∧ slotEq cached.packetHash (hash pkt.bytes) hashLength then
        (fun e ↦ (0, e)) <$> trackCumulative fw pkt e
      else pure (-1, e)
    else pure (-1, e)

/-! ### What a verification can change -/

theorem anchorChange_nextAnchors {useHashTrees : Bool} {hashLength h : Nat} {token : Bytes}
    {e e' : EspTuple} (hc : anchorChange useHashTrees hashLength h token e = .ok e') :
    e'.nextAnchors = e.nextAnchors := by
  simp only [anchorChange, bind_eq_ok, pure_eq_ok, Except.ok.injEq] at hc
  obtain ⟨_, -, _, -, _, -, _, -, _, -, _, -, _, -, _, -, _, -, _, -, rfl⟩ := hc
  rfl

theorem trackCumulative_nextAnchors {fw : FwGlobals} {pkt : EspPacket} {e e' : EspTuple}
    (ht : trackCumulative fw pkt e = .ok e') : e'.nextAnchors = e.nextAnchors := by
  unfold trackCumulative at ht
  split at ht
  · refine forUpTo_inv (fun x : EspTuple ↦ x.nextAnchors = e.nextAnchors) ?_ ht rfl
    intro i s s' hs hp
    simp only [trackCumulativeItem, bind_eq_ok] at hs
    obtain ⟨_, -, _, -, _, -, hs⟩ := hs
    split at hs
    · simp only [bind_eq_ok, pure_eq_ok, Except.ok.injEq] at hs
      obtain ⟨_, -, rfl⟩ := hs
      exact hp
    · cases hs; exact hp
  · cases ht; rfl

theorem finishVerify_nextAnchors {useHashTrees : Bool} {hashLength h : Nat} {token : Bytes}
    {err r : Int} {e e' : EspTuple}
    (hf : finishVerify useHashTrees hashLength h token err e = .ok (r, e')) :
    e'.nextAnchors = e.nextAnchors := by
  unfold finishVerify at hf
  split at hf
  · obtain ⟨e'', hc, he⟩ := map_eq_ok.mp hf
    cases he
    exact anchorChange_nextAnchors hc
  · cases hf; rfl

/-- No call of `esp_prot_conntrack_verify` changes the next anchors of the esp_tuple, also not
the switch to the next anchor. -/
theorem espProtConntrackVerify_nextAnchors {fw : FwGlobals} {hash : Bytes → Bytes}
    {verifyHtreeElement : HtreeElementVerify} {pkt : EspPacket} {e e' : EspTuple} {r : Int}
    (hv : espProtConntrackVerify fw hash verifyHtreeElement pkt e = .ok (r, e')) :
    e'.nextAnchors = e.nextAnchors := by
  unfold espProtConntrackVerify at hv
  by_cases hprot : (!fw.hipEspProtection) = true
  · rw [if_pos hprot] at hv; cases hv; rfl
  by_cases htfm : e.espProtTfm ≤ espProtTfmUnused
  · rw [if_neg hprot, if_pos htfm] at hv; cases hv; rfl
  simp only [if_neg hprot, if_neg htfm, bind_eq_ok] at hv
  obtain ⟨hashLength, -, h, -, hv⟩ := hv
  by_cases htree : e.espProtTfm = espProtTfmTree
  · simp only [if_pos htree, bind_eq_ok] at hv
    obtain ⟨_, -, _, -, _, -, _, -, _, -, hv⟩ := hv
    split at hv
    · cases hv; rfl
    · exact finishVerify_nextAnchors hv
  rw [if_neg htree] at hv
  split at hv
  · simp only [bind_eq_ok] at hv
    obtain ⟨_, -, _, -, hv⟩ := hv
    split at hv
    · cases hv; rfl
    simp only [bind_eq_ok] at hv
    obtain ⟨_, -, e1, ht, hf⟩ := hv
    rw [finishVerify_nextAnchors hf, trackCumulative_nextAnchors ht]
  split at hv
  · simp only [bind_eq_ok] at hv
    obtain ⟨_, -, _, -, hv⟩ := hv
    split at hv
    · obtain ⟨e'', ht, he⟩ := map_eq_ok.mp hv
      cases he
      exact trackCumulative_nextAnchors ht
    · cases hv; rfl
  · cases hv; rfl

/-- With no parallel chain configured, every packet of a protected flow divides by zero. -/
theorem espProtConntrackVerify_zero_hchains {fw : FwGlobals} {hash : Bytes → Bytes}
    {verifyHtreeElement : HtreeElementVerify} {pkt : EspPacket} {e : EspTuple} {hashLength : Nat}
    (hprot : fw.hipEspProtection = true) (htfm : espProtTfmUnused < e.espProtTfm)
    (hlen : resolveHashLength fw e.espProtTfm = .ok hashLength) (hzero : e.numHchains = 0) :
    espProtConntrackVerify fw hash verifyHtreeElement pkt e = .error .divByZero := by
  simp [espProtConntrackVerify, hprot, htfm, hlen, activeHchain, hzero]

/-! ### A replayed token -/

/-- A firewall with the PLAIN transform of hash length 1 and a window of 64. -/
def chainFw : FwGlobals :=
  ⟨true, 1, 64, 0, 0, 0, [⟨0, false⟩, ⟨1, true⟩, ⟨0, false⟩, ⟨0, false⟩, ⟨0, false⟩, ⟨0, false⟩]⟩

/-- A hash on one-byte values without a cycle shorter than 256. -/
def succByte (b : Bytes) : Bytes := b.map (· + 1)

/-- A PLAIN flow with one chain, active anchor `[5]` and next anchor `[10]`, no packet seen. -/
def chainTuple : EspTuple :=
  { EspTuple.empty ⟨1, 6, 5, 2, 1⟩ with
    espProtTfm := 1, numHchains := 1, activeAnchors := [[5]], firstActiveAnchors := [[5]],
    nextAnchors := [[10]] }

/-- The packet with the given sequence number carrying the token `[9]`, the first value of the
next chain. -/
def tokenPacket (seq : Nat) : EspPacket := ⟨seq, [9], [], []⟩

/-- The token `[9]` switches the chain to the next anchor `[10]` and is accepted; sent again it
switches the chain to `[10]` a second time and is accepted again. -/
theorem replayedToken_changes_anchor_twice :
    espProtVerifyHchainElement succByte 1 [5] [10] [9] 1 = (1, [5]) ∧
      espProtConntrackVerify chainFw succByte (fun _ _ _ _ _ _ _ ↦ 0) (tokenPacket 1) chainTuple =
        .ok (0, { chainTuple with activeAnchors := [[9]], firstActiveAnchors := [[10]] }) ∧
      espProtVerifyHchainElement succByte 1 [9] [10] [9] 2 = (1, [9]) ∧
      espProtConntrackVerify chainFw succByte (fun _ _ _ _ _ _ _ ↦ 0) (tokenPacket 2)
          { chainTuple with activeAnchors := [[9]], firstActiveAnchors := [[10]] } =
        .ok (0, { chainTuple with activeAnchors := [[9]], firstActiveAnchors := [[10]] }) :=
  ⟨rfl, rfl, rfl, rfl⟩

/-! ### A configuration without chains -/

/-- A configuration file selecting PARALLEL with zero parallel hash chains. -/
def zeroHchainsConfig : ConfigT := fun p ↦
  if p = pathTokenTransform then some 2 else if p = pathNumParallelHchains then some 0 else none

/-- The token configuration accepts zero chains, and the first packet of a flow set up with
that count divides by zero. -/
theorem zeroHchainsConfig_divByZero :
    espProtTokenConfig (some zeroHchainsConfig) ⟨0, 0, 0, 0, 0, 0, 0⟩ =
        (0, ⟨2, 20, 16, 0, 0, 0, 0⟩) ∧
      espProtConntrackVerify chainFw succByte (fun _ _ _ _ _ _ _ ↦ 0) (tokenPacket 1)
          { chainTuple with
            numHchains := (espProtTokenConfig (some zeroHchainsConfig)
              ⟨0, 0, 0, 0, 0, 0, 0⟩).2.numParallelHchains } =
        .error .divByZero :=
  ⟨by decide, rfl⟩

end Hipl.Hipfw
