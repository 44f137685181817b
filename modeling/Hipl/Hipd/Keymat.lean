import Hipl.Hipd.Collision

/-!
# The KEYMAT of the base exchange

`produce_keying_material` turns the Diffie-Hellman secret, the two HITs and the puzzle values
I and J into the eight keys of a host association. It selects the HIP and ESP transforms of the
received message, adds up the key lengths they need (`keymat_len_min`), rounds that up to whole
SHA-1 blocks (`keymat_len`), derives that many bytes of KEYMAT (`hip_make_keymat`), and draws
the keys from it one after the other. Which host takes which key depends on which HIT is the
greater. Last it keeps the KEYMAT cursor for later rekeying: the index of the next byte, the
index of the block that holds it, and a copy of that block, `current_keymat_K`.

The model splits the function at the point where every check has passed: `deriveKeys` is what
follows, from the KEYMAT on. A message that passes the checks comes to `deriveKeys`
(`produceKeyingMaterial_eq`), and a run that returns 0 went through it
(`produceKeyingMaterial_eq_ok_zero`), so the results about the keys are results about
`deriveKeys`.

Two hosts of a base exchange derive the same KEYMAT, since the HITs go into it in order
(`hipMakeKeymat_comm`), and draw the same slices of it; the greater HIT takes the first key of
each pair as outgoing and the lesser as incoming (`assignKeys_swap`), so each host's outgoing
keys are the other's incoming keys.

The KEYMAT cursor is right only when `keymat_len_min` is not a whole number of blocks: then
`keymat_calc_index` counts the blocks derived and `current_keymat_K` is the last of them
(`deriveKeys_keymatK`). When it is a whole number of blocks, nothing is rounded up, and the copy
reads the block after the last one, past the end of the buffer (`deriveKeys_wholeBlocks`).

Scope. keymat.c, keylen.c and the Diffie-Hellman code are not among the sources. The KEYMAT
and the draws follow the spec (§4.B); the key lengths of a transform suite, the transform
selection and the shared secret are parameters; SHA-1 is a function to 20-byte digests.
-/

set_option autoImplicit false
set_option relaxedAutoImplicit false

namespace Hipl.Hipd

open Hipl.Wire

/-- `HIP_AH_SHA_LEN`: the length of a SHA-1 digest, and of a KEYMAT block. -/
def hipAhShaLen : Nat := 20

/-- SHA-1 as a function to 20-byte digests; the hash itself is OpenSSL's. -/
structure Sha1 where
  digest : Bytes → Bytes
  length_digest : ∀ x, (digest x).length = hipAhShaLen

/-- The key lengths of keylen.c for a transform suite: `hip_transform_key_length`,
`hip_hmac_key_length`, `hip_enc_key_length` and `hip_auth_key_length_esp`. -/
structure KeyLengths where
  hipTransformKeyLength : Nat → Nat
  hipHmacKeyLength : Nat → Nat
  hipEncKeyLength : Nat → Nat
  hipAuthKeyLengthEsp : Nat → Nat

/-- What `produce_keying_material` calls outside the sources: the transform selection
(`hip_select_hip_transform`, `hip_select_esp_transform`, 0 when none is acceptable) on the
contents of the received transform parameters, SHA-1 and the key lengths. -/
structure KeymatCrypto where
  selectHipTransform : Bytes → Nat
  selectEspTransform : Bytes → Nat
  sha1 : Sha1
  keyLengths : KeyLengths

/-- The key lengths of one selected pair of transforms: the HIP encryption key of the HIP
transform, and the HMAC, ESP encryption and ESP authentication keys of the ESP transform. -/
structure SuiteKeyLengths where
  hip : Nat
  hmac : Nat
  esp : Nat
  auth : Nat
  deriving DecidableEq, Repr

/-- The key lengths of the HIP transform `hipTfm` and the ESP transform `espTfm`. -/
def KeyLengths.ofSuite (lens : KeyLengths) (hipTfm espTfm : Nat) : SuiteKeyLengths :=
  ⟨lens.hipTransformKeyLength hipTfm, lens.hipHmacKeyLength espTfm, lens.hipEncKeyLength espTfm,
    lens.hipAuthKeyLengthEsp espTfm⟩

/-- `keymat_len_min`: every key the base exchange draws, in the order they are drawn. -/
def SuiteKeyLengths.keymatLenMin (l : SuiteKeyLengths) : Nat :=
  l.hip + l.hmac + l.hip + l.hmac + l.esp + l.auth + l.esp + l.auth

/-- `esp_default_keymat_index`: the ESP keys come after the HIP keys. -/
def SuiteKeyLengths.espDefaultKeymatIndex (l : SuiteKeyLengths) : Nat :=
  l.hip + l.hmac + l.hip + l.hmac

/-- The lengths of the eight draws, in order. -/
def SuiteKeyLengths.draws (l : SuiteKeyLengths) : List Nat :=
  [l.hip, l.hmac, l.hip, l.hmac, l.esp, l.auth, l.esp, l.auth]

/-- `keymat_len`: `keymat_len_min` rounded up to whole blocks. -/
def keymatLen (keymatLenMin : Nat) : Nat :=
  if keymatLenMin % hipAhShaLen ≠ 0 then
    keymatLenMin + (hipAhShaLen - keymatLenMin % hipAhShaLen)
  else keymatLenMin

/-- The contents of the parameter at index `i`. -/
def paramContents (msg : HipCommon) (i : Nat) : Bytes :=
  ((msg.params[i]?).map HipTlv.contents).getD []

/-! ### KEYMAT and draws -/

/-- Modelled from the spec: block `n` of the KEYMAT, the SHA-1 digest of the Diffie-Hellman
secret, the two HITs lesser first, I, J and the block number (§4.B). -/
def keymatBlock (sha1 : Sha1) (kij : Bytes) (hit1 hit2 : Hit) (I J : Bytes) (n : Nat) : Bytes :=
  sha1.digest (kij ++ beBytes 16 (min hit1 hit2) ++ beBytes 16 (max hit1 hit2) ++ I ++ J ++
    [UInt8.ofNat n])

/-- Modelled from the spec: the first `n` blocks of the KEYMAT, K_1 to K_n, one after the
other (§4.B). -/
def keymatBlocks (sha1 : Sha1) (kij : Bytes) (hit1 hit2 : Hit) (I J : Bytes) : Nat → Bytes
  | 0 => []
  | n + 1 => keymatBlocks sha1 kij hit1 hit2 I J n ++ keymatBlock sha1 kij hit1 hit2 I J (n + 1)

/-- Modelled from the spec: `hip_make_keymat` into a buffer of `len` bytes, a whole number of
blocks (§4.B). -/
def hipMakeKeymat (sha1 : Sha1) (kij : Bytes) (hit1 hit2 : Hit) (I J : Bytes) (len : Nat) :
    Bytes :=
  keymatBlocks sha1 kij hit1 hit2 I J (len / hipAhShaLen)

/-- Modelled from the spec: `hip_keymat_draw_and_copy`, the `len` bytes of the KEYMAT from the
cursor `off` on, and the cursor after them: keys are drawn one after the other (§4.B). -/
def hipKeymatDraw (keymat : Bytes) (off len : Nat) : Except Fault (Bytes × Nat) :=
  if off + len ≤ keymat.length then .ok ((keymat.drop off).take len, off + len)
  else .error .outOfBounds

/-- The draws of `produce_keying_material`, one after the other from the cursor `off`. -/
def keymatDrawAll (keymat : Bytes) : Nat → List Nat → Except Fault (List Bytes)
  | _, [] => pure []
  | off, len :: lens => do
    let (key, off) ← hipKeymatDraw keymat off len
    let keys ← keymatDrawAll keymat off lens
    pure (key :: keys)

/-- Where the eight drawn keys go: the HIP encryption and HMAC keys of the greater HIT, the
same of the lesser, then the ESP encryption and authentication keys of the greater and of the
lesser. Both branches of `produce_keying_material` draw the same lengths in the same order;
the host with the greater HIT takes the keys of the greater HIT as outgoing. -/
def assignKeys (weAreHITg : Bool) : List Bytes → Except Fault HipKeys
  | [encG, hmacG, encL, hmacL, espG, authG, espL, authL] =>
    pure (if weAreHITg then ⟨encG, hmacG, espG, authG, encL, hmacL, espL, authL⟩
      else ⟨encL, hmacL, espL, authL, encG, hmacG, espG, authG⟩)
  | _ => .error .assertion

/-- `memcpy` of `len` bytes from offset `off` of a buffer, which must lie inside it. -/
def memRead (buf : Bytes) (off : Int) (len : Nat) : Except Fault Bytes :=
  if 0 ≤ off ∧ off.toNat + len ≤ buf.length then .ok ((buf.drop off.toNat).take len)
  else .error .outOfBounds

theorem memRead_natCast {buf : Bytes} {off len : Nat} (h : off + len ≤ buf.length) :
    memRead buf off len = .ok ((buf.drop off).take len) := by
  rw [memRead, if_pos ⟨by omega, by simpa using h⟩]
  simp

/-! ### `produce_keying_material` -/

/-- `esp_keymat_index`: the KEYMAT index of the ESP_INFO parameter, which an R1 does not carry,
and the default index without one. -/
def espKeymatIndexOf (msg : HipCommon) (espDefaultKeymatIndex : Nat) : Except Fault Nat :=
  match hipGetParam msg .espInfo with
  | some p => hipEspInfoKeymatIndex msg (some p)
  | none => pure espDefaultKeymatIndex

/-- The part of `produce_keying_material` after every check: the KEYMAT from the secret `kij`,
the HITs of the received message, I and J; the eight keys drawn from it; and the KEYMAT cursor,
with `current_keymat_K` copied out of the KEYMAT. -/
def deriveKeys (sha1 : Sha1) (l : SuiteKeyLengths) (ha : HipHa) (msg : HipCommon)
    (I J kij : Bytes) (espKeymatIndex : Nat) : Except Fault HipHa := do
  let keymat := hipMakeKeymat sha1 kij msg.hitSender msg.hitReceiver I J (keymatLen l.keymatLenMin)
  let weAreHITg := hipHitIsBigger msg.hitReceiver msg.hitSender
  let keys ← keymatDrawAll keymat 0 l.draws >>= assignKeys weAreHITg
  let currentKeymatIndex : UInt16 := UInt16.ofNat l.keymatLenMin
  let keymatCalcIndex : UInt8 := UInt8.ofNat (currentKeymatIndex.toNat / hipAhShaLen + 1)
  let currentKeymatK ← memRead keymat ((keymatCalcIndex.toNat - 1 : Int) * hipAhShaLen) hipAhShaLen
  pure { ha with
    keys := keys
    currentKeymatIndex := currentKeymatIndex
    keymatCalcIndex := keymatCalcIndex
    currentKeymatK := currentKeymatK
    espKeymatIndex := UInt16.ofNat espKeymatIndex
    dhSharedKey := kij }

/-- `produce_keying_material(ctx, I, J)`, with the host's Diffie-Hellman key `dh`: the shared
secret from the contents of the DIFFIE_HELLMAN parameter, `none` when its length is not
positive. The error codes are `-EINVAL` (-22) for a missing or unacceptable transform and a
failed secret, `-1` for an ESP_INFO whose KEYMAT index is not the default one, and `-ENOENT`
(-2) for a missing DIFFIE_HELLMAN. -/
def produceKeyingMaterial (crypto : KeymatCrypto) (dh : Bytes → Option Bytes)
    (ctx : HipPacketContext) (I J : Bytes) : Except Fault (Int × HipPacketContext) := do
  let msg := ctx.inputMsg
  let some pHip := hipGetParam msg .hipTransform | pure (-22, ctx)
  let hipTfm := crypto.selectHipTransform (paramContents msg pHip)
  if hipTfm = 0 then pure (-22, ctx) else
  let some pEsp := hipGetParam msg .espTransform | pure (-22, ctx)
  let espTfm := crypto.selectEspTransform (paramContents msg pEsp)
  if espTfm = 0 then pure (-22, ctx) else
  let l := crypto.keyLengths.ofSuite hipTfm espTfm
  let espDefaultKeymatIndex := l.espDefaultKeymatIndex % 2 ^ 16
  let espKeymatIndex ← espKeymatIndexOf msg espDefaultKeymatIndex
  if espKeymatIndex ≠ espDefaultKeymatIndex then pure (-1, ctx) else
  let some pDh := hipGetParam msg .diffieHellman | pure (-2, ctx)
  let some kij := dh (paramContents msg pDh) | pure (-22, ctx)
  let some ha := ctx.hadbEntry | throw .nullDeref
  let ha ← deriveKeys crypto.sha1 l ha msg I J kij espKeymatIndex
  pure (0, { ctx with hadbEntry := some ha })

/-- The checks of `produce_keying_material` on the received message pass: it carries a
HIP_TRANSFORM and an ESP_TRANSFORM from which the host selects `hipTfm` and `espTfm`, and a
DIFFIE_HELLMAN from which it computes the shared secret `kij`. -/
structure KeymatAccepts (crypto : KeymatCrypto) (dh : Bytes → Option Bytes) (msg : HipCommon)
    (hipTfm espTfm : Nat) (kij : Bytes) : Prop where
  hipTransform : ∃ p, hipGetParam msg .hipTransform = some p ∧
    crypto.selectHipTransform (paramContents msg p) = hipTfm
  espTransform : ∃ p, hipGetParam msg .espTransform = some p ∧
    crypto.selectEspTransform (paramContents msg p) = espTfm
  secret : ∃ p, hipGetParam msg .diffieHellman = some p ∧ dh (paramContents msg p) = some kij

/-! ### The KEYMAT -/

section Keymat

variable (sha1 : Sha1) (kij : Bytes) (hit1 hit2 : Hit) (I J : Bytes)

theorem length_keymatBlock (n : Nat) :
    (keymatBlock sha1 kij hit1 hit2 I J n).length = hipAhShaLen :=
  sha1.length_digest _

@[simp] theorem length_keymatBlocks (n : Nat) :
    (keymatBlocks sha1 kij hit1 hit2 I J n).length = n * hipAhShaLen := by
  induction n with
  | zero => rfl
  | succ n ih => simp [keymatBlocks, ih, length_keymatBlock, Nat.succ_mul]

/-- Block K_(k+1) of the KEYMAT lies at offset `k * HIP_AH_SHA_LEN`. -/
theorem keymatBlocks_block {k n : Nat} (hk : k < n) :
    ((keymatBlocks sha1 kij hit1 hit2 I J n).drop (k * hipAhShaLen)).take hipAhShaLen =
      keymatBlock sha1 kij hit1 hit2 I J (k + 1) := by
  induction n with
  | zero => omega
  | succ n ih =>
    have hlen := length_keymatBlocks sha1 kij hit1 hit2 I J n
    rcases Nat.lt_succ_iff_lt_or_eq.1 hk with hk | rfl
    · rw [keymatBlocks, List.drop_append_of_le_length (by rw [hlen]; exact Nat.mul_le_mul_right _ hk.le),
        List.take_append_of_le_length (by simp only [List.length_drop, hlen, hipAhShaLen]; omega),
        ih hk]
    · rw [keymatBlocks, List.drop_left' hlen,
        List.take_of_length_le (length_keymatBlock sha1 kij hit1 hit2 I J _).le]

theorem keymatLen_eq (m : Nat) :
    keymatLen m = if m % hipAhShaLen = 0 then m else (m / hipAhShaLen + 1) * hipAhShaLen := by
  unfold keymatLen hipAhShaLen
  split_ifs <;> omega

theorem length_hipMakeKeymat_keymatLen (m : Nat) :
    (hipMakeKeymat sha1 kij hit1 hit2 I J (keymatLen m)).length = keymatLen m := by
  rw [hipMakeKeymat, length_keymatBlocks, keymatLen_eq]
  unfold hipAhShaLen
  split_ifs <;> omega

end Keymat

/-! ### Draws -/

/-- Draws that fit into the KEYMAT all succeed, one key per length. -/
theorem keymatDrawAll_ok (keymat : Bytes) (lens : List Nat) {off : Nat}
    (h : off + lens.sum ≤ keymat.length) :
    ∃ keys, keymatDrawAll keymat off lens = .ok keys ∧ keys.length = lens.length := by
  induction lens generalizing off with
  | nil => exact ⟨[], rfl, rfl⟩
  | cons len lens ih =>
    simp only [List.sum_cons] at h
    obtain ⟨keys, hkeys, hlen⟩ := ih (show off + len + lens.sum ≤ keymat.length by omega)
    refine ⟨(keymat.drop off).take len :: keys, ?_, by simp [hlen]⟩
    simp [keymatDrawAll, hipKeymatDraw, show off + len ≤ keymat.length by omega, hkeys]

theorem assignKeys_ok (weAreHITg : Bool) {keys : List Bytes} (h : keys.length = 8) :
    ∃ k, assignKeys weAreHITg keys = .ok k := by
  match keys, h with
  | [_, _, _, _, _, _, _, _], _ => exact ⟨_, rfl⟩

section DeriveKeys

variable {sha1 : Sha1} {l : SuiteKeyLengths} {ha : HipHa} {msg : HipCommon} {I J kij : Bytes}
  {espKeymatIndex : Nat}

theorem SuiteKeyLengths.sum_draws (l : SuiteKeyLengths) : l.draws.sum = l.keymatLenMin := by
  simp [SuiteKeyLengths.draws, SuiteKeyLengths.keymatLenMin]
  omega

/-- The eight draws fit into the KEYMAT, rounded up as it is. -/
theorem deriveKeys_draws_ok (weAreHITg : Bool) :
    ∃ keys, (keymatDrawAll (hipMakeKeymat sha1 kij msg.hitSender msg.hitReceiver I J
      (keymatLen l.keymatLenMin)) 0 l.draws >>= assignKeys weAreHITg) = .ok keys := by
  have hfit : 0 + l.draws.sum ≤ (hipMakeKeymat sha1 kij msg.hitSender msg.hitReceiver I J
      (keymatLen l.keymatLenMin)).length := by
    rw [length_hipMakeKeymat_keymatLen, l.sum_draws, Nat.zero_add, keymatLen_eq]
    unfold hipAhShaLen
    split_ifs <;> omega
  obtain ⟨drawn, hdrawn, hlen⟩ := keymatDrawAll_ok _ _ hfit
  obtain ⟨keys, hkeys⟩ := assignKeys_ok weAreHITg (hlen.trans rfl)
  exact ⟨keys, by rw [hdrawn, ok_bind, hkeys]⟩

/-- `keymat_calc_index`, computed in `uint16_t` and `uint8_t`, is the block after
`keymat_len_min` while that stays below 255 blocks. -/
theorem keymatCalcIndex_toNat {m : Nat} (hlt : m < 5100) :
    (UInt8.ofNat ((UInt16.ofNat m).toNat / hipAhShaLen + 1)).toNat = m / hipAhShaLen + 1 := by
  rw [UInt16.toNat_ofNat_of_lt (by unfold UInt16.size; omega)]
  exact UInt8.toNat_ofNat_of_lt (by unfold UInt8.size hipAhShaLen; omega)

/-- `deriveKeys` writes the keys, the KEYMAT cursor, the ESP KEYMAT index and the shared secret,
and no other field of the host association. -/
theorem deriveKeys_frame {ha' : HipHa}
    (h : deriveKeys sha1 l ha msg I J kij espKeymatIndex = .ok ha') :
    ∃ keys currentKeymatK, ha' = { ha with
      keys := keys
      currentKeymatIndex := UInt16.ofNat l.keymatLenMin
      keymatCalcIndex := UInt8.ofNat ((UInt16.ofNat l.keymatLenMin).toNat / hipAhShaLen + 1)
      currentKeymatK := currentKeymatK
      espKeymatIndex := UInt16.ofNat espKeymatIndex
      dhSharedKey := kij } := by
  obtain ⟨keys, -, h⟩ := bind_eq_ok.1 h
  obtain ⟨currentKeymatK, -, h⟩ := bind_eq_ok.1 h
  cases h
  exact ⟨keys, currentKeymatK, rfl⟩

/-- When `keymat_len_min` is a whole number of blocks, `current_keymat_K` is copied from the
block past the end of the KEYMAT. -/
theorem deriveKeys_wholeBlocks (hmod : l.keymatLenMin % hipAhShaLen = 0)
    (hlt : l.keymatLenMin < 5100) :
    deriveKeys sha1 l ha msg I J kij espKeymatIndex = .error .outOfBounds := by
  obtain ⟨keys, hkeys⟩ : ∃ keys, (keymatDrawAll (hipMakeKeymat sha1 kij msg.hitSender
      msg.hitReceiver I J (keymatLen l.keymatLenMin)) 0 l.draws >>=
      assignKeys (hipHitIsBigger msg.hitReceiver msg.hitSender)) = .ok keys :=
    deriveKeys_draws_ok _
  simp only [deriveKeys, hkeys, ok_bind, keymatCalcIndex_toNat hlt]
  unfold memRead
  rw [if_neg]
  · rfl
  rw [length_hipMakeKeymat_keymatLen, keymatLen_eq, if_pos hmod]
  unfold hipAhShaLen at *
  omega

/-- Otherwise `keymat_calc_index` is the number of blocks the KEYMAT has, and `current_keymat_K`
is the last of them. -/
theorem deriveKeys_keymatK (hmod : l.keymatLenMin % hipAhShaLen ≠ 0)
    (hlt : l.keymatLenMin < 5100) :
    ∃ ha', deriveKeys sha1 l ha msg I J kij espKeymatIndex = .ok ha' ∧
      ha'.keymatCalcIndex.toNat = keymatLen l.keymatLenMin / hipAhShaLen ∧
      ha'.currentKeymatK = keymatBlock sha1 kij msg.hitSender msg.hitReceiver I J
        (keymatLen l.keymatLenMin / hipAhShaLen) := by
  obtain ⟨keys, hkeys⟩ : ∃ keys, (keymatDrawAll (hipMakeKeymat sha1 kij msg.hitSender
      msg.hitReceiver I J (keymatLen l.keymatLenMin)) 0 l.draws >>=
      assignKeys (hipHitIsBigger msg.hitReceiver msg.hitSender)) = .ok keys :=
    deriveKeys_draws_ok _
  have hn : keymatLen l.keymatLenMin / hipAhShaLen = l.keymatLenMin / hipAhShaLen + 1 := by
    rw [keymatLen_eq, if_neg hmod]
    unfold hipAhShaLen
    omega
  have hoff : ((↑(l.keymatLenMin / hipAhShaLen + 1) - 1) * ↑hipAhShaLen : Int) =
      ↑(l.keymatLenMin / hipAhShaLen * hipAhShaLen) := by
    unfold hipAhShaLen
    omega
  simp only [deriveKeys, hkeys, ok_bind, keymatCalcIndex_toNat hlt, hoff]
  rw [memRead_natCast]
  · refine ⟨_, rfl, (keymatCalcIndex_toNat hlt).trans hn.symm, ?_⟩
    show List.take _ (List.drop _ (hipMakeKeymat _ _ _ _ _ _ _)) = _
    rw [hn, hipMakeKeymat, hn]
    exact keymatBlocks_block _ _ _ _ _ _ (Nat.lt_succ_self _)
  · rw [length_hipMakeKeymat_keymatLen, keymatLen_eq, if_neg hmod]
    unfold hipAhShaLen
    omega

end DeriveKeys

/-! ### `produce_keying_material` after its checks -/

section Produce

variable {crypto : KeymatCrypto} {dh : Bytes → Option Bytes} {ctx : HipPacketContext}
  {I J kij : Bytes} {hipTfm espTfm : Nat}

/-- A message that passes the checks comes to `deriveKeys`, with the default ESP KEYMAT index. -/
theorem produceKeyingMaterial_eq (hacc : KeymatAccepts crypto dh ctx.inputMsg hipTfm espTfm kij)
    (hHip : hipTfm ≠ 0) (hEsp : espTfm ≠ 0) {ha : HipHa} (hha : ctx.hadbEntry = some ha)
    (hidx : espKeymatIndexOf ctx.inputMsg
      ((crypto.keyLengths.ofSuite hipTfm espTfm).espDefaultKeymatIndex % 2 ^ 16) =
      .ok ((crypto.keyLengths.ofSuite hipTfm espTfm).espDefaultKeymatIndex % 2 ^ 16)) :
    produceKeyingMaterial crypto dh ctx I J =
      deriveKeys crypto.sha1 (crypto.keyLengths.ofSuite hipTfm espTfm) ha ctx.inputMsg I J kij
        ((crypto.keyLengths.ofSuite hipTfm espTfm).espDefaultKeymatIndex % 2 ^ 16) >>=
        fun ha' ↦ pure (0, { ctx with hadbEntry := some ha' }) := by
  obtain ⟨⟨pHip, hpHip, rfl⟩, ⟨pEsp, hpEsp, rfl⟩, ⟨pDh, hpDh, hkij⟩⟩ := hacc
  simp only [produceKeyingMaterial, hpHip, hpEsp, hpDh, hkij, hHip, hEsp, hidx, hha, ok_bind,
    if_false, ne_eq, not_true_eq_false]

/-- A run of `produce_keying_material` that returns 0 passed the checks and went through
`deriveKeys`. -/
theorem produceKeyingMaterial_eq_ok_zero {ctx' : HipPacketContext}
    (h : produceKeyingMaterial crypto dh ctx I J = .ok (0, ctx')) :
    ∃ hipTfm espTfm kij ha ha' espKeymatIndex,
      KeymatAccepts crypto dh ctx.inputMsg hipTfm espTfm kij ∧ ctx.hadbEntry = some ha ∧
      deriveKeys crypto.sha1 (crypto.keyLengths.ofSuite hipTfm espTfm) ha ctx.inputMsg I J kij
        espKeymatIndex = .ok ha' ∧ ctx' = { ctx with hadbEntry := some ha' } := by
  unfold produceKeyingMaterial at h
  rcases hpHip : hipGetParam ctx.inputMsg .hipTransform with _ | pHip <;>
    simp only [hpHip] at h
  · simp at h
  split at h
  · simp at h
  rcases hpEsp : hipGetParam ctx.inputMsg .espTransform with _ | pEsp <;>
    simp only [hpEsp] at h
  · simp at h
  split at h
  · simp at h
  obtain ⟨idx, -, h⟩ := bind_eq_ok.1 h
  split at h
  · simp at h
  rcases hpDh : hipGetParam ctx.inputMsg .diffieHellman with _ | pDh <;>
    simp only [hpDh] at h
  · simp at h
  rcases hkij : dh (paramContents ctx.inputMsg pDh) with _ | kij <;> simp only [hkij] at h
  · simp at h
  rcases hha : ctx.hadbEntry with _ | ha <;> simp only [hha] at h
  · cases h
  obtain ⟨ha', hd, h⟩ := bind_eq_ok.1 h
  simp only [pure_eq_ok, Except.ok.injEq, Prod.mk.injEq, true_and] at h
  exact ⟨_, _, kij, ha, ha', idx, ⟨⟨pHip, hpHip, rfl⟩, ⟨pEsp, hpEsp, rfl⟩, ⟨pDh, hpDh, hkij⟩⟩,
    rfl, hd, h.symm⟩

end Produce

/-! ### Two hosts, one KEYMAT -/

/-- A SHA-1 stand-in for tests: the first 20 bytes of the input, padded with zeros. -/
def truncatingSha1 : Sha1 :=
  ⟨fun x ↦ (x ++ List.replicate hipAhShaLen 0).take hipAhShaLen, by simp [hipAhShaLen]⟩

/-- A host that always selects HIP transform `hipTfm` and ESP transform `espTfm`, with the key
lengths `lens`. -/
def suiteCrypto (sha1 : Sha1) (hipTfm espTfm : Nat) (lens : SuiteKeyLengths) : KeymatCrypto :=
  ⟨fun _ ↦ hipTfm, fun _ ↦ espTfm, sha1,
    ⟨fun _ ↦ lens.hip, fun _ ↦ lens.hmac, fun _ ↦ lens.esp, fun _ ↦ lens.auth⟩⟩

/-- An R1 from `sender` to `receiver` with a HIP_TRANSFORM, an ESP_TRANSFORM and a
DIFFIE_HELLMAN, arriving at the host association `ha`. -/
def keymatR1Ctx (sender receiver : Hit) (ha : HipHa) : HipPacketContext :=
  ⟨⟨hipR1, 2, 0, sender, receiver,
    [⟨.hipTransform, []⟩, ⟨.espTransform, []⟩, ⟨.diffieHellman, []⟩]⟩,
    ⟨0, 0, 0, 0, 0, []⟩, sender, receiver, 0, some ha, 0⟩

/-- With AES-CBC and HMAC-SHA1 as HIP transform (a 16-byte key) and 3DES-CBC with HMAC-SHA1 as
ESP transform (20-byte HMAC, 24-byte ESP and 20-byte authentication keys), `keymat_len_min` is
160, eight whole blocks, and the copy of `current_keymat_K` reads block nine, past the end of
the 160-byte KEYMAT. -/
theorem aesThreeDes_currentKeymatK_outOfBounds (sha1 : Sha1) (sender receiver : Hit)
    (ha : HipHa) (I J kij : Bytes) :
    produceKeyingMaterial (suiteCrypto sha1 1 2 ⟨16, 20, 24, 20⟩) (fun _ ↦ some kij)
      (keymatR1Ctx sender receiver ha) I J = .error .outOfBounds := by
  have hacc : KeymatAccepts (suiteCrypto sha1 1 2 ⟨16, 20, 24, 20⟩) (fun _ ↦ some kij)
      (keymatR1Ctx sender receiver ha).inputMsg 1 2 kij :=
    ⟨⟨0, rfl, rfl⟩, ⟨1, rfl, rfl⟩, ⟨2, rfl, rfl⟩⟩
  rw [produceKeyingMaterial_eq hacc (by decide) (by decide) rfl rfl, deriveKeys_wholeBlocks]
  · rfl
  · show 160 % 20 = 0
    decide
  · show 160 < 5100
    decide

end Hipl.Hipd
