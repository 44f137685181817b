import Hipl.Wire.Message

/-!
# What the daemon and the firewall share about ESP protection

The ESP protection extension (TPA hash chains and HHL hash trees) is negotiated by the daemon
and tracked by the firewall, and both sides build on the definitions of esp_prot_common.h and
esp_prot_common.c, neither of which is among the sources. This module gives the model's
version of them.

The transform identifiers are the spec's list (§4.I) in its order, with UNUSED as the least:
the code compares every transform against UNUSED with `>`, so UNUSED must be the smallest.
The array bounds (`MAX_NUM_PARALLEL_HCHAINS` and the others) are left open as the fields of
`EspProtLimits`, so every result holds whatever values the headers give them.

Fixed-size C arrays are lists of their declared length. Reading or writing past the length is
`Fault.outOfBounds` (`arrayGet`, `arraySet`). A hash slot is a byte array of
`MAX_HASH_LENGTH` bytes of which the code uses the first `hash_length`; `memcpySlot` and
`slotEq` are the `memcpy` and `memcmp` the code applies to slots, and an array of anchors is a
list of `MAX_NUM_PARALLEL_HCHAINS` such slots (`AnchorRows`), written row by row
(`writeRows`). `espProtCheckTransform` is the
membership test of esp_prot_common.c (`espProtCheckTransform_ge_zero_iff`).
-/

set_option autoImplicit false
set_option relaxedAutoImplicit false

namespace Hipl.EspProt

open Hipl.Wire

/-! ### Transforms and bounds -/

/-- Modelled from the spec: `ESP_PROT_TFM_UNUSED`, the least transform. -/
def espProtTfmUnused : UInt8 := 0
/-- Modelled from the spec: `ESP_PROT_TFM_PLAIN`, one hash chain. -/
def espProtTfmPlain : UInt8 := 1
/-- Modelled from the spec: `ESP_PROT_TFM_PARALLEL`, several hash chains. -/
def espProtTfmParallel : UInt8 := 2
/-- Modelled from the spec: `ESP_PROT_TFM_CUMULATIVE`, one chain and a ring buffer. -/
def espProtTfmCumulative : UInt8 := 3
/-- Modelled from the spec: `ESP_PROT_TFM_PARA_CUMUL`, parallel chains and a ring buffer. -/
def espProtTfmParaCumul : UInt8 := 4
/-- Modelled from the spec: `ESP_PROT_TFM_TREE`, a hash tree. -/
def espProtTfmTree : UInt8 := 5

theorem ne_espProtTfmUnused_of_lt {t : UInt8} (h : espProtTfmUnused < t) : t ≠ espProtTfmUnused :=
  fun ht ↦ absurd (ht ▸ h) (by decide)

/-- The array bounds of esp_prot_common.h and esp_prot_defines.h, which are not among the
sources. -/
structure EspProtLimits where
  maxNumParallelHchains : Nat
  maxNumTransforms : Nat
  numTransforms : Nat
  maxRingBufferSize : Nat
  maxHashLength : Nat

/-! ### Loops -/

/-- `for (i = 0; i < n; i++) body`, the body threading the state. -/
def forUpTo {σ : Type} (n : Int) (body : Nat → σ → Except Fault σ) (s : σ) :
    Except Fault σ :=
  (List.range n.toNat).foldlM (fun s i ↦ body i s) s

/-- A loop whose body may leave it with an error code (`goto out_err`): the code, `0` when the
loop ran to its end, and the state. -/
def forUpToErr {σ : Type} (n : Int) (body : Nat → σ → Except Fault (Int × σ)) (s : σ) :
    Except Fault (Int × σ) :=
  forUpTo n (fun i r ↦ if r.1 = 0 then body i r.2 else pure r) (0, s)

/-! ### Arrays and hash slots -/

/-- Reading entry `i` of a fixed-size array. -/
def arrayGet {α : Type} (arr : List α) (i : Nat) : Except Fault α :=
  match arr[i]? with
  | some a => .ok a
  | none => .error .outOfBounds

/-- Writing entry `i` of a fixed-size array. -/
def arraySet {α : Type} (arr : List α) (i : Nat) (a : α) : Except Fault (List α) :=
  if i < arr.length then .ok (arr.set i a) else .error .outOfBounds

/-- The first `n` entries of a fixed-size array, as a builder copies them. -/
def arrayPrefix {α : Type} (arr : List α) (n : Nat) : Except Fault (List α) :=
  if n ≤ arr.length then .ok (arr.take n) else .error .outOfBounds

/-- `memset(arr, 0, n)` over the first `n` entries of a byte array. -/
def memsetZero (arr : List UInt8) (n : Nat) : Except Fault (List UInt8) :=
  if n ≤ arr.length then .ok (List.replicate n 0 ++ arr.drop n) else .error .outOfBounds

/-- A zeroed hash slot, as `calloc` leaves one. -/
def zeroSlot (lim : EspProtLimits) : Bytes :=
  List.replicate lim.maxHashLength 0

/-- `memcpy(&slot[0], src, n)`: the first `n` bytes of the slot become those of `src`. -/
def memcpySlot (slot src : Bytes) (n : Nat) : Bytes :=
  src.take n ++ slot.drop n

/-- `memcpy(&arr[i][0], src, n)` into row `i` of a two-dimensional byte array, whose rows must
hold `n` bytes. -/
def memcpyRow (arr : List Bytes) (i : Nat) (src : Bytes) (n : Nat) : Except Fault (List Bytes) := do
  let row ← arrayGet arr i
  if row.length < n then .error .outOfBounds else arraySet arr i (memcpySlot row src n)

/-- Rows `0, …, as.length - 1` of a two-dimensional byte array after `memcpy` of `as[i]`, `n`
bytes, into row `i`; the rows after them unchanged. -/
def writeRows : List Bytes → List Bytes → Nat → List Bytes
  | r :: rs, a :: as, n => memcpySlot r a n :: writeRows rs as n
  | rows, _, _ => rows

/-- `memcmp(a, b, n) == 0`. -/
def slotEq (a b : Bytes) (n : Nat) : Bool :=
  a.take n == b.take n

/-- `esp_prot_check_transform`: the index of the transform among the first `num` preferred
transforms, or `-1`. The function is in esp_prot_common.c, which is not among the sources;
this is the search its callers rely on. -/
def espProtCheckTransform (num : Int) (preferred : List UInt8) (transform : UInt8) :
    Except Fault Int :=
  go 0 num.toNat
where
  /-- The loop from index `i`, with `fuel` entries left to look at. -/
  go (i : Nat) : Nat → Except Fault Int
    | 0 => .ok (-1)
    | fuel + 1 => do
      let t ← arrayGet preferred i
      if t = transform then pure (i : Int) else go (i + 1) fuel

theorem foldlM_inv {σ α : Type} (P : σ → Prop) (f : σ → α → Except Fault σ)
    (hf : ∀ s a s', f s a = .ok s' → P s → P s') :
    ∀ (l : List α) (s s' : σ), l.foldlM f s = .ok s' → P s → P s'
  | [], s, s', h, hs => by
    simp only [List.foldlM_nil, pure_eq_ok, Except.ok.injEq] at h
    exact h ▸ hs
  | a :: l, s, s', h, hs => by
    rw [List.foldlM_cons, bind_eq_ok] at h
    obtain ⟨t, ht, hl⟩ := h
    exact foldlM_inv P f hf l t s' hl (hf s a t ht hs)

/-- A property every iteration keeps holds after the loop. -/
theorem forUpTo_inv {σ : Type} (P : σ → Prop) {n : Int} {body : Nat → σ → Except Fault σ}
    (hbody : ∀ i s s', body i s = .ok s' → P s → P s') {s s' : σ}
    (h : forUpTo n body s = .ok s') (hs : P s) : P s' :=
  foldlM_inv P (fun s i ↦ body i s) (fun s i s' h ↦ hbody i s s' h) _ s s' h hs

theorem forUpTo_succ {σ : Type} (k : Nat) (body : Nat → σ → Except Fault σ) (s : σ) :
    forUpTo ((k + 1 : Nat) : Int) body s = forUpTo (k : Int) body s >>= body k := by
  simp only [forUpTo, Int.toNat_ofNat, List.range_succ, List.foldlM_append, List.foldlM_cons,
    List.foldlM_nil]
  congr 1
  funext s'
  simp only [bind_pure]

theorem forUpTo_toNat {σ : Type} (n : Int) (body : Nat → σ → Except Fault σ) (s : σ) :
    forUpTo n body s = forUpTo (n.toNat : Int) body s := by
  rw [forUpTo, forUpTo, Int.toNat_ofNat]

/-- An invariant indexed by the iteration count holds after a loop that runs through. -/
theorem forUpTo_inv_count {σ : Type} (P : Nat → σ → Prop)
    {body : Nat → σ → Except Fault σ} {s s' : σ} {k : Nat} (h : forUpTo (k : Int) body s = .ok s') (h0 : P 0 s)
    (hstep : ∀ k t t', body k t = .ok t' → P k t → P (k + 1) t') : P k s' := by
  induction k generalizing s' with
  | zero =>
    cases h
    exact h0
  | succ k ih =>
    rw [forUpTo_succ, bind_eq_ok] at h
    obtain ⟨t, ht, hlast⟩ := h
    exact hstep k t s' hlast (ih ht)

theorem forUpToErr_toNat {σ : Type} (n : Int) (body : Nat → σ → Except Fault (Int × σ))
    (s : σ) : forUpToErr n body s = forUpToErr (n.toNat : Int) body s :=
  forUpTo_toNat _ _ _

@[simp] theorem forUpTo_zero {σ : Type} (body : Nat → σ → Except Fault σ) (s : σ) :
    forUpTo 0 body s = .ok s := rfl

@[simp] theorem arrayGet_of_lt {α : Type} (arr : List α) (i : Nat) (h : i < arr.length) :
    arrayGet arr i = .ok arr[i] := by
  simp [arrayGet, List.getElem?_eq_getElem h]

@[simp] theorem arraySet_of_lt {α : Type} (arr : List α) (i : Nat) (a : α)
    (h : i < arr.length) : arraySet arr i a = .ok (arr.set i a) := by
  simp [arraySet, h]

theorem arrayGet_eq_ok {α : Type} {arr : List α} {i : Nat} {a : α} :
    arrayGet arr i = .ok a ↔ arr[i]? = some a := by
  unfold arrayGet
  cases arr[i]? <;> simp

theorem arraySet_eq_ok {α : Type} {arr arr' : List α} {i : Nat} {a : α}
    (hs : arraySet arr i a = .ok arr') : arr' = arr.set i a := by
  unfold arraySet at hs
  split at hs
  · exact (Except.ok.inj hs).symm
  · cases hs

theorem slotEq_iff (a b : Bytes) (n : Nat) : slotEq a b n = true ↔ a.take n = b.take n := by
  simp [slotEq]

@[simp] theorem take_memcpySlot (slot src : Bytes) (n : Nat) (h : n ≤ src.length) :
    (memcpySlot slot src n).take n = src.take n := by
  simp [memcpySlot, List.take_append_eq_append_take, h]

theorem memcpyRow_eq_ok {arr rows : List Bytes} {i n : Nat} {src : Bytes}
    (h : memcpyRow arr i src n = .ok rows) :
    ∃ row, arr[i]? = some row ∧ n ≤ row.length ∧
      rows = arr.set i (memcpySlot row src n) := by
  simp only [memcpyRow, bind_eq_ok] at h
  obtain ⟨row, hrow, h⟩ := h
  by_cases hn : row.length < n
  · rw [if_pos hn] at h
    cases h
  · rw [if_neg hn] at h
    exact ⟨row, arrayGet_eq_ok.mp hrow, Nat.not_lt.mp hn, arraySet_eq_ok h⟩

theorem memsetZero_eq_ok {arr arr' : List UInt8} {n : Nat} (h : memsetZero arr n = .ok arr') :
    n ≤ arr.length ∧ arr' = List.replicate n 0 ++ arr.drop n := by
  unfold memsetZero at h
  split at h
  · exact ⟨‹_›, (Except.ok.inj h).symm⟩
  · cases h

/-- Within the array, the search finds the transform exactly when one of the first `num`
entries is it. -/
theorem espProtCheckTransform_go_ge (preferred : List UInt8) (transform : UInt8) :
    ∀ (fuel i : Nat), i + fuel ≤ preferred.length →
      ∃ r, espProtCheckTransform.go preferred transform i fuel = .ok r ∧
        (0 ≤ r ↔ ∃ j, i ≤ j ∧ j < i + fuel ∧ preferred[j]? = some transform)
  | 0, i, _ => ⟨-1, rfl, by simp; omega⟩
  | fuel + 1, i, hlen => by
    have hi : i < preferred.length := by omega
    obtain ⟨r, hr, hiff⟩ := espProtCheckTransform_go_ge preferred transform fuel (i + 1)
      (by omega)
    by_cases hti : preferred[i] = transform
    · exact ⟨i, by simp [espProtCheckTransform.go, hi, hti],
        fun _ ↦ ⟨i, le_rfl, by omega, by simp [hi, hti]⟩, fun _ ↦ by omega⟩
    · refine ⟨r, by simp [espProtCheckTransform.go, hi, hti, hr], hiff.trans ?_⟩
      constructor
      · rintro ⟨j, hj1, hj2, hj⟩
        exact ⟨j, by omega, by omega, hj⟩
      · rintro ⟨j, hj1, hj2, hj⟩
        have hji : j ≠ i := by
          rintro rfl
          simp [hi] at hj
          exact hti hj
        exact ⟨j, by omega, by omega, hj⟩

/-- When the count stays within the array, `esp_prot_check_transform` answers, and its answer
is non-negative exactly when the transform is among the first `num` entries. -/
theorem espProtCheckTransform_ge_zero_iff (num : Int) (preferred : List UInt8) (transform : UInt8)
    (h : num.toNat ≤ preferred.length) :
    ∃ r, espProtCheckTransform num preferred transform = .ok r ∧
      (0 ≤ r ↔ transform ∈ preferred.take num.toNat) := by
  obtain ⟨r, hr, hiff⟩ := espProtCheckTransform_go_ge preferred transform num.toNat 0 (by omega)
  refine ⟨r, hr, hiff.trans ?_⟩
  simp only [List.mem_iff_getElem?, List.getElem?_take, Nat.zero_le, true_and, Nat.zero_add]
  constructor
  · rintro ⟨j, hj, hjt⟩
    exact ⟨j, by simp [hj, hjt]⟩
  · rintro ⟨j, hjt⟩
    by_cases hj : j < num.toNat
    · exact ⟨j, hj, by simpa [hj] using hjt⟩
    · simp [hj] at hjt

/-! ### Writing rows -/

@[simp] theorem writeRows_nil (rows : List Bytes) (n : Nat) : writeRows rows [] n = rows := by
  cases rows <;> rfl

theorem length_writeRows : ∀ (rows as : List Bytes) (n : Nat),
    (writeRows rows as n).length = rows.length
  | [], _, _ => by cases ‹List Bytes› <;> rfl
  | _ :: _, [], _ => rfl
  | _ :: rs, _ :: as, n => by simp [writeRows, length_writeRows rs as n]

theorem getElem?_writeRows_ge : ∀ (rows as : List Bytes) (n i : Nat), as.length ≤ i →
    (writeRows rows as n)[i]? = rows[i]?
  | [], _, _, _, _ => by cases ‹List Bytes› <;> rfl
  | _ :: _, [], _, _, _ => rfl
  | _ :: rs, _ :: as, n, i + 1, h => by
    simpa [writeRows] using getElem?_writeRows_ge rs as n i (by simp at h; omega)

theorem writeRows_snoc : ∀ (rows as : List Bytes) (a : Bytes) (n : Nat)
    (h : as.length < rows.length), writeRows rows (as ++ [a]) n =
      (writeRows rows as n).set as.length (memcpySlot rows[as.length] a n)
  | r :: rs, [], a, n, _ => by simp [writeRows]
  | r :: rs, b :: as, a, n, h => by
    simp only [List.cons_append, writeRows, List.length_cons, List.set_cons_succ,
      List.getElem_cons_succ, List.append_eq]
    rw [writeRows_snoc rs as a n (by simp at h; omega)]

/-- Within the written rows, the first `n` bytes of row `i` are those of `as[i]`. -/
theorem take_getElem?_writeRows : ∀ (rows as : List Bytes) (n i : Nat),
    as.length ≤ rows.length → (∀ a ∈ as, n ≤ a.length) → i < as.length →
    ((writeRows rows as n)[i]?).map (·.take n) = (as[i]?).map (·.take n)
  | [], _, _, _, hle, _, hi => by cases ‹List Bytes› <;> simp_all
  | _ :: _, [], _, _, _, _, hi => by simp at hi
  | r :: rs, a :: as, n, 0, _, hlen, _ => by
    simp [writeRows, take_memcpySlot r a n (hlen a (by simp))]
  | r :: rs, a :: as, n, i + 1, hle, hlen, hi => by
    simpa [writeRows] using take_getElem?_writeRows rs as n i (by simp at hle; omega)
      (fun b hb ↦ hlen b (by simp [hb])) (by simp at hi; omega)

theorem memcpyRow_writeRows {rows as : List Bytes} {a : Bytes} {n : Nat}
    (h : as.length < rows.length) (hn : n ≤ rows[as.length].length) :
    memcpyRow (writeRows rows as n) as.length a n = .ok (writeRows rows (as ++ [a]) n) := by
  have hget : (writeRows rows as n)[as.length]? = rows[as.length]? :=
    getElem?_writeRows_ge rows as n as.length le_rfl
  have hlen : as.length < (writeRows rows as n).length := by rw [length_writeRows]; exact h
  rw [List.getElem?_eq_getElem hlen, List.getElem?_eq_getElem h, Option.some.injEq] at hget
  simp [memcpyRow, hlen, hget, Nat.not_lt.mpr hn, writeRows_snoc rows as a n h]

/-- Writing row `j` with `memcpy` after the first `j` rows is writing the first `j + 1` rows. -/
theorem arraySet_writeRows_take {rows as : List Bytes} {n j : Nat} (hj : j < as.length)
    (hrows : j < rows.length) :
    arraySet (writeRows rows (as.take j) n) j (memcpySlot rows[j] as[j] n) =
      .ok (writeRows rows (as.take (j + 1)) n) := by
  have hlen : (as.take j).length = j := by simp; omega
  have hsnoc : writeRows rows (as.take j ++ [as[j]]) n =
      (writeRows rows (as.take j) n).set j (memcpySlot rows[j] as[j] n) := by
    simpa only [hlen] using writeRows_snoc rows (as.take j) as[j] n (by omega)
  rw [arraySet_of_lt _ _ _ (by rw [length_writeRows]; exact hrows), ← hsnoc, List.take_succ,
    List.getElem?_eq_getElem hj]
  rfl

/-- Writing the first `j` rows and then row `j` is writing the first `j + 1` rows. -/
theorem memcpyRow_writeRows_take {rows as : List Bytes} {n j : Nat} (hj : j < as.length)
    (hrows : j < rows.length) (hrow : n ≤ rows[j].length) :
    memcpyRow (writeRows rows (as.take j) n) j as[j] n =
      .ok (writeRows rows (as.take (j + 1)) n) := by
  have hlen : (as.take j).length = j := by simp; omega
  have htake : as.take (j + 1) = as.take j ++ [as[j]] := by
    rw [List.take_succ, List.getElem?_eq_getElem hj]
    rfl
  have h : memcpyRow (writeRows rows (as.take j) n) (as.take j).length as[j] n =
      .ok (writeRows rows (as.take j ++ [as[j]]) n) :=
    memcpyRow_writeRows (by rw [hlen]; exact hrows) (by simpa [hlen] using hrow)
  rwa [hlen, ← htake] at h

/-! ### Loops that build and arrays written from the front -/

/-- A loop whose body appends one parameter per iteration appends them all, in order. -/
theorem forUpTo_hipBuildParam {body : Nat → HipCommon → Except Fault HipCommon}
    (tlv : Nat → HipTlv) (msg : HipCommon) :
    ∀ k : Nat, (∀ i < k, ∀ m, body i m = .ok (hipBuildParam m (tlv i))) →
      forUpTo k body msg = .ok (withParams msg ((List.range k).map tlv))
  | 0, _ => by simp
  | k + 1, h => by
    rw [forUpTo_succ, forUpTo_hipBuildParam tlv msg k (fun i hi ↦ h i (by omega)), ok_bind,
      h k (by omega), hipBuildParam_withParams, List.range_succ, List.map_append,
      List.map_singleton]

/-- A loop runs through when each iteration below `k` keeps an invariant indexed by the
iteration count. -/
theorem forUpTo_run {σ : Type} (P : Nat → σ → Prop) {body : Nat → σ → Except Fault σ} {s0 : σ}
    {k : Nat} (h0 : P 0 s0) (hstep : ∀ j s, j < k → P j s → ∃ s', body j s = .ok s' ∧ P (j + 1) s') :
    ∀ j ≤ k, ∃ s, forUpTo j body s0 = .ok s ∧ P j s
  | 0, _ => ⟨s0, rfl, h0⟩
  | j + 1, hj => by
    obtain ⟨s, hloop, hs⟩ := forUpTo_run P h0 hstep j (by omega)
    obtain ⟨s', hbody, hs'⟩ := hstep j s (by omega) hs
    exact ⟨s', by rw [forUpTo_succ, hloop, ok_bind, hbody], hs'⟩

/-- A loop with an error code runs to its end with `0` when each iteration below `k` returns `0`
and keeps an invariant indexed by the iteration count. -/
theorem forUpToErr_run {σ : Type} (P : Nat → σ → Prop) {body : Nat → σ → Except Fault (Int × σ)}
    {s0 : σ} {k : Nat} (h0 : P 0 s0)
    (hstep : ∀ j s, j < k → P j s → ∃ s', body j s = .ok (0, s') ∧ P (j + 1) s') :
    ∀ j ≤ k, ∃ s, forUpToErr j body s0 = .ok (0, s) ∧ P j s := by
  have hrun : ∀ j ≤ k, ∃ r : Int × σ,
      forUpTo j (fun i r ↦ if r.1 = 0 then body i r.2 else pure r) (0, s0) = .ok r ∧
        r.1 = 0 ∧ P j r.2 :=
    forUpTo_run _ ⟨rfl, h0⟩ fun j r hj ⟨hr, hs⟩ ↦ by
      obtain ⟨s', hbody, hs'⟩ := hstep j r.2 hj hs
      exact ⟨(0, s'), by simp only [hr, if_true, hbody], rfl, hs'⟩
  intro j hj
  obtain ⟨⟨r, s⟩, hloop, rfl, hs⟩ := hrun j hj
  exact ⟨s, hloop, hs⟩

/-- An invariant of the state that every iteration keeps holds after a loop with an error code,
whatever code it ends with. -/
theorem forUpToErr_inv {σ : Type} (P : σ → Prop) {n : Int}
    {body : Nat → σ → Except Fault (Int × σ)} (hbody : ∀ i s r, body i s = .ok r → P s → P r.2)
    {s : σ} {r : Int × σ} (h : forUpToErr n body s = .ok r) (hs : P s) : P r.2 :=
  forUpTo_inv (fun r : Int × σ ↦ P r.2) (fun i r r' hr hp ↦ by
    by_cases h0 : r.1 = 0
    · rw [if_pos h0] at hr
      exact hbody i r.2 r' hr hp
    · rw [if_neg h0] at hr
      cases hr
      exact hp) h hs

/-- A loop with an error code that ends with `0` after `k + 1` iterations ended its first `k`
with `0`, and its last iteration returned `0`. -/
theorem forUpToErr_succ_eq_zero {σ : Type} {k : Nat} {body : Nat → σ → Except Fault (Int × σ)}
    {s s' : σ} (h : forUpToErr ((k + 1 : Nat) : Int) body s = .ok (0, s')) :
    ∃ t, forUpToErr (k : Int) body s = .ok (0, t) ∧ body k t = .ok (0, s') := by
  rw [forUpToErr, forUpTo_succ, bind_eq_ok] at h
  obtain ⟨⟨c, t⟩, ht, hlast⟩ := h
  by_cases hc : c = 0
  · subst hc
    exact ⟨t, ht, by simpa using hlast⟩
  · rw [if_neg hc] at hlast
    cases hlast
    exact absurd rfl hc

/-- An invariant indexed by the iteration count, kept by every iteration that returns `0`, holds
after a loop that ends with `0`. -/
theorem forUpToErr_inv_count {σ : Type} (P : Nat → σ → Prop)
    {body : Nat → σ → Except Fault (Int × σ)} {s s' : σ} {k : Nat}
    (h : forUpToErr (k : Int) body s = .ok (0, s')) (h0 : P 0 s)
    (hstep : ∀ k t t', body k t = .ok (0, t') → P k t → P (k + 1) t') : P k s' := by
  induction k generalizing s' with
  | zero =>
    cases h
    exact h0
  | succ k ih =>
    obtain ⟨t, ht, hlast⟩ := forUpToErr_succ_eq_zero h
    exact hstep k t s' hlast (ih ht)

/-- A loop with an error code that runs at most once does nothing or its first iteration. -/
theorem forUpToErr_of_toNat_le_one {σ : Type} {n : Int}
    {body : Nat → σ → Except Fault (Int × σ)} {s : σ} {r : Int × σ} (hn : n.toNat ≤ 1) (h : forUpToErr n body s = .ok r) :
    r = (0, s) ∨ body 0 s = .ok r := by
  rw [forUpToErr_toNat] at h
  rcases Nat.le_one_iff_eq_zero_or_eq_one.mp hn with h0 | h1
  · rw [h0] at h
    cases h
    exact .inl rfl
  · rw [h1, forUpToErr, forUpTo_succ (k := 0)] at h
    exact .inr (by simpa using h)

theorem forUpToErr_one {σ : Type} (body : Nat → σ → Except Fault (Int × σ)) (s : σ) :
    forUpToErr 1 body s = body 0 s := by
  rw [show (1 : Int) = ((0 + 1 : Nat) : Int) from rfl, forUpToErr, forUpTo_succ]
  simp

/-- An array whose first entries were overwritten with `xs`, the others as they were. -/
def overwrite {α : Type} (arr xs : List α) : List α :=
  xs ++ arr.drop xs.length

@[simp] theorem overwrite_nil {α : Type} (arr : List α) : overwrite arr [] = arr := rfl

theorem length_overwrite {α : Type} {arr xs : List α} (h : xs.length ≤ arr.length) :
    (overwrite arr xs).length = arr.length := by
  simp [overwrite]; omega

/-- Writing the entry after the overwritten ones overwrites one more. -/
theorem arraySet_overwrite {α : Type} {arr xs : List α} (x : α) (h : xs.length < arr.length) :
    arraySet (overwrite arr xs) xs.length x = .ok (overwrite arr (xs ++ [x])) := by
  rw [arraySet_of_lt _ _ _ (by rw [length_overwrite h.le]; exact h), overwrite, overwrite,
    List.set_append_right _ _ le_rfl, Nat.sub_self, List.drop_eq_getElem_cons h]
  simp only [List.set_cons_zero, List.length_append, List.length_singleton, List.append_assoc,
    List.singleton_append]

/-- Writing entry `j` with the image of `l[j]` extends the overwritten prefix by one entry of
`l`. -/
theorem arraySet_overwrite_take {α β : Type} {arr : List α} {l : List β} (f : β → α) {j : Nat}
    (hj : j < l.length) (harr : j < arr.length) :
    arraySet (overwrite arr ((l.take j).map f)) j (f l[j]) =
      .ok (overwrite arr ((l.take (j + 1)).map f)) := by
  have hlen : ((l.take j).map f).length = j := by simp; omega
  have hset := arraySet_overwrite (f l[j]) (show ((l.take j).map f).length < arr.length by omega)
  rw [hlen] at hset
  rw [hset, List.take_succ, List.getElem?_eq_getElem hj, Option.toList_some, List.map_append,
    List.map_singleton]

theorem getElem?_overwrite_lt {α : Type} {arr xs : List α} {i : Nat} (h : i < xs.length) :
    (overwrite arr xs)[i]? = xs[i]? := by
  rw [overwrite, List.getElem?_append_left h]

theorem getElem?_overwrite_ge {α : Type} {arr xs : List α} {i : Nat} (h : xs.length ≤ i) : (overwrite arr xs)[i]? = arr[i]? := by
  rw [overwrite, List.getElem?_append_right h, List.getElem?_drop]
  congr 1; omega

/-- The shape state.h and hipfw_defines.h give an anchor array: `MAX_NUM_PARALLEL_HCHAINS`
rows of `MAX_HASH_LENGTH` bytes. -/
def AnchorRows (lim : EspProtLimits) (rows : List Bytes) : Prop :=
  rows.length = lim.maxNumParallelHchains ∧ ∀ r ∈ rows, r.length = lim.maxHashLength

theorem AnchorRows.le_getElem_length {lim : EspProtLimits} {rows : List Bytes} {len : Nat}
    (h : AnchorRows lim rows) (hlen : len ≤ lim.maxHashLength) (i : Nat) (hi : i < rows.length) :
    len ≤ rows[i].length := by
  rw [h.2 _ (List.getElem_mem hi)]; exact hlen

/-- Two anchor arrays written with the same anchors agree on the written bytes. -/
theorem AnchorRows.take_getElem?_writeRows_eq {lim : EspProtLimits} {rows rows' as : List Bytes}
    {len i : Nat} (h : AnchorRows lim rows) (h' : AnchorRows lim rows')
    (has : as.length ≤ lim.maxNumParallelHchains) (hlen : ∀ a ∈ as, a.length = len)
    (hi : i < as.length) :
    ((writeRows rows as len)[i]?).map (·.take len) =
      ((writeRows rows' as len)[i]?).map (·.take len) := by
  have hle : ∀ a ∈ as, len ≤ a.length := fun a ha ↦ (hlen a ha).ge
  rw [take_getElem?_writeRows rows as len i (by rw [h.1]; exact has) hle hi,
    take_getElem?_writeRows rows' as len i (by rw [h'.1]; exact has) hle hi]

/-- The active anchors of an anchor update, the first of each pair, are the first `len` bytes
of the rows. -/
def AnchorsMatch (rows : List Bytes) (as : List (Bytes × Bytes)) (len : Nat) : Prop :=
  ∀ j (hj : j < as.length), (rows[j]?).map (·.take len) = some as[j].1

theorem AnchorsMatch.slotEq {rows : List Bytes} {as : List (Bytes × Bytes)} {len : Nat}
    (h : AnchorsMatch rows as len) (has : ∀ a ∈ as, a.1.length = len) {j : Nat}
    (hj : j < as.length) (hrow : j < rows.length) : slotEq rows[j] as[j].1 len = true := by
  have h' := h j hj
  rw [List.getElem?_eq_getElem hrow, Option.map_some', Option.some.injEq] at h'
  rw [slotEq_iff, h', List.take_of_length_le (has _ (List.getElem_mem hj)).le]

end Hipl.EspProt
