import Mathlib

/-!
# The statistics of a series of samples

`add_statistics_item` adds a sample to a `struct statistics_data`: the count, the sum and the sum
of squares of the samples, and their minimum and maximum. Each of the three accumulators is
guarded against overflow by a test `x < x + v` before it is updated, and a failed test returns -1
after resetting the three accumulators to zero.

Over every series of calls the count and the two sums are those of the samples accepted since
the last -1, with each square taken modulo 2^64 as `item_value * item_value` computes it
(`addStatisticsItems_tracks`). The guards are not the overflow tests they stand for: `x < x + v`
also fails for `v = 0`, so every sample 0 resets the data set, and a square that wraps passes
unnoticed when its remainder is small (`zeroSample_resets`). The reset leaves the minimum and
maximum as they were.

Scope. `HIP_ASSERT(statistics_data != NULL)` is left out: the data set is the state the calls
pass along. `min_value == 0.0` compares the `uint64_t` converted to `double`, which is 0.0 only
for 0.
-/

set_option autoImplicit false
set_option relaxedAutoImplicit false

namespace Hipl.Core

/-- `struct statistics_data`. -/
structure StatisticsData where
  numItems : UInt32
  addedValues : UInt64
  addedSquaredValues : UInt64
  minValue : UInt64
  maxValue : UInt64
  deriving DecidableEq, Repr

/-- The reset at `out_err`: the count and both sums to zero; the minimum and maximum stay. -/
def StatisticsData.reset (d : StatisticsData) : StatisticsData :=
  { d with numItems := 0, addedValues := 0, addedSquaredValues := 0 }

/-- `add_statistics_item(statistics_data, item_value)`: the return value and the data set
afterwards. -/
def addStatisticsItem (d : StatisticsData) (itemValue : UInt64) : Int × StatisticsData :=
  if ¬d.numItems < d.numItems + 1 then (-1, d.reset) else
  let d := { d with numItems := d.numItems + 1 }
  if ¬d.addedValues < d.addedValues + itemValue then (-1, d.reset) else
  let d := { d with addedValues := d.addedValues + itemValue }
  if ¬d.addedSquaredValues < d.addedSquaredValues + itemValue * itemValue then (-1, d.reset) else
  let d := { d with addedSquaredValues := d.addedSquaredValues + itemValue * itemValue }
  let d := if itemValue > d.maxValue then { d with maxValue := itemValue } else d
  let d := if itemValue < d.minValue ∨ d.minValue = 0 then { d with minValue := itemValue } else d
  (0, d)

/-- A series of calls on one data set: their return values and the data set after the last. -/
def addStatisticsItems (d : StatisticsData) : List UInt64 → List Int × StatisticsData
  | [] => ([], d)
  | v :: vs =>
    let (r, d') := addStatisticsItem d v
    let (rs, d'') := addStatisticsItems d' vs
    (r :: rs, d'')

/-! ### What one call does -/

/-- The three guards of `add_statistics_item`. -/
def StatisticsData.fits (d : StatisticsData) (v : UInt64) : Bool :=
  decide (d.numItems < d.numItems + 1) && decide (d.addedValues < d.addedValues + v) &&
    decide (d.addedSquaredValues < d.addedSquaredValues + v * v)

/-- The data set after an accepted sample. -/
def StatisticsData.accept (d : StatisticsData) (v : UInt64) : StatisticsData :=
  let d := { d with numItems := d.numItems + 1 }
  let d := { d with addedValues := d.addedValues + v }
  let d := { d with addedSquaredValues := d.addedSquaredValues + v * v }
  let d := if v > d.maxValue then { d with maxValue := v } else d
  if v < d.minValue ∨ d.minValue = 0 then { d with minValue := v } else d

theorem uint32_lt_add_one_iff (a : UInt32) : a < a + 1 ↔ a.toNat + 1 < 2 ^ 32 := by
  have ha := a.toNat_lt_size
  unfold UInt32.size at ha
  show a.toNat < (a.toNat + 1) % 2 ^ 32 ↔ _
  omega

theorem uint64_lt_add_iff (a b : UInt64) :
    a < a + b ↔ 0 < b.toNat ∧ a.toNat + b.toNat < 2 ^ 64 := by
  have ha := a.toNat_lt_size
  have hb := b.toNat_lt_size
  unfold UInt64.size at ha hb
  show a.toNat < (a.toNat + b.toNat) % 2 ^ 64 ↔ _
  omega

theorem uint64_toNat_mul (a b : UInt64) : (a * b).toNat = a.toNat * b.toNat % 2 ^ 64 :=
  BitVec.toNat_mul _ _

/-- A call accepts the sample when its three guards pass, and resets otherwise. -/
theorem addStatisticsItem_eq (d : StatisticsData) (v : UInt64) :
    addStatisticsItem d v = if d.fits v then (0, d.accept v) else (-1, d.reset) := by
  unfold addStatisticsItem StatisticsData.fits
  by_cases h1 : d.numItems < d.numItems + 1 <;>
    by_cases h2 : d.addedValues < d.addedValues + v <;>
    by_cases h3 : d.addedSquaredValues < d.addedSquaredValues + v * v <;>
    simp only [h1, h2, h3, decide_True, decide_False, Bool.and_true, Bool.and_false,
      Bool.false_and, not_true_eq_false, not_false_eq_true, if_true, if_false] <;> rfl

/-- The guards over the numbers the fields hold: the count below 2^32 - 1, the sample nonzero,
the sum and the sum of squares, with the square modulo 2^64 and nonzero, below 2^64. -/
theorem fits_eq_true_iff (d : StatisticsData) (v : UInt64) :
    d.fits v = true ↔ d.numItems.toNat + 1 < 2 ^ 32 ∧ 0 < v.toNat ∧
      d.addedValues.toNat + v.toNat < 2 ^ 64 ∧ 0 < v.toNat * v.toNat % 2 ^ 64 ∧
      d.addedSquaredValues.toNat + v.toNat * v.toNat % 2 ^ 64 < 2 ^ 64 := by
  simp only [StatisticsData.fits, Bool.and_eq_true, decide_eq_true_eq, uint32_lt_add_one_iff,
    uint64_lt_add_iff, uint64_toNat_mul, and_assoc]

theorem uint32_toNat_add_one {a : UInt32} (h : a.toNat + 1 < 2 ^ 32) :
    (a + 1).toNat = a.toNat + 1 :=
  (BitVec.toNat_add _ _).trans (Nat.mod_eq_of_lt h)

theorem uint64_toNat_add_eq {a b : UInt64} (h : a.toNat + b.toNat < 2 ^ 64) :
    (a + b).toNat = a.toNat + b.toNat :=
  (BitVec.toNat_add _ _).trans (Nat.mod_eq_of_lt h)

/-! ### A series of calls -/

/-- The count and the two sums of a data set are those of the samples `S`, each square taken
modulo 2^64. -/
structure StatisticsData.Tracks (d : StatisticsData) (S : List Nat) : Prop where
  count : d.numItems.toNat = S.length
  sum : d.addedValues.toNat = S.sum
  squares : d.addedSquaredValues.toNat = (S.map fun v ↦ v * v % 2 ^ 64).sum

theorem StatisticsData.Tracks.reset (d : StatisticsData) : d.reset.Tracks [] :=
  ⟨rfl, rfl, rfl⟩

theorem StatisticsData.Tracks.accept {d : StatisticsData} {S : List Nat} {v : UInt64}
    (h : d.Tracks S) (hfits : d.fits v = true) : (d.accept v).Tracks (S ++ [v.toNat]) := by
  obtain ⟨h1, -, h2, -, h3⟩ := (fits_eq_true_iff d v).mp hfits
  have hacc : ((d.accept v).numItems, (d.accept v).addedValues, (d.accept v).addedSquaredValues) =
      (d.numItems + 1, d.addedValues + v, d.addedSquaredValues + v * v) := by
    simp only [StatisticsData.accept]
    split_ifs <;> rfl
  simp only [Prod.mk.injEq] at hacc
  refine ⟨?_, ?_, ?_⟩
  · rw [hacc.1, uint32_toNat_add_one h1, h.count, List.length_append, List.length_singleton]
  · rw [hacc.2.1, uint64_toNat_add_eq h2, h.sum, List.sum_append, List.sum_singleton]
  · rw [← uint64_toNat_mul] at h3
    rw [hacc.2.2, uint64_toNat_add_eq h3, h.squares, uint64_toNat_mul]
    simp

/-- The samples a series keeps, read from the return values: each sample accepted with 0 is
added, and a -1 drops them all. -/
def keptSamples (S : List Nat) : List (Int × Nat) → List Nat
  | [] => S
  | (r, v) :: rest => keptSamples (if r = 0 then S ++ [v] else []) rest

/-- Over every series of calls, the count and the two sums are those of the samples accepted
since the last -1. -/
theorem addStatisticsItems_tracks :
    ∀ (vs : List UInt64) {d : StatisticsData} {S : List Nat}, d.Tracks S →
      (addStatisticsItems d vs).2.Tracks
        (keptSamples S ((addStatisticsItems d vs).1.zip (vs.map UInt64.toNat)))
  | [], _, _, h => h
  | v :: vs, d, S, h => by
    have hstep : addStatisticsItems d (v :: vs) = ((addStatisticsItem d v).1 ::
        (addStatisticsItems (addStatisticsItem d v).2 vs).1,
        (addStatisticsItems (addStatisticsItem d v).2 vs).2) := rfl
    rw [hstep, addStatisticsItem_eq]
    by_cases hfits : d.fits v = true
    · simp only [if_pos hfits, List.map_cons, List.zip_cons_cons, keptSamples, if_true]
      exact addStatisticsItems_tracks vs (h.accept hfits)
    · simp only [if_neg hfits, List.map_cons, List.zip_cons_cons, keptSamples,
        if_neg (show (-1 : Int) ≠ 0 by decide)]
      exact addStatisticsItems_tracks vs (StatisticsData.Tracks.reset d)

/-- The series 5, 0, 7 on a fresh data set: the 0 resets it, and the data set tracks 7 alone. -/
theorem addStatisticsItems_fiveZeroSeven :
    keptSamples [] ((addStatisticsItems ⟨0, 0, 0, 0, 0⟩ [5, 0, 7]).1.zip [5, 0, 7]) = [7] ∧
    (addStatisticsItems ⟨0, 0, 0, 0, 0⟩ [5, 0, 7]).2.Tracks
      (keptSamples [] ((addStatisticsItems ⟨0, 0, 0, 0, 0⟩ [5, 0, 7]).1.zip
        ([5, 0, 7].map UInt64.toNat))) :=
  ⟨by decide, addStatisticsItems_tracks [5, 0, 7] ⟨rfl, rfl, rfl⟩⟩

/-- Three series the guards get wrong. A sample 0 fails `x < x + 0` and resets any data set. The
sample 2^32 + 1 (4294967297) is accepted into a fresh data set with its square
2^64 + 2^33 + 1 stored as 2^33 + 1 (8589934593). And after 5, 0 and 7 the minimum is still 5,
though 7 is the only sample kept. -/
theorem zeroSample_resets :
    (∀ d, addStatisticsItem d 0 = (-1, d.reset)) ∧
      addStatisticsItem ⟨0, 0, 0, 0, 0⟩ 4294967297 =
        (0, ⟨1, 4294967297, 8589934593, 4294967297, 4294967297⟩) ∧
      addStatisticsItems ⟨0, 0, 0, 0, 0⟩ [5, 0, 7] = ([0, -1, 0], ⟨1, 7, 49, 5, 7⟩) := by
  refine ⟨fun d ↦ ?_, by decide, by decide⟩
  rw [addStatisticsItem_eq, if_neg]
  simp [fits_eq_true_iff]

end Hipl.Core
