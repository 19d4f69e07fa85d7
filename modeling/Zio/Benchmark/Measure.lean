import Mathlib.Order.Fin.Basic
import Zio.Library.Ranking
import Zio.Vocabulary

/-!
# Distribution of a sample set

The summary of a list of `u128` samples: median, nearest-rank 95th percentile,
median absolute deviation and extremes.  Indexing and subtraction are kept
fallible, so that a summary is also a proof that neither fails.  Each figure
is the order statistic that it names, which does not depend on the order in
which the samples were taken.
-/

namespace Zio.Benchmark

open Ranking

/-! ## Integers -/

/-- A `u128`. -/
abbrev U128 := Fin (2 ^ 128)

/-- `u128::abs_diff`. -/
def absDiff (left right : U128) : U128 :=
  if left < right then
    ⟨right.val - left.val, Nat.lt_of_le_of_lt (Nat.sub_le _ _) right.isLt⟩
  else
    ⟨left.val - right.val, Nat.lt_of_le_of_lt (Nat.sub_le _ _) left.isLt⟩

/-- `u128::midpoint`, which rounds down and does not overflow. -/
def midpoint (left right : U128) : U128 :=
  ⟨(left.val + right.val) / 2, by omega⟩

/-- `usize::saturating_mul`. -/
def usizeSaturatingMul (left right : Nat) : Nat :=
  min (left * right) usizeMax

/-- `usize::div_ceil`. -/
def divCeil (value divisor : Nat) : Nat :=
  value / divisor + if value % divisor = 0 then 0 else 1

/-- What stops a computation: a returned error or an arithmetic overflow. -/
inductive Fault where
  | error (message : String)
  | overflow
deriving DecidableEq, Repr

/-- Subtraction of `usize` values. -/
def usizeSub (left right : Nat) : Except Fault Nat :=
  if right ≤ left then .ok (left - right) else .error .overflow

/-! ## Summary -/

structure Distribution where
  median : U128
  p95 : U128
  mad : U128
  minimum : U128
  maximum : U128
deriving DecidableEq, Repr

def valueAt (values : List U128) (index : Nat) : Except Fault U128 :=
  okOr values[index]? (.error "sample index invariant failed")

def median (sorted : List U128) : Except Fault U128 := do
  let middle := sorted.length / 2
  if sorted.length % 2 = 1 then
    valueAt sorted middle
  else
    let before ← usizeSub middle 1
    let low ← valueAt sorted before
    let high ← valueAt sorted middle
    return midpoint low high

/-- `sort_unstable`: equal integers cannot be told apart. -/
def sortUnstable (values : List U128) : List U128 :=
  values.mergeSort fun left right => decide (left ≤ right)

def distribution (values : List U128) : Except Fault Distribution := do
  if values.isEmpty then
    .error (.error "cannot summarize an empty sample set")
  else
    let sorted := sortUnstable values
    let medianValue ← median sorted
    let deviations :=
      sortUnstable (sorted.map fun value => absDiff value medianValue)
    let mad ← median deviations
    let rank := max (divCeil (usizeSaturatingMul sorted.length 95) 100) 1
    let index ← usizeSub rank 1
    let p95 ← valueAt sorted index
    let minimum ← valueAt sorted 0
    let last ← usizeSub sorted.length 1
    let maximum ← valueAt sorted last
    return { median := medianValue, p95, mad, minimum, maximum }

/-! ## Sorting -/

theorem sortUnstable_perm (values : List U128) :
    (sortUnstable values).Perm values :=
  List.mergeSort_perm values _

theorem sortUnstable_sorted (values : List U128) :
    (sortUnstable values).Pairwise (· ≤ ·) := by
  have sorted :
      (sortUnstable values).Pairwise fun left right =>
        decide (left ≤ right) = true := by
    refine List.pairwise_mergeSort ?_ ?_ values
    · intro first second third left right
      rw [decide_eq_true_eq] at left right ⊢
      exact le_trans left right
    · intro first second
      rw [Bool.or_eq_true, decide_eq_true_eq, decide_eq_true_eq]
      exact le_total first second
  exact sorted.imp fun ordered => by simpa using ordered

/-- Sorting forgets the order in which the samples were taken. -/
theorem sortUnstable_congr
    {values others : List U128} (same : values.Perm others) :
    sortUnstable values = sortUnstable others := by
  refine List.Perm.eq_of_pairwise ?_ (sortUnstable_sorted values)
    (sortUnstable_sorted others)
    ((sortUnstable_perm values).trans
      (same.trans (sortUnstable_perm others).symm))
  intro first second _ _ left right
  exact le_antisymm left right

/-! ## Medians -/

/-- The middle value, or the floor of the mean of the two middle values. -/
def IsMedian (values : List U128) (value : U128) : Prop :=
  if values.length % 2 = 1 then
    HasRank values (values.length / 2) value
  else
    ∃ low high,
      HasRank values (values.length / 2 - 1) low ∧
        HasRank values (values.length / 2) high ∧
        value.val = (low.val + high.val) / 2

theorem valueAt_ok
    (values : List U128) {index : Nat} (inside : index < values.length) :
    ∃ value, valueAt values index = .ok value ∧
      values[index]? = some value := by
  have found := List.getElem?_eq_getElem inside
  exact ⟨values[index], by rw [valueAt, found]; rfl, found⟩

theorem usizeSub_ok {left right : Nat} (enough : right ≤ left) :
    usizeSub left right = .ok (left - right) :=
  if_pos enough

/-- The median of a sorted list is its median in any order. -/
theorem median_isMedian
    {sorted values : List U128}
    (ordered : sorted.Pairwise (· ≤ ·)) (same : sorted.Perm values)
    (nonempty : sorted ≠ []) :
    ∃ value, median sorted = .ok value ∧ IsMedian values value := by
  have length := same.length_eq
  have positive := List.length_pos_iff.mpr nonempty
  obtain ⟨high, highRead, highFound⟩ :=
    valueAt_ok sorted (by omega : sorted.length / 2 < sorted.length)
  have highRank := (hasRank_of_sorted ordered highFound).perm same
  unfold median IsMedian
  rw [← length]
  by_cases odd : sorted.length % 2 = 1
  · refine ⟨high, ?_, ?_⟩
    · simpa [odd] using highRead
    · simpa [odd] using highRank
  · obtain ⟨low, lowRead, lowFound⟩ :=
      valueAt_ok sorted
        (by omega : sorted.length / 2 - 1 < sorted.length)
    have lowRank := (hasRank_of_sorted ordered lowFound).perm same
    have before := usizeSub_ok (by omega : 1 ≤ sorted.length / 2)
    refine ⟨midpoint low high, ?_, ?_⟩
    · simp [odd, before, lowRead, highRead, bind, Except.bind, pure,
        Except.pure]
    · rw [if_neg odd]
      exact ⟨low, high, lowRank, highRank, rfl⟩

/-! ## Ranks -/

theorem divCeil_mul_le (value divisor : Nat) (positive : 0 < divisor) :
    value ≤ divCeil value divisor * divisor := by
  have split := Nat.div_add_mod value divisor
  have below := Nat.mod_lt value positive
  unfold divCeil
  rw [Nat.add_mul, Nat.mul_comm (value / divisor)]
  by_cases divides : value % divisor = 0
  · rw [if_pos divides]
    omega
  · rw [if_neg divides, Nat.one_mul]
    omega

theorem divCeil_le {value divisor bound : Nat}
    (enough : value ≤ bound * divisor) : divCeil value divisor ≤ bound := by
  have split := Nat.div_add_mod value divisor
  unfold divCeil
  by_cases divides : value % divisor = 0
  · rw [if_pos divides, Nat.add_zero]
    exact Nat.div_le_of_le_mul (by rw [Nat.mul_comm]; exact enough)
  · rw [if_neg divides]
    have less : value < bound * divisor := by
      refine Nat.lt_of_le_of_ne enough fun same => divides ?_
      rw [same, Nat.mul_mod_left]
    exact Nat.div_lt_of_lt_mul (by rw [Nat.mul_comm]; exact less)

/-- The nearest rank of the 95th percentile. -/
def rank95 (length : Nat) : Nat :=
  max (divCeil (usizeSaturatingMul length 95) 100) 1

theorem rank95_bounds {length : Nat} (positive : 0 < length) :
    1 ≤ rank95 length ∧ rank95 length ≤ length := by
  have bounded : divCeil (usizeSaturatingMul length 95) 100 ≤ length := by
    refine divCeil_le ?_
    have product : usizeSaturatingMul length 95 ≤ length * 95 :=
      Nat.min_le_left _ _
    omega
  unfold rank95
  omega

/-- Below 2^57 samples the product does not saturate. -/
theorem rank95_le_iff
    {length : Nat} (positive : 0 < length) (short : length < 2 ^ 57)
    (count : Nat) :
    rank95 length ≤ count ↔ 95 * length ≤ 100 * count := by
  have product : usizeSaturatingMul length 95 = length * 95 := by
    unfold usizeSaturatingMul usizeMax
    omega
  have covered := divCeil_mul_le (length * 95) 100 (by decide)
  have rank : rank95 length = divCeil (length * 95) 100 := by
    unfold rank95
    rw [product]
    omega
  rw [rank]
  constructor
  · intro reached
    omega
  · intro enough
    exact divCeil_le (by omega)

/-! ## Summary -/

/-- The statistics that a summary names. -/
structure Summarizes
    (values : List U128) (summary : Distribution) : Prop where
  minimum : IsLeast {value | value ∈ values} summary.minimum
  maximum : IsGreatest {value | value ∈ values} summary.maximum
  median : IsMedian values summary.median
  p95 :
    values.length < 2 ^ 57 →
      IsLeast
        {value |
          value ∈ values ∧
            95 * values.length ≤ 100 * upTo values value}
        summary.p95
  mad :
    IsMedian
      (values.map fun value => absDiff value summary.median) summary.mad
  bounded :
    summary.minimum ≤ summary.median ∧ summary.median ≤ summary.maximum ∧
      summary.minimum ≤ summary.p95 ∧ summary.p95 ≤ summary.maximum
  ordered : values.length < 2 ^ 57 → summary.median ≤ summary.p95

theorem isLeast_rank95
    {values : List U128} {value : U128} (positive : 0 < values.length)
    (short : values.length < 2 ^ 57)
    (ranked : HasRank values (rank95 values.length - 1) value) :
    IsLeast
      {other |
        other ∈ values ∧ 95 * values.length ≤ 100 * upTo values other}
      value := by
  have first := (rank95_bounds positive).1
  have least := ranked.isLeast
  have same :
      {other | other ∈ values ∧
          rank95 values.length - 1 < upTo values other} =
        {other | other ∈ values ∧
          95 * values.length ≤ 100 * upTo values other} := by
    ext other
    have counted := rank95_le_iff positive short (upTo values other)
    simp only [Set.mem_ofPred_eq]
    rw [← counted]
    constructor
    · rintro ⟨member, reached⟩
      exact ⟨member, by omega⟩
    · rintro ⟨member, reached⟩
      exact ⟨member, by omega⟩
  rw [same] at least
  exact least

/-- A median lies between the values of the first and of the nearest rank. -/
theorem IsMedian.between
    {values : List U128} {middle first high : U128} {rank : Nat}
    (median : IsMedian values middle) (low : HasRank values 0 first)
    (above : HasRank values rank high)
    (half : values.length / 2 ≤ rank) :
    first ≤ middle ∧ middle ≤ high := by
  unfold IsMedian at median
  split at median
  · exact ⟨low.mono median (Nat.zero_le _), median.mono above half⟩
  · obtain ⟨before, after, beforeRank, afterRank, mean⟩ := median
    have least : first.val ≤ before.val :=
      low.mono beforeRank (Nat.zero_le _)
    have step : before.val ≤ after.val :=
      beforeRank.mono afterRank (Nat.sub_le _ _)
    have most : after.val ≤ high.val := afterRank.mono above half
    refine ⟨Fin.le_def.mpr ?_, Fin.le_def.mpr ?_⟩
    · omega
    · omega

theorem distribution_summarizes
    {values : List U128} (nonempty : values ≠ []) :
    ∃ summary, distribution values = .ok summary ∧
      Summarizes values summary := by
  have positive := List.length_pos_iff.mpr nonempty
  have ordered := sortUnstable_sorted values
  have same := sortUnstable_perm values
  have length := same.length_eq
  obtain ⟨first, fits⟩ := rank95_bounds positive
  have sortedNonempty : sortUnstable values ≠ [] :=
    List.length_pos_iff.mp (by omega)
  obtain ⟨middle, middleRead, middleMedian⟩ :=
    median_isMedian ordered same sortedNonempty
  have deviationsSame :
      (sortUnstable
          ((sortUnstable values).map fun value =>
            absDiff value middle)).Perm
        (values.map fun value => absDiff value middle) :=
    (sortUnstable_perm _).trans (same.map _)
  have deviationsNonempty :
      sortUnstable
          ((sortUnstable values).map fun value => absDiff value middle) ≠
        [] := by
    refine List.length_pos_iff.mp ?_
    rw [deviationsSame.length_eq, List.length_map]
    exact positive
  obtain ⟨mad, madRead, madMedian⟩ :=
    median_isMedian (sortUnstable_sorted _) deviationsSame
      deviationsNonempty
  obtain ⟨p95, p95Read, p95Found⟩ :=
    valueAt_ok (sortUnstable values)
      (by omega :
        rank95 values.length - 1 < (sortUnstable values).length)
  obtain ⟨least, leastRead, leastFound⟩ :=
    valueAt_ok (sortUnstable values)
      (by omega : 0 < (sortUnstable values).length)
  obtain ⟨greatest, greatestRead, greatestFound⟩ :=
    valueAt_ok (sortUnstable values)
      (by omega : values.length - 1 < (sortUnstable values).length)
  have p95Rank := (hasRank_of_sorted ordered p95Found).perm same
  have leastRank := (hasRank_of_sorted ordered leastFound).perm same
  have greatestRank := (hasRank_of_sorted ordered greatestFound).perm same
  have rankIndex := usizeSub_ok first
  have lastIndex := usizeSub_ok (by omega : 1 ≤ values.length)
  refine ⟨{ median := middle, p95, mad, minimum := least,
            maximum := greatest }, ?_, ?_⟩
  · have filled : values.isEmpty = false := by
      simpa using nonempty
    unfold rank95 at rankIndex p95Read
    simp [distribution, filled, middleRead, madRead, length, rankIndex,
      p95Read, leastRead, lastIndex, greatestRead, bind, Except.bind,
      pure, Except.pure]
  · have inside :=
      middleMedian.between leastRank greatestRank (by omega)
    refine
      { minimum := leastRank.isLeast_of_first
        maximum := greatestRank.isGreatest_of_last (by omega)
        median := middleMedian
        p95 := fun short => isLeast_rank95 positive short p95Rank
        mad := madMedian
        bounded :=
          ⟨inside.1, inside.2, leastRank.mono p95Rank (Nat.zero_le _),
            p95Rank.mono greatestRank (by omega)⟩
        ordered := fun short => ?_ }
    have enough :=
      (rank95_le_iff positive short (rank95 values.length)).mp le_rfl
    exact (middleMedian.between leastRank p95Rank (by omega)).2

/-- A summary forgets the order of its samples. -/
theorem distribution_congr
    {values others : List U128} (same : values.Perm others) :
    distribution values = distribution others := by
  have sorted := sortUnstable_congr same
  have empty : values.isEmpty = others.isEmpty := by
    rw [Bool.eq_iff_iff, List.isEmpty_iff_length_eq_zero,
      List.isEmpty_iff_length_eq_zero, same.length_eq]
  unfold distribution
  rw [sorted, empty]

/-- Every non-empty sample set has its summary, in whatever order it was
taken. -/
theorem samples_summarized {values : List U128} (nonempty : values ≠ []) :
    (∃ summary, distribution values = .ok summary ∧
      Summarizes values summary) ∧
    ∀ others : List U128,
      others.Perm values → distribution others = distribution values :=
  ⟨distribution_summarizes nonempty, fun _ => distribution_congr⟩

/-- Two samples near the end of the range. -/
def largestSamples : List U128 :=
  [⟨2 ^ 128 - 1, Nat.sub_lt (Nat.two_pow_pos 128) Nat.one_pos⟩,
    ⟨2 ^ 128 - 2, Nat.sub_lt (Nat.two_pow_pos 128) (Nat.succ_pos 1)⟩]

theorem largestSamples_summarized :
    ∃ summary, distribution largestSamples = .ok summary ∧
      Summarizes largestSamples summary :=
  (samples_summarized (by decide : largestSamples ≠ [])).1

end Zio.Benchmark
