import Mathlib.Data.List.Basic
import Mathlib.Order.Bounds.Basic

/-!
# Order statistics

The value of rank `k` in a list has at most `k` values below it and more than
`k` values up to it.  A rank determines its value, whatever order the list is
in, and in a sorted list it is the value at that index.
-/

namespace Ranking

variable {α : Type*} [LinearOrder α]

/-- The values strictly below a bound. -/
def below (values : List α) (bound : α) : Nat :=
  values.countP fun value => value < bound

/-- The values up to a bound. -/
def upTo (values : List α) (bound : α) : Nat :=
  values.countP fun value => value ≤ bound

/-- A value of the list that stands at a rank, counted from zero. -/
structure HasRank (values : List α) (rank : Nat) (value : α) : Prop where
  member : value ∈ values
  below : below values value ≤ rank
  reached : rank < upTo values value

theorem upTo_le_below
    (values : List α) {small large : α} (smaller : small < large) :
    upTo values small ≤ below values large := by
  refine List.countP_mono_left fun value _ upTo => ?_
  rw [decide_eq_true_eq] at upTo ⊢
  exact lt_of_le_of_lt upTo smaller

/-- A higher rank never has a smaller value. -/
theorem HasRank.mono
    {values : List α} {first second : Nat} {left right : α}
    (low : HasRank values first left) (high : HasRank values second right)
    (ordered : first ≤ second) :
    left ≤ right := by
  by_contra larger
  have counted := upTo_le_below values (not_le.mp larger)
  have reached := high.reached
  have below := low.below
  omega

theorem HasRank.unique
    {values : List α} {rank : Nat} {left right : α}
    (first : HasRank values rank left)
    (second : HasRank values rank right) :
    left = right :=
  le_antisymm (first.mono second le_rfl) (second.mono first le_rfl)

/-- Ranks do not depend on the order of the list. -/
theorem HasRank.perm
    {values others : List α} {rank : Nat} {value : α}
    (ranked : HasRank values rank value) (same : values.Perm others) :
    HasRank others rank value where
  member := same.mem_iff.mp ranked.member
  below := by
    unfold Ranking.below
    rw [← same.countP_eq]
    exact ranked.below
  reached := by
    unfold upTo
    rw [← same.countP_eq]
    exact ranked.reached

/-- A ranked value is the least value of the list up to which there are more
values than its rank. -/
theorem HasRank.isLeast
    {values : List α} {rank : Nat} {value : α}
    (ranked : HasRank values rank value) :
    IsLeast {other | other ∈ values ∧ rank < upTo values other} value := by
  refine ⟨⟨ranked.member, ranked.reached⟩, ?_⟩
  rintro other ⟨_, reached⟩
  by_contra larger
  have counted := upTo_le_below values (not_le.mp larger)
  have below := ranked.below
  omega

/-! ## Sorted lists -/

/-- In a sorted list the values below an entry stand before it. -/
theorem below_le_of_sorted
    {sorted : List α} {index : Nat} {value : α}
    (ordered : sorted.Pairwise (· ≤ ·))
    (found : sorted[index]? = some value) :
    below sorted value ≤ index := by
  induction sorted generalizing index with
  | nil => cases found
  | cons head tail inductionHypothesis =>
      rw [List.pairwise_cons] at ordered
      unfold below at inductionHypothesis ⊢
      cases index with
      | zero =>
          cases found
          rw [Nat.le_zero, List.countP_eq_zero]
          intro other member
          rw [decide_eq_true_eq, not_lt]
          rcases List.mem_cons.mp member with same | later
          · exact same.ge
          · exact ordered.1 other later
      | succ index =>
          have counted := inductionHypothesis ordered.2 found
          rw [List.countP_cons]
          split
          · omega
          · omega

/-- In a sorted list the values up to an entry include everything before it. -/
theorem lt_upTo_of_sorted
    {sorted : List α} {index : Nat} {value : α}
    (ordered : sorted.Pairwise (· ≤ ·))
    (found : sorted[index]? = some value) :
    index < upTo sorted value := by
  induction sorted generalizing index with
  | nil => cases found
  | cons head tail inductionHypothesis =>
      rw [List.pairwise_cons] at ordered
      unfold upTo at inductionHypothesis ⊢
      cases index with
      | zero =>
          cases found
          rw [List.countP_cons_of_pos (by simp)]
          exact Nat.succ_pos _
      | succ index =>
          have later : value ∈ tail := List.mem_of_getElem? found
          have first : head ≤ value := ordered.1 value later
          have counted := inductionHypothesis ordered.2 found
          rw [List.countP_cons_of_pos (by simpa using first)]
          omega

/-- The entry at an index of a sorted list has that rank. -/
theorem hasRank_of_sorted
    {sorted : List α} {index : Nat} {value : α}
    (ordered : sorted.Pairwise (· ≤ ·))
    (found : sorted[index]? = some value) :
    HasRank sorted index value :=
  ⟨List.mem_of_getElem? found, below_le_of_sorted ordered found,
    lt_upTo_of_sorted ordered found⟩

theorem HasRank.isLeast_of_first
    {values : List α} {value : α} (ranked : HasRank values 0 value) :
    IsLeast {other | other ∈ values} value := by
  refine ⟨ranked.member, fun other member => ?_⟩
  refine ranked.isLeast.2 ⟨member, ?_⟩
  exact List.countP_pos_iff.mpr ⟨other, member, by simp⟩

theorem HasRank.isGreatest_of_last
    {values : List α} {rank : Nat} {value : α}
    (ranked : HasRank values rank value)
    (last : values.length ≤ rank + 1) :
    IsGreatest {other | other ∈ values} value := by
  refine ⟨ranked.member, fun other member => ?_⟩
  have bounded : upTo values value ≤ values.length :=
    List.countP_le_length
  have reached := ranked.reached
  have all : upTo values value = values.length := by omega
  have every := List.countP_eq_length.mp all other member
  simpa using every

end Ranking
