import Mathlib.Data.List.Count
import Mathlib.Data.Set.Card

/-!
# Counting positions of a list

The positions whose items satisfy a test are as many as the satisfying items.
-/

namespace Indices

universe u

variable {α : Type u}

/-- The positions of a list whose items pass a test. -/
def passing (items : List α) (test : α → Bool) : Set Nat :=
  { index | ∃ item, items[index]? = some item ∧ test item = true }

theorem passing_append_singleton
    (items : List α) (last : α) (test : α → Bool) :
    passing (items ++ [last]) test =
      if test last then insert items.length (passing items test)
      else passing items test := by
  have split : ∀ index item,
      (items ++ [last])[index]? = some item ↔
        items[index]? = some item ∨
          index = items.length ∧ item = last := by
    intro index item
    rw [List.getElem?_append]
    split
    · rename_i inside
      have different : index ≠ items.length := by omega
      simp [different]
    · rename_i outside
      rw [List.getElem?_eq_none (Nat.le_of_not_lt outside)]
      by_cases equal : index = items.length
      · simp [equal, eq_comm]
      · have beyond : ([last] : List α)[index - items.length]? = none :=
          List.getElem?_eq_none (by simp; omega)
        simp [beyond, equal]
  ext index
  by_cases passes : test last = true
  · rw [if_pos passes]
    simp only [passing, Set.mem_ofPred_eq, Set.mem_insert_iff, split]
    constructor
    · rintro ⟨item, found | ⟨rfl, rfl⟩, passed⟩
      · exact Or.inr ⟨item, found, passed⟩
      · exact Or.inl rfl
    · rintro (rfl | ⟨item, found, passed⟩)
      · exact ⟨last, Or.inr ⟨rfl, rfl⟩, passes⟩
      · exact ⟨item, Or.inl found, passed⟩
  · rw [if_neg passes]
    simp only [passing, Set.mem_ofPred_eq, split]
    constructor
    · rintro ⟨item, found | ⟨rfl, rfl⟩, passed⟩
      · exact ⟨item, found, passed⟩
      · exact (passes passed).elim
    · rintro ⟨item, found, passed⟩
      exact ⟨item, Or.inl found, passed⟩

theorem passing_subset_range (items : List α) (test : α → Bool) :
    passing items test ⊆ Set.Iio items.length := by
  rintro index ⟨item, found, _⟩
  exact (List.getElem?_eq_some_iff.mp found).1

theorem passing_finite (items : List α) (test : α → Bool) :
    (passing items test).Finite :=
  (Set.finite_lt_nat items.length).subset
    (passing_subset_range items test)

/-- There are as many passing positions as passing items. -/
theorem ncard_passing (items : List α) (test : α → Bool) :
    (passing items test).ncard = items.countP test := by
  induction items using List.reverseRecOn with
  | nil =>
      have empty : passing ([] : List α) test = ∅ := by
        ext index
        simp [passing]
      rw [empty]
      simp
  | append_singleton items last inductionHypothesis =>
      rw [passing_append_singleton, List.countP_append]
      split
      · rename_i passes
        have absent : items.length ∉ passing items test := fun member =>
          Nat.lt_irrefl _ (passing_subset_range items test member)
        rw [Set.ncard_insert_of_notMem absent (passing_finite items test),
          inductionHypothesis]
        simp [passes]
      · rename_i fails
        rw [inductionHypothesis]
        simp [fails]

end Indices
