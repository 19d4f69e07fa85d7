import Mathlib.Data.Nat.ModEq

/-!
# Rotations

A list of places that is rotated by one with every round.  Within a round the
positions and the places are in one-to-one correspondence.
-/

namespace Rotation

theorem position_unique
    {round count first second : Nat} (inside : first < count)
    (other : second < count)
    (same : (round + first) % count = (round + second) % count) :
    first = second := by
  have congruent : first ≡ second [MOD count] :=
    Nat.ModEq.add_left_cancel' round same
  have reduced : first % count = second % count := congruent
  rw [Nat.mod_eq_of_lt inside, Nat.mod_eq_of_lt other] at reduced
  exact reduced

theorem position_exists
    {place count : Nat} (round : Nat) (inside : place < count) :
    ∃ position < count, (round + position) % count = place := by
  have split := Nat.div_add_mod round count
  have small := Nat.mod_lt round (Nat.zero_lt_of_lt inside)
  by_cases ahead : round % count ≤ place
  · refine ⟨place - round % count, by omega, ?_⟩
    have sum : round + (place - round % count) =
        count * (round / count) + place := by
      omega
    rw [sum, Nat.mul_add_mod, Nat.mod_eq_of_lt inside]
  · refine ⟨place + count - round % count, by omega, ?_⟩
    have sum : round + (place + count - round % count) =
        count * (round / count + 1) + place := by
      rw [Nat.mul_add, Nat.mul_one]
      omega
    rw [sum, Nat.mul_add_mod, Nat.mod_eq_of_lt inside]

end Rotation
