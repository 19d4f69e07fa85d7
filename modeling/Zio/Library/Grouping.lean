import Mathlib.Data.List.Induction
import Mathlib.Data.List.Perm.Subperm

/-!
# Bounded grouping in first-occurrence order

A stream of keyed values is grouped into a bounded list of groups: a value
whose key already has a group joins it, a value with a new key opens a group
while there is room, and is dropped afterwards.  The result lists the first
distinct keys of the stream, each with the join of all its values, whether they
came before or after the list was full.
-/

namespace Grouping

variable {κ ν : Type*} [DecidableEq κ]

/-- Take one more item into the groups. -/
def absorb (join : ν → ν → ν) (capacity : Nat)
    (groups : List (κ × ν)) (item : κ × ν) : List (κ × ν) :=
  if item.1 ∈ groups.map Prod.fst then
    groups.map fun group =>
      if group.1 = item.1 then (group.1, join group.2 item.2) else group
  else if groups.length < capacity then groups ++ [item]
  else groups

/-- The groups stay within the capacity. -/
theorem length_absorb_le
    {join : ν → ν → ν} {capacity : Nat} {groups : List (κ × ν)}
    {item : κ × ν} (bounded : groups.length ≤ capacity) :
    (absorb join capacity groups item).length ≤ capacity := by
  unfold absorb
  split
  · simpa using bounded
  · split
    · rename_i room
      rw [List.length_append]
      exact room
    · exact bounded

/-- The join of all values of one key. -/
def total (join : ν → ν → ν) (bottom : ν) (items : List (κ × ν))
    (key : κ) : ν :=
  ((items.filter fun item => item.1 = key).map Prod.snd).foldl join bottom

/-- The first distinct keys, each with the join of its values. -/
def summary (join : ν → ν → ν) (bottom : ν) (capacity : Nat)
    (items : List (κ × ν)) : List (κ × ν) :=
  ((items.map Prod.fst).eraseDups.take capacity).map fun key =>
    (key, total join bottom items key)

theorem nodup_eraseDups (keys : List κ) : keys.eraseDups.Nodup := by
  induction size : keys.length using Nat.strongRecOn generalizing keys with
  | ind count inductionHypothesis =>
      cases keys with
      | nil => simp
      | cons key rest =>
          rw [List.eraseDups_cons, List.nodup_cons]
          have shorter :
              (rest.filter fun other => !other == key).length < count := by
            have bound := List.length_filter_le
              (fun other => !other == key) rest
            simp only [List.length_cons] at size
            omega
          refine ⟨?_, inductionHypothesis _ shorter _ rfl⟩
          simp [List.mem_eraseDups]

theorem eraseDups_append_singleton (keys : List κ) (key : κ) :
    (keys ++ [key]).eraseDups =
      if key ∈ keys then keys.eraseDups else keys.eraseDups ++ [key] := by
  rw [List.eraseDups_append]
  by_cases member : key ∈ keys
  · simp [List.removeAll, member]
  · simp [List.removeAll, member, List.eraseDups_cons]

variable {join : ν → ν → ν} {bottom : ν}

theorem total_append_singleton
    (items : List (κ × ν)) (item : κ × ν) (key : κ) :
    total join bottom (items ++ [item]) key =
      if item.1 = key then join (total join bottom items key) item.2
      else total join bottom items key := by
  unfold total
  by_cases same : item.1 = key
  · simp [List.filter_append, same]
  · simp [List.filter_append, same]

theorem total_absent
    {items : List (κ × ν)} {key : κ} (absent : key ∉ items.map Prod.fst) :
    total join bottom items key = bottom := by
  have unheld : (items.filter fun item => item.1 = key) = [] := by
    rw [List.filter_eq_nil_iff]
    intro item member same
    simp only [decide_eq_true_eq] at same
    exact absent (List.mem_map.mpr ⟨item, member, same⟩)
  simp [total, unheld]

theorem summary_keys (capacity : Nat) (items : List (κ × ν)) :
    (summary join bottom capacity items).map Prod.fst =
      (items.map Prod.fst).eraseDups.take capacity := by
  simp [summary, Function.comp_def]

/-- One more item is absorbed into the summary of the items before it. -/
theorem summary_append_singleton
    (unit : ∀ value, join bottom value = value)
    (capacity : Nat) (items : List (κ × ν)) (item : κ × ν) :
    summary join bottom capacity (items ++ [item]) =
      absorb join capacity (summary join bottom capacity items) item := by
  unfold absorb
  rw [summary_keys]
  have size :
      (summary join bottom capacity items).length =
        min capacity (items.map Prod.fst).eraseDups.length := by
    simp [summary]
  by_cases grouped :
      item.1 ∈ (items.map Prod.fst).eraseDups.take capacity
  · rw [if_pos grouped]
    have known : item.1 ∈ items.map Prod.fst :=
      List.mem_eraseDups.mp (List.mem_of_mem_take grouped)
    simp only [summary, List.map_append, List.map_cons, List.map_nil,
      eraseDups_append_singleton, if_pos known, List.map_map]
    apply List.map_congr_left
    intro key _
    simp only [Function.comp_apply, total_append_singleton]
    by_cases same : key = item.1
    · rw [if_pos same, if_pos same.symm]
    · rw [if_neg same, if_neg (Ne.symm same)]
  · rw [if_neg grouped]
    have others : ∀ key ∈ (items.map Prod.fst).eraseDups.take capacity,
        total join bottom (items ++ [item]) key =
          total join bottom items key := by
      intro key member
      rw [total_append_singleton, if_neg]
      rintro rfl
      exact grouped member
    by_cases known : item.1 ∈ items.map Prod.fst
    · have full : ¬ (summary join bottom capacity items).length <
          capacity := by
        intro room
        rw [size] at room
        apply grouped
        rw [List.take_of_length_le (by omega)]
        exact List.mem_eraseDups.mpr known
      rw [if_neg full]
      simp only [summary, List.map_append, List.map_cons, List.map_nil,
        eraseDups_append_singleton, if_pos known]
      exact List.map_congr_left fun key member => by
        rw [others key member]
    · have fresh :
          total join bottom (items ++ [item]) item.1 = item.2 := by
        rw [total_append_singleton, if_pos rfl, total_absent known, unit]
      have keys :
          ((items ++ [item]).map Prod.fst).eraseDups =
            (items.map Prod.fst).eraseDups ++ [item.1] := by
        rw [List.map_append, List.map_singleton,
          eraseDups_append_singleton, if_neg known]
      by_cases room :
          (summary join bottom capacity items).length < capacity
      · rw [if_pos room]
        rw [size] at room
        rw [List.take_of_length_le (by omega)] at others
        unfold summary
        rw [keys, List.take_of_length_le (by simp; omega),
          List.take_of_length_le (by omega), List.map_append]
        congr 1
        · exact List.map_congr_left fun key member => by
            rw [others key member]
        · simp [fresh]
      · rw [if_neg room]
        rw [size] at room
        unfold summary
        rw [keys, List.take_append_of_le_length (by omega)]
        exact List.map_congr_left fun key member => by
          rw [others key member]

/-- Absorbing a whole stream yields its summary. -/
theorem foldl_absorb
    (unit : ∀ value, join bottom value = value)
    (capacity : Nat) (items : List (κ × ν)) :
    items.foldl (absorb join capacity) [] =
      summary join bottom capacity items := by
  induction items using List.reverseRecOn with
  | nil => simp [summary]
  | append_singleton items item inductionHypothesis =>
      rw [List.foldl_append, inductionHypothesis,
        summary_append_singleton unit]
      rfl

/-- Items with distinct keys that fit are their own summary. -/
theorem summary_of_nodup
    (unit : ∀ value, join bottom value = value)
    {capacity : Nat} {items : List (κ × ν)}
    (distinct : (items.map Prod.fst).Nodup)
    (fits : items.length ≤ capacity) :
    summary join bottom capacity items = items := by
  induction items using List.reverseRecOn with
  | nil => simp [summary]
  | append_singleton items item inductionHypothesis =>
      simp only [List.map_append, List.map_cons, List.map_nil,
        List.nodup_append, List.length_append, List.length_cons,
        List.length_nil] at distinct fits
      have absent : item.1 ∉ items.map Prod.fst := fun member =>
        distinct.2.2 _ member _ (List.mem_singleton_self _) rfl
      rw [summary_append_singleton unit,
        inductionHypothesis distinct.1 (by omega), absorb, if_neg absent,
        if_pos (by omega)]

/-! ## Unbounded grouping -/

/-- Every distinct key, with the join of its values. -/
def whole (join : ν → ν → ν) (bottom : ν) (items : List (κ × ν)) :
    List (κ × ν) :=
  summary join bottom items.length items

theorem length_eraseDups_le (keys : List κ) :
    keys.eraseDups.length ≤ keys.length := by
  have distinct := nodup_eraseDups keys
  have inside : keys.eraseDups ⊆ keys :=
    fun _ member => List.mem_eraseDups.mp member
  exact (distinct.subperm inside).length_le

theorem length_whole (items : List (κ × ν)) :
    (whole join bottom items).length =
      (items.map Prod.fst).eraseDups.length := by
  have short := length_eraseDups_le (items.map Prod.fst)
  rw [List.length_map] at short
  simp [whole, summary, Nat.min_eq_right short]

/-- A capacity that holds every group bounds nothing. -/
theorem summary_of_room
    {capacity : Nat} {items : List (κ × ν)}
    (room : (whole join bottom items).length ≤ capacity) :
    summary join bottom capacity items = whole join bottom items := by
  have short := length_eraseDups_le (items.map Prod.fst)
  rw [List.length_map] at short
  rw [length_whole] at room
  unfold whole summary
  rw [List.take_of_length_le room, List.take_of_length_le short]

end Grouping
