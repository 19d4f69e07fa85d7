import Zio.Table.Run

/-!
# Disarming a batch of registrations

A delivery disarms a list of distinct registrations one after another.  When
each of them is an armed one-shot registration, every disarm succeeds and the
batch changes exactly their states.
-/

namespace Zio

namespace RegistrationTable

/-- Apply disarms one after another, ignoring their results. -/
def applyDisarms
    (table : RegistrationTable)
    (disarms : List (RegistrationId × CommitStatus)) : RegistrationTable :=
  disarms.foldl
    (fun table disarm => (table.applyDisarm disarm.1 disarm.2).1) table

@[simp]
theorem applyDisarms_nil (table : RegistrationTable) :
    table.applyDisarms [] = table := rfl

@[simp]
theorem applyDisarms_cons
    (table : RegistrationTable) (disarm : RegistrationId × CommitStatus)
    (rest : List (RegistrationId × CommitStatus)) :
    table.applyDisarms (disarm :: rest) =
      (table.applyDisarm disarm.1 disarm.2).1.applyDisarms rest := rfl

theorem applyDisarms_moves
    (table : RegistrationTable)
    (disarms : List (RegistrationId × CommitStatus)) :
    Moves table (table.applyDisarms disarms) := by
  induction disarms generalizing table with
  | nil => exact Relation.ReflTransGen.refl
  | cons disarm rest inductionHypothesis =>
      exact (applyDisarm_moves table disarm.1 disarm.2).trans
        (inductionHypothesis _)

/-- The registration is live and its entry may be disarmed. -/
def Disarmable (table : RegistrationTable) (id : RegistrationId) : Prop :=
  ∃ entry, table.lookup id = some entry ∧ entry.Disarmable

theorem applyDisarm_ready
    {table : RegistrationTable} {id : RegistrationId} {entry : Entry}
    (present : table.lookup id = some entry) (ready : entry.Disarmable)
    (commit : CommitStatus) :
    (table.applyDisarm id commit).2 =
        .ok (disarmedState commit entry.state) ∧
      ∀ other,
        (table.applyDisarm id commit).1.lookup other =
          if other = id then some (disarmedEntry commit entry)
          else table.lookup other := by
  rcases applyDisarm_cases table id commit with
    ⟨index, slot, found, located, _, result⟩ |
      ⟨found, held, blocked, _⟩ | ⟨absent, _⟩
  · have same : found = entry := by
      rw [located.lookup] at present
      exact Option.some.inj present
    subst same
    rw [result]
    exact ⟨rfl, lookup_writeEntry located _⟩
  · rw [present] at held
    cases held
    exact (blocked ready).elim
  · rw [absent] at present
    cases present

theorem applyDisarm_other
    (table : RegistrationTable) (id : RegistrationId)
    (commit : CommitStatus) {other : RegistrationId}
    (different : other ≠ id) :
    (table.applyDisarm id commit).1.lookup other = table.lookup other := by
  rcases applyDisarm_cases table id commit with
    ⟨index, slot, found, located, _, result⟩ | ⟨_, _, _, result⟩ |
      ⟨_, result⟩
  · rw [result, lookup_writeEntry located, if_neg different]
  · rw [result]
  · rw [result]

theorem applyDisarms_other
    (table : RegistrationTable)
    (disarms : List (RegistrationId × CommitStatus))
    {other : RegistrationId}
    (different : other ∉ disarms.map Prod.fst) :
    (table.applyDisarms disarms).lookup other = table.lookup other := by
  induction disarms generalizing table with
  | nil => rfl
  | cons disarm rest inductionHypothesis =>
      simp only [List.map_cons, List.mem_cons, not_or] at different
      rw [applyDisarms_cons, inductionHypothesis _ different.2,
        applyDisarm_other _ _ _ different.1]

/-- Disarming leaves every entry that may not be disarmed. -/
theorem applyDisarms_kept
    {table : RegistrationTable}
    (disarms : List (RegistrationId × CommitStatus))
    {id : RegistrationId} {entry : Entry}
    (present : table.lookup id = some entry)
    (quiet : ¬ entry.Disarmable) :
    (table.applyDisarms disarms).lookup id = some entry := by
  induction disarms generalizing table with
  | nil => exact present
  | cons disarm rest inductionHypothesis =>
      rw [applyDisarms_cons]
      refine inductionHypothesis ?_
      by_cases same : id = disarm.1
      · subst same
        rcases applyDisarm_cases table disarm.1 disarm.2 with
          ⟨_, _, found, located, disarmable, _⟩ | ⟨_, _, _, result⟩ |
            ⟨_, result⟩
        · rw [located.lookup] at present
          cases present
          exact (quiet disarmable).elim
        · rw [result]
          exact present
        · rw [result]
          exact present
      · rw [applyDisarm_other _ _ _ same]
        exact present

/-- A batch of distinct armed one-shot registrations changes exactly their
states. -/
theorem applyDisarms_lookup
    {table : RegistrationTable}
    {disarms : List (RegistrationId × CommitStatus)}
    (distinct : (disarms.map Prod.fst).Nodup)
    {id : RegistrationId} {commit : CommitStatus}
    (member : (id, commit) ∈ disarms)
    {entry : Entry} (present : table.lookup id = some entry)
    (ready : entry.Disarmable) :
    (table.applyDisarms disarms).lookup id =
      some (disarmedEntry commit entry) := by
  induction disarms generalizing table with
  | nil => cases member
  | cons disarm rest inductionHypothesis =>
      simp only [List.map_cons, List.nodup_cons] at distinct
      rcases List.mem_cons.mp member with same | later
      · subst same
        rw [applyDisarms_cons, applyDisarms_other _ _ distinct.1,
          (applyDisarm_ready present ready commit).2, if_pos rfl]
      · have different : id ≠ disarm.1 := by
          rintro rfl
          exact distinct.1 (List.mem_map.mpr ⟨_, later, rfl⟩)
        rw [applyDisarms_cons]
        refine inductionHypothesis distinct.2 later ?_
        rw [applyDisarm_other _ _ _ different, present]

/-- Disarming keeps every interest. -/
theorem Interested.applyDisarm
    {table : RegistrationTable} (interested : table.Interested)
    (id : RegistrationId) (commit : CommitStatus) :
    (table.applyDisarm id commit).1.Interested := by
  rcases applyDisarm_cases table id commit with
    ⟨index, slot, entry, located, _, result⟩ | ⟨_, _, _, result⟩ |
      ⟨_, result⟩
  · rw [result]
    intro other found present
    rw [lookup_writeEntry located] at present
    split at present
    · cases present
      exact interested id entry located.lookup
    · exact interested other found present
  · rw [result]
    exact interested
  · rw [result]
    exact interested

theorem Interested.applyDisarms
    {table : RegistrationTable} (interested : table.Interested)
    (disarms : List (RegistrationId × CommitStatus)) :
    (table.applyDisarms disarms).Interested := by
  induction disarms generalizing table with
  | nil => exact interested
  | cons disarm rest inductionHypothesis =>
      exact inductionHypothesis
        (interested.applyDisarm disarm.1 disarm.2)

end RegistrationTable

end Zio
