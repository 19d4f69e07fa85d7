import Zio.Kqueue.Run
import Zio.Library.Transition

/-!
# Runs of the coalescing storage

An addition joins the entry of its slot, opens one, is dropped or is rejected;
the last two change nothing.  So over every sequence of additions and clearings
the sparse index names exactly the entries, and a clearing gives back the
storage as it was constructed.
-/

namespace Zio

open Transition

/-- One call on the coalescing storage. -/
inductive PendingOperation where
  | add (registration : RegistrationId) (key : Key)
      (readiness : Readiness)
  | clear

namespace KqueuePending

def perform (self : KqueuePending) :
    PendingOperation → KqueuePending × Except Error Unit
  | .add registration key readiness =>
      self.add registration key readiness
  | .clear => (self.clear, .ok ())

/-- One labelled step: the call and its result. -/
def Step
    (before : KqueuePending)
    (label : PendingOperation × Except Error Unit)
    (after : KqueuePending) : Prop :=
  before.perform label.1 = (after, label.2)

/-- The entry at a position stands for a slot. -/
def HasSlot (pending : KqueuePending) (position slot : Nat) : Prop :=
  ∃ entry generation,
    pending.entries[position]? = some entry ∧
      decode entry.registration = .ok (slot, generation)

/-- Storage of fixed sizes whose index and entries name each other. -/
structure Exact
    (capacity registrations : NonZeroUsize) (pending : KqueuePending) :
    Prop where
  indexed : pending.Indexed
  bounded : pending.entries.length ≤ pending.capacity.val
  capacity : pending.capacity = capacity
  slots : pending.bySlot.length = registrations.val

theorem length_groups (pending : KqueuePending) :
    pending.groups.length = pending.entries.length := by
  simp [groups]

theorem Absorbed.bounded
    {before after : KqueuePending} {registration : RegistrationId}
    {key : Key} {readiness : Readiness}
    (absorbed : Absorbed before registration key readiness after)
    (bounded : before.entries.length ≤ before.capacity.val) :
    after.entries.length ≤ after.capacity.val := by
  rw [← length_groups] at bounded ⊢
  rw [absorbed.groups, absorbed.capacity]
  exact Grouping.length_absorb_le bounded

variable {capacity registrations : NonZeroUsize}

theorem Exact.clear
    {pending : KqueuePending}
    (sound : Exact capacity registrations pending) :
    pending.clear =
      { capacity
        entries := []
        bySlot := List.replicate registrations.val pendingEmpty } := by
  rw [sound.indexed.clear_eq, sound.capacity, sound.slots]

/-- Cleared storage is exact. -/
theorem exact_cleared (addressable : registrations.val ≤ maxRegistrations) :
    Exact capacity registrations
      { capacity
        entries := []
        bySlot := List.replicate registrations.val pendingEmpty } where
  indexed := by
    refine Fresh.indexed ⟨rfl, ?_⟩ ?_
    · simp
    · simpa using addressable
  bounded := Nat.zero_le _
  capacity := rfl
  slots := by simp

theorem Exact.step
    {before after : KqueuePending}
    {label : PendingOperation × Except Error Unit}
    (addressable : registrations.val ≤ maxRegistrations)
    (sound : Exact capacity registrations before)
    (step : Step before label after) :
    Exact capacity registrations after := by
  rcases label with ⟨operation, result⟩
  unfold Step at step
  cases operation with
  | clear =>
      simp only [perform, sound.clear, Prod.mk.injEq] at step
      rw [← step.1]
      exact exact_cleared addressable
  | add registration key readiness =>
      simp only [perform] at step
      rcases sound.indexed.add_cases registration key readiness with
        ⟨error, _, rejected⟩ | ⟨_, _, dropped⟩ |
          ⟨next, added, _, absorbed⟩
      · rw [rejected, Prod.mk.injEq] at step
        rw [← step.1]
        exact sound
      · rw [dropped, Prod.mk.injEq] at step
        rw [← step.1]
        exact sound
      · rw [added, Prod.mk.injEq] at step
        rw [← step.1]
        exact
          { indexed := absorbed.indexed
            bounded := absorbed.bounded sound.bounded
            capacity := absorbed.capacity.trans sound.capacity
            slots := absorbed.slots.trans sound.slots }

/-- Entry and index cell of one slot. -/
theorem Exact.cell
    {pending : KqueuePending}
    (sound : Exact capacity registrations pending)
    {slot : Nat} {index : UInt32}
    (found : pending.bySlot[slot]? = some index) :
    (index ≠ pendingEmpty ↔
      ∃! position, pending.HasSlot position slot) ∧
    ∀ position, pending.HasSlot position slot →
      index.toNat = position ∧ index ≠ pendingEmpty := by
  have indexed := sound.indexed
  have named : ∀ position, pending.HasSlot position slot →
      index.toNat = position ∧ index ≠ pendingEmpty := by
    rintro position ⟨entry, generation, entryFound, decoded⟩
    obtain ⟨cell, size, present⟩ :=
      indexed.index_of_entry entryFound decoded
    rw [found, Option.some.injEq] at cell
    rw [cell]
    exact ⟨size, present⟩
  refine ⟨⟨fun present => ?_, fun sole => ?_⟩, named⟩
  · obtain ⟨entry, generation, entryFound, decoded⟩ :=
      indexed.listed slot index found present
    refine ⟨index.toNat, ⟨entry, generation, entryFound, decoded⟩, ?_⟩
    intro position held
    exact (named position held).1.symm
  · obtain ⟨position, held, _⟩ := sole
    exact (named position held).2

/-- An addition that is rejected or dropped changes nothing. -/
theorem Exact.unchanged
    {pending after : KqueuePending}
    (sound : Exact capacity registrations pending)
    {registration : RegistrationId} {key : Key} {readiness : Readiness}
    {result : Except Error Unit}
    (added : pending.add registration key readiness = (after, result))
    (kept : (∃ error, result = .error error) ∨
      capacity.val ≤ pending.entries.length ∧
        ∀ entry ∈ pending.entries, entry.registration ≠ registration) :
    after = pending := by
  rcases sound.indexed.add_cases registration key readiness with
    ⟨error, _, rejected⟩ | ⟨_, _, dropped⟩ | ⟨next, joined, reason, _⟩
  · rw [rejected, Prod.mk.injEq] at added
    exact added.1.symm
  · rw [dropped, Prod.mk.injEq] at added
    exact added.1.symm
  · rw [joined, Prod.mk.injEq] at added
    rcases kept with ⟨error, failed⟩ | ⟨full, absent⟩
    · rw [failed] at added
      cases added.2
    · rw [sound.capacity] at reason
      rcases reason with grouped | room
      · simp only [groups, List.map_map, List.mem_map] at grouped
        obtain ⟨entry, member, same⟩ := grouped
        exact (absent entry member same).elim
      · omega

/-- Over every sequence of additions and clearings the index is exact, and a
clearing gives back the constructed storage. -/
theorem reachable_exact
    {tableAllocated entriesAllocated slotsAllocated : Bool}
    {table : RegistrationTable} {start finish : KqueuePending}
    {labels : List (PendingOperation × Except Error Unit)}
    (accepted :
      RegistrationTable.new registrations tableAllocated = .ok table)
    (created :
      new capacity registrations entriesAllocated slotsAllocated =
        .ok start)
    (run : Execution Step start labels finish) :
    finish.bySlot.length = registrations.val ∧
    (∀ slot index, finish.bySlot[slot]? = some index →
      (index ≠ pendingEmpty ↔
        ∃! position, finish.HasSlot position slot) ∧
      ∀ position, finish.HasSlot position slot →
        index.toNat = position ∧ index ≠ pendingEmpty) ∧
    finish.entries.length ≤ capacity.val ∧
    (∀ position < finish.entries.length,
      ∃ slot < registrations.val, finish.HasSlot position slot ∧
        ∀ other, finish.HasSlot other slot → other = position) ∧
    (∀ registration key readiness after result,
      finish.add registration key readiness = (after, result) →
        (∃ error, result = .error error) ∨
          capacity.val ≤ finish.entries.length ∧
            (∀ entry ∈ finish.entries,
              entry.registration ≠ registration) →
        after = finish) ∧
    finish.clear = start := by
  obtain ⟨addressable, _⟩ := RegistrationTable.new_eq_ok accepted
  have initial : start =
      { capacity
        entries := []
        bySlot := List.replicate registrations.val pendingEmpty } := by
    unfold new at created
    split at created
    · cases created
    · split at created
      · cases created
      · cases created
        rfl
  have sound : Exact capacity registrations finish :=
    run.invariant (Exact capacity registrations)
      (fun _ _ _ sound step => sound.step addressable step)
      (by rw [initial]; exact exact_cleared addressable)
  refine ⟨sound.slots, fun slot index found => sound.cell found, ?_, ?_,
    fun registration key readiness after result added kept =>
      sound.unchanged added kept, ?_⟩
  · rw [← sound.capacity]
    exact sound.bounded
  · intro position inside
    have found := List.getElem?_eq_getElem inside
    obtain ⟨slot, generation, decoded, cell⟩ :=
      sound.indexed.placed position _ found
    have within := (List.getElem?_eq_some_iff.mp cell).1
    rw [sound.slots] at within
    refine ⟨slot, within, ⟨_, generation, found, decoded⟩, ?_⟩
    rintro other ⟨entry, otherGeneration, otherFound, otherDecoded⟩
    exact sound.indexed.sole otherFound found otherDecoded decoded
  · rw [sound.clear, initial]

/-- Storage for one slot. -/
def oneCell : KqueuePending :=
  { capacity := ⟨1, Nat.one_pos⟩
    entries := []
    bySlot := [pendingEmpty] }

/-- The storage after the slot was observed. -/
def oneCellObserved : KqueuePending :=
  { oneCell with
    entries :=
      [{ registration := RegistrationTable.oneSlotId.id
         key := ⟨7⟩
         readiness := Readiness.readable }]
    bySlot := [0] }

/-- A later generation of an observed slot is rejected, and a clearing starts
afresh. -/
theorem oneCell_exact :
    oneCellObserved.entries.length ≤ 1 ∧
      oneCellObserved.clear = oneCell := by
  have accepted :
      RegistrationTable.new ⟨1, Nat.one_pos⟩ true =
        .ok RegistrationTable.oneSlotTable := rfl
  have created :
      new ⟨1, Nat.one_pos⟩ ⟨1, Nat.one_pos⟩ true true =
        .ok oneCell := rfl
  have observed : Step oneCell
      (.add RegistrationTable.oneSlotId.id ⟨7⟩ Readiness.readable,
        .ok ())
      oneCellObserved := rfl
  have rejected : Step oneCellObserved
      (.add ⟨0x200000001⟩ ⟨8⟩ Readiness.readable, .error .invariant)
      oneCellObserved := rfl
  have run := Execution.cons observed
    (Execution.cons rejected (Execution.refl _))
  obtain ⟨_, _, bounded, _, _, cleared⟩ :=
    reachable_exact accepted created run
  exact ⟨bounded, cleared⟩

end KqueuePending

end Zio
