import Mathlib.Data.List.Count
import Mathlib.Logic.Relation
import Zio.Library.LinkedStack
import Zio.Table.Lease

/-!
# Representation invariant of the registration table

Every table operation is a sequence of five primitive moves: writing a live
entry, appending a fresh slot, reusing the head of the free list, and retiring
a leased slot with or without generations left.  The representation invariant
is proved once for each move.
-/

namespace Zio

namespace RegistrationTable

open LinkedStack

/-! ## The invariant -/

/-- The intrusive successor of a slot. -/
def nextFree (table : RegistrationTable) (index : UInt32) :
    Option UInt32 :=
  table.slots[index.toNat]?.map Slot.nextFree

/-- A vacant slot that still has generations. -/
def Reusable (table : RegistrationTable) (index : UInt32) : Prop :=
  ∃ slot,
    table.slots[index.toNat]? = some slot ∧ slot.entry = none ∧
      slot.generation < maxGeneration

/-- A vacant slot whose generations are used up. -/
def spent (slot : Slot) : Bool :=
  slot.entry.isNone && slot.generation == maxGeneration

/-- The representation invariant. -/
structure WellFormed (table : RegistrationTable) : Prop where
  freeList :
    ∃ path,
      Visits table.nextFree freeEnd table.freeHead path ∧
        ∀ index, index ∈ path ↔ table.Reusable index
  exhausted : table.exhausted = table.slots.countP spent
  generations : ∀ slot ∈ table.slots, 1 ≤ slot.generation
  withinLimit : table.slots.length ≤ table.limit.val
  limitAddressable : table.limit.val ≤ maxRegistrations
  disarmedOneShot :
    ∀ slot ∈ table.slots, ∀ entry,
      slot.entry = some entry →
        entry.state = .registered .disarmed → entry.mode = .oneShot

/-- What one primitive move does to the table. -/
inductive Move : RegistrationTable → RegistrationTable → Prop
  | write {table : RegistrationTable} {id : RegistrationId}
      {index : Nat} {slot : Slot} {entry : Entry} (written : Entry) :
      table.Located id index slot entry →
      (written.state = .registered .disarmed → written.mode = .oneShot) →
      Move table (table.writeEntry index slot written)
  | fresh {table : RegistrationTable} {permit : FreshPermit}
      (entry : Entry) :
      table.freshPermit = .ok permit →
      entry.state = .registered .armed →
      Move table (freshLease table permit.freeIndex entry).table
  | reused {table : RegistrationTable} {permit : ReusedPermit}
      (entry : Entry) :
      table.reusedPermit = .ok permit →
      entry.state = .registered .armed →
      Move table (reusedLease table permit.slot entry).table
  | retire {lease : SlotLease} {id : RegistrationId} {entry : Entry} :
      lease.Holds id entry →
      lease.slot.generation ≠ maxGeneration →
      Move lease.table lease.retiredTable
  | exhaust {lease : SlotLease} {id : RegistrationId} {entry : Entry} :
      lease.Holds id entry →
      lease.slot.generation = maxGeneration →
      Move lease.table lease.exhaustedTable

/-- Any number of primitive moves. -/
abbrev Moves : RegistrationTable → RegistrationTable → Prop :=
  Relation.ReflTransGen Move

/-! ## Slot replacement -/

theorem lt_maxGeneration_iff (generation : UInt32) :
    generation < maxGeneration ↔ generation ≠ maxGeneration := by
  constructor
  · intro below same
    rw [same] at below
    exact absurd below (by decide)
  · intro different
    exact UInt32.lt_iff_toNat_lt.mpr (u32_toNat_lt_max different)

theorem getElem?_set_eq
    {slots : List Slot} {index : Nat}
    (inside : index < slots.length) (slot : Slot) (other : Nat) :
    (slots.set index slot)[other]? =
      if other = index then some slot else slots[other]? := by
  by_cases equal : other = index
  · subst equal
    rw [if_pos rfl, List.getElem?_set_self inside]
  · rw [if_neg equal, List.getElem?_set_ne (Ne.symm equal)]

theorem countP_set_eq
    {slots : List Slot} {index : Nat} {slot : Slot}
    (found : slots[index]? = some slot) (replacement : Slot) :
    (slots.set index replacement).countP spent +
        (if spent slot then 1 else 0) =
      slots.countP spent + (if spent replacement then 1 else 0) := by
  obtain ⟨inside, value⟩ := List.getElem?_eq_some_iff.mp found
  rw [List.countP_set inside, value]
  by_cases before : spent slot
  · have positive : 0 < slots.countP spent :=
      List.countP_pos_iff.mpr
        ⟨slot, List.mem_of_getElem? found, before⟩
    simp only [before, if_true]
    omega
  · simp [before]

theorem mem_set_cases
    {slots : List Slot} {index : Nat} {replacement slot : Slot}
    (member : slot ∈ slots.set index replacement) :
    slot = replacement ∨ slot ∈ slots :=
  (List.mem_or_eq_of_mem_set member).symm

theorem WellFormed.index_lt
    {table : RegistrationTable} (wellFormed : table.WellFormed)
    {index : Nat} (inside : index < table.slots.length) :
    index < u32Max.toNat := by
  have within := wellFormed.withinLimit
  have addressable := wellFormed.limitAddressable
  rw [u32Max_toNat]
  unfold maxRegistrations at addressable
  omega

/-- Only one-shot registrations are ever disarmed. -/
theorem WellFormed.oneShot_of_disarmed
    {table : RegistrationTable} (wellFormed : table.WellFormed)
    {id : RegistrationId} {entry : Entry}
    (present : table.lookup id = some entry)
    (disarmed : entry.state = .registered .disarmed) :
    entry.mode = .oneShot := by
  obtain ⟨index, slot, located⟩ := (lookup_eq_some_iff _ _ _).1 present
  exact wellFormed.disarmedOneShot slot
    (List.mem_of_getElem? located.found) entry located.occupied disarmed

/-! ## The empty table -/

theorem new_eq_ok
    {limit : NonZeroUsize} {allocated : Bool} {table : RegistrationTable}
    (created : new limit allocated = .ok table) :
    limit.val ≤ maxRegistrations ∧
      table =
        { limit, slots := [], freeHead := freeEnd, exhausted := 0 } := by
  unfold new at created
  split at created
  · cases created
  · split at created
    · cases created
      exact ⟨by omega, rfl⟩
    · cases created

theorem new_lookup
    {limit : NonZeroUsize} {allocated : Bool} {table : RegistrationTable}
    (created : new limit allocated = .ok table) (id : RegistrationId) :
    table.lookup id = none := by
  obtain ⟨_, rfl⟩ := new_eq_ok created
  unfold lookup
  cases decode id <;> simp

theorem new_wellFormed
    {limit : NonZeroUsize} {allocated : Bool} {table : RegistrationTable}
    (created : new limit allocated = .ok table) :
    table.WellFormed := by
  obtain ⟨addressable, rfl⟩ := new_eq_ok created
  exact
    { freeList := ⟨[], rfl, fun index => by simp [Reusable]⟩
      exhausted := rfl
      generations := by simp
      withinLimit := by simp
      limitAddressable := addressable
      disarmedOneShot := by simp }

/-! ## Writing a live entry -/

theorem WellFormed.write
    {table : RegistrationTable} {id : RegistrationId}
    {index : Nat} {slot : Slot} {entry : Entry}
    (wellFormed : table.WellFormed)
    (located : table.Located id index slot entry)
    (written : Entry)
    (oneShot :
      written.state = .registered .disarmed → written.mode = .oneShot) :
    (table.writeEntry index slot written).WellFormed := by
  obtain ⟨path, visits, members⟩ := wellFormed.freeList
  have inside := located.index_lt
  have slotMember := List.mem_of_getElem? located.found
  refine
    { freeList := ⟨path, ?_, ?_⟩
      exhausted := ?_
      generations := ?_
      withinLimit := by
        simpa [writeEntry] using wellFormed.withinLimit
      limitAddressable := wellFormed.limitAddressable
      disarmedOneShot := ?_ }
  · refine visits.congr fun cell _ => ?_
    unfold nextFree writeEntry
    rw [getElem?_set_eq inside]
    split
    · rename_i same
      rw [same, located.found]
      rfl
    · rfl
  · intro cell
    rw [members]
    unfold Reusable writeEntry
    simp only [getElem?_set_eq inside]
    split
    · rename_i same
      rw [same, located.found]
      simp [located.occupied]
    · rfl
  · have counted :=
      countP_set_eq located.found { slot with entry := some written }
    simp only [spent, located.occupied, Option.isNone_some,
      Bool.false_and, Bool.false_eq_true, if_false, Nat.add_zero]
      at counted
    simp only [writeEntry, wellFormed.exhausted]
    exact counted.symm
  · intro candidate member
    rcases mem_set_cases member with rfl | old
    · exact wellFormed.generations slot slotMember
    · exact wellFormed.generations candidate old
  · intro candidate member present occupied disarmed
    rcases mem_set_cases member with rfl | old
    · simp only [Option.some.injEq] at occupied
      subst occupied
      exact oneShot disarmed
    · exact wellFormed.disarmedOneShot candidate old present occupied
        disarmed

/-! ## Reservations -/

theorem WellFormed.fresh
    {table : RegistrationTable} {permit : FreshPermit}
    (wellFormed : table.WellFormed)
    (granted : table.freshPermit = .ok permit)
    (entry : Entry) (armed : entry.state = .registered .armed) :
    (freshLease table permit.freeIndex entry).table.WellFormed := by
  obtain ⟨path, visits, members⟩ := wellFormed.freeList
  obtain ⟨_, room, _, _, _, _⟩ := freshPermit_eq_ok granted
  have appended : ∀ other : Nat,
      (table.slots ++ [freshSlot entry])[other]? =
        if other = table.slots.length then some (freshSlot entry)
        else table.slots[other]? := by
    intro other
    rw [List.getElem?_append]
    split
    · rw [if_neg (by omega)]
    · split
      · rename_i same
        simp [same]
      · rw [List.getElem?_eq_none (by simp; omega),
          List.getElem?_eq_none (by omega)]
  refine
    { freeList := ⟨path, ?_, ?_⟩
      exhausted := ?_
      generations := ?_
      withinLimit := by
        simp [freshLease]
        omega
      limitAddressable := wellFormed.limitAddressable
      disarmedOneShot := ?_ }
  · refine visits.congr fun cell member => ?_
    obtain ⟨slot, found, _⟩ := (members cell).1 member
    have inside := (List.getElem?_eq_some_iff.mp found).1
    simp only [nextFree, freshLease, appended]
    rw [if_neg (by omega)]
  · intro cell
    rw [members]
    simp only [Reusable, freshLease, appended]
    split
    · rename_i same
      rw [same, List.getElem?_eq_none (Nat.le_refl _)]
      simp [freshSlot]
    · rfl
  · simp [freshLease, wellFormed.exhausted, freshSlot, spent]
  · intro candidate member
    simp only [freshLease, List.mem_append, List.mem_singleton] at member
    rcases member with old | rfl
    · exact wellFormed.generations candidate old
    · exact (by decide : (1 : UInt32) ≤ 1)
  · intro candidate member present occupied disarmed
    simp only [freshLease, List.mem_append, List.mem_singleton] at member
    rcases member with old | rfl
    · exact wellFormed.disarmedOneShot candidate old present occupied
        disarmed
    · simp only [freshSlot, Option.some.injEq] at occupied
      subst occupied
      rw [armed] at disarmed
      cases disarmed

theorem WellFormed.reused
    {table : RegistrationTable} {permit : ReusedPermit}
    (wellFormed : table.WellFormed)
    (granted : table.reusedPermit = .ok permit)
    (entry : Entry) (armed : entry.state = .registered .armed) :
    (reusedLease table permit.slot entry).table.WellFormed := by
  obtain ⟨path, visits, members⟩ := wellFormed.freeList
  obtain ⟨slot, generation, notEnd, found, vacant, notLast, shape, _, _⟩ :=
    reusedPermit_eq_ok granted
  have slotValue : permit.slot = slot := by rw [shape]
  have inside := (List.getElem?_eq_some_iff.mp found).1
  obtain ⟨following, rest, pathShape, link, tail⟩ := visits.pop notEnd
  have followingValue : following = slot.nextFree := by
    unfold nextFree at link
    rw [found] at link
    exact (Option.some.inj link).symm
  subst followingValue
  have headOff : table.freeHead ∉ rest := by
    have distinct := visits.nodup
    rw [pathShape] at distinct
    exact (List.nodup_cons.mp distinct).1
  rw [slotValue]
  refine
    { freeList := ⟨rest, ?_, ?_⟩
      exhausted := ?_
      generations := ?_
      withinLimit := by
        simpa [reusedLease] using wellFormed.withinLimit
      limitAddressable := wellFormed.limitAddressable
      disarmedOneShot := ?_ }
  · refine tail.congr fun cell member => ?_
    have different : cell.toNat ≠ table.freeHead.toNat := fun same =>
      headOff (UInt32.toNat_inj.mp same ▸ member)
    simp only [nextFree, reusedLease, getElem?_set_eq inside,
      if_neg different]
  · intro cell
    have before := members cell
    rw [pathShape, List.mem_cons] at before
    simp only [Reusable, reusedLease, getElem?_set_eq inside]
    by_cases same : cell = table.freeHead
    · subst same
      simp [headOff, reusedSlot]
    · have different : cell.toNat ≠ table.freeHead.toNat := fun equal =>
        same (UInt32.toNat_inj.mp equal)
      rw [if_neg different]
      simp only [same, false_or] at before
      exact before
  · have counted := countP_set_eq found (reusedSlot slot entry)
    have notSpent : spent slot = false := by
      simp [spent, notLast]
    have stillNot : spent (reusedSlot slot entry) = false := by
      simp [spent, reusedSlot]
    simp only [notSpent, stillNot, Bool.false_eq_true, if_false,
      Nat.add_zero] at counted
    simp only [reusedLease, wellFormed.exhausted]
    exact counted.symm
  · intro candidate member
    rcases mem_set_cases member with rfl | old
    · have size := u32_succ_toNat notLast
      apply UInt32.le_iff_toNat_le.mpr
      simp only [reusedSlot, size, UInt32.toNat_one]
      omega
    · exact wellFormed.generations candidate old
  · intro candidate member present occupied disarmed
    rcases mem_set_cases member with rfl | old
    · simp only [reusedSlot, Option.some.injEq] at occupied
      subst occupied
      rw [armed] at disarmed
      cases disarmed
    · exact wellFormed.disarmedOneShot candidate old present occupied
        disarmed

/-! ## Retirement -/

theorem WellFormed.retire
    {lease : SlotLease} {id : RegistrationId} {entry : Entry}
    (wellFormed : lease.table.WellFormed)
    (holds : lease.Holds id entry)
    (notLast : lease.slot.generation ≠ maxGeneration) :
    lease.retiredTable.WellFormed := by
  obtain ⟨path, visits, members⟩ := wellFormed.freeList
  have located := holds.located
  have inside := located.index_lt
  have slotMember := List.mem_of_getElem? located.found
  have notEnd : lease.freeIndex ≠ freeEnd := by
    intro same
    have small := wellFormed.index_lt inside
    rw [← holds.index, same] at small
    exact absurd small (Nat.lt_irrefl _)
  have offPath : lease.freeIndex ∉ path := by
    intro member
    obtain ⟨slot, found, vacant, _⟩ := (members lease.freeIndex).1 member
    rw [holds.index, located.found] at found
    cases found
    rw [located.occupied] at vacant
    cases vacant
  have place : ∀ cell : UInt32,
      cell.toNat = lease.slotIndex ↔ cell = lease.freeIndex := by
    intro cell
    rw [← holds.index]
    exact UInt32.toNat_inj
  refine
    { freeList := ⟨lease.freeIndex :: path, ?_, ?_⟩
      exhausted := ?_
      generations := ?_
      withinLimit := by
        simpa [SlotLease.retiredTable, SlotLease.writeSlot] using
          wellFormed.withinLimit
      limitAddressable := wellFormed.limitAddressable
      disarmedOneShot := ?_ }
  · refine visits.push notEnd ?_ fun cell member => ?_
    · simp only [nextFree, SlotLease.retiredTable, SlotLease.writeSlot,
        getElem?_set_eq inside, if_pos holds.index, Option.map_some]
    · have different : cell.toNat ≠ lease.slotIndex := fun same =>
        offPath ((place cell).1 same ▸ member)
      simp only [nextFree, SlotLease.retiredTable, SlotLease.writeSlot,
        getElem?_set_eq inside, if_neg different]
  · intro cell
    rw [List.mem_cons, members]
    simp only [Reusable, SlotLease.retiredTable, SlotLease.writeSlot,
      getElem?_set_eq inside, place]
    by_cases same : cell = lease.freeIndex
    · simp [same, (lt_maxGeneration_iff _).2 notLast]
    · simp [same]
  · have counted :=
      countP_set_eq located.found
        { lease.slot with
          entry := none
          nextFree := lease.table.freeHead }
    simp only [spent, located.occupied, Option.isNone_some,
      Bool.false_and, Bool.false_eq_true, if_false, Nat.add_zero,
      Option.isNone_none, Bool.true_and, beq_iff_eq, if_neg notLast]
      at counted
    simp only [SlotLease.retiredTable, SlotLease.writeSlot,
      wellFormed.exhausted]
    exact counted.symm
  · intro candidate member
    rcases mem_set_cases member with rfl | old
    · exact wellFormed.generations lease.slot slotMember
    · exact wellFormed.generations candidate old
  · intro candidate member present occupied disarmed
    rcases mem_set_cases member with rfl | old
    · cases occupied
    · exact wellFormed.disarmedOneShot candidate old present occupied
        disarmed

theorem WellFormed.exhaust
    {lease : SlotLease} {id : RegistrationId} {entry : Entry}
    (wellFormed : lease.table.WellFormed)
    (holds : lease.Holds id entry)
    (last : lease.slot.generation = maxGeneration) :
    lease.exhaustedTable.WellFormed := by
  obtain ⟨path, visits, members⟩ := wellFormed.freeList
  have located := holds.located
  have inside := located.index_lt
  have slotMember := List.mem_of_getElem? located.found
  have offPath : ∀ cell ∈ path, cell.toNat ≠ lease.slotIndex := by
    intro cell member same
    obtain ⟨slot, found, vacant, _⟩ := (members cell).1 member
    rw [same, located.found] at found
    cases found
    rw [located.occupied] at vacant
    cases vacant
  refine
    { freeList := ⟨path, ?_, ?_⟩
      exhausted := ?_
      generations := ?_
      withinLimit := by
        simpa [SlotLease.exhaustedTable, SlotLease.writeSlot] using
          wellFormed.withinLimit
      limitAddressable := wellFormed.limitAddressable
      disarmedOneShot := ?_ }
  · refine visits.congr fun cell member => ?_
    simp only [nextFree, SlotLease.exhaustedTable, SlotLease.writeSlot,
      getElem?_set_eq inside, if_neg (offPath cell member)]
  · intro cell
    rw [members]
    simp only [Reusable, SlotLease.exhaustedTable, SlotLease.writeSlot,
      getElem?_set_eq inside]
    split
    · rename_i same
      rw [same, located.found]
      simp [located.occupied, last, lt_maxGeneration_iff]
    · rfl
  · have counted :=
      countP_set_eq located.found
        { lease.slot with entry := none, nextFree := freeEnd }
    simp only [spent, located.occupied, Option.isNone_some,
      Bool.false_and, Bool.false_eq_true, if_false, Nat.add_zero,
      Option.isNone_none, Bool.true_and, beq_iff_eq, if_pos last]
      at counted
    simp only [SlotLease.exhaustedTable, SlotLease.writeSlot,
      wellFormed.exhausted]
    exact counted.symm
  · intro candidate member
    rcases mem_set_cases member with rfl | old
    · exact wellFormed.generations lease.slot slotMember
    · exact wellFormed.generations candidate old
  · intro candidate member present occupied disarmed
    rcases mem_set_cases member with rfl | old
    · cases occupied
    · exact wellFormed.disarmedOneShot candidate old present occupied
        disarmed

theorem WellFormed.move
    {before after : RegistrationTable}
    (wellFormed : before.WellFormed) (move : Move before after) :
    after.WellFormed := by
  cases move with
  | write written located oneShot =>
      exact wellFormed.write located written oneShot
  | fresh entry granted armed =>
      exact wellFormed.fresh granted entry armed
  | reused entry granted armed =>
      exact wellFormed.reused granted entry armed
  | retire holds notLast => exact wellFormed.retire holds notLast
  | exhaust holds last => exact wellFormed.exhaust holds last

theorem WellFormed.moves
    {before after : RegistrationTable}
    (wellFormed : before.WellFormed) (moves : Moves before after) :
    after.WellFormed := by
  induction moves with
  | refl => exact wellFormed
  | tail _ last inductionHypothesis =>
      exact inductionHypothesis.move last

end RegistrationTable

end Zio
