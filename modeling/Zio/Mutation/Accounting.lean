import Mathlib.Algebra.Order.BigOperators.Group.List
import Zio.Mutation.Authority
import Zio.Table.Identity

/-!
# Accounting of reservations

A slot's generation counts how often the slot was handed out, and the free list
is the history's own order of vacated slots, the latest first.  So a run can
make only as many reservations as its slots have generations, and a table whose
slots are all used up has made exactly that many.
-/

namespace Zio

open Transition

/-- The slot that an identity names. -/
def RegistrationId.slotIndex (id : RegistrationId) : Nat :=
  id.slotHalf.toNat - 1

theorem slotIndex_of_decode
    {id : RegistrationId} {index : Nat} {generation : NonZeroU32}
    (decoded : decode id = .ok (index, generation)) :
    id.slotIndex = index ∧ id.generationHalf = generation.val := by
  obtain ⟨slot, same⟩ := (decode_ok_iff _ _ _).mp decoded
  refine ⟨?_, same⟩
  unfold RegistrationId.slotIndex
  omega

namespace RegistrationTable

/-! ## What a history says -/

/-- How often a slot was handed out. -/
def handed (past : List (TableOperation × TableReply)) (index : Nat) :
    Nat :=
  (past.filterMap reservedId).countP fun id => id.slotIndex == index

/-- A reserved slot is no longer vacant. -/
def vacateReserved (vacant : List Nat) : Option RegistrationId → List Nat
  | none => vacant
  | some id => vacant.erase id.slotIndex

/-- A retired slot becomes vacant unless it has no generation left. -/
def vacateRetired (vacant : List Nat) : Option RegistrationId → List Nat
  | none => vacant
  | some id =>
      if id.generationHalf = maxGeneration then vacant
      else id.slotIndex :: vacant

/-- The retired slots that are vacant and have a generation left, the most
recently retired one first. -/
def vacated (past : List (TableOperation × TableReply)) : List Nat :=
  past.foldl
    (fun vacant label =>
      vacateRetired (vacateReserved vacant (reservedId label))
        (retiredId label))
    []

theorem vacated_append
    (past : List (TableOperation × TableReply))
    (label : TableOperation × TableReply) :
    vacated (past ++ [label]) =
      vacateRetired (vacateReserved (vacated past) (reservedId label))
        (retiredId label) := by
  unfold vacated
  rw [List.foldl_append]
  rfl

/-- How many reservations were made, also those that were rolled back. -/
def reservations (past : List (TableOperation × TableReply)) : Nat :=
  (past.filterMap reservedId).length

/-- One more handout of a slot. -/
def bump (handed : Nat → Nat) (index : Nat) : Nat → Nat := fun other =>
  handed other + (if other = index then 1 else 0)

/-- Count the handout of a reservation. -/
def handReserved (handed : Nat → Nat) : Option RegistrationId → Nat → Nat
  | none => handed
  | some id => bump handed id.slotIndex

theorem handed_append
    (past : List (TableOperation × TableReply))
    (label : TableOperation × TableReply) :
    handed (past ++ [label]) =
      handReserved (handed past) (reservedId label) := by
  funext index
  unfold handed
  rw [List.filterMap_append, List.countP_append]
  cases reserved : reservedId label with
  | none => simp [reserved, handReserved]
  | some id =>
      simp only [reserved, handReserved, bump, List.filterMap_cons,
        List.filterMap_nil, List.countP_singleton, beq_iff_eq]
      by_cases same : id.slotIndex = index
      · rw [if_pos same, if_pos same.symm]
      · rw [if_neg same, if_neg (Ne.symm same)]

/-! ## The accounts of a table -/

/-- The generations that the slots have used. -/
def used (table : RegistrationTable) : Nat :=
  (table.slots.map fun slot => slot.generation.toNat).sum

/-- A table agrees with the handouts and vacancies of its history. -/
structure Tallies
    (handed : Nat → Nat) (total : Nat) (vacant : List Nat)
    (table : RegistrationTable) : Prop where
  wellFormed : table.WellFormed
  generation : ∀ (index : Nat) slot, table.slots[index]? = some slot →
    slot.generation.toNat = handed index
  virgin : ∀ index, table.slots.length ≤ index → handed index = 0
  total : total = table.used
  freeList : ∃ path,
    LinkedStack.Visits table.nextFree freeEnd table.freeHead path ∧
      path.map UInt32.toNat = vacant

theorem sum_set
    {slots : List Slot} {index : Nat} {slot : Slot}
    (found : slots[index]? = some slot) (replacement : Slot) :
    ((slots.set index replacement).map fun each =>
        each.generation.toNat).sum + slot.generation.toNat =
      (slots.map fun each => each.generation.toNat).sum +
        replacement.generation.toNat := by
  induction slots generalizing index with
  | nil => cases found
  | cons first rest inductionHypothesis =>
      cases index with
      | zero =>
          cases found
          simp only [List.set_cons_zero, List.map_cons, List.sum_cons]
          omega
      | succ index =>
          have tail := inductionHypothesis found
          simp only [List.set_cons_succ, List.map_cons, List.sum_cons]
          omega

/-- Replacing a slot at its generation keeps the sum. -/
theorem used_set
    {table after : RegistrationTable} {index : Nat}
    {slot replacement : Slot}
    (found : table.slots[index]? = some slot)
    (updated : after.slots = table.slots.set index replacement)
    (same : replacement.generation = slot.generation) :
    after.used = table.used := by
  have changed := sum_set found replacement
  rw [same] at changed
  unfold used
  rw [updated]
  omega

theorem freshLease_used
    (table : RegistrationTable) (freeIndex : UInt32) (entry : Entry) :
    (freshLease table freeIndex entry).table.used = table.used + 1 := by
  simp [freshLease, freshSlot, used]

theorem reusedLease_used
    {table : RegistrationTable} {permit : ReusedPermit}
    (granted : table.reusedPermit = .ok permit) (entry : Entry) :
    (reusedLease table permit.slot entry).table.used =
      table.used + 1 := by
  obtain ⟨slot, generation, _, found, _, notLast, shape, _, _⟩ :=
    reusedPermit_eq_ok granted
  have slotValue : permit.slot = slot := by rw [shape]
  have changed := sum_set found (reusedSlot slot entry)
  have size : (reusedSlot slot entry).generation.toNat =
      slot.generation.toNat + 1 := u32_succ_toNat notLast
  rw [slotValue]
  unfold used reusedLease
  simp only
  omega

/-- Replacing a slot at its generation keeps the counts. -/
theorem Tallies.replace
    {handed : Nat → Nat} {total : Nat} {vacant remaining : List Nat}
    {table after : RegistrationTable} {index : Nat}
    {slot replacement : Slot}
    (tallies : Tallies handed total vacant table)
    (found : table.slots[index]? = some slot)
    (updated : after.slots = table.slots.set index replacement)
    (same : replacement.generation = slot.generation)
    (wellFormed : after.WellFormed)
    (freeList : ∃ path,
      LinkedStack.Visits after.nextFree freeEnd after.freeHead path ∧
        path.map UInt32.toNat = remaining) :
    Tallies handed total remaining after := by
  have inside := (List.getElem?_eq_some_iff.mp found).1
  refine ⟨wellFormed, ?_, ?_, ?_, freeList⟩
  · intro other candidate here
    rw [updated, getElem?_set_eq inside] at here
    split at here
    · rename_i equal
      cases here
      rw [same, equal]
      exact tallies.generation index slot found
    · exact tallies.generation other candidate here
  · intro other outside
    rw [updated, List.length_set] at outside
    exact tallies.virgin other outside
  · rw [tallies.total, used_set found updated same]

/-- The free list holds vacant slots only. -/
theorem WellFormed.visited_vacant
    {table : RegistrationTable} (wellFormed : table.WellFormed)
    {path : List UInt32}
    (visits : LinkedStack.Visits table.nextFree freeEnd table.freeHead
      path)
    {cell : UInt32} (member : cell ∈ path) {slot : Slot}
    (found : table.slots[cell.toNat]? = some slot) :
    slot.entry = none := by
  obtain ⟨other, otherVisits, members⟩ := wellFormed.freeList
  rw [visits.unique otherVisits] at member
  obtain ⟨candidate, candidateFound, vacant, _⟩ := (members cell).mp member
  rw [found] at candidateFound
  cases candidateFound
  exact vacant

/-- Slots off the free list may change without changing it. -/
theorem visits_set
    {table after : RegistrationTable} {index : Nat}
    {replacement : Slot} {head : UInt32} {path : List UInt32}
    (inside : index < table.slots.length)
    (updated : after.slots = table.slots.set index replacement)
    (off : ∀ cell ∈ path, cell.toNat ≠ index)
    (visits : LinkedStack.Visits table.nextFree freeEnd head path) :
    LinkedStack.Visits after.nextFree freeEnd head path := by
  refine visits.congr fun cell member => ?_
  unfold nextFree
  rw [updated, getElem?_set_eq inside, if_neg (off cell member)]

theorem Tallies.write
    {handed : Nat → Nat} {total : Nat} {vacant : List Nat}
    {table : RegistrationTable} {id : RegistrationId} {index : Nat}
    {slot : Slot} {entry : Entry}
    (tallies : Tallies handed total vacant table)
    (located : table.Located id index slot entry) (written : Entry)
    (oneShot :
      written.state = .registered .disarmed → written.mode = .oneShot) :
    Tallies handed total vacant (table.writeEntry index slot written) := by
  obtain ⟨path, visits, order⟩ := tallies.freeList
  refine tallies.replace located.found rfl rfl
    (tallies.wellFormed.write located written oneShot)
    ⟨path, ?_, order⟩
  refine visits_set located.index_lt rfl ?_ visits
  intro cell member same
  have vacated :=
    tallies.wellFormed.visited_vacant visits member
      (by rw [same]; exact located.found)
  rw [located.occupied] at vacated
  cases vacated

theorem Tallies.retire
    {handed : Nat → Nat} {total : Nat} {vacant : List Nat}
    {lease : SlotLease} {id : RegistrationId} {entry : Entry}
    (tallies : Tallies handed total vacant lease.table)
    (holds : lease.Holds id entry)
    (notLast : lease.slot.generation ≠ maxGeneration) :
    Tallies handed total (lease.slotIndex :: vacant)
      lease.retiredTable := by
  obtain ⟨path, visits, order⟩ := tallies.freeList
  have located := holds.located
  have inside := located.index_lt
  have off : ∀ cell ∈ path, cell.toNat ≠ lease.slotIndex := by
    intro cell member same
    have vacated :=
      tallies.wellFormed.visited_vacant visits member
        (by rw [same]; exact located.found)
    rw [located.occupied] at vacated
    cases vacated
  have notEnd : lease.freeIndex ≠ freeEnd := by
    intro same
    have small := tallies.wellFormed.index_lt inside
    rw [← holds.index, same] at small
    exact absurd small (Nat.lt_irrefl _)
  refine tallies.replace located.found rfl rfl
    (tallies.wellFormed.retire holds notLast)
    ⟨lease.freeIndex :: path, ?_, ?_⟩
  · refine visits.push notEnd ?_ ?_
    · simp only [nextFree, SlotLease.retiredTable, SlotLease.writeSlot,
        getElem?_set_eq inside, holds.index, if_true, Option.map_some]
    · intro cell member
      simp only [nextFree, SlotLease.retiredTable, SlotLease.writeSlot,
        getElem?_set_eq inside, if_neg (off cell member)]
  · rw [List.map_cons, holds.index, order]

theorem Tallies.exhaust
    {handed : Nat → Nat} {total : Nat} {vacant : List Nat}
    {lease : SlotLease} {id : RegistrationId} {entry : Entry}
    (tallies : Tallies handed total vacant lease.table)
    (holds : lease.Holds id entry)
    (last : lease.slot.generation = maxGeneration) :
    Tallies handed total vacant lease.exhaustedTable := by
  obtain ⟨path, visits, order⟩ := tallies.freeList
  have located := holds.located
  refine tallies.replace located.found rfl rfl
    (tallies.wellFormed.exhaust holds last) ⟨path, ?_, order⟩
  refine visits_set located.index_lt rfl ?_ visits
  intro cell member same
  have vacated :=
    tallies.wellFormed.visited_vacant visits member
      (by rw [same]; exact located.found)
  rw [located.occupied] at vacated
  cases vacated

/-- Settling a lease retires its slot or keeps the counts. -/
theorem Tallies.settle
    {handed : Nat → Nat} {total : Nat} {vacant : List Nat}
    {lease : SlotLease} {id : RegistrationId} {entry : Entry}
    (tallies : Tallies handed total vacant lease.table)
    (holds : lease.Holds id entry) (settlement : Settlement) :
    Tallies handed total
      (vacateRetired vacant
        (if settlement = .retire then some id else none))
      (lease.settle settlement).1 := by
  obtain ⟨generation, decoded, same⟩ := holds.located.decoded
  obtain ⟨index, half⟩ := slotIndex_of_decode decoded
  cases settlement with
  | keep => exact tallies
  | markUncertain =>
      simp only [SlotLease.settle, holds.markUncertain]
      exact tallies.write holds.located _ fun disarmed => by cases disarmed
  | retire =>
      have succeeded := tallies.wellFormed.settle_ok holds .retire
      simp only [if_true, vacateRetired, index, half, ← same]
      unfold SlotLease.settle at *
      rcases lease.retire_cases with
        ⟨notLast, result⟩ | ⟨last, _, result⟩ | ⟨_, _, result⟩
      · rw [result, if_neg notLast]
        exact tallies.retire holds notLast
      · rw [result, if_pos last]
        exact tallies.exhaust holds last
      · rw [result] at succeeded
        cases succeeded

/-! ## Reservations -/

theorem Tallies.fresh
    {handed : Nat → Nat} {total : Nat} {vacant : List Nat}
    {table : RegistrationTable} {permit : FreshPermit}
    (tallies : Tallies handed total vacant table)
    (granted : table.freshPermit = .ok permit) (entry : Entry)
    (armed : entry.state = .registered .armed) :
    vacant = [] ∧
      permit.id.id.slotIndex = table.slots.length ∧
      permit.id.id.generationHalf.toNat =
        handed permit.id.id.slotIndex + 1 ∧
      Tallies (bump handed permit.id.id.slotIndex) (total + 1)
        (vacant.erase permit.id.id.slotIndex)
        (freshLease table permit.freeIndex entry).table := by
  obtain ⟨path, visits, order⟩ := tallies.freeList
  obtain ⟨atEnd, room, _, _, _, decoded⟩ := freshPermit_eq_ok granted
  obtain ⟨index, half⟩ := slotIndex_of_decode decoded
  have emptyPath : path = [] := visits.unique atEnd
  have nothing : vacant = [] := by
    rw [← order, emptyPath]
    rfl
  refine ⟨nothing, index, ?_, ?_⟩
  · rw [half, index, tallies.virgin _ (Nat.le_refl _)]
    rfl
  · rw [nothing, index]
    refine ⟨tallies.wellFormed.fresh granted entry armed, ?_, ?_, ?_,
      [], atEnd, rfl⟩
    · intro other slot found
      simp only [freshLease] at found
      unfold bump
      by_cases last : other = table.slots.length
      · rw [last, List.getElem?_append_right (Nat.le_refl _)] at found
        simp only [Nat.sub_self, List.getElem?_cons_zero,
          Option.some.injEq] at found
        rw [if_pos last, last, tallies.virgin _ (Nat.le_refl _), ← found]
        rfl
      · have inside : other < table.slots.length := by
          have bound := (List.getElem?_eq_some_iff.mp found).1
          rw [List.length_append, List.length_singleton] at bound
          omega
        rw [List.getElem?_append_left inside] at found
        rw [if_neg last]
        exact tallies.generation other slot found
    · intro other outside
      simp only [freshLease, List.length_append, List.length_singleton]
        at outside
      unfold bump
      rw [if_neg (by omega), tallies.virgin other (by omega)]
    · rw [tallies.total, freshLease_used]

theorem Tallies.reused
    {handed : Nat → Nat} {total : Nat} {vacant : List Nat}
    {table : RegistrationTable} {permit : ReusedPermit}
    (tallies : Tallies handed total vacant table)
    (granted : table.reusedPermit = .ok permit) (entry : Entry)
    (armed : entry.state = .registered .armed) :
    vacant.head? = some permit.id.id.slotIndex ∧
      permit.id.id.generationHalf.toNat =
        handed permit.id.id.slotIndex + 1 ∧
      Tallies (bump handed permit.id.id.slotIndex) (total + 1)
        (vacant.erase permit.id.id.slotIndex)
        (reusedLease table permit.slot entry).table := by
  obtain ⟨path, visits, order⟩ := tallies.freeList
  obtain ⟨slot, generation, notEnd, found, _, notLast, shape, next,
    decoded⟩ := reusedPermit_eq_ok granted
  obtain ⟨index, half⟩ := slotIndex_of_decode decoded
  obtain ⟨following, rest, pathShape, link, tail⟩ := visits.pop notEnd
  have slotValue : permit.slot = slot := by rw [shape]
  have inside := (List.getElem?_eq_some_iff.mp found).1
  have grown := u32_succ_toNat notLast
  have counted := tallies.generation _ slot found
  have vacantShape : vacant = table.freeHead.toNat ::
      rest.map UInt32.toNat := by
    rw [← order, pathShape, List.map_cons]
  have followingValue : following = slot.nextFree := by
    unfold nextFree at link
    rw [found] at link
    exact (Option.some.inj link).symm
  have off : ∀ cell ∈ rest, cell.toNat ≠ table.freeHead.toNat := by
    intro cell member same
    have distinct := visits.nodup
    rw [pathShape] at distinct
    exact (List.nodup_cons.mp distinct).1
      (UInt32.toNat_inj.mp same ▸ member)
  refine ⟨?_, ?_, ?_⟩
  · rw [vacantShape, index]
    rfl
  · rw [half, index, next, grown, counted]
  · have wellFormed := tallies.wellFormed.reused granted entry armed
    rw [slotValue] at wellFormed ⊢
    rw [index, vacantShape, List.erase_cons_head]
    refine ⟨wellFormed, ?_, ?_, ?_, rest, ?_, rfl⟩
    · intro other candidate here
      simp only [reusedLease, getElem?_set_eq inside] at here
      unfold bump
      split at here
      · rename_i same
        cases here
        rw [if_pos same, same, ← counted, reusedSlot]
        exact grown
      · rename_i different
        rw [if_neg different]
        exact tallies.generation other candidate here
    · intro other outside
      simp only [reusedLease, List.length_set] at outside
      unfold bump
      rw [if_neg (by omega), tallies.virgin other outside]
    · have counts := reusedLease_used granted entry
      rw [slotValue] at counts
      rw [tallies.total, counts]
    · rw [followingValue] at tail
      exact visits_set inside rfl off tail

/-! ## Steps -/

theorem reservations_append
    (past : List (TableOperation × TableReply))
    (label : TableOperation × TableReply) :
    reservations (past ++ [label]) =
      reservations past + (reservedId label).toList.length := by
  unfold reservations
  rw [List.filterMap_append, List.length_append]
  cases reserved : reservedId label <;> simp [reserved]

/-- The table agrees with the history. -/
abbrev Agrees
    (past : List (TableOperation × TableReply))
    (table : RegistrationTable) : Prop :=
  Tallies (handed past) (reservations past) (vacated past) table

/-- A label that neither reserves nor retires keeps the history's counts. -/
theorem agrees_append
    {past : List (TableOperation × TableReply)}
    {label : TableOperation × TableReply} {table : RegistrationTable}
    (tallies : Tallies (handReserved (handed past) (reservedId label))
      (reservations past + (reservedId label).toList.length)
      (vacateRetired (vacateReserved (vacated past) (reservedId label))
        (retiredId label)) table) :
    Agrees (past ++ [label]) table := by
  unfold Agrees
  rw [handed_append, reservations_append, vacated_append]
  exact tallies

theorem retiredId_refused (operation : TableOperation) (error : Error) :
    retiredId (operation, .refused error) = none := by
  cases operation with
  | reserveFresh _ _ _ _ settlement => cases settlement <;> rfl
  | reserveReused _ _ _ _ settlement => cases settlement <;> rfl
  | prepareRetire _ _ settlement => cases settlement <;> rfl
  | commitModify => rfl
  | markUncertain => rfl
  | applyDisarm => rfl

/-- What the next reservation of a history gets. -/
structure Next
    (past : List (TableOperation × TableReply))
    (table : RegistrationTable) (id : RegistrationId) : Prop where
  generation : id.generationHalf.toNat = handed past id.slotIndex + 1
  slot : id.slotIndex = (vacated past).head?.getD table.slots.length

theorem Tallies.step
    {past : List (TableOperation × TableReply)}
    {before after : RegistrationTable}
    {label : TableOperation × TableReply}
    (tallies : Agrees past before) (step : Step before label after) :
    Agrees (past ++ [label]) after ∧
      ∀ id, reservedId label = some id → Next past before id := by
  rcases label with ⟨operation, reply⟩
  have wellFormed := tallies.wellFormed
  have kept : ∀ table : RegistrationTable,
      Tallies (handed past) (reservations past) (vacated past) table →
      reservedId (operation, reply) = none →
      retiredId (operation, reply) = none →
      Agrees (past ++ [(operation, reply)]) table ∧
        ∀ id, reservedId (operation, reply) = some id →
          Next past before id := by
    intro table same unreserved unretired
    refine ⟨agrees_append ?_, ?_⟩
    · rw [unreserved, unretired]
      exact same
    · intro id reserved
      rw [unreserved] at reserved
      cases reserved
  unfold Step at step
  cases operation with
  | reserveFresh descriptor key interest mode settlement =>
      cases granted : before.freshPermit with
      | error error =>
          simp only [perform, granted, Prod.mk.injEq] at step
          obtain ⟨rfl, rfl⟩ := step
          exact kept before tallies rfl (retiredId_refused _ _)
      | ok permit =>
          have reserves := freshLease_reserves granted
            (Entry.registered descriptor key interest mode)
          obtain ⟨nothing, index, generation, reserved⟩ :=
            tallies.fresh granted
              (Entry.registered descriptor key interest mode) rfl
          have settled := reserved.settle reserves.holds settlement
          have succeeded :=
            reserved.wellFormed.settle_ok reserves.holds settlement
          simp only [perform, granted, freshReserve_eq granted,
            settleReserved, Prod.mk.injEq] at step
          obtain ⟨rfl, rfl⟩ := step
          rw [succeeded]
          refine ⟨agrees_append ?_, ?_⟩
          · cases settlement <;> exact settled
          · rintro id same
            cases same
            exact ⟨generation, by rw [nothing]; exact index⟩
  | reserveReused descriptor key interest mode settlement =>
      cases granted : before.reusedPermit with
      | error error =>
          simp only [perform, granted, Prod.mk.injEq] at step
          obtain ⟨rfl, rfl⟩ := step
          exact kept before tallies rfl (retiredId_refused _ _)
      | ok permit =>
          have reserves := reusedLease_reserves granted
            (Entry.registered descriptor key interest mode)
          obtain ⟨head, generation, reserved⟩ :=
            tallies.reused granted
              (Entry.registered descriptor key interest mode) rfl
          have settled := reserved.settle reserves.holds settlement
          have succeeded :=
            reserved.wellFormed.settle_ok reserves.holds settlement
          simp only [perform, granted, reusedReserve_eq granted,
            settleReserved, Prod.mk.injEq] at step
          obtain ⟨rfl, rfl⟩ := step
          rw [succeeded]
          refine ⟨agrees_append ?_, ?_⟩
          · cases settlement <;> exact settled
          · rintro id same
            cases same
            exact ⟨generation, by rw [head]; rfl⟩
  | prepareRetire registration allowUncertain settlement =>
      rcases prepareRegistrationRetire_cases before registration
          allowUncertain with
        ⟨lease, entry, result, same, holds, _⟩ | ⟨_, _, _, _, result⟩ |
          ⟨_, result⟩
      · have leased : Tallies (handed past) (reservations past)
            (vacated past) lease.table := by
          rw [same]
          exact tallies
        have settled := leased.settle holds settlement
        have succeeded := leased.wellFormed.settle_ok holds settlement
        simp only [perform, result, Prod.mk.injEq] at step
        obtain ⟨rfl, rfl⟩ := step
        rw [succeeded]
        refine ⟨agrees_append ?_, ?_⟩
        · cases settlement <;> exact settled
        · intro id reserved
          cases reserved
      · simp only [perform, result, Prod.mk.injEq] at step
        obtain ⟨rfl, rfl⟩ := step
        exact kept before tallies rfl (retiredId_refused _ _)
      · simp only [perform, result, Prod.mk.injEq] at step
        obtain ⟨rfl, rfl⟩ := step
        exact kept before tallies rfl (retiredId_refused _ _)
  | commitModify id interest mode =>
      simp only [perform, Prod.mk.injEq] at step
      obtain ⟨rfl, rfl⟩ := step
      refine kept _ ?_ rfl rfl
      rcases commitModify_cases before id interest mode with
        ⟨index, slot, entry, located, result⟩ | ⟨_, result⟩
      · rw [result]
        exact tallies.write located _ fun disarmed => by cases disarmed
      · rw [result]
        exact tallies
  | markUncertain id =>
      simp only [perform, Prod.mk.injEq] at step
      obtain ⟨rfl, rfl⟩ := step
      refine kept _ ?_ rfl rfl
      rcases markUncertain_cases before id with
        ⟨index, slot, entry, located, result⟩ | ⟨_, result⟩
      · rw [result]
        exact tallies.write located _ fun disarmed => by cases disarmed
      · rw [result]
        exact tallies
  | applyDisarm id commit =>
      simp only [perform, Prod.mk.injEq] at step
      obtain ⟨rfl, rfl⟩ := step
      refine kept _ ?_ rfl rfl
      rcases applyDisarm_cases before id commit with
        ⟨index, slot, entry, located, ready, result⟩ |
          ⟨_, _, _, result⟩ | ⟨_, result⟩
      · rw [result]
        exact tallies.write located _ fun _ => ready.1
      · rw [result]
        exact tallies
      · rw [result]
        exact tallies

/-! ## Whole runs -/

theorem run_agrees
    {limit : NonZeroUsize} {allocated : Bool}
    {start finish : RegistrationTable}
    {labels : List (TableOperation × TableReply)}
    (created : new limit allocated = .ok start)
    (run : Execution Step start labels finish) :
    Agrees labels finish := by
  refine run.history Agrees (fun _ _ _ _ agrees step =>
    (agrees.step step).1) ?_
  have wellFormed := new_wellFormed created
  obtain ⟨_, rfl⟩ := new_eq_ok created
  exact ⟨wellFormed, by simp, fun _ _ => rfl, rfl, [], rfl, rfl⟩

theorem generation_le (slot : Slot) :
    slot.generation.toNat ≤ maxGeneration.toNat := by
  have bound : slot.generation.toNat < 2 ^ 32 := slot.generation.toNat_lt
  have size : maxGeneration.toNat = 2 ^ 32 - 1 := u32Max_toNat
  omega

theorem used_le (table : RegistrationTable) :
    table.used ≤ table.slots.length * maxGeneration.toNat := by
  have bounded :=
    List.sum_le_card_nsmul
      (table.slots.map fun slot => slot.generation.toNat)
      maxGeneration.toNat (by
        intro value member
        obtain ⟨slot, _, rfl⟩ := List.mem_map.mp member
        exact generation_le slot)
  rw [List.length_map, Nat.nsmul_eq_mul] at bounded
  exact bounded

/-- Slots that are all used up have used every generation. -/
theorem used_of_spent
    {table : RegistrationTable}
    (all : ∀ slot ∈ table.slots, spent slot = true) :
    table.used = table.slots.length * maxGeneration.toNat := by
  have total :=
    List.sum_eq_card_nsmul
      (table.slots.map fun slot => slot.generation.toNat)
      maxGeneration.toNat (by
        intro value member
        obtain ⟨slot, inside, rfl⟩ := List.mem_map.mp member
        have used := all slot inside
        simp only [spent, Bool.and_eq_true, beq_iff_eq] at used
        rw [used.2])
  rw [List.length_map, Nat.nsmul_eq_mul] at total
  exact total

/-- The vacant slots at the last generation. -/
def dead (table : RegistrationTable) : Nat := table.slots.countP spent

/-- Every slot of a table without live or further slots is used up. -/
theorem WellFormed.used_of_dead
    {table : RegistrationTable} (wellFormed : table.WellFormed)
    (full : table.dead = table.limit.val) :
    table.used = table.limit.val * maxGeneration.toNat := by
  have within := wellFormed.withinLimit
  have bounded : table.dead ≤ table.slots.length := List.countP_le_length
  have every : table.slots.countP spent = table.slots.length := by
    unfold dead at full bounded
    omega
  have length : table.slots.length = table.limit.val := by omega
  rw [used_of_spent (List.countP_eq_length.mp every), length]

/-- The path that callers choose for a reservation. -/
def reservation
    (table : RegistrationTable) (descriptor : Descriptor) (key : Key)
    (interest : Interest) (mode : Mode) (settlement : Settlement) :
    TableOperation :=
  if table.hasReusableSlot then
    .reserveReused descriptor key interest mode settlement
  else
    .reserveFresh descriptor key interest mode settlement

theorem WellFormed.reservation_cases
    {table : RegistrationTable} (wellFormed : table.WellFormed)
    (descriptor : Descriptor) (key : Key) (interest : Interest)
    (mode : Mode) (settlement : Settlement) :
    if table.live + table.dead < table.limit.val then
      ∃ id next,
        table.perform
            (table.reservation descriptor key interest mode settlement) =
          (next, .reserved id (.ok ()))
    else
      table.perform
          (table.reservation descriptor key interest mode settlement) =
        (table,
          .refused
            (if table.dead = table.limit.val then
              .registrationSpaceExhausted
            else .capacity table.limit.val)) := by
  have admission := wellFormed.admission
  have counted : table.exhausted = table.dead := wellFormed.exhausted
  rw [counted] at admission
  unfold reservation
  split at admission
  · rename_i room
    rw [if_pos room]
    split at admission
    · rename_i reusable
      obtain ⟨permit, granted⟩ := admission
      have reserves := reusedLease_reserves granted
        (Entry.registered descriptor key interest mode)
      have succeeded := (wellFormed.reused granted
        (Entry.registered descriptor key interest mode) rfl).settle_ok
          reserves.holds settlement
      refine ⟨permit.id.id,
        ((reusedLease table permit.slot
          (Entry.registered descriptor key interest mode)).settle
            settlement).1, ?_⟩
      rw [if_pos reusable]
      simp only [perform, granted, reusedReserve_eq granted,
        settleReserved, succeeded]
    · rename_i nothing
      obtain ⟨permit, granted⟩ := admission
      have reserves := freshLease_reserves granted
        (Entry.registered descriptor key interest mode)
      have succeeded := (wellFormed.fresh granted
        (Entry.registered descriptor key interest mode) rfl).settle_ok
          reserves.holds settlement
      refine ⟨permit.id.id,
        ((freshLease table permit.freeIndex
          (Entry.registered descriptor key interest mode)).settle
            settlement).1, ?_⟩
      rw [if_neg nothing]
      simp only [perform, granted, freshReserve_eq granted,
        settleReserved, succeeded]
  · rename_i full
    obtain ⟨nothing, _, refused⟩ := admission
    rw [if_neg full, if_neg (by simp [nothing])]
    simp only [perform, refused]

/-- Only a table whose slots are all used up reports exhaustion. -/
theorem WellFormed.exhausted_of_refused
    {table after : RegistrationTable} {operation : TableOperation}
    (wellFormed : table.WellFormed)
    (step : Step table
      (operation, .refused .registrationSpaceExhausted) after) :
    table.dead = table.limit.val := by
  unfold Step at step
  have counted : table.exhausted = table.dead := wellFormed.exhausted
  cases operation with
  | reserveFresh descriptor key interest mode settlement =>
      cases reusable : table.hasReusableSlot with
      | true =>
          simp [perform, freshPermit, reusable] at step
      | false =>
          by_cases room : table.slots.length < table.limit.val
          · obtain ⟨permit, granted⟩ :=
              wellFormed.freshPermit_ok reusable room
            simp [perform, granted, freshReserve_eq granted,
              settleReserved] at step
          · simp only [perform, freshPermit_full reusable room,
              Prod.mk.injEq, TableReply.refused.injEq] at step
            rw [← counted]
            by_contra other
            rw [if_neg other] at step
            cases step.2
  | reserveReused descriptor key interest mode settlement =>
      cases reusable : table.hasReusableSlot with
      | true =>
          obtain ⟨permit, granted⟩ := wellFormed.reusedPermit_ok reusable
          simp [perform, granted, reusedReserve_eq granted,
            settleReserved] at step
      | false =>
          have atEnd : table.freeHead = freeEnd := by
            simpa [hasReusableSlot] using reusable
          simp [perform, reusedPermit, atEnd] at step
  | prepareRetire registration allowUncertain settlement =>
      rcases prepareRegistrationRetire_cases table registration
          allowUncertain with
        ⟨lease, _, result, _, _, _⟩ | ⟨_, _, _, _, result⟩ | ⟨_, result⟩
      · simp [perform, result] at step
      · simp [perform, result] at step
      · simp [perform, result] at step
  | commitModify => simp [perform] at step
  | markUncertain => simp [perform] at step
  | applyDisarm => simp [perform] at step

end RegistrationTable

/-! ## Registrations -/

namespace MutationSession

variable {σ : Type*}

end MutationSession

/-- A registration that passed its preflight checks is refused for want of room
exactly when the live and the used-up slots fill the limit. -/
theorem MutationSession.call_admission
    {σ : Type*} (backend : MutationDriver σ) (session : MutationSession σ)
    (wellFormed : session.registrations.WellFormed)
    {request : Call} {intake : Intake} {descriptor : Fd}
    (taken : request.intake = some intake)
    (interested : intake.interest.isEmpty = false)
    (duplicated : intake.duplicate = .ok descriptor) :
    if session.registrations.live + session.registrations.dead <
        session.registrations.limit.val then
      ∀ failed,
        (call backend session request).2 = .register (.error failed) →
          failed.error.beforeReservation = false
    else
      call backend session request =
        (session,
          .register
            (.error
              { error :=
                  if session.registrations.dead =
                      session.registrations.limit.val then
                    .registrationSpaceExhausted
                  else .capacity session.registrations.limit.val
                registration := none })) := by
  have effect := call_effect backend session wellFormed request
  have counted : session.registrations.exhausted =
      session.registrations.dead := wellFormed.exhausted
  rw [← counted]
  generalize call backend session request = result at effect ⊢
  cases effect with
  | invalidInterest other noInterest =>
      rw [taken] at other
      cases other
      rw [interested] at noInterest
      cases noInterest
  | duplicationFailed other _ failed =>
      rw [taken] at other
      cases other
      rw [duplicated] at failed
      cases failed
  | registering other _ _ registers =>
      cases registers with
      | full full =>
          rw [if_neg (by omega)]
          rfl
      | unowned nextPollId room vacant =>
          rw [if_pos room]
          intro failed replied
          cases replied
          rfl
      | answered owner nextPollId registration lease driver answer room =>
          rw [if_pos room]
          intro failed replied
          cases answer with
          | ok done => cases replied
          | error failure =>
              cases replied
              rfl
  | modifyRefused _ => cases taken
  | modified _ _ _ _ => cases taken
  | deleteRefused _ => cases taken
  | deleted _ _ _ _ => cases taken
  | queried => cases taken

namespace RegistrationTable

/-- In every reachable table a reservation is admitted exactly when the live
and the used-up slots leave room; a refused one changes nothing and says why.
An admitted one takes the most recently vacated slot, or else a virgin one,
with one more generation than the slot was handed out before.  No slot is
handed out more often than it has generations, and exhaustion is reported only
when all of them are used. -/
theorem reachable_accounting
    {limit : NonZeroUsize} {allocated : Bool}
    {start finish : RegistrationTable}
    {labels : List (TableOperation × TableReply)}
    (created : new limit allocated = .ok start)
    (run : Execution Step start labels finish) :
    (∀ descriptor key interest mode settlement,
        if finish.live + finish.dead < limit.val then
          ∃ id next,
            finish.perform
                (finish.reservation descriptor key interest mode
                  settlement) =
              (next, .reserved id (.ok ()))
        else
          finish.perform
              (finish.reservation descriptor key interest mode
                settlement) =
            (finish,
              .refused
                (if finish.dead = limit.val then
                  .registrationSpaceExhausted
                else .capacity limit.val))) ∧
      (∀ (σ : Type*) (backend : MutationDriver σ)
          (session : MutationSession σ) (request : Call)
          (intake : Intake) (descriptor : Fd),
        session.registrations = finish →
        request.intake = some intake →
        intake.interest.isEmpty = false →
        intake.duplicate = .ok descriptor →
          if finish.live + finish.dead < limit.val then
            ∀ failed,
              (MutationSession.call backend session request).2 =
                  .register (.error failed) →
                failed.error.beforeReservation = false
          else
            MutationSession.call backend session request =
              (session,
                .register
                  (.error
                    { error :=
                        if finish.dead = limit.val then
                          .registrationSpaceExhausted
                        else .capacity limit.val
                      registration := none }))) ∧
      (∀ label next id, Step finish label next →
        reservedId label = some id →
          id.generationHalf.toNat = handed labels id.slotIndex + 1 ∧
            id.slotIndex =
              (vacated labels).head?.getD finish.slots.length) ∧
      (∀ index, index ∈ vacated labels ↔
        ∃ slot, finish.slots[index]? = some slot ∧ slot.entry = none ∧
          slot.generation ≠ maxGeneration) ∧
      (∀ index, handed labels index ≤ 2 ^ 32 - 1) ∧
      reservations labels ≤ limit.val * (2 ^ 32 - 1) ∧
      ∀ operation next,
        Step finish (operation, .refused .registrationSpaceExhausted)
          next →
            reservations labels = limit.val * (2 ^ 32 - 1) := by
  have agrees := run_agrees created run
  have wellFormed := agrees.wellFormed
  have limits : finish.limit = limit := by
    rw [Moves.limit_eq (execution_moves run),
      (new_eq_ok created).2]
  have size : maxGeneration.toNat = 2 ^ 32 - 1 := u32Max_toNat
  refine ⟨?_, ?_, ?_, ?_, ?_, ?_, ?_⟩
  · intro descriptor key interest mode settlement
    rw [← limits]
    exact wellFormed.reservation_cases descriptor key interest mode
      settlement
  · rintro σ backend session request intake descriptor rfl taken
      interested duplicated
    rw [← limits]
    exact MutationSession.call_admission backend session wellFormed taken
      interested duplicated
  · intro label next id step reserved
    obtain ⟨generation, slot⟩ := (agrees.step step).2 id reserved
    exact ⟨generation, slot⟩
  · intro index
    obtain ⟨path, visits, order⟩ := agrees.freeList
    obtain ⟨other, otherVisits, members⟩ := wellFormed.freeList
    rw [← order, visits.unique otherVisits, List.mem_map]
    constructor
    · rintro ⟨cell, member, rfl⟩
      obtain ⟨slot, found, vacant, below⟩ := (members cell).mp member
      exact ⟨slot, found, vacant, (lt_maxGeneration_iff _).mp below⟩
    · rintro ⟨slot, found, vacant, notLast⟩
      have small := wellFormed.index_lt
        (List.getElem?_eq_some_iff.mp found).1
      rw [u32Max_toNat] at small
      have cell : (UInt32.ofNat index).toNat = index := by
        rw [UInt32.toNat_ofNat']
        omega
      refine ⟨UInt32.ofNat index, (members _).mpr ⟨slot, ?_, vacant,
        (lt_maxGeneration_iff _).mpr notLast⟩, cell⟩
      rw [cell]
      exact found
  · intro index
    cases found : finish.slots[index]? with
    | none =>
        rw [agrees.virgin index (List.getElem?_eq_none_iff.mp found)]
        exact Nat.zero_le _
    | some slot =>
        rw [← agrees.generation index slot found, ← size]
        exact generation_le slot
  · have within := wellFormed.withinLimit
    rw [limits] at within
    calc
      reservations labels = finish.used := agrees.total
      _ ≤ finish.slots.length * maxGeneration.toNat := used_le finish
      _ ≤ limit.val * maxGeneration.toNat :=
        Nat.mul_le_mul_right _ within
      _ = limit.val * (2 ^ 32 - 1) := by rw [size]
  · intro operation next step
    have full := wellFormed.exhausted_of_refused step
    rw [agrees.total, wellFormed.used_of_dead full, limits, size]

/-- The retired slot is reused for the second generation. -/
theorem oneSlot_accounting :
    reservations oneSlotLabels = 1 ∧ vacated oneSlotLabels = [0] ∧
      ∃ id next,
        Step oneSlotRetired
            (.reserveReused (Descriptor.owned firstDescriptor) ⟨7⟩
                Interest.readable .level .keep,
              .reserved id (.ok ())) next ∧
          id.slotIndex = 0 ∧ id.generationHalf.toNat = 2 := by
  have created : new ⟨1, Nat.one_pos⟩ true = .ok oneSlotTable := rfl
  obtain ⟨admitted, _, latest, _⟩ :=
    @reachable_accounting.{0} _ _ _ _ _ created oneSlot_run
  have room : oneSlotRetired.live + oneSlotRetired.dead < 1 := by decide
  have granted :=
    admitted (Descriptor.owned firstDescriptor) ⟨7⟩ Interest.readable
      .level .keep
  rw [if_pos room] at granted
  obtain ⟨id, next, performed⟩ := granted
  have step : Step oneSlotRetired
      (.reserveReused (Descriptor.owned firstDescriptor) ⟨7⟩
          Interest.readable .level .keep,
        .reserved id (.ok ())) next := performed
  obtain ⟨generation, slot⟩ := latest _ next id step rfl
  have index : id.slotIndex = 0 := slot
  have count : handed oneSlotLabels 0 = 1 := by decide
  rw [index, count] at generation
  exact ⟨rfl, by decide, id, next, step, index, generation⟩

end RegistrationTable

end Zio
