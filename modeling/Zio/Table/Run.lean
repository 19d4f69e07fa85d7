import Zio.Library.Transition
import Zio.Table.Invariant

/-!
# Runs of the registration table

The operations that a caller can perform on a table, each settled before the
next one starts, as the exclusive borrows of the source enforce.  Every
operation is a sequence of primitive moves, so the representation invariant
holds in every reachable table and the defensive failures of the reservation
and retirement paths cannot occur.
-/

namespace Zio

open Transition

/-- How a caller settles a lease. -/
inductive Settlement where
  | keep
  | retire
  | markUncertain
deriving DecidableEq, Repr

def SlotLease.settle (self : SlotLease) (settlement : Settlement) :
    RegistrationTable × Except Error Unit :=
  match settlement with
  | .keep => (self.keep, .ok ())
  | .retire => self.retire
  | .markUncertain => self.markUncertain

/-- One caller operation on a table. -/
inductive TableOperation where
  | reserveFresh (descriptor : Descriptor) (key : Key)
      (interest : Interest) (mode : Mode) (settlement : Settlement)
  | reserveReused (descriptor : Descriptor) (key : Key)
      (interest : Interest) (mode : Mode) (settlement : Settlement)
  | prepareRetire (registration : EncodedRegistrationId)
      (allowUncertain : Bool) (settlement : Settlement)
  | commitModify (id : RegistrationId) (interest : Interest) (mode : Mode)
  | markUncertain (id : RegistrationId)
  | applyDisarm (id : RegistrationId) (commit : CommitStatus)

/-- What an operation reports. -/
inductive TableReply where
  | reserved (id : RegistrationId) (settled : Except Error Unit)
  | prepared (settled : Except Error Unit)
  | updated (result : Except Error Unit)
  | disarmed (result : Except Error RegistrationState)
  | refused (error : Error)

namespace RegistrationTable

/-- Settle the lease of a reservation that lent `id` to its native call. -/
def settleReserved
    (reserved :
      Except (RegistrationTable × Error) (SlotLease × RegistrationId))
    (settlement : Settlement) : RegistrationTable × TableReply :=
  match reserved with
  | .error (table, error) => (table, .refused error)
  | .ok (lease, id) =>
      let (table, settled) := lease.settle settlement
      (table, .reserved id settled)

/-- Perform one operation. -/
def perform (self : RegistrationTable) :
    TableOperation → RegistrationTable × TableReply
  | .reserveFresh descriptor key interest mode settlement =>
      match self.freshPermit with
      | .error error => (self, .refused error)
      | .ok permit =>
          settleReserved
            (permit.reserveWith descriptor key interest mode
              fun _ id => id)
            settlement
  | .reserveReused descriptor key interest mode settlement =>
      match self.reusedPermit with
      | .error error => (self, .refused error)
      | .ok permit =>
          settleReserved
            (permit.reserveWith descriptor key interest mode
              fun _ id => id)
            settlement
  | .prepareRetire registration allowUncertain settlement =>
      match self.prepareRegistrationRetire registration
          allowUncertain with
      | .error error => (self, .refused error)
      | .ok lease =>
          let (table, settled) := lease.settle settlement
          (table, .prepared settled)
  | .commitModify id interest mode =>
      let (table, result) := self.commitModify id interest mode
      (table, .updated result)
  | .markUncertain id =>
      let (table, result) := self.markUncertain id
      (table, .updated result)
  | .applyDisarm id commit =>
      let (table, result) := self.applyDisarm id commit
      (table, .disarmed result)

/-- One labelled step: the operation and its reply. -/
def Step
    (before : RegistrationTable) (label : TableOperation × TableReply)
    (after : RegistrationTable) : Prop :=
  before.perform label.1 = (after, label.2)

/-! ## Operations are moves -/

theorem settle_moves
    {lease : SlotLease} {id : RegistrationId} {entry : Entry}
    (holds : lease.Holds id entry) (settlement : Settlement) :
    Moves lease.table (lease.settle settlement).1 := by
  cases settlement with
  | keep => exact Relation.ReflTransGen.refl
  | retire =>
      unfold SlotLease.settle
      rcases lease.retire_cases with
        ⟨notLast, result⟩ | ⟨last, _, result⟩ | ⟨_, _, result⟩
      · rw [result]
        exact Relation.ReflTransGen.single (Move.retire holds notLast)
      · rw [result]
        exact Relation.ReflTransGen.single (Move.exhaust holds last)
      · rw [result]
  | markUncertain =>
      simp only [SlotLease.settle, holds.markUncertain]
      refine Relation.ReflTransGen.single
        (Move.write _ holds.located fun disarmed => ?_)
      cases disarmed

theorem commitModify_moves
    (table : RegistrationTable) (id : RegistrationId)
    (interest : Interest) (mode : Mode) :
    Moves table (table.commitModify id interest mode).1 := by
  rcases commitModify_cases table id interest mode with
    ⟨index, slot, entry, located, result⟩ | ⟨_, result⟩
  · rw [result]
    refine Relation.ReflTransGen.single
      (Move.write _ located fun disarmed => ?_)
    cases disarmed
  · rw [result]

theorem markUncertain_moves
    (table : RegistrationTable) (id : RegistrationId) :
    Moves table (table.markUncertain id).1 := by
  rcases markUncertain_cases table id with
    ⟨index, slot, entry, located, result⟩ | ⟨_, result⟩
  · rw [result]
    refine Relation.ReflTransGen.single
      (Move.write _ located fun disarmed => ?_)
    cases disarmed
  · rw [result]

theorem applyDisarm_moves
    (table : RegistrationTable) (id : RegistrationId)
    (commit : CommitStatus) :
    Moves table (table.applyDisarm id commit).1 := by
  rcases applyDisarm_cases table id commit with
    ⟨index, slot, entry, located, ready, result⟩ | ⟨_, _, _, result⟩ |
      ⟨_, result⟩
  · rw [result]
    exact Relation.ReflTransGen.single
      (Move.write _ located fun _ => ready.1)
  · rw [result]
  · rw [result]

theorem perform_moves
    (table : RegistrationTable) (operation : TableOperation) :
    Moves table (table.perform operation).1 := by
  cases operation with
  | reserveFresh descriptor key interest mode settlement =>
      unfold perform
      cases granted : table.freshPermit with
      | error error => exact Relation.ReflTransGen.refl
      | ok permit =>
          simp only [freshReserve_eq granted, settleReserved]
          exact Relation.ReflTransGen.trans
            (Relation.ReflTransGen.single (Move.fresh _ granted rfl))
            (settle_moves (freshLease_reserves granted _).holds settlement)
  | reserveReused descriptor key interest mode settlement =>
      unfold perform
      cases granted : table.reusedPermit with
      | error error => exact Relation.ReflTransGen.refl
      | ok permit =>
          simp only [reusedReserve_eq granted, settleReserved]
          exact Relation.ReflTransGen.trans
            (Relation.ReflTransGen.single (Move.reused _ granted rfl))
            (settle_moves (reusedLease_reserves granted _).holds settlement)
  | prepareRetire registration allowUncertain settlement =>
      unfold perform
      rcases prepareRegistrationRetire_cases table registration
          allowUncertain with
        ⟨lease, entry, result, same, holds, _⟩ |
          ⟨_, _, _, _, result⟩ | ⟨_, result⟩
      · simp only [result]
        rw [← same]
        exact settle_moves holds settlement
      · simp only [result]
        exact Relation.ReflTransGen.refl
      · simp only [result]
        exact Relation.ReflTransGen.refl
  | commitModify id interest mode =>
      exact commitModify_moves table id interest mode
  | markUncertain id => exact markUncertain_moves table id
  | applyDisarm id commit => exact applyDisarm_moves table id commit

theorem Step.moves
    {before after : RegistrationTable}
    {label : TableOperation × TableReply}
    (step : Step before label after) :
    Moves before after := by
  have moves := perform_moves before label.1
  rw [step] at moves
  exact moves

theorem Moves.limit_eq
    {before after : RegistrationTable} (moves : Moves before after) :
    after.limit = before.limit := by
  induction moves with
  | refl => rfl
  | tail _ last inductionHypothesis =>
      rw [← inductionHypothesis]
      cases last <;> rfl

theorem execution_moves
    {start finish : RegistrationTable}
    {labels : List (TableOperation × TableReply)}
    (run : Execution Step start labels finish) :
    Moves start finish :=
  run.invariant (Moves start)
    (fun _ _ _ reached step => reached.trans step.moves)
    Relation.ReflTransGen.refl

/-! ## Consequences of the invariant -/

/-- Settling a lease of a well-formed table never fails. -/
theorem WellFormed.settle_ok
    {lease : SlotLease} {id : RegistrationId} {entry : Entry}
    (wellFormed : lease.table.WellFormed)
    (holds : lease.Holds id entry) (settlement : Settlement) :
    (lease.settle settlement).2 = .ok () := by
  cases settlement with
  | keep => rfl
  | retire =>
      unfold SlotLease.settle
      rcases lease.retire_cases with
        ⟨_, result⟩ | ⟨_, _, result⟩ | ⟨_, overflow, result⟩
      · rw [result]
      · rw [result]
      · have counted := wellFormed.exhausted
        have bounded : lease.table.slots.countP spent ≤
            lease.table.slots.length :=
          List.countP_le_length
        have within := wellFormed.withinLimit
        have addressable := wellFormed.limitAddressable
        unfold maxRegistrations at addressable
        unfold usizeMax at overflow
        omega
  | markUncertain => simp only [SlotLease.settle, holds.markUncertain]

/-- A table with a reusable slot grants it. -/
theorem WellFormed.reusedPermit_ok
    {table : RegistrationTable} (wellFormed : table.WellFormed)
    (reusable : table.hasReusableSlot = true) :
    ∃ permit, table.reusedPermit = .ok permit := by
  obtain ⟨path, visits, members⟩ := wellFormed.freeList
  have notEnd : table.freeHead ≠ freeEnd := by
    simpa [hasReusableSlot] using reusable
  obtain ⟨_, rest, pathShape, _, _⟩ := visits.pop notEnd
  obtain ⟨slot, found, vacant, below⟩ :=
    (members table.freeHead).1 (by rw [pathShape]; simp)
  have notLast : slot.generation ≠ u32Max :=
    (lt_maxGeneration_iff _).1 below
  have succeeded := u32_succ_toNat notLast
  have nonzero : slot.generation + 1 ≠ 0 := by
    intro zero
    rw [zero] at succeeded
    simp at succeeded
  obtain ⟨encoded, packed⟩ :=
    encode_isSome notEnd ⟨slot.generation + 1, nonzero⟩
  have notMax : slot.generation ≠ maxGeneration := notLast
  unfold reusedPermit
  simp [notEnd, found, vacant, notMax, u32CheckedSucc, notLast,
    nonZeroU32, nonzero, packed]

/-- A table with a virgin slot and nothing to reuse grants it. -/
theorem WellFormed.freshPermit_ok
    {table : RegistrationTable} (wellFormed : table.WellFormed)
    (nothing : table.hasReusableSlot = false)
    (room : table.slots.length < table.limit.val) :
    ∃ permit, table.freshPermit = .ok permit := by
  have addressable := wellFormed.limitAddressable
  unfold maxRegistrations at addressable
  have narrow :
      u32OfUsize table.slots.length =
        some (UInt32.ofNat table.slots.length) := by
    rw [u32OfUsize, if_pos (by omega)]
  have notMax : UInt32.ofNat table.slots.length ≠ u32Max := by
    intro same
    have value := u32OfUsize_toNat narrow
    rw [same, u32Max_toNat] at value
    omega
  obtain ⟨encoded, packed⟩ := encode_isSome notMax ⟨1, by decide⟩
  unfold freshPermit
  simp [nothing, room, narrow, packed]

/-- A table without reusable or virgin slots reports why it is full. -/
theorem freshPermit_full
    {table : RegistrationTable}
    (nothing : table.hasReusableSlot = false)
    (full : ¬ table.slots.length < table.limit.val) :
    table.freshPermit =
      .error
        (if table.exhausted = table.limit.val then
          .registrationSpaceExhausted
        else .capacity table.limit.val) := by
  unfold freshPermit
  simp only [nothing, Bool.false_eq_true, if_false, if_neg full]
  split <;> rfl

/-- In every reachable table the free list visits exactly the reusable slots,
the counters and generations agree with the slots, and no defensive failure of
the reservation or retirement paths can occur when the path is chosen by
`hasReusableSlot`. -/
theorem reachable_representation
    {limit : NonZeroUsize} {allocated : Bool}
    {start finish : RegistrationTable}
    {labels : List (TableOperation × TableReply)}
    (created : new limit allocated = .ok start)
    (run : Execution Step start labels finish) :
    (∃ path,
        LinkedStack.Visits finish.nextFree freeEnd finish.freeHead path ∧
          path.Nodup ∧
          ∀ index, index ∈ path ↔ finish.Reusable index) ∧
      finish.exhausted = finish.slots.countP spent ∧
      (∀ slot ∈ finish.slots, 1 ≤ slot.generation) ∧
      finish.slots.length ≤ limit.val ∧
      (∀ index, index < finish.slots.length → index ≠ freeEnd.toNat) ∧
      (∀ slot ∈ finish.slots, ∀ entry,
        slot.entry = some entry →
          entry.state = .registered .disarmed → entry.mode = .oneShot) ∧
      (finish.hasReusableSlot = true →
        ∃ permit,
          finish.reusedPermit = .ok permit ∧
            ∀ (Output : Type) descriptor key interest mode
              (apply : Fd → RegistrationId → Output),
              ∃ lease output,
                permit.reserveWith descriptor key interest mode apply =
                    .ok (lease, output) ∧
                  lease.retire.2 = .ok ()) ∧
      (finish.hasReusableSlot = false →
        if finish.slots.length < limit.val then
          ∃ permit,
            finish.freshPermit = .ok permit ∧
              ∀ (Output : Type) descriptor key interest mode
                (apply : Fd → RegistrationId → Output),
                ∃ lease output,
                  permit.reserveWith descriptor key interest mode
                      apply = .ok (lease, output) ∧
                    lease.retire.2 = .ok ()
        else
          finish.freshPermit =
            .error
              (if finish.exhausted = limit.val then
                .registrationSpaceExhausted
              else .capacity limit.val)) ∧
      (∀ registration allowUncertain lease,
        finish.prepareRegistrationRetire registration allowUncertain =
            .ok lease →
          lease.retire.2 = .ok ()) := by
  have moves := execution_moves run
  have wellFormed := (new_wellFormed created).moves moves
  have limitValue : finish.limit = limit := by
    rw [Moves.limit_eq moves, (new_eq_ok created).2]
  obtain ⟨path, visits, members⟩ := wellFormed.freeList
  refine ⟨⟨path, visits, visits.nodup, members⟩, wellFormed.exhausted,
    wellFormed.generations, ?_, ?_, wellFormed.disarmedOneShot, ?_, ?_,
    ?_⟩
  · rw [← limitValue]
    exact wellFormed.withinLimit
  · intro index inside same
    exact absurd (wellFormed.index_lt inside)
      (by rw [same]; exact Nat.lt_irrefl _)
  · intro reusable
    obtain ⟨permit, granted⟩ := wellFormed.reusedPermit_ok reusable
    refine ⟨permit, granted, ?_⟩
    intro Output descriptor key interest mode apply
    refine ⟨_, _, reusedReserve_eq granted _ _ _ _ apply, ?_⟩
    exact (wellFormed.reused granted _ rfl).settle_ok
      (reusedLease_reserves granted _).holds .retire
  · intro nothing
    split
    · rename_i room
      rw [← limitValue] at room
      obtain ⟨permit, granted⟩ := wellFormed.freshPermit_ok nothing room
      refine ⟨permit, granted, ?_⟩
      intro Output descriptor key interest mode apply
      refine ⟨_, _, freshReserve_eq granted _ _ _ _ apply, ?_⟩
      exact (wellFormed.fresh granted _ rfl).settle_ok
        (freshLease_reserves granted _).holds .retire
    · rename_i full
      rw [← limitValue] at full ⊢
      exact freshPermit_full nothing full
  · intro registration allowUncertain lease prepared
    rcases prepareRegistrationRetire_cases finish registration
        allowUncertain with
      ⟨other, entry, result, same, holds, _⟩ |
        ⟨_, _, _, _, result⟩ | ⟨_, result⟩
    · rw [result] at prepared
      cases prepared
      rw [← same] at wellFormed
      exact wellFormed.settle_ok holds .retire
    · rw [result] at prepared
      cases prepared
    · rw [result] at prepared
      cases prepared

/-- A table with one virgin slot. -/
def oneSlotTable : RegistrationTable :=
  { limit := ⟨1, Nat.one_pos⟩
    slots := []
    freeHead := freeEnd
    exhausted := 0 }

/-- The identity of its first generation. -/
def oneSlotId : EncodedRegistrationId :=
  ⟨⟨0x100000001⟩, by decide, by decide⟩

/-- Fill the slot and retire it. -/
def oneSlotLabels : List (TableOperation × TableReply) :=
  [(.reserveFresh (Descriptor.owned firstDescriptor) ⟨7⟩
        Interest.readable .level .keep,
      .reserved oneSlotId.id (.ok ())),
    (.prepareRetire oneSlotId false .retire, .prepared (.ok ()))]

/-- The table while its slot is filled. -/
def oneSlotFilled : RegistrationTable :=
  { oneSlotTable with
    slots :=
      [freshSlot
        (Entry.registered (Descriptor.owned firstDescriptor) ⟨7⟩
          Interest.readable .level)] }

/-- The table after its slot was retired. -/
def oneSlotRetired : RegistrationTable :=
  { oneSlotTable with
    slots := [{ generation := 1, entry := none, nextFree := freeEnd }]
    freeHead := 0 }

theorem oneSlot_run :
    Execution Step oneSlotTable oneSlotLabels oneSlotRetired := by
  have filled : Step oneSlotTable
      (.reserveFresh (Descriptor.owned firstDescriptor) ⟨7⟩
          Interest.readable .level .keep,
        .reserved oneSlotId.id (.ok ()))
      oneSlotFilled := rfl
  have retired : Step oneSlotFilled
      (.prepareRetire oneSlotId false .retire, .prepared (.ok ()))
      oneSlotRetired := rfl
  exact Execution.cons filled
    (Execution.cons retired (Execution.refl _))

theorem oneSlot_representation :
    ∃ path,
      LinkedStack.Visits oneSlotRetired.nextFree freeEnd
          oneSlotRetired.freeHead path ∧
        path.Nodup ∧
        ∀ index, index ∈ path ↔ oneSlotRetired.Reusable index := by
  have created : new ⟨1, Nat.one_pos⟩ true = .ok oneSlotTable := rfl
  exact (reachable_representation created oneSlot_run).1

end RegistrationTable

end Zio
