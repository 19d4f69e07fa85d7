import Zio.Table.Run

/-!
# Exact generations are never reissued

Along a run the generation of a slot only grows, and a slot that stays at one
generation is never filled again.  So an issued identity stays issued, a
retired one stays retired, and a reservation always mints an identity that was
not issued before.
-/

namespace Zio

open Transition

namespace RegistrationTable

/-- One slot moves forward: to a later generation, or at its generation
without being filled. -/
def Advances (before after : Slot) : Prop :=
  before.generation.toNat < after.generation.toNat ∨
    before.generation = after.generation ∧
      (before.entry = none → after.entry = none)

theorem Advances.refl (slot : Slot) : Advances slot slot :=
  Or.inr ⟨rfl, id⟩

theorem Advances.trans
    {first second third : Slot}
    (left : Advances first second) (right : Advances second third) :
    Advances first third := by
  rcases left with earlier | ⟨sameLeft, vacantLeft⟩
  · rcases right with later | ⟨sameRight, _⟩
    · exact Or.inl (Nat.lt_trans earlier later)
    · rw [sameRight] at earlier
      exact Or.inl earlier
  · rcases right with later | ⟨sameRight, vacantRight⟩
    · rw [← sameLeft] at later
      exact Or.inl later
    · exact Or.inr ⟨sameLeft.trans sameRight, vacantRight ∘ vacantLeft⟩

/-- Every slot of the earlier table moves forward in the later one. -/
def Progress (before after : RegistrationTable) : Prop :=
  ∀ (index : Nat) slot, before.slots[index]? = some slot →
    ∃ later, after.slots[index]? = some later ∧ Advances slot later

theorem Progress.trans
    {first second third : RegistrationTable}
    (left : Progress first second) (right : Progress second third) :
    Progress first third := by
  intro index slot found
  obtain ⟨middle, middleFound, leftAdvance⟩ := left index slot found
  obtain ⟨last, lastFound, rightAdvance⟩ := right index middle middleFound
  exact ⟨last, lastFound, leftAdvance.trans rightAdvance⟩

/-- Replacing one slot by a later one is progress. -/
theorem progress_of_set
    {before after : RegistrationTable} {index : Nat}
    {slot replacement : Slot}
    (found : before.slots[index]? = some slot)
    (updated : after.slots = before.slots.set index replacement)
    (advances : Advances slot replacement) :
    Progress before after := by
  intro other candidate candidateFound
  have inside := (List.getElem?_eq_some_iff.mp found).1
  rw [updated, getElem?_set_eq inside]
  by_cases equal : other = index
  · subst equal
    rw [found] at candidateFound
    cases candidateFound
    exact ⟨replacement, if_pos rfl, advances⟩
  · exact ⟨candidate, by rw [if_neg equal]; exact candidateFound,
      Advances.refl candidate⟩

theorem Move.progress
    {before after : RegistrationTable} (move : Move before after) :
    Progress before after := by
  cases move with
  | write written located oneShot =>
      refine progress_of_set located.found rfl (Or.inr ⟨rfl, ?_⟩)
      intro vacant
      rw [located.occupied] at vacant
      cases vacant
  | fresh entry granted armed =>
      intro index slot found
      have inside := (List.getElem?_eq_some_iff.mp found).1
      refine ⟨slot, ?_, Advances.refl slot⟩
      simp only [freshLease]
      rw [List.getElem?_append_left inside]
      exact found
  | @reused _ permit entry granted armed =>
      obtain ⟨slot, _, _, found, _, notLast, shape, _, _⟩ :=
        reusedPermit_eq_ok granted
      have slotValue : permit.slot = slot := by rw [shape]
      rw [slotValue]
      have different : slot.generation ≠ u32Max := notLast
      refine progress_of_set found rfl (Or.inl ?_)
      simp only [reusedSlot, u32_succ_toNat different]
      omega
  | retire holds notLast =>
      exact progress_of_set holds.located.found rfl
        (Or.inr ⟨rfl, fun _ => rfl⟩)
  | exhaust holds last =>
      exact progress_of_set holds.located.found rfl
        (Or.inr ⟨rfl, fun _ => rfl⟩)

theorem Moves.progress
    {before after : RegistrationTable} (moves : Moves before after) :
    Progress before after := by
  induction moves with
  | refl => exact fun index slot found => ⟨slot, found, Advances.refl slot⟩
  | tail _ last inductionHypothesis =>
      exact inductionHypothesis.trans last.progress

/-! ## Issued and retired identities -/

/-- The identity's slot has reached its generation. -/
def Issued (table : RegistrationTable) (id : RegistrationId) : Prop :=
  ∃ index generation slot,
    decode id = .ok (index, generation) ∧
      table.slots[index]? = some slot ∧
      generation.val.toNat ≤ slot.generation.toNat

/-- The identity's slot has passed its generation, or stands vacant at it. -/
def Retired (table : RegistrationTable) (id : RegistrationId) : Prop :=
  ∃ index generation slot,
    decode id = .ok (index, generation) ∧
      table.slots[index]? = some slot ∧
      (generation.val.toNat < slot.generation.toNat ∨
        generation.val = slot.generation ∧ slot.entry = none)

theorem Issued.mono
    {before after : RegistrationTable} {id : RegistrationId}
    (issued : before.Issued id) (progress : Progress before after) :
    after.Issued id := by
  obtain ⟨index, generation, slot, decoded, found, reached⟩ := issued
  obtain ⟨later, laterFound, advances⟩ := progress index slot found
  refine ⟨index, generation, later, decoded, laterFound, ?_⟩
  rcases advances with grown | ⟨same, _⟩
  · omega
  · rw [← same]
    exact reached

theorem Retired.mono
    {before after : RegistrationTable} {id : RegistrationId}
    (retired : before.Retired id) (progress : Progress before after) :
    after.Retired id := by
  obtain ⟨index, generation, slot, decoded, found, gone⟩ := retired
  obtain ⟨later, laterFound, advances⟩ := progress index slot found
  refine ⟨index, generation, later, decoded, laterFound, ?_⟩
  rcases gone with passed | ⟨same, vacant⟩
  · rcases advances with grown | ⟨kept, _⟩
    · exact Or.inl (by omega)
    · rw [← kept]
      exact Or.inl passed
  · rcases advances with grown | ⟨kept, stillVacant⟩
    · rw [same]
      exact Or.inl grown
    · exact Or.inr ⟨same.trans kept, stillVacant vacant⟩

theorem Retired.lookup
    {table : RegistrationTable} {id : RegistrationId}
    (retired : table.Retired id) :
    table.lookup id = none := by
  obtain ⟨index, generation, slot, decoded, found, gone⟩ := retired
  rcases gone with passed | ⟨same, vacant⟩
  · have different : slot.generation ≠ generation.val := by
      intro same
      rw [same] at passed
      exact Nat.lt_irrefl _ passed
    simp [RegistrationTable.lookup, decoded, found, different]
  · simp [RegistrationTable.lookup, decoded, found, vacant]

theorem Located.issued
    {table : RegistrationTable} {id : RegistrationId}
    {index : Nat} {slot : Slot} {entry : Entry}
    (located : table.Located id index slot entry) :
    table.Issued id := by
  obtain ⟨generation, decoded, same⟩ := located.decoded
  exact ⟨index, generation, slot, decoded, located.found,
    by rw [same]⟩

/-- Every operation on an absent identity is refused as stale and leaves the
whole table unchanged. -/
theorem absent_operations
    {table : RegistrationTable} {id : RegistrationId}
    (absent : table.lookup id = none) :
    table.resolve id.raw = none ∧
      table.state id = .error (.stale id) ∧
      (∀ allowUncertain,
        table.binding id allowUncertain = .error (.stale id)) ∧
      (∀ interest mode,
        table.commitModify id interest mode =
          (table, .error (.stale id))) ∧
      table.markUncertain id = (table, .error (.stale id)) ∧
      (∀ commit,
        table.applyDisarm id commit = (table, .error (.stale id))) ∧
      (∀ encoded allowUncertain,
        encoded.id = id →
          table.prepareRegistrationRetire encoded allowUncertain =
            .error (.stale id)) := by
  have notLocated : ∀ {index slot entry},
      ¬ table.Located id index slot entry := by
    intro index slot entry located
    rw [located.lookup] at absent
    cases absent
  refine ⟨?_, ?_, ?_, ?_, ?_, ?_, ?_⟩
  · rw [resolve_eq, absent]
  · rw [state_eq, absent]
    rfl
  · intro allowUncertain
    rw [binding_eq, absent]
  · intro interest mode
    rcases commitModify_cases table id interest mode with
      ⟨_, _, _, located, _⟩ | ⟨_, result⟩
    · exact (notLocated located).elim
    · exact result
  · rcases markUncertain_cases table id with
      ⟨_, _, _, located, _⟩ | ⟨_, result⟩
    · exact (notLocated located).elim
    · exact result
  · intro commit
    rcases applyDisarm_cases table id commit with
      ⟨_, _, _, located, _⟩ | ⟨_, present, _⟩ | ⟨_, result⟩
    · exact (notLocated located).elim
    · rw [absent] at present
      cases present
    · exact result
  · rintro encoded allowUncertain rfl
    rcases prepareRegistrationRetire_cases table encoded
        allowUncertain with
      ⟨lease, entry, _, same, holds, _⟩ | ⟨_, present, _⟩ | ⟨_, result⟩
    · have located := holds.located
      rw [same] at located
      exact (notLocated located).elim
    · rw [absent] at present
      cases present
    · exact result

/-! ## What a step issues and retires -/

/-- The identity that a step reserved. -/
def reservedId (label : TableOperation × TableReply) :
    Option RegistrationId :=
  match label.2 with
  | .reserved id _ => some id
  | _ => none

/-- The identity whose generation a step retired. -/
def retiredId (label : TableOperation × TableReply) :
    Option RegistrationId :=
  match label with
  | (.reserveFresh _ _ _ _ .retire, .reserved id (.ok ())) => some id
  | (.reserveReused _ _ _ _ .retire, .reserved id (.ok ())) => some id
  | (.prepareRetire registration _ .retire, .prepared (.ok ())) =>
      some registration.id
  | _ => none

theorem settle_retire_retired
    {lease : SlotLease} {id : RegistrationId} {entry : Entry}
    (holds : lease.Holds id entry)
    (settled : (lease.settle .retire).2 = .ok ()) :
    (lease.settle .retire).1.Retired id := by
  obtain ⟨generation, decoded, same⟩ := holds.located.decoded
  have inside := holds.located.index_lt
  unfold SlotLease.settle at *
  rcases lease.retire_cases with
    ⟨_, result⟩ | ⟨_, _, result⟩ | ⟨_, _, result⟩
  · rw [result]
    exact ⟨lease.slotIndex, generation, _, decoded,
      List.getElem?_set_self inside, Or.inr ⟨same.symm, rfl⟩⟩
  · rw [result]
    exact ⟨lease.slotIndex, generation, _, decoded,
      List.getElem?_set_self inside, Or.inr ⟨same.symm, rfl⟩⟩
  · rw [result] at settled
    cases settled

/-- A reservation leases an identity that was never issued, and a retirement
makes it retired. -/
theorem Reserves.settled
    {table : RegistrationTable} {lease : SlotLease}
    {id : RegistrationId} {entry : Entry}
    (reserves : table.Reserves lease id entry)
    (settlement : Settlement) :
    (lease.settle settlement).1.Issued id :=
  (reserves.holds.located.issued).mono
    (Moves.progress (settle_moves reserves.holds settlement))

theorem freshPermit_not_issued
    {table : RegistrationTable} {permit : FreshPermit}
    (granted : table.freshPermit = .ok permit) :
    ¬ table.Issued permit.id.id := by
  obtain ⟨_, _, _, _, _, decoded⟩ := freshPermit_eq_ok granted
  rintro ⟨index, generation, slot, otherDecoded, found, _⟩
  rw [decoded] at otherDecoded
  cases otherDecoded
  rw [List.getElem?_eq_none (Nat.le_refl _)] at found
  cases found

theorem reusedPermit_not_issued
    {table : RegistrationTable} {permit : ReusedPermit}
    (granted : table.reusedPermit = .ok permit) :
    ¬ table.Issued permit.id.id := by
  obtain ⟨slot, generation, _, found, _, notLast, _, generationValue,
    decoded⟩ := reusedPermit_eq_ok granted
  have different : slot.generation ≠ u32Max := notLast
  have size := u32_succ_toNat different
  rintro ⟨index, otherGeneration, candidate, otherDecoded, otherFound,
    reached⟩
  rw [decoded] at otherDecoded
  cases otherDecoded
  rw [found] at otherFound
  cases otherFound
  rw [generationValue, size] at reached
  omega

/-- A reserving step mints an identity that was not issued, and issues it. -/
theorem Step.reserved
    {before after : RegistrationTable}
    {label : TableOperation × TableReply} {id : RegistrationId}
    (step : Step before label after)
    (reserved : reservedId label = some id) :
    ¬ before.Issued id ∧ after.Issued id ∧ id.raw ≠ 0 := by
  rcases label with ⟨operation, reply⟩
  unfold Step at step
  cases operation with
  | reserveFresh descriptor key interest mode settlement =>
      cases granted : before.freshPermit with
      | error error =>
          simp only [perform, granted, Prod.mk.injEq] at step
          rw [← step.2] at reserved
          cases reserved
      | ok permit =>
          simp only [perform, granted, freshReserve_eq granted,
            settleReserved, Prod.mk.injEq] at step
          rw [← step.2] at reserved
          cases reserved
          rw [← step.1]
          exact ⟨freshPermit_not_issued granted,
            (freshLease_reserves granted _).settled settlement,
            encoded_ne_zero permit.id⟩
  | reserveReused descriptor key interest mode settlement =>
      cases granted : before.reusedPermit with
      | error error =>
          simp only [perform, granted, Prod.mk.injEq] at step
          rw [← step.2] at reserved
          cases reserved
      | ok permit =>
          simp only [perform, granted, reusedReserve_eq granted,
            settleReserved, Prod.mk.injEq] at step
          rw [← step.2] at reserved
          cases reserved
          rw [← step.1]
          exact ⟨reusedPermit_not_issued granted,
            (reusedLease_reserves granted _).settled settlement,
            encoded_ne_zero permit.id⟩
  | prepareRetire registration allowUncertain settlement =>
      simp only [perform] at step
      split at step <;>
        · simp only [Prod.mk.injEq] at step
          rw [← step.2] at reserved
          cases reserved
  | commitModify _ _ _ =>
      simp only [perform, Prod.mk.injEq] at step
      rw [← step.2] at reserved
      cases reserved
  | markUncertain _ =>
      simp only [perform, Prod.mk.injEq] at step
      rw [← step.2] at reserved
      cases reserved
  | applyDisarm _ _ =>
      simp only [perform, Prod.mk.injEq] at step
      rw [← step.2] at reserved
      cases reserved

/-- A retiring step leaves its identity retired. -/
theorem Step.retired
    {before after : RegistrationTable}
    {label : TableOperation × TableReply} {id : RegistrationId}
    (step : Step before label after)
    (retires : retiredId label = some id) :
    after.Retired id := by
  unfold retiredId at retires
  unfold Step at step
  split at retires
  · rename_i descriptor key interest mode reserved
    cases retires
    cases granted : before.freshPermit with
    | error error =>
        simp only [perform, granted, Prod.mk.injEq, reduceCtorEq,
          and_false] at step
    | ok permit =>
        simp only [perform, granted, freshReserve_eq granted,
          settleReserved, Prod.mk.injEq, TableReply.reserved.injEq]
          at step
        obtain ⟨rfl, rfl, settled⟩ := step
        exact settle_retire_retired
          (freshLease_reserves granted _).holds settled
  · rename_i descriptor key interest mode reserved
    cases retires
    cases granted : before.reusedPermit with
    | error error =>
        simp only [perform, granted, Prod.mk.injEq, reduceCtorEq,
          and_false] at step
    | ok permit =>
        simp only [perform, granted, reusedReserve_eq granted,
          settleReserved, Prod.mk.injEq, TableReply.reserved.injEq]
          at step
        obtain ⟨rfl, rfl, settled⟩ := step
        exact settle_retire_retired
          (reusedLease_reserves granted _).holds settled
  · rename_i registration allowUncertain
    cases retires
    rcases prepareRegistrationRetire_cases before registration
        allowUncertain with
      ⟨lease, entry, result, _, holds, _⟩ | ⟨_, _, _, _, result⟩ |
        ⟨_, result⟩
    · simp only [perform, result, Prod.mk.injEq,
        TableReply.prepared.injEq] at step
      obtain ⟨rfl, settled⟩ := step
      exact settle_retire_retired holds settled
    · simp only [perform, result, Prod.mk.injEq, reduceCtorEq,
        and_false] at step
    · simp only [perform, result, Prod.mk.injEq, reduceCtorEq,
        and_false] at step
  · cases retires

theorem Step.progress
    {before after : RegistrationTable}
    {label : TableOperation × TableReply}
    (step : Step before label after) :
    Progress before after :=
  Moves.progress step.moves

/-! ## Whole runs -/

/-- Identities issued before a run are not reserved during it, and the
identities that it reserves are pairwise distinct and nonzero. -/
theorem run_reserved
    {start finish : RegistrationTable}
    {labels : List (TableOperation × TableReply)}
    (run : Execution Step start labels finish) :
    (labels.filterMap reservedId).Nodup ∧
      ∀ id ∈ labels.filterMap reservedId,
        ¬ start.Issued id ∧ id.raw ≠ 0 := by
  induction run with
  | refl state => exact ⟨List.nodup_nil, by simp⟩
  | @cons before middle finish label labels step _ inductionHypothesis =>
      obtain ⟨distinct, fresh⟩ := inductionHypothesis
      have later : ∀ id ∈ labels.filterMap reservedId,
          ¬ before.Issued id ∧ id.raw ≠ 0 := by
        intro id member
        obtain ⟨notIssued, nonzero⟩ := fresh id member
        exact ⟨fun issued => notIssued (issued.mono step.progress),
          nonzero⟩
      cases reserved : reservedId label with
      | none =>
          rw [List.filterMap_cons_none reserved]
          exact ⟨distinct, later⟩
      | some id =>
          rw [List.filterMap_cons_some reserved]
          obtain ⟨notIssued, issued, nonzero⟩ := step.reserved reserved
          refine ⟨List.nodup_cons.mpr ⟨?_, distinct⟩, ?_⟩
          · intro repeated
            exact (fresh id repeated).1 issued
          · intro other member
            rcases List.mem_cons.mp member with rfl | tail
            · exact ⟨notIssued, nonzero⟩
            · exact later other tail

/-- No identity is ever handed out twice or equals the wake token, and once a
step of a run has retired an identity every later operation on it is refused
as stale without touching the table. -/
theorem run_identities
    {start finish : RegistrationTable}
    {labels : List (TableOperation × TableReply)}
    (run : Execution Step start labels finish) :
    (labels.filterMap reservedId).Nodup ∧
      (∀ id ∈ labels.filterMap reservedId, id.raw ≠ 0) ∧
      ∀ id ∈ labels.filterMap retiredId,
        finish.resolve id.raw = none ∧
          finish.state id = .error (.stale id) ∧
          (∀ allowUncertain,
            finish.binding id allowUncertain = .error (.stale id)) ∧
          (∀ interest mode,
            finish.commitModify id interest mode =
              (finish, .error (.stale id))) ∧
          finish.markUncertain id = (finish, .error (.stale id)) ∧
          (∀ commit,
            finish.applyDisarm id commit =
              (finish, .error (.stale id))) ∧
          (∀ encoded allowUncertain,
            encoded.id = id →
              finish.prepareRegistrationRetire encoded allowUncertain =
                .error (.stale id)) := by
  obtain ⟨distinct, fresh⟩ := run_reserved run
  refine ⟨distinct, fun id member => (fresh id member).2, ?_⟩
  intro id member
  obtain ⟨label, labelMember, retires⟩ := List.mem_filterMap.mp member
  obtain ⟨before, after, rfl⟩ := List.mem_iff_append.mp labelMember
  obtain ⟨middle, _, tail⟩ := run.split
  cases tail with
  | cons step rest =>
      have retired :=
        (step.retired retires).mono
          (Moves.progress (execution_moves rest))
      exact absent_operations retired.lookup

theorem oneSlot_identities :
    oneSlotRetired.resolve oneSlotId.id.raw = none ∧
      oneSlotRetired.markUncertain oneSlotId.id =
        (oneSlotRetired, .error (.stale oneSlotId.id)) := by
  obtain ⟨_, _, gone⟩ := run_identities oneSlot_run
  have retired : oneSlotId.id ∈ oneSlotLabels.filterMap retiredId := by
    decide
  obtain ⟨unresolved, _, _, _, unmarked, _⟩ := gone oneSlotId.id retired
  exact ⟨unresolved, unmarked⟩

end RegistrationTable

end Zio
