import Zio.Mutation.Session
import Zio.Table.Admission

/-!
# What one mutation call can do

One case lemma for each call says everything that the call does to the session:
either it is refused before the driver is asked, or the driver is asked once
with the recorded state and its answer settles one identity of the table.
-/

namespace Zio

/-- An accepted answer proves what an applied failure proves. -/
def answerCommit : Answer → CommitStatus
  | .ok () => .applied
  | .error failure => failure.commit

/-- What a registration that reached the driver returns. -/
def registerReply (registration : Registration) :
    Answer → Except RegisterError Registration
  | .ok () => .ok registration
  | .error failure =>
      .error
        { error := mutationError .register failure
          registration :=
            if failure.commit = .notApplied then none
            else some registration }

/-- What a modification that reached the driver returns. -/
def modifyReply : Answer → Except Error Unit
  | .ok () => .ok ()
  | .error failure => .error (mutationError .modify failure)

/-- What a deletion that reached the driver returns. -/
def deleteReply (registration : Registration) :
    Answer → Except DeleteError Unit
  | .ok () => .ok ()
  | .error failure =>
      .error { error := mutationError .delete failure, registration }

/-- How the lease of a registration is settled. -/
def registerSettlement : CommitStatus → Settlement
  | .applied => .keep
  | .notApplied => .retire
  | .unknown => .markUncertain

/-- How the lease of a deletion is settled. -/
def deleteSettlement : CommitStatus → Settlement
  | .applied => .retire
  | .notApplied => .keep
  | .unknown => .markUncertain

/-- What a settled lease leaves of its entry. -/
def Settlement.remaining (settlement : Settlement) (entry : Entry) :
    Option Entry :=
  match settlement with
  | .keep => some entry
  | .retire => none
  | .markUncertain => some (RegistrationTable.uncertainEntry entry)

/-- The identity was handed out by a slot's last generation. -/
def lastGeneration (id : RegistrationId) : Nat :=
  if id.generationHalf = maxGeneration then 1 else 0

namespace RegistrationTable

/-- A settled lease changes the map at its identity only. -/
theorem WellFormed.settle_lookup
    {lease : SlotLease} {id : RegistrationId} {entry : Entry}
    (wellFormed : lease.table.WellFormed)
    (holds : lease.Holds id entry) (settlement : Settlement)
    (other : RegistrationId) :
    (lease.settle settlement).1.lookup other =
      if other = id then settlement.remaining entry
      else lease.table.lookup other := by
  cases settlement with
  | keep =>
      simp only [SlotLease.settle, SlotLease.keep, Settlement.remaining]
      split
      · rename_i same
        rw [same, holds.located.lookup]
      · rfl
  | retire =>
      have succeeded := wellFormed.settle_ok holds .retire
      unfold SlotLease.settle at *
      rcases lease.retire_cases with
        ⟨_, result⟩ | ⟨_, _, result⟩ | ⟨_, _, result⟩
      · rw [result]
        exact holds.lookup_retiredTable other
      · rw [result]
        exact holds.lookup_exhaustedTable other
      · rw [result] at succeeded
        cases succeeded
  | markUncertain =>
      simp only [SlotLease.settle, holds.markUncertain]
      exact lookup_writeEntry holds.located (uncertainEntry entry) other

/-- Only retiring a last generation uses a slot up. -/
theorem WellFormed.settle_exhausted
    {lease : SlotLease} {id : RegistrationId} {entry : Entry}
    (wellFormed : lease.table.WellFormed)
    (holds : lease.Holds id entry) (settlement : Settlement) :
    (lease.settle settlement).1.exhausted =
      lease.table.exhausted +
        (if settlement = .retire then lastGeneration id else 0) := by
  obtain ⟨generation, decoded, same⟩ := holds.located.decoded
  have half : id.generationHalf = lease.slot.generation := by
    rw [((decode_ok_iff _ _ _).1 decoded).2, same]
  cases settlement with
  | keep => simp [SlotLease.settle, SlotLease.keep]
  | retire =>
      have succeeded := wellFormed.settle_ok holds .retire
      unfold SlotLease.settle at *
      rcases lease.retire_cases with
        ⟨notLast, result⟩ | ⟨last, _, result⟩ | ⟨_, _, result⟩
      · rw [result]
        simp [SlotLease.retiredTable, SlotLease.writeSlot, lastGeneration,
          half, notLast]
      · rw [result]
        simp [SlotLease.exhaustedTable, lastGeneration, half, last]
      · rw [result] at succeeded
        cases succeeded
  | markUncertain =>
      simp [SlotLease.settle, holds.markUncertain, writeEntry]

/-- The table after a modification that reached the driver. -/
def modifySettled
    (table : RegistrationTable) (id : RegistrationId)
    (interest : Interest) (mode : Mode) :
    CommitStatus → RegistrationTable
  | .applied => (table.commitModify id interest mode).1
  | .notApplied => table
  | .unknown => (table.markUncertain id).1

/-- What a settled modification writes. -/
def modifyWritten (interest : Interest) (mode : Mode) (entry : Entry) :
    CommitStatus → Entry
  | .applied => modifiedEntry interest mode entry
  | .notApplied => entry
  | .unknown => uncertainEntry entry

theorem commitModify_ok
    {table : RegistrationTable} {id : RegistrationId} {entry : Entry}
    (present : table.lookup id = some entry)
    (interest : Interest) (mode : Mode) :
    (table.commitModify id interest mode).2 = .ok () := by
  rcases commitModify_cases table id interest mode with
    ⟨_, _, _, _, result⟩ | ⟨absent, _⟩
  · rw [result]
  · rw [absent] at present
    cases present

theorem markUncertain_ok
    {table : RegistrationTable} {id : RegistrationId} {entry : Entry}
    (present : table.lookup id = some entry) :
    (table.markUncertain id).2 = .ok () := by
  rcases markUncertain_cases table id with
    ⟨_, _, _, _, result⟩ | ⟨absent, _⟩
  · rw [result]
  · rw [absent] at present
    cases present

theorem modifySettled_lookup
    {table : RegistrationTable} {id : RegistrationId} {entry : Entry}
    (present : table.lookup id = some entry)
    (interest : Interest) (mode : Mode) (commit : CommitStatus)
    (other : RegistrationId) :
    (table.modifySettled id interest mode commit).lookup other =
      if other = id then
        some (modifyWritten interest mode entry commit)
      else table.lookup other := by
  cases commit with
  | applied =>
      rcases commitModify_cases table id interest mode with
        ⟨index, slot, found, located, result⟩ | ⟨absent, _⟩
      · have same : found = entry := by
          rw [located.lookup] at present
          exact Option.some.inj present
        subst same
        simp only [modifySettled, result]
        exact lookup_writeEntry located _ other
      · rw [absent] at present
        cases present
  | notApplied =>
      simp only [modifySettled, modifyWritten]
      split
      · rename_i same
        rw [same, present]
      · rfl
  | unknown =>
      rcases markUncertain_cases table id with
        ⟨index, slot, found, located, result⟩ | ⟨absent, _⟩
      · have same : found = entry := by
          rw [located.lookup] at present
          exact Option.some.inj present
        subst same
        simp only [modifySettled, result]
        exact lookup_writeEntry located _ other
      · rw [absent] at present
        cases present

theorem modifySettled_moves
    (table : RegistrationTable) (id : RegistrationId)
    (interest : Interest) (mode : Mode) (commit : CommitStatus) :
    Moves table (table.modifySettled id interest mode commit) := by
  cases commit with
  | applied => exact commitModify_moves table id interest mode
  | notApplied => exact Relation.ReflTransGen.refl
  | unknown => exact markUncertain_moves table id

theorem modifySettled_exhausted
    (table : RegistrationTable) (id : RegistrationId)
    (interest : Interest) (mode : Mode) (commit : CommitStatus) :
    (table.modifySettled id interest mode commit).exhausted =
      table.exhausted := by
  cases commit with
  | applied =>
      rcases commitModify_cases table id interest mode with
        ⟨_, _, _, _, result⟩ | ⟨_, result⟩ <;>
      simp [modifySettled, result, writeEntry]
  | notApplied => rfl
  | unknown =>
      rcases markUncertain_cases table id with
        ⟨_, _, _, _, result⟩ | ⟨_, result⟩ <;>
      simp [modifySettled, result, writeEntry]

end RegistrationTable

/-- The parameters of both registration calls. -/
structure Intake where
  duplicate : Except IoError Fd
  key : Key
  interest : Interest
  mode : Mode

def Call.intake : Call → Option Intake
  | .register duplicate key interest mode =>
      some { duplicate, key, interest, mode }
  | .registerBorrowed source key interest mode =>
      some { duplicate := .ok source, key, interest, mode }
  | _ => none

/-! ## Refusals -/

/-- Why a modification is refused before the driver is asked. -/
def modifyRefusal
    (owner : Option PollId) (registration : Registration)
    (interest : Interest) (state : Option RegistrationState) :
    Option Error :=
  if owner ≠ some registration.owner then
    some (.wrongPoller registration.id)
  else if interest.isEmpty then
    some .invalidInterest
  else
    match state with
    | none => some (.stale registration.id)
    | some .uncertain => some (.uncertain registration.id)
    | some (.registered _) => none

/-- Why a deletion is refused before the driver is asked. -/
def deleteRefusal
    (owner : Option PollId) (registration : Registration)
    (state : Option RegistrationState) : Option Error :=
  if owner ≠ some registration.owner then
    some (.wrongPoller registration.id)
  else if state = none then
    some (.stale registration.id)
  else
    none

/-- Why a full table refuses a registration. -/
def RegistrationTable.fullError (table : RegistrationTable) : Error :=
  if table.exhausted = table.limit.val then
    .registrationSpaceExhausted
  else
    .capacity table.limit.val

/-! ## Poller authority -/

theorem PollOwner.getOrAssign_ok
    {owner assigned : PollOwner} {next after : UInt64} {poll : PollId}
    (result : owner.getOrAssign next = (assigned, after, .ok poll)) :
    assigned.current = some poll ∧
      (owner.current = some poll ∧ after = next ∨
        owner.current = none ∧
          owner.assignFrom next = (assigned, after, .ok poll)) := by
  unfold getOrAssign at result
  split at result
  · rename_i current held
    cases result
    exact ⟨held, Or.inl ⟨held, rfl⟩⟩
  · rename_i vacant
    refine ⟨?_, Or.inr ⟨vacant, result⟩⟩
    unfold assignFrom at result
    split at result
    · cases result
    · split at result
      · cases result
      · rename_i _ nonzero
        cases result
        unfold current
        rw [if_neg nonzero]

theorem PollOwner.getOrAssign_error
    {owner assigned : PollOwner} {next after : UInt64} {error : Error}
    (result : owner.getOrAssign next = (assigned, after, .error error)) :
    assigned = owner ∧ owner.current = none ∧ error = .invariant ∧
      owner.assignFrom next = (assigned, after, .error error) := by
  unfold getOrAssign at result
  split at result
  · cases result
  · rename_i vacant
    have drawn := result
    unfold assignFrom at result
    split at result
    · cases result
      exact ⟨rfl, vacant, rfl, drawn⟩
    · split at result
      · cases result
        exact ⟨rfl, vacant, rfl, drawn⟩
      · cases result

namespace MutationSession

variable {σ : Type*}

/-! ## Register -/

theorem settleReservation_eq
    (session : MutationSession σ) (registration : Registration)
    {lease : SlotLease} {id : RegistrationId} {entry : Entry}
    (wellFormed : lease.table.WellFormed)
    (holds : lease.Holds id entry) (driver : σ) (answer : Answer) :
    session.settleReservation registration (.ok (lease, driver, answer)) =
      ({ session with
          registrations :=
            (lease.settle (registerSettlement (answerCommit answer))).1
          driver },
        registerReply registration answer) := by
  cases answer with
  | ok done => rfl
  | error failure =>
      rcases failure with ⟨commit, source⟩
      cases commit with
      | notApplied =>
          have retired := wellFormed.settle_ok holds .retire
          unfold SlotLease.settle at retired
          rcases result : lease.retire with ⟨after, settled⟩
          rw [result] at retired
          simp only at retired
          subst retired
          simp [settleReservation, settleRegisterFailure, result,
            registerReply, registerSettlement, answerCommit,
            SlotLease.settle]
      | applied => rfl
      | unknown =>
          simp [settleReservation, settleRegisterFailure,
            holds.markUncertain, registerReply, registerSettlement,
            answerCommit, SlotLease.settle]

/-- A registration that passed its preflight checks. -/
inductive Registers
    (backend : MutationDriver σ) (session : MutationSession σ)
    (descriptor : Descriptor) (key : Key) (interest : Interest)
    (mode : Mode) :
    MutationSession σ × Except RegisterError Registration → Prop
  | full :
      session.registrations.live + session.registrations.exhausted =
        session.registrations.limit.val →
      Registers backend session descriptor key interest mode
        (session,
          .error
            { error := session.registrations.fullError
              registration := none })
  | unowned (nextPollId : UInt64) :
      session.registrations.live + session.registrations.exhausted <
        session.registrations.limit.val →
      session.owner.current = none →
      session.owner.assignFrom session.nextPollId =
        (session.owner, nextPollId, .error .invariant) →
      Registers backend session descriptor key interest mode
        ({ session with nextPollId },
          .error { error := .invariant, registration := none })
  | answered (owner : PollOwner) (nextPollId : UInt64)
      (registration : Registration) (lease : SlotLease)
      (driver : σ) (answer : Answer) :
      session.registrations.live + session.registrations.exhausted <
        session.registrations.limit.val →
      session.owner.getOrAssign session.nextPollId =
        (owner, nextPollId, .ok registration.owner) →
      session.registrations.Reserves lease registration.id
        (Entry.registered descriptor key interest mode) →
      RegistrationTable.Moves session.registrations lease.table →
      lease.table.exhausted = session.registrations.exhausted →
      backend.register session.driver
          { descriptor := descriptor.asFd
            registration := registration.id
            key, interest, mode } =
        (driver, answer) →
      Registers backend session descriptor key interest mode
        ({ nextPollId, owner, driver
           registrations :=
            (lease.settle (registerSettlement (answerCommit answer))).1 },
          registerReply registration answer)

theorem registerReused_registers
    (backend : MutationDriver σ) (session : MutationSession σ)
    (wellFormed : session.registrations.WellFormed)
    (reusable : session.registrations.hasReusableSlot = true)
    (descriptor : Descriptor) (key : Key) (interest : Interest)
    (mode : Mode) :
    Registers backend session descriptor key interest mode
      (registerReused backend session descriptor key interest mode) := by
  have room := wellFormed.live_add_exhausted_lt reusable
  have within := wellFormed.withinLimit
  obtain ⟨permit, granted⟩ := wellFormed.reusedPermit_ok reusable
  unfold registerReused
  rw [granted]
  simp only
  rcases assigned : session.owner.getOrAssign session.nextPollId with
    ⟨owner, nextPollId, outcome⟩
  cases outcome with
  | error error =>
      obtain ⟨rfl, vacant, rfl, drawn⟩ :=
        PollOwner.getOrAssign_error assigned
      exact Registers.unowned nextPollId (by omega) vacant drawn
  | ok poll =>
      have reserves :=
        RegistrationTable.reusedLease_reserves granted
          (Entry.registered descriptor key interest mode)
      simp only [RegistrationTable.reusedReserve_eq granted]
      rw [settleReservation_eq _ _
        (wellFormed.reused granted _ rfl) reserves.holds]
      exact Registers.answered owner nextPollId ⟨poll, permit.id⟩ _ _ _
        (by omega) assigned reserves
        (Relation.ReflTransGen.single
          (RegistrationTable.Move.reused _ granted rfl))
        rfl rfl

theorem registerFresh_registers
    (backend : MutationDriver σ) (session : MutationSession σ)
    (wellFormed : session.registrations.WellFormed)
    (nothing : session.registrations.hasReusableSlot = false)
    (descriptor : Descriptor) (key : Key) (interest : Interest)
    (mode : Mode) :
    Registers backend session descriptor key interest mode
      (registerFresh backend session descriptor key interest mode) := by
  have total := wellFormed.live_add_exhausted nothing
  unfold registerFresh
  by_cases room :
      session.registrations.slots.length <
        session.registrations.limit.val
  · obtain ⟨permit, granted⟩ := wellFormed.freshPermit_ok nothing room
    rw [granted]
    simp only
    rcases assigned : session.owner.getOrAssign session.nextPollId with
      ⟨owner, nextPollId, outcome⟩
    cases outcome with
    | error error =>
        obtain ⟨rfl, vacant, rfl, drawn⟩ :=
          PollOwner.getOrAssign_error assigned
        exact Registers.unowned nextPollId (by omega) vacant drawn
    | ok poll =>
        have reserves :=
          RegistrationTable.freshLease_reserves granted
            (Entry.registered descriptor key interest mode)
        simp only [RegistrationTable.freshReserve_eq granted]
        rw [settleReservation_eq _ _
          (wellFormed.fresh granted _ rfl) reserves.holds]
        exact Registers.answered owner nextPollId ⟨poll, permit.id⟩ _ _ _
          (by omega) assigned reserves
          (Relation.ReflTransGen.single
            (RegistrationTable.Move.fresh _ granted rfl))
          rfl rfl
  · rw [RegistrationTable.freshPermit_full nothing room]
    have within := wellFormed.withinLimit
    exact Registers.full (by omega)

theorem registerDescriptor_registers
    (backend : MutationDriver σ) (session : MutationSession σ)
    (wellFormed : session.registrations.WellFormed)
    (descriptor : Descriptor) (key : Key) (interest : Interest)
    (mode : Mode) :
    Registers backend session descriptor key interest mode
      (registerDescriptor backend session descriptor key interest
        mode) := by
  unfold registerDescriptor
  split
  · rename_i reusable
    exact registerReused_registers backend session wellFormed reusable
      descriptor key interest mode
  · rename_i nothing
    exact registerFresh_registers backend session wellFormed
      (Bool.eq_false_iff.mpr nothing) descriptor key interest mode

/-! ## Modify -/

theorem modify_cases
    (backend : MutationDriver σ) (session : MutationSession σ)
    (registration : Registration) (interest : Interest) (mode : Mode) :
    (∃ error,
        modifyRefusal session.owner.current registration interest
            ((session.registrations.lookup registration.id).map
              Entry.state) = some error ∧
          modify backend session registration interest mode =
            (session, .error error)) ∨
      ∃ entry arm driver answer,
        modifyRefusal session.owner.current registration interest
            ((session.registrations.lookup registration.id).map
              Entry.state) = none ∧
          session.registrations.lookup registration.id = some entry ∧
          entry.state = .registered arm ∧
          backend.modify session.driver
              { descriptor := entry.descriptor.asFd
                registration := registration.id
                previousInterest := entry.interest
                previousMode := entry.mode
                previousArm := arm
                desiredInterest := interest
                desiredMode := mode } = (driver, answer) ∧
          modify backend session registration interest mode =
            ({ session with
                registrations :=
                  session.registrations.modifySettled registration.id
                    interest mode (answerCommit answer)
                driver },
              modifyReply answer) := by
  by_cases foreign : session.owner.current = some registration.owner
  · by_cases noInterest : interest.isEmpty = true
    · refine Or.inl ⟨.invalidInterest, ?_, ?_⟩
      · simp [modifyRefusal, foreign, noInterest]
      · simp [modify, requireOwner, foreign, noInterest]
    · cases present : session.registrations.lookup registration.id with
      | none =>
          refine Or.inl ⟨.stale registration.id, ?_, ?_⟩
          · simp [modifyRefusal, foreign, noInterest]
          · simp [modify, requireOwner, foreign, noInterest,
              RegistrationTable.binding_eq, present]
      | some entry =>
          cases held : entry.state with
          | uncertain =>
              refine Or.inl ⟨.uncertain registration.id, ?_, ?_⟩
              · simp [modifyRefusal, foreign, noInterest, held]
              · simp [modify, requireOwner, foreign, noInterest,
                  RegistrationTable.binding_eq, present, held]
          | registered arm =>
              rcases asked :
                  backend.modify session.driver
                    { descriptor := entry.descriptor.asFd
                      registration := registration.id
                      previousInterest := entry.interest
                      previousMode := entry.mode
                      previousArm := arm
                      desiredInterest := interest
                      desiredMode := mode } with
                ⟨driver, answer⟩
              refine Or.inr
                ⟨entry, arm, driver, answer, ?_, rfl, held, asked, ?_⟩
              · simp [modifyRefusal, foreign, noInterest, held]
              · have committed :=
                  RegistrationTable.commitModify_ok present interest mode
                have marked := RegistrationTable.markUncertain_ok present
                rcases answer with ⟨commit, source⟩ | done
                · cases commit <;>
                  simp [modify, requireOwner, foreign, noInterest,
                    RegistrationTable.binding_eq, present, held,
                    Entry.binding, asked, settleModifyFailure,
                    committed, marked, modifyReply, answerCommit,
                    RegistrationTable.modifySettled]
                · simp [modify, requireOwner, foreign, noInterest,
                    RegistrationTable.binding_eq, present, held,
                    Entry.binding, asked, committed, modifyReply,
                    answerCommit, RegistrationTable.modifySettled]
  · refine Or.inl ⟨.wrongPoller registration.id, ?_, ?_⟩
    · simp [modifyRefusal, foreign]
    · simp [modify, requireOwner, foreign]

/-! ## Delete -/

theorem delete_cases
    (backend : MutationDriver σ) (session : MutationSession σ)
    (wellFormed : session.registrations.WellFormed)
    (registration : Registration) :
    (∃ error,
        deleteRefusal session.owner.current registration
            ((session.registrations.lookup registration.id).map
              Entry.state) = some error ∧
          delete backend session registration =
            (session, .error { error, registration })) ∨
      ∃ (lease : SlotLease) (entry : Entry) (driver : σ)
          (answer : Answer),
        deleteRefusal session.owner.current registration
            ((session.registrations.lookup registration.id).map
              Entry.state) = none ∧
          lease.table = session.registrations ∧
          lease.Holds registration.id entry ∧
          backend.delete session.driver
              { descriptor := entry.descriptor.asFd
                registration := registration.id
                interest := entry.interest
                state := entry.state } = (driver, answer) ∧
          delete backend session registration =
            ({ session with
                registrations :=
                  (lease.settle
                    (deleteSettlement (answerCommit answer))).1
                driver },
              deleteReply registration answer) := by
  by_cases foreign : session.owner.current = some registration.owner
  · rcases RegistrationTable.prepareRegistrationRetire_cases
        session.registrations registration.encodedId true with
      ⟨lease, entry, prepared, same, holds, _⟩ |
        ⟨_, _, impossible, _, _⟩ | ⟨absent, prepared⟩
    · rcases asked :
          backend.delete session.driver
            { descriptor := entry.descriptor.asFd
              registration := registration.id
              interest := entry.interest
              state := entry.state } with
        ⟨driver, answer⟩
      have present := holds.located.lookup
      rw [same] at present
      rw [← same] at wellFormed
      refine Or.inr
        ⟨lease, entry, driver, answer, ?_, same, holds, asked, ?_⟩
      · have live : session.registrations.lookup registration.id =
            some entry := present
        simp [deleteRefusal, foreign, live]
      · have retired := wellFormed.settle_ok holds .retire
        simp only [SlotLease.settle] at retired
        rcases answer with ⟨commit, source⟩ | done
        · cases commit <;>
          simp [delete, requireOwner, foreign, prepared, holds.binding,
            Entry.binding, asked, settleDeleteFailure, retired,
            holds.markUncertain, deleteReply, deleteSettlement,
            answerCommit, SlotLease.settle]
        · simp [delete, requireOwner, foreign, prepared, holds.binding,
            Entry.binding, asked, retired, deleteReply,
            deleteSettlement, answerCommit, SlotLease.settle]
    · cases impossible
    · refine Or.inl ⟨.stale registration.id, ?_, ?_⟩
      · have missing : session.registrations.lookup registration.id =
            none := absent
        simp [deleteRefusal, foreign, missing]
      · simp [delete, requireOwner, foreign, prepared, Registration.id]
  · refine Or.inl ⟨.wrongPoller registration.id, ?_, ?_⟩
    · simp [deleteRefusal, foreign]
    · simp [delete, requireOwner, foreign]

/-! ## Calls -/

/-- Everything that one call can do to a session. -/
inductive Effect (backend : MutationDriver σ) (session : MutationSession σ) :
    Call → MutationSession σ × Reply → Prop
  | invalidInterest {request : Call} {intake : Intake} :
      request.intake = some intake →
      intake.interest.isEmpty = true →
      Effect backend session request
        (session,
          .register
            (.error { error := .invalidInterest, registration := none }))
  | duplicationFailed {request : Call} {intake : Intake}
      {source : IoError} :
      request.intake = some intake →
      intake.interest.isEmpty = false →
      intake.duplicate = .error source →
      Effect backend session request
        (session,
          .register
            (.error
              { error := .io .register source, registration := none }))
  | registering {request : Call} {intake : Intake}
      {descriptor : Descriptor}
      {result : MutationSession σ × Except RegisterError Registration} :
      request.intake = some intake →
      intake.interest.isEmpty = false →
      intake.duplicate = .ok descriptor.asFd →
      Registers backend session descriptor intake.key intake.interest
        intake.mode result →
      Effect backend session request (result.1, .register result.2)
  | modifyRefused {registration : Registration} {interest : Interest}
      {mode : Mode} {error : Error} :
      modifyRefusal session.owner.current registration interest
        ((session.registrations.lookup registration.id).map
          Entry.state) = some error →
      Effect backend session (.modify registration interest mode)
        (session, .modify (.error error))
  | modified {registration : Registration} {interest : Interest}
      {mode : Mode} {entry : Entry} {arm : ArmState} {driver : σ}
      {answer : Answer} :
      modifyRefusal session.owner.current registration interest
        ((session.registrations.lookup registration.id).map
          Entry.state) = none →
      session.registrations.lookup registration.id = some entry →
      entry.state = .registered arm →
      backend.modify session.driver
          { descriptor := entry.descriptor.asFd
            registration := registration.id
            previousInterest := entry.interest
            previousMode := entry.mode
            previousArm := arm
            desiredInterest := interest
            desiredMode := mode } = (driver, answer) →
      Effect backend session (.modify registration interest mode)
        ({ session with
            registrations :=
              session.registrations.modifySettled registration.id
                interest mode (answerCommit answer)
            driver },
          .modify (modifyReply answer))
  | deleteRefused {registration : Registration} {error : Error} :
      deleteRefusal session.owner.current registration
        ((session.registrations.lookup registration.id).map
          Entry.state) = some error →
      Effect backend session (.delete registration)
        (session, .delete (.error { error, registration }))
  | deleted {registration : Registration} {lease : SlotLease}
      {entry : Entry} {driver : σ} {answer : Answer} :
      deleteRefusal session.owner.current registration
        ((session.registrations.lookup registration.id).map
          Entry.state) = none →
      lease.table = session.registrations →
      lease.Holds registration.id entry →
      backend.delete session.driver
          { descriptor := entry.descriptor.asFd
            registration := registration.id
            interest := entry.interest
            state := entry.state } = (driver, answer) →
      Effect backend session (.delete registration)
        ({ session with
            registrations :=
              (lease.settle (deleteSettlement (answerCommit answer))).1
            driver },
          .delete (deleteReply registration answer))
  | queried {registration : Registration} :
      Effect backend session (.registrationState registration)
        (session,
          .registrationState
            (registrationState session.owner.current
              session.registrations registration))

theorem call_effect
    (backend : MutationDriver σ) (session : MutationSession σ)
    (wellFormed : session.registrations.WellFormed) (request : Call) :
    Effect backend session request (call backend session request) := by
  cases request with
  | register duplicate key interest mode =>
      cases noInterest : interest.isEmpty with
      | true =>
          simp only [call, register, validateRegistrationInterest,
            noInterest, if_true]
          exact Effect.invalidInterest rfl noInterest
      | false =>
          cases duplicate with
          | error source =>
              simp only [call, register, validateRegistrationInterest,
                noInterest, Bool.false_eq_true, if_false]
              exact Effect.duplicationFailed rfl noInterest rfl
          | ok descriptor =>
              simp only [call, register, validateRegistrationInterest,
                noInterest, Bool.false_eq_true, if_false]
              exact Effect.registering rfl noInterest
                (by rw [Descriptor.asFd_owned])
                (registerDescriptor_registers backend session wellFormed
                  (Descriptor.owned descriptor) key interest mode)
  | registerBorrowed source key interest mode =>
      cases noInterest : interest.isEmpty with
      | true =>
          simp only [call, registerBorrowed,
            validateRegistrationInterest, noInterest, if_true]
          exact Effect.invalidInterest rfl noInterest
      | false =>
          simp only [call, registerBorrowed,
            validateRegistrationInterest, noInterest,
            Bool.false_eq_true, if_false]
          exact Effect.registering rfl noInterest
            (by rw [Descriptor.asFd_borrowed])
            (registerDescriptor_registers backend session wellFormed
              (Descriptor.borrowed source) key interest mode)
  | modify registration interest mode =>
      simp only [call]
      rcases modify_cases backend session registration interest mode with
        ⟨error, refused, result⟩ |
          ⟨entry, arm, driver, answer, accepted, present, held, asked,
            result⟩
      · rw [result]
        exact Effect.modifyRefused refused
      · rw [result]
        exact Effect.modified accepted present held asked
  | delete registration =>
      simp only [call]
      rcases delete_cases backend session wellFormed registration with
        ⟨error, refused, result⟩ |
          ⟨lease, entry, driver, answer, accepted, same, holds, asked,
            result⟩
      · rw [result]
        exact Effect.deleteRefused refused
      · rw [result]
        exact Effect.deleted accepted same holds asked
  | registrationState registration => exact Effect.queried

theorem Effect.moves
    {backend : MutationDriver σ} {session : MutationSession σ}
    {request : Call} {result : MutationSession σ × Reply}
    (effect : Effect backend session request result) :
    RegistrationTable.Moves session.registrations
      result.1.registrations := by
  cases effect with
  | registering _ _ _ registers =>
      cases registers with
      | full _ => exact Relation.ReflTransGen.refl
      | unowned _ _ _ _ => exact Relation.ReflTransGen.refl
      | answered _ _ _ _ _ _ _ _ reserves moves _ _ =>
          exact moves.trans
            (RegistrationTable.settle_moves reserves.holds _)
  | modified =>
      exact RegistrationTable.modifySettled_moves _ _ _ _ _
  | deleted _ same holds _ =>
      rw [← same]
      exact RegistrationTable.settle_moves holds _
  | invalidInterest _ _ => exact Relation.ReflTransGen.refl
  | duplicationFailed _ _ _ => exact Relation.ReflTransGen.refl
  | modifyRefused _ => exact Relation.ReflTransGen.refl
  | deleteRefused _ => exact Relation.ReflTransGen.refl
  | queried => exact Relation.ReflTransGen.refl

/-- A settled lease keeps interests when the leased entry has one. -/
theorem settle_interested
    {lease : SlotLease} {id : RegistrationId} {entry : Entry}
    (wellFormed : lease.table.WellFormed)
    (holds : lease.Holds id entry)
    (interested : lease.table.Interested) (settlement : Settlement) :
    (lease.settle settlement).1.Interested := by
  intro other found present
  rw [wellFormed.settle_lookup holds] at present
  split at present
  · have own := interested id entry holds.located.lookup
    cases settlement with
    | keep =>
        cases present
        exact own
    | retire => cases present
    | markUncertain =>
        cases present
        exact own
  · exact interested other found present

/-- No call leaves an entry without interest. -/
theorem Effect.interested
    {backend : MutationDriver σ} {session : MutationSession σ}
    {request : Call} {result : MutationSession σ × Reply}
    (wellFormed : session.registrations.WellFormed)
    (interested : session.registrations.Interested)
    (effect : Effect backend session request result) :
    result.1.registrations.Interested := by
  cases effect with
  | registering _ nonempty _ registers =>
      cases registers with
      | full _ => exact interested
      | unowned _ _ _ _ => exact interested
      | answered _ _ _ _ _ _ _ _ reserves moves _ _ =>
          refine settle_interested (wellFormed.moves moves) reserves.holds
            ?_ _
          intro other found present
          rw [reserves.lookup] at present
          split at present
          · cases present
            exact nonempty
          · exact interested other found present
  | @modified registration interest mode entry arm driver answer accepted
      present _ _ =>
      intro other found written
      simp only at written
      rw [RegistrationTable.modifySettled_lookup present] at written
      split at written
      · have own := interested registration.id entry present
        have nonempty : interest.isEmpty = false := by
          unfold modifyRefusal at accepted
          split at accepted
          · cases accepted
          · split at accepted
            · cases accepted
            · rename_i nonempty
              exact Bool.eq_false_iff.mpr nonempty
        cases written
        cases answerCommit answer with
        | applied => exact nonempty
        | notApplied => exact own
        | unknown => exact own
      · exact interested other found written
  | deleted _ same holds _ =>
      rw [← same] at wellFormed interested
      exact settle_interested wellFormed holds interested _
  | invalidInterest _ _ => exact interested
  | duplicationFailed _ _ _ => exact interested
  | modifyRefused _ => exact interested
  | deleteRefused _ => exact interested
  | queried => exact interested

end MutationSession

/-! ## Drivers seen through a map -/

/-- A map of driver states that carries every request over. -/
structure MutationDriver.Maps
    {σ τ : Type*} (source : MutationDriver σ) (target : MutationDriver τ)
    (map : σ → τ) : Prop where
  register : ∀ state request,
    target.register (map state) request =
      Prod.map map id (source.register state request)
  modify : ∀ state request,
    target.modify (map state) request =
      Prod.map map id (source.modify state request)
  delete : ∀ state request,
    target.delete (map state) request =
      Prod.map map id (source.delete state request)

theorem FreshPermit.reserveWith_map
    {First Second : Type*} (permit : FreshPermit)
    (descriptor : Descriptor) (key : Key) (interest : Interest)
    (mode : Mode) (apply : Fd → RegistrationId → First)
    (map : First → Second) :
    permit.reserveWith descriptor key interest mode
        (fun lent id => map (apply lent id)) =
      (permit.reserveWith descriptor key interest mode apply).map
        fun granted => (granted.1, map granted.2) := by
  unfold FreshPermit.reserveWith
  simp only
  split <;> rfl

theorem ReusedPermit.reserveWith_map
    {First Second : Type*} (permit : ReusedPermit)
    (descriptor : Descriptor) (key : Key) (interest : Interest)
    (mode : Mode) (apply : Fd → RegistrationId → First)
    (map : First → Second) :
    permit.reserveWith descriptor key interest mode
        (fun lent id => map (apply lent id)) =
      (permit.reserveWith descriptor key interest mode apply).map
        fun granted => (granted.1, map granted.2) := by
  unfold ReusedPermit.reserveWith
  split <;> rfl

namespace MutationSession

variable {σ τ : Type*}

def withDriver (session : MutationSession σ) (driver : τ) :
    MutationSession τ :=
  { nextPollId := session.nextPollId
    owner := session.owner
    registrations := session.registrations
    driver }

/-- The same session over mapped driver states. -/
def mapDriver (map : σ → τ) (session : MutationSession σ) :
    MutationSession τ :=
  session.withDriver (map session.driver)

theorem settleReservation_map
    (map : σ → τ) (session : MutationSession σ)
    (registration : Registration)
    (reserved :
      Except (RegistrationTable × Error) (SlotLease × σ × Answer)) :
    (session.mapDriver map).settleReservation registration
        (reserved.map fun granted =>
          (granted.1, Prod.map map id granted.2)) =
      Prod.map (mapDriver map) id
        (session.settleReservation registration reserved) := by
  rcases reserved with failed | ⟨lease, driver, answer⟩
  · rfl
  · cases answer with
    | ok done => rfl
    | error failure =>
        simp only [Except.map, Prod.map, settleReservation,
          settleRegisterFailure, id]
        cases failure.commit with
        | applied => rfl
        | notApplied =>
            simp only
            split <;> rfl
        | unknown =>
            simp only
            split <;> rfl

variable {source : MutationDriver σ} {target : MutationDriver τ}
  {map : σ → τ}

theorem registerReused_map
    (maps : source.Maps target map) (session : MutationSession σ)
    (descriptor : Descriptor) (key : Key) (interest : Interest)
    (mode : Mode) :
    registerReused target (session.mapDriver map) descriptor key interest
        mode =
      Prod.map (mapDriver map) id
        (registerReused source session descriptor key interest mode) := by
  unfold registerReused
  simp only [mapDriver, withDriver]
  cases session.registrations.reusedPermit with
  | error error => rfl
  | ok permit =>
      simp only [maps.register, permit.reserveWith_map]
      cases (session.owner.getOrAssign session.nextPollId).2.2 with
      | error error => rfl
      | ok owner =>
          simp only
          exact settleReservation_map map
            { session with
              nextPollId :=
                (session.owner.getOrAssign session.nextPollId).2.1
              owner := (session.owner.getOrAssign session.nextPollId).1 }
            _ _

theorem registerFresh_map
    (maps : source.Maps target map) (session : MutationSession σ)
    (descriptor : Descriptor) (key : Key) (interest : Interest)
    (mode : Mode) :
    registerFresh target (session.mapDriver map) descriptor key interest
        mode =
      Prod.map (mapDriver map) id
        (registerFresh source session descriptor key interest mode) := by
  unfold registerFresh
  simp only [mapDriver, withDriver]
  cases session.registrations.freshPermit with
  | error error => rfl
  | ok permit =>
      simp only [maps.register, permit.reserveWith_map]
      cases (session.owner.getOrAssign session.nextPollId).2.2 with
      | error error => rfl
      | ok owner =>
          simp only
          exact settleReservation_map map
            { session with
              nextPollId :=
                (session.owner.getOrAssign session.nextPollId).2.1
              owner := (session.owner.getOrAssign session.nextPollId).1 }
            _ _

theorem registerDescriptor_map
    (maps : source.Maps target map) (session : MutationSession σ)
    (descriptor : Descriptor) (key : Key) (interest : Interest)
    (mode : Mode) :
    registerDescriptor target (session.mapDriver map) descriptor key
        interest mode =
      Prod.map (mapDriver map) id
        (registerDescriptor source session descriptor key interest
          mode) := by
  have same : (session.mapDriver map).registrations =
      session.registrations := rfl
  unfold registerDescriptor
  rw [same]
  split
  · exact registerReused_map maps session descriptor key interest mode
  · exact registerFresh_map maps session descriptor key interest mode

theorem modify_map
    (maps : source.Maps target map) (session : MutationSession σ)
    (registration : Registration) (interest : Interest) (mode : Mode) :
    modify target (session.mapDriver map) registration interest mode =
      Prod.map (mapDriver map) id
        (modify source session registration interest mode) := by
  unfold modify
  simp only [mapDriver, withDriver]
  cases requireOwner session.owner.current registration with
  | error error => rfl
  | ok owned =>
      simp only
      cases interest.isEmpty with
      | true => rfl
      | false =>
          simp only [Bool.false_eq_true, if_false]
          cases session.registrations.binding registration.id false with
          | error error => rfl
          | ok binding =>
              simp only
              cases binding.state with
              | uncertain => rfl
              | registered arm =>
                  rcases asked :
                      source.modify session.driver
                        { descriptor := binding.descriptor
                          registration := registration.id
                          previousInterest := binding.interest
                          previousMode := binding.mode
                          previousArm := arm
                          desiredInterest := interest
                          desiredMode := mode } with
                    ⟨driver, failure | done⟩
                  · simp only [maps.modify, asked, Prod.map, id]
                    cases (settleModifyFailure session.registrations
                      registration.id interest mode
                      failure.commit).2 <;> rfl
                  · simp only [maps.modify, asked, Prod.map, id]
                    rfl

theorem delete_map
    (maps : source.Maps target map) (session : MutationSession σ)
    (registration : Registration) :
    delete target (session.mapDriver map) registration =
      Prod.map (mapDriver map) id
        (delete source session registration) := by
  unfold delete
  simp only [mapDriver, withDriver]
  cases requireOwner session.owner.current registration with
  | error error => rfl
  | ok owned =>
      simp only
      cases session.registrations.prepareRegistrationRetire
          registration.encodedId true with
      | error error => rfl
      | ok prepared =>
          simp only
          cases prepared.binding with
          | error error => rfl
          | ok binding =>
              rcases asked :
                  source.delete session.driver
                    { descriptor := binding.descriptor
                      registration := registration.id
                      interest := binding.interest
                      state := binding.state } with
                ⟨driver, failure | done⟩
              · simp only [maps.delete, asked, Prod.map, id]
                cases (settleDeleteFailure prepared
                  failure.commit).2 <;> rfl
              · simp only [maps.delete, asked, Prod.map, id]
                cases prepared.retire.2 <;> rfl

/-- Calls over mapped driver states are the mapped calls. -/
theorem call_map
    (maps : source.Maps target map) (session : MutationSession σ)
    (request : Call) :
    call target (session.mapDriver map) request =
      Prod.map (mapDriver map) id (call source session request) := by
  cases request with
  | register duplicate key interest mode =>
      simp only [call, register]
      cases validateRegistrationInterest interest with
      | error error => rfl
      | ok valid =>
          cases duplicate with
          | error source => rfl
          | ok descriptor =>
              simp only [registerDescriptor_map maps]
              rfl
  | registerBorrowed lent key interest mode =>
      simp only [call, registerBorrowed]
      cases validateRegistrationInterest interest with
      | error error => rfl
      | ok valid =>
          simp only [registerDescriptor_map maps]
          rfl
  | modify registration interest mode =>
      simp only [call, modify_map maps]
      rfl
  | delete registration =>
      simp only [call, delete_map maps]
      rfl
  | registrationState registration => rfl

end MutationSession

end Zio
