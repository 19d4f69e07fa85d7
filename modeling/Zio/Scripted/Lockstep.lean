import Zio.Library.Transition
import Zio.Mutation.Effects
import Zio.Scripted.Driver
import Zio.Table.Disarm
import Zio.Table.Identity

/-!
# The scripted backend moves with the portable table

The backend model and the registration table are updated by different code.
`Tracks` relates what the two hold for one identity, `Lockstep` asks it of
every identity, and every call of a scripted poller keeps it, whatever the
script answers.
-/

namespace Zio

open Transition

/-! ## The backend model as a partial map -/

namespace BackendModel

theorem entryOf_eq (model : BackendModel) (id : RegistrationId) :
    model.entryOf id =
      Keyed.find BackendEntry.registration model.entries id :=
  (Keyed.find_eq_position model.entries id).symm

theorem entryOf_writeState
    {model : BackendModel} {target : RegistrationId} {index : Nat}
    (placed : model.entryIndex target = some index)
    (state : ScriptedBackendState) (sought : RegistrationId) :
    (model.writeState index state).entryOf sought =
      if sought = target then
        (model.entryOf target).map fun entry => { entry with state }
      else model.entryOf sought := by
  simp only [entryOf_eq]
  have kept (entry : BackendEntry) :
      ({ entry with state } : BackendEntry).registration =
        entry.registration := rfl
  exact Keyed.find_modify placed kept sought

theorem entryOf_setState
    (model : BackendModel) (target : RegistrationId)
    (state : ScriptedBackendState) (sought : RegistrationId) :
    (model.setState target state).entryOf sought =
      if sought = target then
        (model.entryOf target).map fun entry => { entry with state }
      else model.entryOf sought := by
  unfold setState
  split
  · rename_i index placed
    exact entryOf_writeState placed state sought
  · rename_i placed
    have absent : model.entryOf target = none := by
      simp [entryOf, placed]
    split
    · rename_i same
      rw [same, absent]
      rfl
    · rfl

theorem entryOf_beginRegister
    {model : BackendModel} {target : RegistrationId}
    (fresh : model.entryOf target = none) (descriptor : RawFd)
    (sought : RegistrationId) :
    (model.beginRegister target descriptor).entryOf sought =
      if sought = target then
        some { registration := target, descriptor, state := .absent }
      else model.entryOf sought := by
  rw [entryOf_eq] at fresh
  simp only [entryOf_eq, beginRegister, Keyed.find_append_one]
  by_cases same : sought = target
  · rw [same, fresh]
    simp
  · have other : target ≠ sought := fun equal => same equal.symm
    simp [same, other]

theorem markUnknown_eq
    {model : BackendModel} {target : RegistrationId}
    {entry : BackendEntry} (present : model.entryOf target = some entry)
    (descriptor : RawFd) :
    model.markUnknown target descriptor =
      model.setState target .unknown := by
  cases placed : model.entryIndex target with
  | some index => simp [markUnknown, setState, placed]
  | none => simp [entryOf, placed] at present

theorem validate_ok
    {model : BackendModel} {target : RegistrationId}
    {entry : BackendEntry} (present : model.entryOf target = some entry) :
    model.validate target entry.descriptor = .ok () := by
  simp [validate, present]

end BackendModel

/-! ## What one request does to the driver -/

/-- A fault that the model itself raises when it has lost a registration. -/
def ScriptError.lost : ScriptError → Bool
  | .descriptorChanged _ => true
  | .unknownRegistration _ => true
  | _ => false

/-- The backend state that a registration of known outcome leaves. -/
def registeredBy (interest : Interest) (mode : Mode) :
    CommitStatus → ScriptedBackendState
  | .applied => .registered interest mode .armed
  | .notApplied => .absent
  | .unknown => .unknown

/-- The backend state that a modification of known outcome leaves. -/
def modifiedBy
    (previous : ScriptedBackendState) (interest : Interest) (mode : Mode) :
    CommitStatus → ScriptedBackendState
  | .applied => .registered interest mode .armed
  | .notApplied => previous
  | .unknown => .unknown

/-- The backend state that a deletion of known outcome leaves. -/
def deletedBy (previous : ScriptedBackendState) :
    CommitStatus → ScriptedBackendState
  | .applied => .absent
  | .notApplied => previous
  | .unknown => .unknown

namespace ScriptedDriver

/-- No fault was raised but one of the script. -/
def Faults (before after : ScriptedDriver) : Prop :=
  ∃ raised : Option ScriptError,
    after.fault = before.fault.or raised ∧
      ∀ error, raised = some error → error.lost = false

theorem Faults.none
    {before after : ScriptedDriver} (same : after.fault = before.fault) :
    Faults before after :=
  ⟨.none, by rw [same, Option.or_none], fun _ raised => by cases raised⟩

theorem Faults.one
    {before after : ScriptedDriver} {error : ScriptError}
    (kept : error.lost = false)
    (same : after.fault = before.fault.or (some error)) :
    Faults before after :=
  ⟨some error, same, fun _ raised => by cases raised; exact kept⟩

/-- A request wrote one entry of the model. -/
structure Amends
    (before after : ScriptedDriver) (id : RegistrationId)
    (entry : BackendEntry) : Prop where
  entries : ∀ sought,
    after.model.entryOf sought =
      if sought = id then some entry else before.model.entryOf sought
  faults : Faults before after

theorem next_error
    {driver after : ScriptedDriver} {operation : Operation}
    {failure : MutationFailure}
    (failed : driver.next operation = (after, .error failure)) :
    ∃ error, error.lost = false ∧
      after =
        ({ driver with
            steps := driver.steps.tail } : ScriptedDriver).recordFault
          error ∧
      failure.commit = .unknown := by
  rcases driver with ⟨steps, calls, model, fault⟩
  cases steps with
  | nil =>
      cases failed
      exact ⟨.exhausted operation, rfl, rfl, rfl⟩
  | cons step rest =>
      by_cases matching : step.operation = operation
      · simp [next, matching] at failed
      · simp only [next, ne_eq, matching, not_false_eq_true, if_true,
          structuralFailure] at failed
        cases failed
        exact ⟨.mismatch step.operation operation, rfl, rfl, rfl⟩

theorem next_ok
    {driver after : ScriptedDriver} {operation : Operation}
    {outcome : MutationOutcome}
    (answered : driver.next operation = (after, .ok outcome)) :
    after = { driver with steps := driver.steps.tail } := by
  rcases driver with ⟨steps, calls, model, fault⟩
  cases steps with
  | nil => cases answered
  | cons step rest =>
      by_cases matching : step.operation = operation
      · simp only [next, ne_eq, matching, not_true_eq_false,
          if_false] at answered
        cases answered
        rfl
      · simp [next, matching] at answered

theorem completeRegister_eq
    (model : BackendModel) (id : RegistrationId) (interest : Interest)
    (mode : Mode) (outcome : MutationOutcome) :
    model.completeRegister id interest mode outcome =
      model.setState id
        (registeredBy interest mode
          (answerCommit (outcomeResult outcome))) := by
  cases outcome with
  | success => rfl
  | failure commit kind => cases commit <;> rfl

theorem entryOf_completeModify
    {model : BackendModel} {id : RegistrationId} {entry : BackendEntry}
    (present : model.entryOf id = some entry) (interest : Interest)
    (mode : Mode) (outcome : MutationOutcome) (sought : RegistrationId) :
    (model.completeModify id interest mode outcome).entryOf sought =
      if sought = id then
        some
          { entry with
            state :=
              modifiedBy entry.state interest mode
                (answerCommit (outcomeResult outcome)) }
      else model.entryOf sought := by
  cases outcome with
  | success =>
      simp only [BackendModel.completeModify]
      rw [BackendModel.entryOf_setState, present]
      rfl
  | failure commit kind =>
      cases commit with
      | applied =>
          simp only [BackendModel.completeModify]
          rw [BackendModel.entryOf_setState, present]
          rfl
      | unknown =>
          simp only [BackendModel.completeModify]
          rw [BackendModel.entryOf_setState, present]
          rfl
      | notApplied =>
          simp only [BackendModel.completeModify]
          split
          · rename_i same
            rw [same, present]
            rfl
          · rfl

theorem entryOf_completeDelete
    {model : BackendModel} {id : RegistrationId} {entry : BackendEntry}
    (present : model.entryOf id = some entry)
    (outcome : MutationOutcome) (sought : RegistrationId) :
    (model.completeDelete id outcome).entryOf sought =
      if sought = id then
        some
          { entry with
            state :=
              deletedBy entry.state
                (answerCommit (outcomeResult outcome)) }
      else model.entryOf sought := by
  cases outcome with
  | success =>
      simp only [BackendModel.completeDelete]
      rw [BackendModel.entryOf_setState, present]
      rfl
  | failure commit kind =>
      cases commit with
      | applied =>
          simp only [BackendModel.completeDelete]
          rw [BackendModel.entryOf_setState, present]
          rfl
      | unknown =>
          simp only [BackendModel.completeDelete]
          rw [BackendModel.entryOf_setState, present]
          rfl
      | notApplied =>
          simp only [BackendModel.completeDelete]
          split
          · rename_i same
            rw [same, present]
            rfl
          · rfl

/-- A failed step of the script leaves the entry unknown. -/
theorem entryOf_markUnknown
    {model : BackendModel} {id : RegistrationId} {entry : BackendEntry}
    (present : model.entryOf id = some entry) (descriptor : RawFd)
    (sought : RegistrationId) :
    (model.markUnknown id descriptor).entryOf sought =
      if sought = id then some { entry with state := .unknown }
      else model.entryOf sought := by
  rw [BackendModel.markUnknown_eq present, BackendModel.entryOf_setState,
    present]
  rfl

theorem register_amends
    {driver after : ScriptedDriver} {request : RegisterRequest}
    {answer : Answer}
    (fresh : driver.model.entryOf request.registration = none)
    (asked : driver.register request = (after, answer)) :
    Amends driver after request.registration
      { registration := request.registration
        descriptor := request.descriptor.raw
        state :=
          registeredBy request.interest request.mode
            (answerCommit answer) } := by
  have begun :=
    BackendModel.entryOf_beginRegister fresh request.descriptor.raw
  have present := begun request.registration
  rw [if_pos rfl] at present
  unfold register at asked
  simp only at asked
  split at asked
  · rename_i next failure failed
    cases asked
    obtain ⟨error, kept, rfl, unknown⟩ := next_error failed
    refine ⟨fun sought => ?_, Faults.one kept rfl⟩
    simp only [recordFault, pushCall, answerCommit, unknown]
    rw [entryOf_markUnknown present, begun]
    split
    · rfl
    · rfl
  · rename_i next outcome answered
    cases asked
    cases next_ok answered
    refine ⟨fun sought => ?_, Faults.none rfl⟩
    simp only [pushCall, completeRegister_eq]
    rw [BackendModel.entryOf_setState, present, begun]
    split
    · rfl
    · rfl

theorem modify_amends
    {driver after : ScriptedDriver} {request : ModifyRequest}
    {answer : Answer} {entry : BackendEntry}
    (present :
      driver.model.entryOf request.registration = some entry)
    (retained : entry.descriptor = request.descriptor.raw)
    (asked : driver.modify request = (after, answer)) :
    Amends driver after request.registration
      { entry with
        state :=
          modifiedBy entry.state request.desiredInterest
            request.desiredMode (answerCommit answer) } := by
  have valid := BackendModel.validate_ok present
  rw [retained] at valid
  unfold modify at asked
  simp only [pushCall, valid] at asked
  split at asked
  · rename_i next failure failed
    cases asked
    obtain ⟨error, kept, rfl, unknown⟩ := next_error failed
    refine ⟨fun sought => ?_, Faults.one kept rfl⟩
    simp only [recordFault, answerCommit, unknown]
    rw [entryOf_markUnknown present]
    rfl
  · rename_i next outcome answered
    cases asked
    cases next_ok answered
    refine ⟨fun sought => ?_, Faults.none rfl⟩
    rw [entryOf_completeModify present]

theorem delete_amends
    {driver after : ScriptedDriver} {request : DeleteRequest}
    {answer : Answer} {entry : BackendEntry}
    (present :
      driver.model.entryOf request.registration = some entry)
    (retained : entry.descriptor = request.descriptor.raw)
    (asked : driver.delete request = (after, answer)) :
    Amends driver after request.registration
      { entry with
        state := deletedBy entry.state (answerCommit answer) } := by
  have valid := BackendModel.validate_ok present
  rw [retained] at valid
  unfold delete at asked
  simp only [pushCall, valid] at asked
  split at asked
  · rename_i next failure failed
    cases asked
    obtain ⟨error, kept, rfl, unknown⟩ := next_error failed
    refine ⟨fun sought => ?_, Faults.one kept rfl⟩
    simp only [recordFault, answerCommit, unknown]
    rw [entryOf_markUnknown present]
    rfl
  · rename_i next outcome answered
    cases asked
    cases next_ok answered
    refine ⟨fun sought => ?_, Faults.none rfl⟩
    rw [entryOf_completeDelete present]

end ScriptedDriver

/-! ## Lock-step -/

/-- The backend state that a live entry stands for. -/
def Entry.scripted (entry : Entry) : ScriptedBackendState :=
  match entry.state with
  | .registered arm => .registered entry.interest entry.mode arm
  | .uncertain => .unknown

/-- What the backend model may hold beside an entry of the table. -/
inductive Tracks : Option BackendEntry → Option Entry → Prop
  | unissued : Tracks none none
  | gone {held : BackendEntry} :
      held.state = .absent → Tracks (some held) none
  | live {held : BackendEntry} {entry : Entry} :
      held.descriptor = entry.descriptor.asRawFd →
      held.state = entry.scripted →
      Tracks (some held) (some entry)

/-- The model follows the table at every identity, and only identities that
the table issued have an entry. -/
structure Lockstep (table : RegistrationTable) (model : BackendModel) :
    Prop where
  wellFormed : table.WellFormed
  issued : ∀ id held, model.entryOf id = some held → table.Issued id
  tracks : ∀ id, Tracks (model.entryOf id) (table.lookup id)

theorem Tracks.registered
    (id : RegistrationId) (descriptor : Descriptor) (key : Key)
    (interest : Interest) (mode : Mode) (commit : CommitStatus) :
    Tracks
      (some
        { registration := id
          descriptor := descriptor.asFd.raw
          state := registeredBy interest mode commit })
      ((registerSettlement commit).remaining
        (Entry.registered descriptor key interest mode)) := by
  cases commit with
  | applied => exact Tracks.live rfl rfl
  | notApplied => exact Tracks.gone rfl
  | unknown => exact Tracks.live rfl rfl

theorem Tracks.modified
    {held : BackendEntry} {entry : Entry}
    (tracks : Tracks (some held) (some entry))
    (interest : Interest) (mode : Mode) (commit : CommitStatus) :
    Tracks
      (some
        { held with state := modifiedBy held.state interest mode commit })
      (some
        (RegistrationTable.modifyWritten interest mode entry commit)) := by
  cases tracks with
  | live retained mirrored =>
      cases commit with
      | applied => exact Tracks.live retained rfl
      | notApplied => exact Tracks.live retained mirrored
      | unknown => exact Tracks.live retained rfl

theorem Tracks.deleted
    {held : BackendEntry} {entry : Entry}
    (tracks : Tracks (some held) (some entry)) (commit : CommitStatus) :
    Tracks (some { held with state := deletedBy held.state commit })
      ((deleteSettlement commit).remaining entry) := by
  cases tracks with
  | live retained mirrored =>
      cases commit with
      | applied => exact Tracks.gone rfl
      | notApplied => exact Tracks.live retained mirrored
      | unknown => exact Tracks.live retained rfl

theorem Tracks.of_live
    {held : Option BackendEntry} {entry : Entry}
    (tracks : Tracks held (some entry)) :
    ∃ backend, held = some backend ∧
      backend.descriptor = entry.descriptor.asRawFd ∧
      backend.state = entry.scripted := by
  cases tracks with
  | live retained mirrored => exact ⟨_, rfl, retained, mirrored⟩

namespace RegistrationTable

/-- A reservation mints an identity that the table had not issued. -/
theorem Reserves.not_issued
    {table : RegistrationTable} {lease : SlotLease}
    {id : RegistrationId} {entry : Entry}
    (reserves : table.Reserves lease id entry)
    (moves : Moves table lease.table) :
    ¬ table.Issued id := by
  rintro ⟨index, generation, slot, decoded, found, reached⟩
  have retired : table.Retired id := by
    refine ⟨index, generation, slot, decoded, found, ?_⟩
    have absent := reserves.absent
    by_cases same : slot.generation = generation.val
    · refine Or.inr ⟨same.symm, ?_⟩
      simpa [RegistrationTable.lookup, decoded, found, same] using absent
    · have different :
          generation.val.toNat ≠ slot.generation.toNat := fun equal =>
        same (UInt32.toNat_inj.mp equal).symm
      exact Or.inl (by omega)
  have gone := (retired.mono moves.progress).lookup
  rw [reserves.holds.located.lookup] at gone
  cases gone

end RegistrationTable

/-- The two sides agree at every identity. -/
theorem Lockstep.state
    {table : RegistrationTable} {model : BackendModel}
    (lockstep : Lockstep table model) (id : RegistrationId) :
    model.state id =
      ((table.lookup id).map Entry.scripted).getD .absent := by
  have tracks := lockstep.tracks id
  unfold BackendModel.state
  generalize model.entryOf id = held at tracks
  generalize table.lookup id = entry at tracks
  cases tracks with
  | unissued => rfl
  | gone absent => exact absent
  | live retained mirrored => exact mirrored

/-- One amended entry and one changed table entry keep the lock-step. -/
theorem Lockstep.amended
    {table after : RegistrationTable}
    {driver next : ScriptedDriver} {id : RegistrationId}
    {held : BackendEntry} {entry : Option Entry}
    (lockstep : Lockstep table driver.model)
    (moves : RegistrationTable.Moves table after)
    (issued : after.Issued id)
    (lookup : ∀ other, after.lookup other =
      if other = id then entry else table.lookup other)
    (amends : driver.Amends next id held)
    (tracks : Tracks (some held) entry) :
    Lockstep after next.model where
  wellFormed := lockstep.wellFormed.moves moves
  issued := by
    intro other found present
    rw [amends.entries] at present
    split at present
    · rename_i same
      rw [same]
      exact issued
    · exact (lockstep.issued other found present).mono moves.progress
  tracks := by
    intro other
    rw [amends.entries, lookup]
    split
    · exact tracks
    · exact lockstep.tracks other

namespace MutationSession

/-- Every mutation call keeps the lock-step and loses no registration. -/
theorem Effect.lockstep
    {session : ScriptedPoll} {request : Call}
    {result : ScriptedPoll × Reply}
    (lockstep : Lockstep session.registrations session.driver.model)
    (effect : Effect scriptedBackend session request result) :
    Lockstep result.1.registrations result.1.driver.model ∧
      session.driver.Faults result.1.driver := by
  have quiet : session.driver.Faults session.driver :=
    ScriptedDriver.Faults.none rfl
  cases effect with
  | @registering _ intake descriptor _ _ _ _ registers =>
      cases registers with
      | full _ => exact ⟨lockstep, quiet⟩
      | unowned _ _ _ _ => exact ⟨lockstep, quiet⟩
      | answered owner nextPollId registration lease driver answer _ _
          reserves moves _ asked =>
          have settled :=
            RegistrationTable.settle_moves reserves.holds
              (registerSettlement (answerCommit answer))
          have unissued := reserves.not_issued moves
          have fresh :
              session.driver.model.entryOf registration.id = none := by
            cases present :
                session.driver.model.entryOf registration.id with
            | none => rfl
            | some held =>
                exact (unissued
                  (lockstep.issued _ held present)).elim
          have amends := ScriptedDriver.register_amends fresh asked
          have tracks :=
            Tracks.registered registration.id descriptor intake.key
              intake.interest intake.mode (answerCommit answer)
          refine ⟨lockstep.amended (moves.trans settled)
            (reserves.settled _) ?_ amends tracks, amends.faults⟩
          intro other
          simp only [(lockstep.wellFormed.moves moves).settle_lookup
            reserves.holds, reserves.lookup]
          split
          · rfl
          · rfl
  | @modified registration interest mode entry arm driver answer _
      present _ asked =>
      have tracks := lockstep.tracks registration.id
      rw [present] at tracks
      obtain ⟨held, found, retained, mirrored⟩ := tracks.of_live
      rw [found] at tracks
      have amends :=
        ScriptedDriver.modify_amends found retained asked
      exact ⟨lockstep.amended
        (RegistrationTable.modifySettled_moves _ _ _ _ _)
        ((lockstep.issued _ held found).mono
          (RegistrationTable.modifySettled_moves _ _ _ _ _).progress)
        (RegistrationTable.modifySettled_lookup present _ _ _) amends
        (tracks.modified _ _ _), amends.faults⟩
  | @deleted registration lease entry driver answer _ same holds asked =>
      have present := holds.located.lookup
      rw [same] at present
      have tracks := lockstep.tracks registration.id
      rw [present] at tracks
      obtain ⟨held, found, retained, mirrored⟩ := tracks.of_live
      rw [found] at tracks
      have amends :=
        ScriptedDriver.delete_amends found retained asked
      have moves :=
        RegistrationTable.settle_moves holds
          (deleteSettlement (answerCommit answer))
      have wellFormed := lockstep.wellFormed
      rw [← same] at wellFormed
      have lookup := wellFormed.settle_lookup holds
        (deleteSettlement (answerCommit answer))
      rw [same] at moves lookup
      exact ⟨lockstep.amended moves
        ((lockstep.issued _ held found).mono moves.progress) lookup
        amends (tracks.deleted _), amends.faults⟩
  | invalidInterest _ _ => exact ⟨lockstep, quiet⟩
  | duplicationFailed _ _ _ => exact ⟨lockstep, quiet⟩
  | modifyRefused _ => exact ⟨lockstep, quiet⟩
  | deleteRefused _ => exact ⟨lockstep, quiet⟩
  | queried => exact ⟨lockstep, quiet⟩

end MutationSession

namespace ScriptedDriver

/-- Disarming a tracked one-shot entry succeeds. -/
theorem establishDisarmed_amends
    {driver : ScriptedDriver} {id : RegistrationId} {held : BackendEntry}
    {interest : Interest} {arm : ArmState}
    (present : driver.model.entryOf id = some held)
    (installed : held.state = .registered interest .oneShot arm) :
    ∃ after,
      driver.establishDisarmed id held.descriptor = (after, .ok ()) ∧
        driver.Amends after id
          { held with
            state := .registered interest .oneShot .disarmed } := by
  have valid := BackendModel.validate_ok present
  have state : driver.model.state id =
      .registered interest .oneShot arm := by
    simp only [BackendModel.state, present, installed]
  unfold establishDisarmed BackendModel.establishDisarmed
  simp only [valid, state]
  refine ⟨_, rfl, fun sought => ?_, Faults.none rfl⟩
  simp only [pushCall]
  rw [BackendModel.entryOf_setState, present]
  rfl

end ScriptedDriver

/-- A one-shot entry stands disarmed after every disarm, repeated or not. -/
theorem RegistrationTable.applyDisarm_lookup
    {table : RegistrationTable} {id : RegistrationId} {entry : Entry}
    {arm : ArmState} (present : table.lookup id = some entry)
    (oneShot : entry.mode = .oneShot)
    (known : entry.state = .registered arm) (other : RegistrationId) :
    (table.applyDisarm id .applied).1.lookup other =
      if other = id then
        some { entry with state := .registered .disarmed }
      else table.lookup other := by
  cases arm with
  | armed =>
      have ready : entry.Disarmable := ⟨oneShot, known⟩
      exact (applyDisarm_ready present ready .applied).2 other
  | disarmed =>
      rcases applyDisarm_cases table id .applied with
        ⟨_, _, found, located, ready, _⟩ | ⟨_, _, _, result⟩ |
          ⟨absent, _⟩
      · rw [located.lookup] at present
        cases present
        rw [ready.2] at known
        cases known
      · rw [result]
        split
        · rename_i same
          rw [same, present, ← known]
        · rfl
      · rw [absent] at present
        cases present

namespace ScriptedPoll

/-- A disarm is refused, or it asks the driver about a one-shot entry. -/
theorem establishDisarmed_cases
    (poll : ScriptedPoll) (registration : Registration) :
    (∃ error,
        poll.establishDisarmed registration = (poll, .error error)) ∨
      ∃ entry arm,
        poll.registrations.lookup registration.id = some entry ∧
          entry.mode = .oneShot ∧
          entry.state = .registered arm ∧
          ∀ driver,
            poll.driver.establishDisarmed registration.id
                entry.descriptor.asRawFd = (driver, .ok ()) →
              poll.establishDisarmed registration =
                ({ poll with
                    driver
                    registrations :=
                      (poll.registrations.applyDisarm registration.id
                        .applied).1 },
                  (poll.registrations.applyDisarm registration.id
                    .applied).2.map fun _ => ()) := by
  unfold establishDisarmed
  cases owned : registrationState poll.owner.current poll.registrations
      registration with
  | error error => exact Or.inl ⟨error, rfl⟩
  | ok state =>
      simp only [RegistrationTable.binding_eq]
      cases present : poll.registrations.lookup registration.id with
      | none => exact Or.inl ⟨_, rfl⟩
      | some entry =>
          cases known : entry.state with
          | uncertain => exact Or.inl ⟨_, by simp [known]; rfl⟩
          | registered arm =>
              by_cases oneShot : entry.mode = .oneShot
              · refine Or.inr ⟨entry, arm, rfl, oneShot, known, ?_⟩
                intro driver asked
                simp [known, Entry.binding, oneShot, Descriptor.asFd,
                  asked]
              · exact Or.inl
                  ⟨.invariant, by simp [known, Entry.binding, oneShot]⟩

/-- Disarming keeps the lock-step: a second disarm changes neither side. -/
theorem establishDisarmed_lockstep
    {poll : ScriptedPoll} (registration : Registration)
    (lockstep : Lockstep poll.registrations poll.driver.model) :
    Lockstep (poll.establishDisarmed registration).1.registrations
        (poll.establishDisarmed registration).1.driver.model ∧
      poll.driver.Faults
        (poll.establishDisarmed registration).1.driver := by
  rcases establishDisarmed_cases poll registration with
    ⟨error, refused⟩ | ⟨entry, arm, present, oneShot, known, asks⟩
  · rw [refused]
    exact ⟨lockstep, ScriptedDriver.Faults.none rfl⟩
  · have tracks := lockstep.tracks registration.id
    rw [present] at tracks
    obtain ⟨held, found, retained, mirrored⟩ := tracks.of_live
    have installed : held.state =
        .registered entry.interest .oneShot arm := by
      rw [mirrored, Entry.scripted, known, oneShot]
    obtain ⟨driver, asked, amends⟩ :=
      ScriptedDriver.establishDisarmed_amends found installed
    rw [retained] at asked
    rw [asks driver asked]
    have moves :=
      RegistrationTable.applyDisarm_moves poll.registrations
        registration.id .applied
    refine ⟨lockstep.amended moves
      ((lockstep.issued _ held found).mono moves.progress)
      (RegistrationTable.applyDisarm_lookup present oneShot known)
      amends ?_, amends.faults⟩
    exact Tracks.live retained (by simp [Entry.scripted, oneShot])

theorem perform_lockstep
    {poll : ScriptedPoll} (request : ScriptedCall)
    (lockstep : Lockstep poll.registrations poll.driver.model) :
    Lockstep (poll.perform request).1.registrations
        (poll.perform request).1.driver.model ∧
      poll.driver.Faults (poll.perform request).1.driver := by
  cases request with
  | mutation request =>
      exact (MutationSession.call_effect scriptedBackend poll
        lockstep.wellFormed request).lockstep lockstep
  | establishDisarmed registration =>
      exact establishDisarmed_lockstep registration lockstep

/-! ## Faults -/

/-- The same poller before any fault was recorded. -/
def unfaulted (self : ScriptedPoll) : ScriptedPoll :=
  self.withDriver { self.driver with fault := none }

/-- The fault that one call produces.  A recorded fault hides later ones, so
the call is watched from a poller that has recorded none. -/
def produces (self : ScriptedPoll) (request : ScriptedCall) :
    Option ScriptError :=
  (self.unfaulted.perform request).1.driver.fault

end ScriptedPoll

namespace ScriptedDriver

/-- The same driver with an earlier fault. -/
def faultedBy (earlier : Option ScriptError) (driver : ScriptedDriver) :
    ScriptedDriver :=
  { driver with fault := earlier.or driver.fault }

theorem next_faultedBy
    (earlier : Option ScriptError) (driver : ScriptedDriver)
    (operation : Operation) :
    (driver.faultedBy earlier).next operation =
      Prod.map (faultedBy earlier) id (driver.next operation) := by
  rcases driver with ⟨steps, calls, model, fault⟩
  cases steps with
  | nil =>
      simp [next, structuralFailure, recordFault, faultedBy]
  | cons step rest =>
      by_cases matching : step.operation = operation
      · simp [next, matching, faultedBy]
      · simp [next, matching, structuralFailure, recordFault, faultedBy]

/-- An earlier fault changes nothing that a request does. -/
theorem maps_faultedBy (earlier : Option ScriptError) :
    scriptedBackend.Maps scriptedBackend (faultedBy earlier) where
  register := by
    intro driver request
    have opened := next_faultedBy earlier
      { driver.pushCall
          (.register request.registration request.key request.interest
            request.mode) with
        model :=
          driver.model.beginRegister request.registration
            request.descriptor.raw } .register
    simp only [scriptedBackend, register]
    simp only [faultedBy, pushCall] at opened ⊢
    rw [opened]
    generalize ScriptedDriver.next _ _ = asked
    rcases asked with ⟨next, failure | outcome⟩ <;> rfl
  modify := by
    intro driver request
    have opened := next_faultedBy earlier
      (driver.pushCall
        (.modify request.registration request.previousInterest
          request.previousMode request.previousArm
          request.desiredInterest request.desiredMode)) .modify
    simp only [scriptedBackend, modify]
    simp only [faultedBy, pushCall] at opened ⊢
    cases driver.model.validate request.registration
        request.descriptor.raw with
    | error error =>
        simp [structuralFailure, recordFault, faultedBy]
    | ok valid =>
        simp only
        rw [opened]
        generalize ScriptedDriver.next _ _ = asked
        rcases asked with ⟨next, failure | outcome⟩ <;> rfl
  delete := by
    intro driver request
    have opened := next_faultedBy earlier
      (driver.pushCall
        (.delete request.registration request.interest request.state))
      .delete
    simp only [scriptedBackend, delete]
    simp only [faultedBy, pushCall] at opened ⊢
    cases driver.model.validate request.registration
        request.descriptor.raw with
    | error error =>
        simp [structuralFailure, recordFault, faultedBy]
    | ok valid =>
        simp only
        rw [opened]
        generalize ScriptedDriver.next _ _ = asked
        rcases asked with ⟨next, failure | outcome⟩ <;> rfl

theorem establishDisarmed_faultedBy
    (earlier : Option ScriptError) (driver : ScriptedDriver)
    (registration : RegistrationId) (descriptor : RawFd) :
    (driver.faultedBy earlier).establishDisarmed registration descriptor =
      Prod.map (faultedBy earlier) id
        (driver.establishDisarmed registration descriptor) := by
  simp only [establishDisarmed, faultedBy]
  cases driver.model.establishDisarmed registration descriptor with
  | error error => simp [recordFault, faultedBy]
  | ok model => rfl

end ScriptedDriver

namespace ScriptedPoll

theorem unfaulted_faultedBy (poll : ScriptedPoll) :
    MutationSession.mapDriver
        (ScriptedDriver.faultedBy poll.driver.fault) poll.unfaulted =
      poll := by
  simp [MutationSession.mapDriver, MutationSession.withDriver, unfaulted,
    ScriptedDriver.faultedBy]

theorem perform_faultedBy
    (earlier : Option ScriptError) (poll : ScriptedPoll)
    (request : ScriptedCall) :
    ScriptedPoll.perform
        (MutationSession.mapDriver (ScriptedDriver.faultedBy earlier)
          poll) request =
      Prod.map
        (MutationSession.mapDriver (ScriptedDriver.faultedBy earlier)) id
        (poll.perform request) := by
  cases request with
  | mutation request =>
      simp only [perform,
        MutationSession.call_map (ScriptedDriver.maps_faultedBy earlier)]
      rfl
  | establishDisarmed registration =>
      simp only [perform, establishDisarmed, MutationSession.mapDriver,
        MutationSession.withDriver]
      cases registrationState poll.owner.current poll.registrations
          registration with
      | error error => rfl
      | ok state =>
          cases poll.registrations.binding registration.id false with
          | error error => rfl
          | ok binding =>
              by_cases oneShot : binding.mode = .oneShot
              · simp only [oneShot,
                  ScriptedDriver.establishDisarmed_faultedBy]
                generalize
                  poll.driver.establishDisarmed registration.id
                    binding.descriptor.raw = asked
                rcases asked with ⟨driver, error | done⟩ <;> rfl
              · simp [oneShot, MutationSession.mapDriver,
                  MutationSession.withDriver]

/-- A call records the fault that it produces unless one is recorded. -/
theorem perform_fault (poll : ScriptedPoll) (request : ScriptedCall) :
    (poll.perform request).1.driver.fault =
      poll.driver.fault.or (poll.produces request) := by
  have mapped :=
    perform_faultedBy poll.driver.fault poll.unfaulted request
  rw [unfaulted_faultedBy] at mapped
  rw [mapped]
  rfl

/-! ## Runs -/

theorem withCapacity_lockstep
    {nextPollId : UInt64} {capacity : Nat} {allocated : Bool}
    {steps : List MutationStep} {start : ScriptedPoll}
    (created :
      withCapacity nextPollId capacity allocated steps = .ok start) :
    Lockstep start.registrations start.driver.model ∧
      start.driver.fault = none := by
  unfold withCapacity at created
  split at created
  · split at created
    · cases created
    · rename_i positive _ table made
      cases created
      refine ⟨⟨RegistrationTable.new_wellFormed made, ?_, ?_⟩, rfl⟩
      · intro id held present
        cases present
      · intro id
        rw [RegistrationTable.new_lookup made]
        exact Tracks.unissued
  · cases created

end ScriptedPoll

/-- What happens to a scripted poller: a call with its reply, or another
poller moving the shared counter. -/
inductive ScriptedHappening where
  | performed (request : ScriptedCall) (reply : ScriptedReply)
  | elsewhere (nextPollId : UInt64)

namespace ScriptedPoll

/-- One happening of a scripted poller. -/
inductive Step : ScriptedPoll → ScriptedHappening → ScriptedPoll → Prop
  | performed {before after : ScriptedPoll} {request : ScriptedCall}
      {reply : ScriptedReply} :
      before.perform request = (after, reply) →
      Step before (.performed request reply) after
  | elsewhere {before : ScriptedPoll} (nextPollId : UInt64) :
      Step before (.elsewhere nextPollId) { before with nextPollId }

/-- The lock-step, and no lost registration among the recorded faults. -/
structure Sound (poll : ScriptedPoll) : Prop where
  lockstep : Lockstep poll.registrations poll.driver.model
  fault : ∀ error, poll.driver.fault = some error → error.lost = false

theorem Sound.step
    {before after : ScriptedPoll} {happening : ScriptedHappening}
    (sound : Sound before) (step : Step before happening after) :
    Sound after := by
  cases step with
  | @performed _ request reply performed =>
      obtain ⟨lockstep, raised, fault, kept⟩ :=
        perform_lockstep request sound.lockstep
      rw [performed] at lockstep fault
      refine ⟨lockstep, fun error recorded => ?_⟩
      rw [fault, Option.or_eq_some_iff] at recorded
      rcases recorded with earlier | ⟨_, now⟩
      · exact sound.fault error earlier
      · exact kept error now
  | elsewhere nextPollId => exact ⟨sound.lockstep, sound.fault⟩

theorem Sound.produces
    {poll : ScriptedPoll} (sound : Sound poll) (request : ScriptedCall)
    {error : ScriptError} (raised : poll.produces request = some error) :
    error.lost = false := by
  have lockstep :
      Lockstep poll.unfaulted.registrations
        poll.unfaulted.driver.model := sound.lockstep
  obtain ⟨_, produced, fault, kept⟩ := perform_lockstep request lockstep
  have same : produced = some error := by
    rw [← raised, ScriptedPoll.produces, fault]
    rfl
  exact kept error same

end ScriptedPoll

namespace Entry

theorem scripted_registered
    (entry : Entry) (interest : Interest) (mode : Mode) (arm : ArmState) :
    entry.scripted = .registered interest mode arm ↔
      entry.interest = interest ∧ entry.mode = mode ∧
        entry.state = .registered arm := by
  cases state : entry.state <;> simp [scripted, state]

theorem scripted_unknown (entry : Entry) :
    entry.scripted = .unknown ↔ entry.state = .uncertain := by
  cases state : entry.state <;> simp [scripted, state]

theorem scripted_ne_absent (entry : Entry) :
    entry.scripted ≠ .absent := by
  cases state : entry.state <;> simp [scripted, state]

end Entry

namespace ScriptedPoll

/-- After every run over every script, the table entry of an identity and its
backend state agree, and no call loses a registration. -/
theorem reachable_lockstep
    {nextPollId : UInt64} {capacity : Nat} {allocated : Bool}
    {steps : List MutationStep} {start finish : ScriptedPoll}
    {labels : List ScriptedHappening}
    (created :
      withCapacity nextPollId capacity allocated steps = .ok start)
    (run : Execution Step start labels finish) :
    (∀ id,
      (∀ interest mode arm,
        (∃ entry, finish.registrations.entry id = .ok entry ∧
            entry.interest = interest ∧ entry.mode = mode ∧
            entry.state = .registered arm) ↔
          finish.backendState id = .registered interest mode arm) ∧
      ((∃ entry, finish.registrations.entry id = .ok entry ∧
            entry.state = .uncertain) ↔
          finish.backendState id = .unknown) ∧
      (finish.registrations.entry id = .error (.stale id) ↔
          finish.backendState id = .absent)) ∧
    (∀ id,
      finish.driver.fault ≠ some (.unknownRegistration id) ∧
        finish.driver.fault ≠ some (.descriptorChanged id)) ∧
    ∀ request id,
      finish.produces request ≠ some (.unknownRegistration id) ∧
        finish.produces request ≠ some (.descriptorChanged id) := by
  obtain ⟨lockstep, quiet⟩ := withCapacity_lockstep created
  have sound : Sound finish :=
    run.invariant Sound (fun _ _ _ sound step => sound.step step)
      ⟨lockstep, fun error recorded => by
        rw [quiet] at recorded
        cases recorded⟩
  refine ⟨fun id => ?_, fun id => ⟨fun recorded => ?_,
    fun recorded => ?_⟩, fun request id => ⟨fun raised => ?_,
    fun raised => ?_⟩⟩
  · rw [backendState, ScriptedDriver.state, sound.lockstep.state id,
      RegistrationTable.entry_eq]
    cases finish.registrations.lookup id with
    | none => simp [okOr]
    | some entry =>
        simp [okOr, Entry.scripted_registered, Entry.scripted_unknown,
          Entry.scripted_ne_absent]
  · cases sound.fault _ recorded
  · cases sound.fault _ recorded
  · cases sound.produces request raised
  · cases sound.produces request raised

/-- A poller of capacity one whose script holds a single registration. -/
def shortScript : ScriptedPoll :=
  { nextPollId := 1
    owner := PollOwner.unassigned
    registrations := RegistrationTable.oneSlotTable
    driver := ScriptedDriver.new [.register .success] }

def shortHandle : Registration := ⟨⟨1⟩, RegistrationTable.oneSlotId⟩

/-- The poller after the planned registration. -/
def shortRegistered : ScriptedPoll :=
  (shortScript.perform
    (.mutation
      (.register (.ok firstDescriptor) ⟨7⟩ .readable .oneShot))).1

/-- The poller after a modification that the script did not plan. -/
def shortExhausted : ScriptedPoll :=
  (shortRegistered.perform
    (.mutation (.modify shortHandle .writable .level))).1

/-- A run that exhausts its script ends uncertain on both sides. -/
theorem shortScript_lockstep :
    withCapacity 1 1 true [.register .success] = .ok shortScript ∧
      (∃ labels, Execution Step shortScript labels shortExhausted) ∧
      shortExhausted.driver.fault = some (.exhausted .modify) ∧
      shortExhausted.backendState shortHandle.id = .unknown ∧
      ∃ entry,
        shortExhausted.registrations.entry shortHandle.id = .ok entry ∧
          entry.state = .uncertain := by
  have created :
      withCapacity 1 1 true [.register .success] = .ok shortScript := rfl
  have run : Execution Step shortScript
      [.performed
          (.mutation
            (.register (.ok firstDescriptor) ⟨7⟩ .readable .oneShot)) _,
        .performed
          (.mutation (.modify shortHandle .writable .level)) _]
      shortExhausted :=
    .cons (.performed rfl) (.cons (.performed rfl) (.refl _))
  have unknown : shortExhausted.backendState shortHandle.id = .unknown :=
    by rfl
  exact ⟨created, ⟨_, run⟩, by rfl, unknown,
    ((reachable_lockstep created run).1 shortHandle.id).2.1.mpr unknown⟩

end ScriptedPoll

end Zio
