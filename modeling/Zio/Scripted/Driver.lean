import Zio.Library.Keyed
import Zio.Mutation.Session

/-!
# The scripted mutation driver

The test-support backend: a finite script of planned outcomes, the calls that
were observed, and a descriptor-private model of what the backend holds for
every registration generation.  A call without a planned step, or with a step
for another operation, leaves the backend state unknown and records a fault;
only the first fault is kept.
-/

namespace Zio

/-! ## Script vocabulary -/

/-- Planned result of one scripted backend mutation. -/
inductive MutationOutcome where
  | success
  | failure (commit : CommitStatus) (kind : IoErrorKind)
deriving DecidableEq, Repr

/-- One operation-specific scripted backend result. -/
inductive MutationStep where
  | register (outcome : MutationOutcome)
  | modify (outcome : MutationOutcome)
  | delete (outcome : MutationOutcome)
deriving DecidableEq, Repr

namespace MutationStep

def operation : MutationStep → Operation
  | .register _ => .register
  | .modify _ => .modify
  | .delete _ => .delete

def outcome : MutationStep → MutationOutcome
  | .register outcome => outcome
  | .modify outcome => outcome
  | .delete outcome => outcome

end MutationStep

/-- One normalized call observed by the scripted backend. -/
inductive MutationCall where
  | register (registration : RegistrationId) (key : Key)
      (interest : Interest) (mode : Mode)
  | modify (registration : RegistrationId)
      (previousInterest : Interest) (previousMode : Mode)
      (previousArm : ArmState) (desiredInterest : Interest)
      (desiredMode : Mode)
  | delete (registration : RegistrationId) (interest : Interest)
      (state : RegistrationState)
  | establishDisarmed (registration : RegistrationId)
deriving DecidableEq, Repr

/-- Normalized native state retained by the scripted backend. -/
inductive ScriptedBackendState where
  | absent
  | registered (interest : Interest) (mode : Mode) (arm : ArmState)
  | unknown
deriving DecidableEq, Repr

/-- Structural failure in a scripted mutation scenario. -/
inductive ScriptError where
  | exhausted (operation : Operation)
  | mismatch (expected actual : Operation)
  | remaining (count : Nat)
  | descriptorChanged (registration : RegistrationId)
  | unknownRegistration (registration : RegistrationId)
  | cannotDisarm (registration : RegistrationId)
deriving DecidableEq, Repr

/-- The derived `Debug` text of an operation. -/
def Operation.debug : Operation → String
  | .createPoller => "CreatePoller"
  | .createWaker => "CreateWaker"
  | .registerWaker => "RegisterWaker"
  | .register => "Register"
  | .modify => "Modify"
  | .delete => "Delete"
  | .wait => "Wait"
  | .triggerWake => "TriggerWake"
  | .disarm => "Disarm"
  | .unsupportedPlatform => "UnsupportedPlatform"

/-- The derived `Debug` text of an identity. -/
def RegistrationId.debug (id : RegistrationId) : String :=
  "RegistrationId(" ++ toString id.raw.toNat ++ ")"

namespace ScriptError

/-- The derived `Debug` text. -/
def debug : ScriptError → String
  | .exhausted operation =>
      "Exhausted \x7b operation: " ++ operation.debug ++ " \x7d"
  | .mismatch expected actual =>
      "Mismatch \x7b expected: " ++ expected.debug ++ ", actual: " ++
        actual.debug ++ " \x7d"
  | .remaining count =>
      "Remaining \x7b count: " ++ toString count ++ " \x7d"
  | .descriptorChanged registration =>
      "DescriptorChanged \x7b registration: " ++ registration.debug ++
        " \x7d"
  | .unknownRegistration registration =>
      "UnknownRegistration \x7b registration: " ++ registration.debug ++
        " \x7d"
  | .cannotDisarm registration =>
      "CannotDisarm \x7b registration: " ++ registration.debug ++ " \x7d"

/-- The `Display` text. -/
def text (error : ScriptError) : String :=
  "scripted mutation failure: " ++ error.debug

end ScriptError

/-! ## Backend model -/

structure BackendEntry where
  registration : RegistrationId
  descriptor : RawFd
  state : ScriptedBackendState
deriving DecidableEq, Repr

structure BackendModel where
  entries : List BackendEntry
deriving DecidableEq, Repr

namespace BackendModel

def entryIndex (self : BackendModel) (registration : RegistrationId) :
    Option Nat :=
  Keyed.position BackendEntry.registration self.entries registration

/-- The entry at the index that `entryIndex` finds. -/
def entryOf (self : BackendModel) (registration : RegistrationId) :
    Option BackendEntry :=
  (self.entryIndex registration).bind fun index => self.entries[index]?

def state (self : BackendModel) (registration : RegistrationId) :
    ScriptedBackendState :=
  match self.entryOf registration with
  | none => .absent
  | some entry => entry.state

def beginRegister
    (self : BackendModel) (registration : RegistrationId)
    (descriptor : RawFd) : BackendModel :=
  { entries :=
      self.entries ++ [{ registration, descriptor, state := .absent }] }

/-- Write the state of the entry at an index. -/
def writeState
    (self : BackendModel) (index : Nat) (state : ScriptedBackendState) :
    BackendModel :=
  { entries :=
      self.entries.modify index fun entry => { entry with state } }

def setState
    (self : BackendModel) (registration : RegistrationId)
    (state : ScriptedBackendState) : BackendModel :=
  match self.entryIndex registration with
  | some index => self.writeState index state
  | none => self

def completeRegister
    (self : BackendModel) (registration : RegistrationId)
    (interest : Interest) (mode : Mode) (outcome : MutationOutcome) :
    BackendModel :=
  let state : ScriptedBackendState :=
    match outcome with
    | .success => .registered interest mode .armed
    | .failure .applied _ => .registered interest mode .armed
    | .failure .unknown _ => .unknown
    | .failure .notApplied _ => .absent
  self.setState registration state

def validate
    (self : BackendModel) (registration : RegistrationId)
    (descriptor : RawFd) : Except ScriptError Unit :=
  match self.entryOf registration with
  | none => .error (.unknownRegistration registration)
  | some entry =>
      if entry.descriptor = descriptor then
        .ok ()
      else
        .error (.descriptorChanged registration)

def completeModify
    (self : BackendModel) (registration : RegistrationId)
    (interest : Interest) (mode : Mode) (outcome : MutationOutcome) :
    BackendModel :=
  match outcome with
  | .success =>
      self.setState registration (.registered interest mode .armed)
  | .failure .applied _ =>
      self.setState registration (.registered interest mode .armed)
  | .failure .unknown _ => self.setState registration .unknown
  | .failure .notApplied _ => self

def completeDelete
    (self : BackendModel) (registration : RegistrationId)
    (outcome : MutationOutcome) : BackendModel :=
  match outcome with
  | .success => self.setState registration .absent
  | .failure .applied _ => self.setState registration .absent
  | .failure .unknown _ => self.setState registration .unknown
  | .failure .notApplied _ => self

def establishDisarmed
    (self : BackendModel) (registration : RegistrationId)
    (descriptor : RawFd) : Except ScriptError BackendModel :=
  match self.validate registration descriptor with
  | .error error => .error error
  | .ok () =>
      match self.state registration with
      | .registered interest .oneShot _ =>
          .ok
            (self.setState registration
              (.registered interest .oneShot .disarmed))
      | _ => .error (.cannotDisarm registration)

def markUnknown
    (self : BackendModel) (registration : RegistrationId)
    (descriptor : RawFd) : BackendModel :=
  match self.entryIndex registration with
  | some index => self.writeState index .unknown
  | none =>
      { entries :=
          self.entries ++ [{ registration, descriptor, state := .unknown }] }

end BackendModel

/-! ## Driver -/

/-- Stateful scripted driver kept behind the test-support feature. -/
structure ScriptedDriver where
  steps : List MutationStep
  calls : List MutationCall
  model : BackendModel
  fault : Option ScriptError
deriving DecidableEq, Repr

namespace ScriptedDriver

def new (steps : List MutationStep) : ScriptedDriver :=
  { steps, calls := [], model := { entries := [] }, fault := none }

def state (self : ScriptedDriver) (registration : RegistrationId) :
    ScriptedBackendState :=
  self.model.state registration

/-- Record a fault unless one is recorded already. -/
def recordFault (self : ScriptedDriver) (error : ScriptError) :
    ScriptedDriver :=
  { self with fault := self.fault.or (some error) }

def pushCall (self : ScriptedDriver) (call : MutationCall) :
    ScriptedDriver :=
  { self with calls := self.calls ++ [call] }

def establishDisarmed
    (self : ScriptedDriver) (registration : RegistrationId)
    (descriptor : RawFd) : ScriptedDriver × Except ScriptError Unit :=
  match self.model.establishDisarmed registration descriptor with
  | .error error => (self.recordFault error, .error error)
  | .ok model =>
      (({ self with model } : ScriptedDriver).pushCall
        (.establishDisarmed registration), .ok ())

def finish (self : ScriptedDriver) : Except ScriptError Unit :=
  match self.fault with
  | some fault => .error fault
  | none =>
      if self.steps.isEmpty then
        .ok ()
      else
        .error (.remaining self.steps.length)

def structuralFailure (self : ScriptedDriver) (error : ScriptError) :
    ScriptedDriver × MutationFailure :=
  (self.recordFault error,
    { commit := .unknown, source := .custom .invalidData error.text })

def next (self : ScriptedDriver) (actual : Operation) :
    ScriptedDriver × Except MutationFailure MutationOutcome :=
  match self.steps with
  | [] =>
      let (driver, failure) := self.structuralFailure (.exhausted actual)
      (driver, .error failure)
  | step :: steps =>
      let self := { self with steps }
      let expected := step.operation
      if expected ≠ actual then
        let (driver, failure) :=
          self.structuralFailure (.mismatch expected actual)
        (driver, .error failure)
      else
        (self, .ok step.outcome)

def outcomeResult : MutationOutcome → Answer
  | .success => .ok ()
  | .failure commit kind =>
      .error
        { commit, source := .custom kind "scripted mutation failure" }

def register (self : ScriptedDriver) (request : RegisterRequest) :
    ScriptedDriver × Answer :=
  let self :=
    self.pushCall
      (.register request.registration request.key request.interest
        request.mode)
  let descriptor := request.descriptor.raw
  let self :=
    { self with
      model := self.model.beginRegister request.registration descriptor }
  match self.next .register with
  | (self, .error failure) =>
      ({ self with
          model :=
            self.model.markUnknown request.registration descriptor },
        .error failure)
  | (self, .ok outcome) =>
      ({ self with
          model :=
            self.model.completeRegister request.registration
              request.interest request.mode outcome },
        outcomeResult outcome)

def modify (self : ScriptedDriver) (request : ModifyRequest) :
    ScriptedDriver × Answer :=
  let self :=
    self.pushCall
      (.modify request.registration request.previousInterest
        request.previousMode request.previousArm request.desiredInterest
        request.desiredMode)
  let descriptor := request.descriptor.raw
  match self.model.validate request.registration descriptor with
  | .error error =>
      let self :=
        { self with
          model :=
            self.model.markUnknown request.registration descriptor }
      let (self, failure) := self.structuralFailure error
      (self, .error failure)
  | .ok () =>
      match self.next .modify with
      | (self, .error failure) =>
          ({ self with
              model :=
                self.model.markUnknown request.registration descriptor },
            .error failure)
      | (self, .ok outcome) =>
          ({ self with
              model :=
                self.model.completeModify request.registration
                  request.desiredInterest request.desiredMode outcome },
            outcomeResult outcome)

def delete (self : ScriptedDriver) (request : DeleteRequest) :
    ScriptedDriver × Answer :=
  let self :=
    self.pushCall
      (.delete request.registration request.interest request.state)
  let descriptor := request.descriptor.raw
  match self.model.validate request.registration descriptor with
  | .error error =>
      let self :=
        { self with
          model :=
            self.model.markUnknown request.registration descriptor }
      let (self, failure) := self.structuralFailure error
      (self, .error failure)
  | .ok () =>
      match self.next .delete with
      | (self, .error failure) =>
          ({ self with
              model :=
                self.model.markUnknown request.registration descriptor },
            .error failure)
      | (self, .ok outcome) =>
          ({ self with
              model :=
                self.model.completeDelete request.registration outcome },
            outcomeResult outcome)

end ScriptedDriver

/-- The scripted driver behind the portable state machine. -/
def scriptedBackend : MutationDriver ScriptedDriver where
  register := ScriptedDriver.register
  modify := ScriptedDriver.modify
  delete := ScriptedDriver.delete

/-! ## Poller -/

/-- Concrete mutation-only poller driven by a finite backend script, with the
process-wide counter. -/
abbrev ScriptedPoll := MutationSession ScriptedDriver

namespace ScriptedPoll

/-- A scripted poller with a fixed registration capacity, in a process whose
counter stands at `nextPollId`. -/
def withCapacity
    (nextPollId : UInt64) (registrations : Nat) (allocated : Bool)
    (steps : List MutationStep) : Except Error ScriptedPoll :=
  if positive : 0 < registrations then
    match RegistrationTable.new ⟨registrations, positive⟩ allocated with
    | .error error => .error error
    | .ok table =>
        .ok
          { nextPollId
            owner := PollOwner.unassigned
            registrations := table
            driver := ScriptedDriver.new steps }
  else
    .error (.capacity registrations)

/-- Establish a delivered, disarmed one-shot state in both models. -/
def establishDisarmed (self : ScriptedPoll) (registration : Registration) :
    ScriptedPoll × Except Error Unit :=
  match registrationState self.owner.current self.registrations
      registration with
  | .error error => (self, .error error)
  | .ok _ =>
      match self.registrations.binding registration.id false with
      | .error error => (self, .error error)
      | .ok binding =>
          if binding.mode ≠ .oneShot then
            (self, .error .invariant)
          else
            let descriptor := binding.descriptor.raw
            match self.driver.establishDisarmed registration.id
                descriptor with
            | (driver, .error _) =>
                ({ self with driver }, .error .invariant)
            | (driver, .ok ()) =>
                let (registrations, disarmed) :=
                  self.registrations.applyDisarm registration.id .applied
                ({ self with driver, registrations },
                  disarmed.map fun _ => ())

/-- Modeled backend state for an exact registration generation. -/
def backendState (self : ScriptedPoll) (registration : RegistrationId) :
    ScriptedBackendState :=
  self.driver.state registration

/-- Prove that the script matched and every planned step was consumed. -/
def finish (self : ScriptedPoll) : Except ScriptError Unit :=
  self.driver.finish

end ScriptedPoll

/-- One call on a scripted poller. -/
inductive ScriptedCall where
  | mutation (request : Call)
  | establishDisarmed (registration : Registration)

/-- What a call on a scripted poller returns. -/
inductive ScriptedReply where
  | mutation (reply : Reply)
  | establishDisarmed (result : Except Error Unit)

/-- Perform one call on a scripted poller. -/
def ScriptedPoll.perform (self : ScriptedPoll) :
    ScriptedCall → ScriptedPoll × ScriptedReply
  | .mutation request =>
      let (next, reply) := MutationSession.call scriptedBackend self request
      (next, .mutation reply)
  | .establishDisarmed registration =>
      let (next, result) := self.establishDisarmed registration
      (next, .establishDisarmed result)

end Zio
