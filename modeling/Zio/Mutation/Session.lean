import Zio.Table.Basic

/-!
# Portable registration state transitions

The mutation state machine over an arbitrary driver.  A driver is a stateful
oracle: every call may change its state and answers with success or with a
failure classified by a commit status.  The process-wide poller counter is part
of the state, since the first registration of a poller draws its identity from
it.
-/

namespace Zio

/-! ## Poller authority -/

/-- `u64::MAX`. -/
def u64Max : UInt64 := 0xFFFFFFFFFFFFFFFF

/-- Lazily assigned poller authority; zero means unassigned. -/
structure PollOwner where
  raw : UInt64
deriving DecidableEq, Repr

namespace PollOwner

def unassigned : PollOwner := ⟨0⟩

def current (self : PollOwner) : Option PollId :=
  if self.raw = 0 then none else some ⟨self.raw⟩

/-- Draw an identity from the shared counter in one atomic update. -/
def assignFrom (self : PollOwner) (next : UInt64) :
    PollOwner × UInt64 × Except Error PollId :=
  if next = u64Max then
    (self, next, .error .invariant)
  else if next = 0 then
    (self, next + 1, .error .invariant)
  else
    (⟨next⟩, next + 1, .ok ⟨next⟩)

def getOrAssign (self : PollOwner) (next : UInt64) :
    PollOwner × UInt64 × Except Error PollId :=
  match self.current with
  | some owner => (self, next, .ok owner)
  | none => self.assignFrom next

end PollOwner

/-- Copyable handle for one exact generation owned by one poller. -/
structure Registration where
  owner : PollId
  encodedId : EncodedRegistrationId
deriving DecidableEq, Repr

def Registration.id (self : Registration) : RegistrationId :=
  self.encodedId.id

/-- Registration failure that preserves any possibly installed handle. -/
structure RegisterError where
  error : Error
  registration : Option Registration
deriving DecidableEq, Repr

/-- Delete failure that retains the exact handle. -/
structure DeleteError where
  error : Error
  registration : Registration
deriving DecidableEq, Repr

def requireOwner (owner : Option PollId) (registration : Registration) :
    Except Error Unit :=
  if owner = some registration.owner then
    .ok ()
  else
    .error (.wrongPoller registration.id)

def registrationState
    (owner : Option PollId) (registrations : RegistrationTable)
    (registration : Registration) : Except Error RegistrationState :=
  match requireOwner owner registration with
  | .error error => .error error
  | .ok () => registrations.state registration.id

/-! ## Drivers -/

structure RegisterRequest where
  descriptor : Fd
  registration : RegistrationId
  key : Key
  interest : Interest
  mode : Mode
deriving DecidableEq, Repr

/-- One modification request with complete prior state. -/
structure ModifyRequest where
  descriptor : Fd
  registration : RegistrationId
  previousInterest : Interest
  previousMode : Mode
  previousArm : ArmState
  desiredInterest : Interest
  desiredMode : Mode
deriving DecidableEq, Repr

structure DeleteRequest where
  descriptor : Fd
  registration : RegistrationId
  interest : Interest
  state : RegistrationState
deriving DecidableEq, Repr

/-- What a driver answers. -/
abbrev Answer := Except MutationFailure Unit

/-- The mutation mechanism behind the portable state machine. -/
structure MutationDriver (σ : Type*) where
  register : σ → RegisterRequest → σ × Answer
  modify : σ → ModifyRequest → σ × Answer
  delete : σ → DeleteRequest → σ × Answer

/-- Borrowed mutation state with the process-wide poller counter. -/
structure MutationSession (σ : Type*) where
  nextPollId : UInt64
  owner : PollOwner
  registrations : RegistrationTable
  driver : σ

def mutationError (operation : Operation) (failure : MutationFailure) :
    Error :=
  .mutation
    { operation, commit := failure.commit, source := failure.source }

namespace MutationSession

variable {σ : Type*}

/-! ## Register -/

def registerStateFailure (error : Error) :
    Except RegisterError Registration :=
  .error { error, registration := none }

def settleRegisterFailure
    (self : MutationSession σ) (reservation : SlotLease)
    (registration : Registration) (failure : MutationFailure) :
    MutationSession σ × Except RegisterError Registration :=
  let error := mutationError .register failure
  match failure.commit with
  | .notApplied =>
      let (registrations, retired) := reservation.retire
      let self := { self with registrations }
      match retired with
      | .error state =>
          (self, .error { error := state, registration := none })
      | .ok () => (self, .error { error, registration := none })
  | .applied =>
      ({ self with registrations := reservation.keep },
        .error { error, registration := some registration })
  | .unknown =>
      let (registrations, marked) := reservation.markUncertain
      let self := { self with registrations }
      match marked with
      | .error state =>
          (self,
            .error { error := state, registration := some registration })
      | .ok () =>
          (self, .error { error, registration := some registration })

/-- The common end of both registration paths. -/
def settleReservation
    (self : MutationSession σ) (registration : Registration)
    (reserved :
      Except (RegistrationTable × Error) (SlotLease × σ × Answer)) :
    MutationSession σ × Except RegisterError Registration :=
  match reserved with
  | .error (registrations, error) =>
      ({ self with registrations }, registerStateFailure error)
  | .ok (reservation, driver, native) =>
      let self := { self with driver }
      match native with
      | .ok () =>
          ({ self with registrations := reservation.keep },
            .ok registration)
      | .error failure =>
          self.settleRegisterFailure reservation registration failure

def registerReused
    (backend : MutationDriver σ) (self : MutationSession σ)
    (descriptor : Descriptor) (key : Key) (interest : Interest)
    (mode : Mode) : MutationSession σ × Except RegisterError Registration :=
  match self.registrations.reusedPermit with
  | .error error => (self, registerStateFailure error)
  | .ok permit =>
      let (owner, nextPollId, assigned) :=
        self.owner.getOrAssign self.nextPollId
      let self := { self with owner, nextPollId }
      match assigned with
      | .error error => (self, registerStateFailure error)
      | .ok owner =>
          self.settleReservation { owner, encodedId := permit.id }
            (permit.reserveWith descriptor key interest mode
              fun descriptor registration =>
                backend.register self.driver
                  { descriptor, registration, key, interest, mode })

def registerFresh
    (backend : MutationDriver σ) (self : MutationSession σ)
    (descriptor : Descriptor) (key : Key) (interest : Interest)
    (mode : Mode) : MutationSession σ × Except RegisterError Registration :=
  match self.registrations.freshPermit with
  | .error error => (self, registerStateFailure error)
  | .ok permit =>
      let (owner, nextPollId, assigned) :=
        self.owner.getOrAssign self.nextPollId
      let self := { self with owner, nextPollId }
      match assigned with
      | .error error => (self, registerStateFailure error)
      | .ok owner =>
          self.settleReservation { owner, encodedId := permit.id }
            (permit.reserveWith descriptor key interest mode
              fun descriptor registration =>
                backend.register self.driver
                  { descriptor, registration, key, interest, mode })

def registerDescriptor
    (backend : MutationDriver σ) (self : MutationSession σ)
    (descriptor : Descriptor) (key : Key) (interest : Interest)
    (mode : Mode) : MutationSession σ × Except RegisterError Registration :=
  if self.registrations.hasReusableSlot then
    registerReused backend self descriptor key interest mode
  else
    registerFresh backend self descriptor key interest mode

def validateRegistrationInterest (interest : Interest) :
    Except RegisterError Unit :=
  if interest.isEmpty then
    .error { error := .invalidInterest, registration := none }
  else
    .ok ()

/-- Register an owned duplicate.  `duplicate` is the operating system's answer
to `try_clone_to_owned`. -/
def register
    (backend : MutationDriver σ) (self : MutationSession σ)
    (duplicate : Except IoError Fd) (key : Key) (interest : Interest)
    (mode : Mode) : MutationSession σ × Except RegisterError Registration :=
  match validateRegistrationInterest interest with
  | .error error => (self, .error error)
  | .ok () =>
      match duplicate with
      | .error source =>
          (self,
            .error
              { error := .io .register source, registration := none })
      | .ok descriptor =>
          registerDescriptor backend self (Descriptor.owned descriptor)
            key interest mode

/-- Register the caller's own descriptor without duplicating it. -/
def registerBorrowed
    (backend : MutationDriver σ) (self : MutationSession σ)
    (source : Fd) (key : Key) (interest : Interest) (mode : Mode) :
    MutationSession σ × Except RegisterError Registration :=
  match validateRegistrationInterest interest with
  | .error error => (self, .error error)
  | .ok () =>
      registerDescriptor backend self (Descriptor.borrowed source)
        key interest mode

/-! ## Modify and delete -/

/-- The table after a failed modification with a proven commit status. -/
def settleModifyFailure
    (registrations : RegistrationTable) (id : RegistrationId)
    (interest : Interest) (mode : Mode) (commit : CommitStatus) :
    RegistrationTable × Except Error Unit :=
  match commit with
  | .notApplied => (registrations, .ok ())
  | .applied => registrations.commitModify id interest mode
  | .unknown => registrations.markUncertain id

/-- The table after a failed deletion with a proven commit status. -/
def settleDeleteFailure (prepared : SlotLease) (commit : CommitStatus) :
    RegistrationTable × Except Error Unit :=
  match commit with
  | .notApplied => (prepared.keep, .ok ())
  | .applied => prepared.retire
  | .unknown => prepared.markUncertain

def modify
    (backend : MutationDriver σ) (self : MutationSession σ)
    (registration : Registration) (interest : Interest) (mode : Mode) :
    MutationSession σ × Except Error Unit :=
  match requireOwner self.owner.current registration with
  | .error error => (self, .error error)
  | .ok () =>
      if interest.isEmpty then
        (self, .error .invalidInterest)
      else
        match self.registrations.binding registration.id false with
        | .error error => (self, .error error)
        | .ok binding =>
            match binding.state with
            | .uncertain => (self, .error (.uncertain registration.id))
            | .registered arm =>
                let (driver, result) :=
                  backend.modify self.driver
                    { descriptor := binding.descriptor
                      registration := registration.id
                      previousInterest := binding.interest
                      previousMode := binding.mode
                      previousArm := arm
                      desiredInterest := interest
                      desiredMode := mode }
                let self := { self with driver }
                match result with
                | .error failure =>
                    let (registrations, settled) :=
                      settleModifyFailure self.registrations
                        registration.id interest mode failure.commit
                    let self := { self with registrations }
                    match settled with
                    | .error error => (self, .error error)
                    | .ok () =>
                        (self, .error (mutationError .modify failure))
                | .ok () =>
                    let (registrations, committed) :=
                      self.registrations.commitModify registration.id
                        interest mode
                    ({ self with registrations }, committed)

def delete
    (backend : MutationDriver σ) (self : MutationSession σ)
    (registration : Registration) :
    MutationSession σ × Except DeleteError Unit :=
  match requireOwner self.owner.current registration with
  | .error error => (self, .error { error, registration })
  | .ok () =>
      match self.registrations.prepareRegistrationRetire
          registration.encodedId true with
      | .error error => (self, .error { error, registration })
      | .ok prepared =>
          match prepared.binding with
          | .error error => (self, .error { error, registration })
          | .ok binding =>
              let (driver, result) :=
                backend.delete self.driver
                  { descriptor := binding.descriptor
                    registration := registration.id
                    interest := binding.interest
                    state := binding.state }
              let self := { self with driver }
              match result with
              | .error failure =>
                  let (registrations, settled) :=
                    settleDeleteFailure prepared failure.commit
                  let self := { self with registrations }
                  match settled with
                  | .error error => (self, .error { error, registration })
                  | .ok () =>
                      (self,
                        .error
                          { error := mutationError .delete failure
                            registration })
              | .ok () =>
                  let (registrations, retired) := prepared.retire
                  let self := { self with registrations }
                  match retired with
                  | .error error => (self, .error { error, registration })
                  | .ok () => (self, .ok ())

end MutationSession

/-! ## Calls -/

/-- One call on a poller. -/
inductive Call where
  | register (duplicate : Except IoError Fd) (key : Key)
      (interest : Interest) (mode : Mode)
  | registerBorrowed (source : Fd) (key : Key) (interest : Interest)
      (mode : Mode)
  | modify (registration : Registration) (interest : Interest)
      (mode : Mode)
  | delete (registration : Registration)
  | registrationState (registration : Registration)

/-- What a call returns. -/
inductive Reply where
  | register (result : Except RegisterError Registration)
  | modify (result : Except Error Unit)
  | delete (result : Except DeleteError Unit)
  | registrationState (result : Except Error RegistrationState)

namespace MutationSession

variable {σ : Type*}

/-- Perform one call. -/
def call (backend : MutationDriver σ) (self : MutationSession σ) :
    Call → MutationSession σ × Reply
  | .register duplicate key interest mode =>
      let (next, result) :=
        register backend self duplicate key interest mode
      (next, .register result)
  | .registerBorrowed source key interest mode =>
      let (next, result) :=
        registerBorrowed backend self source key interest mode
      (next, .register result)
  | .modify registration interest mode =>
      let (next, result) := modify backend self registration interest mode
      (next, .modify result)
  | .delete registration =>
      let (next, result) := delete backend self registration
      (next, .delete result)
  | .registrationState registration =>
      (self,
        .registrationState
          (Zio.registrationState self.owner.current self.registrations
            registration))

end MutationSession

end Zio
