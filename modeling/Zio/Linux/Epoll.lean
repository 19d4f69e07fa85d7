import Zio.Poll.Basic

/-!
# Epoll waits

The caller's event arena doubles as native storage: `epoll_wait` writes its
records into the tail and the translation compacts them forward.  A batch is
stamped with the storage that its last successful wait filled.  The kernel's
answer to a wait is an input.
-/

namespace Zio

/-! ## Flags -/

def epollIn : UInt32 := 0x1
def epollPri : UInt32 := 0x2
def epollOut : UInt32 := 0x4
def epollErr : UInt32 := 0x8
def epollHup : UInt32 := 0x10
def epollRdHup : UInt32 := 0x2000
def epollOneShot : UInt32 := 0x40000000

def epollFlags (interest : Interest) (mode : Mode) : UInt32 :=
  let flags := epollRdHup
  let flags := if interest.isReadable then flags ||| epollIn else flags
  let flags := if interest.isWritable then flags ||| epollOut else flags
  if mode = .oneShot then flags ||| epollOneShot else flags

def fromEpollFlags (flags : UInt32) : Readiness :=
  let contains := fun (flag : UInt32) => flags &&& flag != 0
  let readiness := Readiness.empty
  let readiness :=
    if contains epollIn || contains epollPri then
      readiness.union Readiness.readable
    else
      readiness
  let readiness :=
    if contains epollOut then readiness.union Readiness.writable
    else readiness
  let hungUp := contains epollHup
  let errored := contains epollErr
  let readiness :=
    if contains epollRdHup || hungUp then
      readiness.union Readiness.readClosed
    else
      readiness
  let readiness :=
    if hungUp then readiness.union Readiness.writeClosed else readiness
  if errored then readiness.union Readiness.error else readiness

/-! ## Batches -/

/-- The sizes that the compiler gives the portable and the native record. -/
structure EventLayout where
  eventSize : Nat
  eventAlign : Nat
  nativeSize : Nat
  nativeAlign : Nat
  needsDrop : Bool
deriving DecidableEq, Repr

/-- The record sizes of a packed target. -/
def packedLayout : EventLayout :=
  { eventSize := 16, eventAlign := 8, nativeSize := 12, nativeAlign := 1
    needsDrop := false }

/-- Fixed-capacity state for raw observations staged in caller event storage.
The storage address is zero while no wait is stamped. -/
structure EpollBatch where
  maxEvents : Nat
  capacity : Nat
  nativeOffset : Nat
  observed : Nat
  storageAddress : Nat
deriving DecidableEq, Repr

namespace EpollBatch

def new (layout : EventLayout) (capacity : Nat) : Option EpollBatch :=
  if ¬ fitsI32 capacity ∨ capacity = 0 then
    none
  else if layout.eventSize < layout.nativeSize ∨
      layout.eventAlign < layout.nativeAlign ∨ layout.needsDrop then
    none
  else
    let gap := layout.eventSize - layout.nativeSize
    match usizeCheckedMul capacity gap with
    | none => none
    | some nativeOffset =>
        if nativeOffset % layout.nativeAlign ≠ 0 then
          none
        else
          some
            { maxEvents := capacity
              capacity
              nativeOffset
              observed := 0
              storageAddress := 0 }

def invalidate (self : EpollBatch) : EpollBatch :=
  { self with observed := 0, storageAddress := 0 }

/-- `Epoll::wait`: the kernel's answer is an error or the records that it
wrote. -/
def wait
    (self : EpollBatch) (events : Events)
    (answer : Except IoError (List EpollEvent)) :
    EpollBatch × Events × Except IoError Nat :=
  let self := self.invalidate
  if ¬ events.isEmpty ∨ events.capacity.val < self.capacity then
    (self, events,
      .error
        (.custom .invalidInput
          "epoll event storage is not empty or is undersized"))
  else
    match answer with
    | .error source => (self, events, .error source)
    | .ok written =>
        let observed := written.length
        ({ self with observed, storageAddress := events.address.val },
          { events with native := written }, .ok observed)

variable {σ : Type*}

/-- The forward loop over the staged records.  The classifier resolves a token
and may change its state. -/
def translateFrom
    (classify : σ → UInt64 → σ × Except Error (Option Key)) :
    List EpollEvent → σ → List Delivery → Bool →
      σ × Except Error (List Delivery × Bool)
  | [], state, resources, woke => (state, .ok (resources, woke))
  | raw :: rest, state, resources, woke =>
      if raw.token = 0 then
        translateFrom classify rest state resources true
      else
        match classify state raw.token with
        | (state, .error error) => (state, .error error)
        | (state, .ok none) =>
            translateFrom classify rest state resources woke
        | (state, .ok (some key)) =>
            translateFrom classify rest state
              (resources ++
                [{ event := .resource key (fromEpollFlags raw.events)
                   source := some ⟨raw.token⟩ }])
              woke

/-- The wake event that follows the resource events. -/
def wakeEvent (woke : Bool) (wakeKey : Option Key) : List Delivery :=
  match (if woke then wakeKey else none) with
  | some key => [{ event := .wake key, source := none }]
  | none => []

def translate
    (classify : σ → UInt64 → σ × Except Error (Option Key))
    (self : EpollBatch) (events : Events) (observed : Nat)
    (wakeKey : Option Key) (state : σ) :
    EpollBatch × Events × σ × Except Error Unit :=
  if self.storageAddress = 0 ∨ ¬ events.isEmpty ∨
      events.capacity.val < self.capacity ∨ observed ≠ self.observed ∨
      observed > self.capacity then
    (self.invalidate, events, state, .error .invariant)
  else if events.address.val ≠ self.storageAddress then
    (self.invalidate, events, state, .error .invariant)
  else
    match translateFrom classify (events.native.take observed) state []
        false with
    | (state, .error error) =>
        (self.invalidate, events, state, .error error)
    | (state, .ok (resources, woke)) =>
        (self.invalidate,
          { events with
            deliveries := resources ++ wakeEvent woke wakeKey },
          state, .ok ())

end EpollBatch

/-! ## Waits -/

/-- A poller over epoll; it coalesces nothing. -/
abbrev LinuxPoll (Backend : Type*) := Poll Backend EpollBatch Unit

/-- Resolve one token and disarm a one-shot registration. -/
def classifyLinux (registrations : RegistrationTable) (token : UInt64) :
    RegistrationTable × Except Error (Option Key) :=
  match registrations.resolve token with
  | none => (registrations, .ok none)
  | some resource =>
      if resource.mode = .oneShot then
        match registrations.applyDisarm resource.id .applied with
        | (registrations, .error error) => (registrations, .error error)
        | (registrations, .ok _) =>
            (registrations, .ok (some resource.key))
      else
        (registrations, .ok (some resource.key))

variable {Backend : Type*}

def translateLinux
    (observed : Nat) (self : LinuxPoll Backend) (events : Events) :
    LinuxPoll Backend × Events × Except Error Unit :=
  let (rawEvents, events, registrations, result) :=
    self.rawEvents.translate classifyLinux events observed self.wakeKey
      self.registrations
  ({ self with rawEvents, registrations }, events, result)

namespace LinuxPoll

def nativeWait
    (answer : Except IoError (List EpollEvent)) (self : LinuxPoll Backend)
    (events : Events) :
    LinuxPoll Backend × Events × Except IoError Nat :=
  let (rawEvents, events, observed) :=
    self.rawEvents.wait events answer
  ({ self with rawEvents }, events, observed)

/-- A translation with the empty report that `observe` returns for it. -/
def translated
    (observed : Nat) (self : LinuxPoll Backend) (events : Events) :
    Poll.Observed Backend EpollBatch Unit :=
  match translateLinux observed self events with
  | (self, events, .error error) => (self, events, .error error)
  | (self, events, .ok ()) => (self, events, .ok { recovery := none })

/-- `Poll::wait` on Linux. -/
def wait
    (answer : Except IoError (List EpollEvent)) (self : LinuxPoll Backend)
    (events : Events) : Poll.Observed Backend EpollBatch Unit :=
  Poll.waitWith id (Poll.observeWith (nativeWait answer) translated)
    self events

/-- `Poll::with_capacity` on Linux.  `backend` is the result of creating the
selector, and the boolean is the allocator's answer. -/
def withCapacity
    (layout : EventLayout) (nextPollId : UInt64)
    (events registrations : Nat) (backend : Except Error Backend)
    (tableAllocated : Bool) : Except Error (LinuxPoll Backend) :=
  if eventsPositive : 0 < events then
    if registrationsPositive : 0 < registrations then
      match EpollBatch.new layout events with
      | none => .error .backendOverflow
      | some rawEvents =>
          match RegistrationTable.new
              ⟨registrations, registrationsPositive⟩ tableAllocated with
          | .error error => .error error
          | .ok table =>
              match backend with
              | .error error => .error error
              | .ok backend =>
                  .ok
                    { nextPollId
                      owner := PollOwner.unassigned
                      backend
                      rawEvents
                      registrations := table
                      eventCapacity := ⟨events, eventsPositive⟩
                      wakeKey := none
                      pending := () }
    else
      .error (.capacity registrations)
  else
    .error (.capacity events)

end LinuxPoll

end Zio
