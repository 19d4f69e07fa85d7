import Zio.Events
import Zio.Mutation.Session

/-!
# The poller

One poller over a backend, with the batch storage and the coalescing storage
that its backend needs.  Mutation calls borrow its table and backend as a
session; a wait clears the destination, observes, and clears the destination
again on failure.
-/

namespace Zio

/-- Owner-local portable readiness poller, with the process-wide counter. -/
structure Poll (Backend Raw Pending : Type*) where
  nextPollId : UInt64
  owner : PollOwner
  backend : Backend
  rawEvents : Raw
  registrations : RegistrationTable
  eventCapacity : NonZeroUsize
  wakeKey : Option Key
  pending : Pending

namespace Poll

variable {Backend Raw Pending : Type*}

/-- The session that a mutation call borrows. -/
def mutations (self : Poll Backend Raw Pending) :
    MutationSession Backend :=
  { nextPollId := self.nextPollId
    owner := self.owner
    registrations := self.registrations
    driver := self.backend }

/-- The poller after a session ends. -/
def settle
    (self : Poll Backend Raw Pending) (session : MutationSession Backend) :
    Poll Backend Raw Pending :=
  { self with
    nextPollId := session.nextPollId
    owner := session.owner
    registrations := session.registrations
    backend := session.driver }

def call
    (driver : MutationDriver Backend) (self : Poll Backend Raw Pending)
    (request : Call) : Poll Backend Raw Pending × Reply :=
  let (session, reply) := self.mutations.call driver request
  (self.settle session, reply)

/-- Fix the wake key, or check that it is already fixed to `key`. -/
def waker (self : Poll Backend Raw Pending) (key : Key) :
    Poll Backend Raw Pending × Except Error Unit :=
  match self.wakeKey with
  | none => ({ self with wakeKey := some key }, .ok ())
  | some existing =>
      if existing = key then (self, .ok ())
      else (self, .error (.wakerAlreadyConfigured existing key))

/-- What an observation leaves: the poller, the destination and the result. -/
abbrev Observed (Backend Raw Pending : Type*) :=
  Poll Backend Raw Pending × Events × Except Error WaitReport

/-- The frame of `wait` around one observation. -/
def waitWith
    (clearPending : Pending → Pending)
    (observe : Poll Backend Raw Pending → Events →
      Observed Backend Raw Pending)
    (self : Poll Backend Raw Pending) (events : Events) :
    Observed Backend Raw Pending :=
  let events := events.clear
  let self := { self with pending := clearPending self.pending }
  let (self, events, result) := observe self events
  let self := { self with pending := clearPending self.pending }
  match result with
  | .error error => (self, events.clear, .error error)
  | .ok report => (self, events, .ok report)

/-- The frame of `observe` around a native wait and its translation. -/
def observeWith
    (nativeWait : Poll Backend Raw Pending → Events →
      Poll Backend Raw Pending × Events × Except IoError Nat)
    (translate : Nat → Poll Backend Raw Pending → Events →
      Observed Backend Raw Pending)
    (self : Poll Backend Raw Pending) (events : Events) :
    Observed Backend Raw Pending :=
  if events.capacity.val < self.eventCapacity.val then
    (self, events,
      .error
        (.eventsTooSmall self.eventCapacity.val events.capacity.val))
  else
    match nativeWait self events with
    | (self, events, .error source) =>
        (self, events, .error (.io .wait source))
    | (self, events, .ok observed) => translate observed self events

/-! ## Equations of the frames -/

/-- The destination after a wait: a failure leaves it empty. -/
def settledEvents (events : Events) (result : Except Error WaitReport) :
    Events :=
  match result with
  | .error _ => events.clear
  | .ok _ => events

section Frames

variable {self after : Poll Backend Raw Pending} {events filled : Events}
  {clearPending : Pending → Pending}
  {observe : Poll Backend Raw Pending → Events →
    Observed Backend Raw Pending}
  {nativeWait : Poll Backend Raw Pending → Events →
    Poll Backend Raw Pending × Events × Except IoError Nat}
  {translate : Nat → Poll Backend Raw Pending → Events →
    Observed Backend Raw Pending}

theorem waitWith_eq
    {result : Except Error WaitReport}
    (observed :
      observe { self with pending := clearPending self.pending }
        events.clear = (after, filled, result)) :
    waitWith clearPending observe self events =
      ({ after with pending := clearPending after.pending },
        settledEvents filled result, result) := by
  simp only [waitWith, observed]
  cases result <;> rfl

theorem observeWith_small
    (small : events.capacity.val < self.eventCapacity.val) :
    observeWith nativeWait translate self events =
      (self, events,
        .error
          (.eventsTooSmall self.eventCapacity.val events.capacity.val)) :=
  if_pos small

theorem observeWith_failed
    (large : self.eventCapacity.val ≤ events.capacity.val)
    {source : IoError}
    (failed : nativeWait self events = (after, filled, .error source)) :
    observeWith nativeWait translate self events =
      (after, filled, .error (.io .wait source)) := by
  unfold observeWith
  rw [if_neg (Nat.not_lt.mpr large), failed]

theorem observeWith_translated
    (large : self.eventCapacity.val ≤ events.capacity.val) {observed : Nat}
    (waited : nativeWait self events = (after, filled, .ok observed)) :
    observeWith nativeWait translate self events =
      translate observed after filled := by
  unfold observeWith
  rw [if_neg (Nat.not_lt.mpr large), waited]

end Frames

end Poll

end Zio
