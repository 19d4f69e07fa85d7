import Zio.Vocabulary

/-!
# Bounded event storage and wait reports

The caller's event destination.  Every stored event carries the registration
whose observation produced it; the tag is not part of the program and lets the
delivery of one registration be told apart from another with the same key.  On
Linux the unused tail of the destination also holds the raw epoll records of
the wait in progress.
-/

namespace Zio

/-- One raw epoll record: the reported flags and the token. -/
structure EpollEvent where
  events : UInt32
  token : UInt64
deriving DecidableEq, Repr

/-- A stored event with the registration that it reports. -/
structure Delivery where
  event : Event
  source : Option RegistrationId
deriving DecidableEq, Repr

/-- Reusable fixed-capacity destination.  `address` is the address of its
storage, and `native` the raw records staged in its tail. -/
structure Events where
  capacity : NonZeroUsize
  deliveries : List Delivery
  address : NonZeroUsize
  native : List EpollEvent
deriving DecidableEq, Repr

namespace Events

def isEmpty (self : Events) : Bool := self.deliveries.isEmpty

/-- The events that the caller sees. -/
def asSlice (self : Events) : List Event := self.deliveries.map Delivery.event

def clear (self : Events) : Events := { self with deliveries := [] }

def tryPush (self : Events) (delivery : Delivery) :
    Events × Except Error Unit :=
  if self.deliveries.length ≥ self.capacity.val then
    (self,
      .error
        (.eventsTooSmall (min (self.deliveries.length + 1) usizeMax)
          self.capacity.val))
  else
    ({ self with deliveries := self.deliveries ++ [delivery] }, .ok ())

end Events

/-! ## Recovery reports -/

/-- The exact result of recovering one attempted registration. -/
structure RecoveryOutcome where
  registration : RegistrationId
  commit : CommitStatus
  state : RegistrationState
deriving DecidableEq, Repr

def RecoveryOutcome.new
    (registration : RegistrationId) (commit : CommitStatus) :
    RecoveryOutcome :=
  { registration
    commit
    state :=
      match commit with
      | .applied => .registered .disarmed
      | .notApplied => .registered .armed
      | .unknown => .uncertain }

/-- A wait-time recovery failure with exact outcomes. -/
structure RecoveryFailure where
  operation : Operation
  outcomes : List RecoveryOutcome
  source : IoError
deriving DecidableEq, Repr

/-- Status returned after a valid event batch is delivered. -/
structure WaitReport where
  recovery : Option RecoveryFailure
deriving DecidableEq, Repr

end Zio
