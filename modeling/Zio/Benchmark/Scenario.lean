import Mathlib.Init

/-!
# Benchmark candidates and scenarios

The implementations under comparison, the stable scenario catalogue and what a
receipt says about both.
-/

namespace Zio.Benchmark

/-! ## Candidates -/

inductive Implementation where
  | zio
  | zioBorrowed
  | mio
  | polling
deriving DecidableEq, Repr

/-- `CARGO_PKG_VERSION`. -/
def packageVersion : String := "0.0.1-dev.1"

namespace Implementation

def all : List Implementation := [zio, zioBorrowed, mio, polling]

def name : Implementation → String
  | zio => "zio"
  | zioBorrowed => "zio-borrowed"
  | mio => "mio"
  | polling => "polling"

def version : Implementation → String
  | zio | zioBorrowed => packageVersion
  | mio => "1.2.2"
  | polling => "3.11.0"

def disclosure : Implementation → String
  | zio =>
      "Zio retains fixed event and registration capacities and duplicates " ++
        "every registered descriptor; those costs are included."
  | zioBorrowed =>
      "Zio retains fixed event and registration capacities but borrows " ++
        "each registered descriptor under its explicit unsafe lifetime " ++
        "contract; no descriptor duplicate is created."
  | mio =>
      "Mio is measured under its native default; the API does not expose " ++
        "Level or OneShot selection."
  | polling =>
      "polling uses its native one-shot default for initial " ++
        "observations; the RAII adapter enforces " ++
        "delete-before-source-drop."

end Implementation

/-! ## Scenarios -/

inductive Scenario where
  | construct1
  | construct64
  | construct1024
  | constructWaker1
  | constructWaker64
  | constructWaker1024
  | registerDelete
  | register64
  | delete64
  | emptyWait
  | readySingle
  | readyBatch64
  | readyBatch1024
  | persistentSingle
  | persistentBatch64
  | persistentBatch1024
  | wakeRoundtrip
  | wakeBlocked
  | levelRepeat
  | oneShotRearm
deriving DecidableEq, Repr

def waitTimeoutMillis : UInt64 := 1000
def absenceWindowMillis : UInt64 := 2
def blockedWakeSettleMicros : UInt64 := 200

namespace Scenario

def all : List Scenario :=
  [construct1, construct64, construct1024, constructWaker1,
    constructWaker64, constructWaker1024, registerDelete, register64,
    delete64, emptyWait, readySingle, readyBatch64, readyBatch1024,
    persistentSingle, persistentBatch64, persistentBatch1024,
    wakeRoundtrip, wakeBlocked, levelRepeat, oneShotRearm]

def name : Scenario → String
  | construct1 => "poller.construct_drop.capacity_1"
  | construct64 => "poller.construct_drop.capacity_64"
  | construct1024 => "poller.construct_drop.capacity_1024"
  | constructWaker1 => "poller.construct_waker_drop.capacity_1"
  | constructWaker64 => "poller.construct_waker_drop.capacity_64"
  | constructWaker1024 => "poller.construct_waker_drop.capacity_1024"
  | registerDelete => "registration.register_delete"
  | register64 => "registration.register.batch_64"
  | delete64 => "registration.delete.batch_64"
  | emptyWait => "wait.empty.no_block"
  | readySingle => "wait.ready.readable.single.initial"
  | readyBatch64 => "wait.ready.readable.batch_64.initial"
  | readyBatch1024 => "wait.ready.readable.batch_1024.initial"
  | persistentSingle => "wait.ready.readable.single.persistent"
  | persistentBatch64 => "wait.ready.readable.batch_64.persistent"
  | persistentBatch1024 => "wait.ready.readable.batch_1024.persistent"
  | wakeRoundtrip => "wake.notify.pretriggered"
  | wakeBlocked => "wake.notify.blocked_cross_thread"
  | levelRepeat => "wait.ready.readable.level.repeat"
  | oneShotRearm => "wait.ready.readable.one_shot.rearm"

/-- The scenario with a stable name. -/
def parse (value : String) : Option Scenario :=
  all.find? fun scenario => scenario.name == value

def supports (self : Scenario) (implementation : Implementation) : Bool :=
  match self with
  | levelRepeat | oneShotRearm => implementation != .mio
  | _ => true

def isConstruct : Scenario → Bool
  | construct1 | construct64 | construct1024 | constructWaker1
  | constructWaker64 | constructWaker1024 => true
  | _ => false

def batchSize : Scenario → Nat
  | readyBatch64 | persistentBatch64 | register64 | delete64 => 64
  | readyBatch1024 | persistentBatch1024 => 1024
  | readySingle | persistentSingle | levelRepeat | oneShotRearm => 1
  | _ => 0

def eventCapacity : Scenario → Nat
  | construct64 | constructWaker64 | readyBatch64 | persistentBatch64
  | register64 | delete64 => 64
  | construct1024 | constructWaker1024 | readyBatch1024
  | persistentBatch1024 => 1024
  | _ => 1

def registrationCapacity (self : Scenario) : Nat := self.eventCapacity

def defaultIterations : Scenario → Nat
  | register64 | delete64 => 1
  | readyBatch64 | persistentBatch64 => 32
  | readyBatch1024 | persistentBatch1024 => 4
  | _ => 100

def maxCalibratedIterations : Scenario → Nat
  | wakeBlocked => 512
  | _ => 1000000

/-! ### Receipt metadata -/

def semanticScope : Scenario → String
  | construct1 | construct64 | construct1024 =>
      "poller_and_event_storage_lifecycle"
  | constructWaker1 | constructWaker64 | constructWaker1024 =>
      "poller_event_storage_and_waker_lifecycle"
  | registerDelete => "readable_registration_lifecycle"
  | register64 => "readable_registration_creation"
  | delete64 => "readable_registration_deletion"
  | emptyWait => "empty_nonblocking_observation"
  | readySingle | readyBatch64 | readyBatch1024 =>
      "first_readable_observation"
  | persistentSingle | persistentBatch64 | persistentBatch1024 =>
      "readable_observation_with_persistent_registrations"
  | wakeRoundtrip => "pretriggered_wake_observation"
  | wakeBlocked => "blocked_cross_thread_wake_observation"
  | levelRepeat => "native_level_repeated_observation"
  | oneShotRearm => "native_one_shot_rearm_then_delivery"

def measurementScope : Scenario → String
  | construct1 | construct64 | construct1024 =>
      "construct_poller_and_events_then_drop"
  | constructWaker1 | constructWaker64 | constructWaker1024 =>
      "construct_poller_events_and_waker_then_drop"
  | registerDelete => "register_then_delete"
  | register64 => "register_only_cleanup_untimed"
  | delete64 => "delete_only_registration_untimed"
  | emptyWait => "clear_events_then_nonblocking_wait"
  | readySingle | readyBatch64 | readyBatch1024 =>
      "register_signal_collect_drain_delete"
  | persistentSingle | persistentBatch64 | persistentBatch1024 =>
      "signal_collect_drain_with_registration_outside_timing"
  | wakeRoundtrip => "trigger_then_wait_for_wake"
  | wakeBlocked => "wake_invocation_to_blocked_wait_return"
  | levelRepeat => "wait_while_source_remains_ready"
  | oneShotRearm => "rearm_then_deliver"

def waitTimeoutMs (self : Scenario) : Option UInt64 :=
  if self.isConstruct || self == registerDelete || self == register64 ||
      self == delete64 then
    none
  else if self == emptyWait then
    some 0
  else
    some waitTimeoutMillis

def absenceWindowMs : Scenario → Option UInt64
  | oneShotRearm => some absenceWindowMillis
  | _ => none

def absenceWindowTimed : Scenario → Option Bool
  | oneShotRearm => some false
  | _ => none

def blockedWakeSettleUs : Scenario → Option UInt64
  | wakeBlocked => some blockedWakeSettleMicros
  | _ => none

def delivery : Scenario → String
  | readySingle | readyBatch64 | readyBatch1024 => "initial_observation"
  | persistentSingle | persistentBatch64 | persistentBatch1024 =>
      "persistent_registration"
  | levelRepeat => "level"
  | oneShotRearm => "one_shot"
  | _ => "not_applicable"

def candidateSetup (self : Scenario) (implementation : Implementation) :
    String :=
  match self with
  | construct1 | construct64 | construct1024 =>
      match implementation with
      | .zio | .zioBorrowed =>
          "eager_native_wake_source_without_public_waker"
      | .mio => "selector_and_event_storage_without_waker"
      | .polling => "poller_with_native_notify_and_event_storage"
  | constructWaker1 | constructWaker64 | constructWaker1024 =>
      "external_usable_wake_handle_materialized"
  | registerDelete | register64 | delete64 =>
      match implementation with
      | .zio => "retained_owned_descriptor"
      | .zioBorrowed => "caller_managed_borrowed_descriptor"
      | .mio | .polling => "peer_borrowed_descriptor"
  | readySingle | readyBatch64 | readyBatch1024 =>
      match implementation with
      | .zio => "owned_descriptor_explicit_level_for_first_observation"
      | .zioBorrowed =>
          "borrowed_descriptor_explicit_level_for_first_observation"
      | .mio => "mio_native_default"
      | .polling => "polling_native_default_one_shot"
  | persistentSingle | persistentBatch64 | persistentBatch1024 =>
      match implementation with
      | .zio => "owned_descriptor_explicit_native_level"
      | .zioBorrowed => "borrowed_descriptor_explicit_native_level"
      | .mio => "mio_native_default_persistent_registration"
      | .polling => "explicit_native_level"
  | levelRepeat =>
      match implementation with
      | .zio => "owned_descriptor_explicit_native_level"
      | .zioBorrowed => "borrowed_descriptor_explicit_native_level"
      | .mio => "not_applicable"
      | .polling => "explicit_native_level"
  | oneShotRearm =>
      match implementation with
      | .zio => "owned_descriptor_explicit_native_one_shot"
      | .zioBorrowed => "borrowed_descriptor_explicit_native_one_shot"
      | .mio => "not_applicable"
      | .polling => "explicit_native_one_shot"
  | _ => "not_applicable"

end Scenario

end Zio.Benchmark
