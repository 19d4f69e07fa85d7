import Zio.Kqueue.Disarm
import Zio.Kqueue.Recovery
import Zio.Poll.Basic

/-!
# Kqueue waits

The native batch, the translation of its records, and the poller's wait.  The
kernel's answer to a wait and the disarm executor are inputs.
-/

namespace Zio

/-! ## Native batches -/

/-- One arena shared by wait output and disarm input and output. -/
structure KqueueArena where
  storage : List Kevent
  eventCapacity : Nat
  changeCapacity : Nat
deriving DecidableEq, Repr

/-- The all-zero staging value. -/
def emptyKevent : Kevent :=
  { ident := 0, filter := 0, flags := 0, fflags := 0, data := 0
    udata := 0 }

/-- Fixed native storage.  `allocated` is the allocator's answer. -/
def KqueueArena.new
    (target : KqueueTarget) (eventCapacity changeCapacity : Nat)
    (allocated : Bool) : Option KqueueArena :=
  if eventCapacity = 0 then
    none
  else if target.narrowCounts ∧
      ¬ (fitsI32 eventCapacity ∧ fitsI32 changeCapacity) then
    none
  else
    match usizeCheckedMul changeCapacity 2 with
    | none => none
    | some doubled =>
        if allocated then
          some
            { storage :=
                List.replicate (max eventCapacity doubled) emptyKevent
              eventCapacity
              changeCapacity }
        else
          none

structure KeventBatch where
  arena : KqueueArena
  observed : Nat
  receipts : Nat
deriving DecidableEq, Repr

/-- Detach one native record. -/
def rawKevent (target : KqueueTarget) (event : Kevent) :
    Option RawKevent :=
  match rawFdOfIdent event.ident with
  | none => none
  | some ident =>
      some
        { ident
          filter := decodeFilter target event.filter
          token := event.udata
          eof := hasEof event.flags
          nativeError := hasNativeError event.flags
          fflags := event.fflags }

namespace KeventBatch

def new
    (target : KqueueTarget) (eventCapacity changeCapacity : Nat)
    (allocated : Bool) : Option KeventBatch :=
  (KqueueArena.new target eventCapacity changeCapacity allocated).map
    fun arena => { arena, observed := 0, receipts := 0 }

def event
    (target : KqueueTarget) (self : KeventBatch) (index observed : Nat) :
    Option RawKevent :=
  if observed ≠ self.observed ∨ index ≥ observed then
    none
  else
    match self.arena.storage[index]? with
    | none => none
    | some slot => rawKevent target slot

def receipt
    (target : KqueueTarget) (self : KeventBatch) (index returned : Nat)
    (expected : Change) : FilterApply :=
  let event :=
    if returned = self.receipts ∧ index < returned then
      match usizeCheckedAdd self.arena.changeCapacity index with
      | none => none
      | some place => self.arena.storage[place]?
    else
      none
  match decodeReceipt target event expected with
  | .notApplied code =>
      if isMissingDisable code expected then .alreadyAbsent
      else .notApplied code
  | outcome => outcome

/-- A receipt is decoded from the slot of its place, or from no slot; only a
missing disable is then read as an absent filter. -/
theorem receipt_cases
    (target : KqueueTarget) (self : KeventBatch) (index returned : Nat)
    (expected : Change) :
    ∃ event,
      (∀ slot, event = some slot →
          (returned = self.receipts ∧ index < returned) ∧
            ∃ place,
              usizeCheckedAdd self.arena.changeCapacity index =
                  some place ∧
                self.arena.storage[place]? = some slot) ∧
        (self.receipt target index returned expected =
            decodeReceipt target event expected ∨
          ∃ code,
            decodeReceipt target event expected = .notApplied code ∧
              isMissingDisable code expected = true ∧
              self.receipt target index returned expected =
                .alreadyAbsent) := by
  refine ⟨if returned = self.receipts ∧ index < returned then
      match usizeCheckedAdd self.arena.changeCapacity index with
      | none => none
      | some place => self.arena.storage[place]?
    else
      none, ?_, ?_⟩
  · intro slot held
    split at held
    · rename_i current
      split at held
      · cases held
      · rename_i place added
        exact ⟨current, place, added, held⟩
    · cases held
  · unfold receipt
    simp only
    split
    · rename_i code decoded
      split
      · rename_i disables
        exact Or.inr ⟨code, decoded, disables, rfl⟩
      · exact Or.inl decoded.symm
    · exact Or.inl rfl

end KeventBatch

/-- One normalized resource or administrative observation. -/
structure RawEvent where
  token : UInt64
  descriptor : RawFd
  readiness : Readiness
  control : Bool
deriving DecidableEq, Repr

/-- The record of the reserved wake source. -/
def RawEvent.wake : RawEvent :=
  { token := 0, descriptor := -1, readiness := Readiness.empty
    control := true }

def fromKqueueEvent (event : RawKevent) : Readiness :=
  let readiness :=
    match event.filter with
    | .read => Readiness.readable
    | .write => Readiness.writable
    | .user => Readiness.error
    | .unknown => Readiness.error
  let readiness :=
    if event.eof then
      readiness.union
        (match event.filter with
        | .read => Readiness.readClosed
        | .write => Readiness.writeClosed
        | .user => Readiness.error
        | .unknown => Readiness.error)
    else
      readiness
  if event.nativeError || (event.eof && event.fflags != 0) then
    readiness.union Readiness.error
  else
    readiness

/-- Normalize one detached record. -/
def rawEvent (event : RawKevent) : RawEvent :=
  if event.filter = .user ∧ event.token = 0 then
    RawEvent.wake
  else
    { token := event.token
      descriptor := event.ident
      readiness := fromKqueueEvent event
      control := false }

/-- Fixed kqueue event storage. -/
structure KqueueBatch where
  raw : KeventBatch
  disarms : DisarmBatch
deriving DecidableEq, Repr

namespace KqueueBatch

/-- Storage for every filter of every registration and the wake filter. -/
def new
    (target : KqueueTarget) (events registrations : Nat)
    (arenaAllocated plansAllocated : Bool) : Option KqueueBatch := do
  let doubled ← usizeCheckedMul registrations 2
  let eventCapacity ← usizeCheckedAdd doubled 1
  let disarmCapacity := min events registrations
  let nativeCapacity ← usizeCheckedMul disarmCapacity 2
  let raw ←
    KeventBatch.new target eventCapacity nativeCapacity arenaAllocated
  let disarms ← DisarmBatch.new disarmCapacity plansAllocated
  return { raw, disarms }

def event
    (target : KqueueTarget) (self : KqueueBatch)
    (index observed : Nat) : Option RawEvent :=
  (self.raw.event target index observed).map rawEvent

def clearDisarms (self : KqueueBatch) : KqueueBatch :=
  { self with disarms := self.disarms.clear }

def pushDisarm
    (self : KqueueBatch) (registration : RegistrationId)
    (descriptor : RawFd) (interest : Interest) : Option KqueueBatch :=
  (self.disarms.push registration descriptor interest).map
    fun disarms => { self with disarms }

end KqueueBatch

/-! ## Translation -/

/-- A poller over kqueue. -/
abbrev KqueuePoll (Backend : Type*) :=
  Poll Backend KqueueBatch KqueuePending

/-- The loop of `translate_kqueue` over the native records: coalesce every
record of a live registration and note whether a wake was seen. -/
def collectKqueue
    (target : KqueueTarget) (rawEvents : KqueueBatch)
    (registrations : RegistrationTable) (observed : Nat) :
    List Nat → KqueuePending → Bool → KqueuePending × Except Error Bool
  | [], pending, woke => (pending, .ok woke)
  | index :: rest, pending, woke =>
      match rawEvents.event target index observed with
      | none => (pending, .error .invariant)
      | some raw =>
          if raw.control then
            collectKqueue target rawEvents registrations observed rest
              pending true
          else
            match registrations.resolve raw.token with
            | none =>
                collectKqueue target rawEvents registrations observed rest
                  pending woke
            | some resource =>
                if raw.descriptor ≠ resource.descriptor then
                  collectKqueue target rawEvents registrations observed
                    rest pending woke
                else
                  match pending.add resource.id resource.key
                      raw.readiness with
                  | (pending, .error error) => (pending, .error error)
                  | (pending, .ok ()) =>
                      collectKqueue target rawEvents registrations
                        observed rest pending woke

/-- Plan the disarm of every delivered one-shot registration. -/
def prepareDisarmsFrom (registrations : RegistrationTable) :
    List PendingResource → KqueueBatch →
      KqueueBatch × Except Error Unit
  | [], rawEvents => (rawEvents, .ok ())
  | pending :: rest, rawEvents =>
      match registrations.binding pending.registration false with
      | .error error => (rawEvents, .error error)
      | .ok binding =>
          if binding.mode ≠ .oneShot then
            prepareDisarmsFrom registrations rest rawEvents
          else
            match rawEvents.pushDisarm pending.registration
                binding.descriptor.raw binding.interest with
            | none => (rawEvents, .error .invariant)
            | some rawEvents =>
                prepareDisarmsFrom registrations rest rawEvents

def prepareDisarms
    (registrations : RegistrationTable) (pending : List PendingResource)
    (delivered : Nat) (rawEvents : KqueueBatch) :
    KqueueBatch × Except Error Unit :=
  let rawEvents := rawEvents.clearDisarms
  match prepareDisarmsFrom registrations (pending.take delivered)
      rawEvents with
  | (rawEvents, .error error) => (rawEvents, .error error)
  | (rawEvents, .ok ()) =>
      if delivered ≤ pending.length then (rawEvents, .ok ())
      else (rawEvents, .error .invariant)

variable {Backend : Type*}

/-- Translate `observed` native records.  The executor acts on the backend and
on the native storage that it borrows. -/
def translateKqueue
    (target : KqueueTarget)
    (executor : DisarmExecutor (Backend × KeventBatch))
    (observed : Nat) (self : KqueuePoll Backend) (events : Events) :
    Poll.Observed Backend KqueueBatch KqueuePending :=
  let (pending, collected) :=
    collectKqueue target self.rawEvents self.registrations observed
      (List.range observed) self.pending false
  let self : KqueuePoll Backend := { self with pending }
  match collected with
  | .error error => (self, events, .error error)
  | .ok woke =>
      let resourceLimit := self.eventCapacity.val - woke.toNat
      let delivered := min self.pending.entries.length resourceLimit
      let (rawEvents, prepared) :=
        prepareDisarms self.registrations self.pending.entries delivered
          self.rawEvents
      let self : KqueuePoll Backend := { self with rawEvents }
      match prepared with
      | .error error => (self, events, .error error)
      | .ok () =>
          let (disarms, (backend, raw), submitted) :=
            self.rawEvents.disarms.submit executor
              (self.backend, self.rawEvents.raw)
          let self : KqueuePoll Backend :=
            { self with backend, rawEvents := ⟨raw, disarms⟩ }
          let recovery := resultErr submitted
          let (registrations, events, report) :=
            finish self.registrations events self.pending.entries
              delivered woke self.wakeKey self.rawEvents.disarms.outcomes
              recovery
          ({ self with registrations }, events, report)

/-! ## Waits -/

/-- `Kqueue::wait`: the kernel's answer is an error or the records that it
wrote. -/
def KeventBatch.wait
    (self : KeventBatch) (answer : Except IoError (List Kevent)) :
    KeventBatch × Except IoError Nat :=
  let self := { self with observed := 0, receipts := 0 }
  match answer with
  | .error source => (self, .error source)
  | .ok written =>
      let observed := written.length
      let self :=
        { self with
          arena :=
            { self.arena with
              storage :=
                (written ++ self.arena.storage.drop observed).take
                  self.arena.storage.length } }
      if observed > self.arena.eventCapacity then
        (self,
          .error (.custom .other "kqueue exceeded the event capacity"))
      else
        ({ self with observed }, .ok observed)

namespace KqueuePoll

def nativeWait
    (answer : Except IoError (List Kevent)) (self : KqueuePoll Backend)
    (events : Events) : KqueuePoll Backend × Events × Except IoError Nat :=
  let (raw, observed) := self.rawEvents.raw.wait answer
  ({ self with rawEvents := { self.rawEvents with raw } }, events,
    observed)

/-- `Poll::wait` on kqueue. -/
def wait
    (target : KqueueTarget)
    (executor : DisarmExecutor (Backend × KeventBatch))
    (answer : Except IoError (List Kevent)) (self : KqueuePoll Backend)
    (events : Events) :
    Poll.Observed Backend KqueueBatch KqueuePending :=
  Poll.waitWith KqueuePending.clear
    (Poll.observeWith (nativeWait answer)
      (translateKqueue target executor))
    self events

/-- `Poll::with_capacity` on kqueue.  `backend` is the result of creating the
selector, and the booleans are the allocator's answers. -/
def withCapacity
    (target : KqueueTarget) (nextPollId : UInt64)
    (events registrations : Nat) (backend : Except Error Backend)
    (arenaAllocated plansAllocated tableAllocated entriesAllocated
      slotsAllocated : Bool) : Except Error (KqueuePoll Backend) :=
  if eventsPositive : 0 < events then
    if registrationsPositive : 0 < registrations then
      match KqueueBatch.new target events registrations arenaAllocated
          plansAllocated with
      | none => .error .backendOverflow
      | some rawEvents =>
          match RegistrationTable.new
              ⟨registrations, registrationsPositive⟩ tableAllocated with
          | .error error => .error error
          | .ok table =>
              match backend with
              | .error error => .error error
              | .ok backend =>
                  match KqueuePending.new ⟨events, eventsPositive⟩
                      ⟨registrations, registrationsPositive⟩
                      entriesAllocated slotsAllocated with
                  | .error error => .error error
                  | .ok pending =>
                      .ok
                        { nextPollId
                          owner := PollOwner.unassigned
                          backend
                          rawEvents
                          registrations := table
                          eventCapacity := ⟨events, eventsPositive⟩
                          wakeKey := none
                          pending }
    else
      .error (.capacity registrations)
  else
    .error (.capacity events)

end KqueuePoll

end Zio
