import Zio.Mutation.Effects

/-!
# The mutation session refines an abstract registry

The registry is a finite map from identities to records, with the number of
used-up slots that no longer count towards the limit and the counter that
poller identities are drawn from.  Its transitions are the
contract of the calls: what each answer of the driver does to the map, what the
caller gets back, and which request the driver was asked.  Runs also let other
pollers draw from the process-wide counter and let waits disarm delivered
one-shot registrations between the calls.
-/

namespace Zio

open Transition

/-! ## Observable behaviour -/

/-- One request to the driver with its answer. -/
inductive Exchange where
  | register (request : RegisterRequest) (answer : Answer)
  | modify (request : ModifyRequest) (answer : Answer)
  | delete (request : DeleteRequest) (answer : Answer)

/-- The same driver, recording its exchanges. -/
def MutationDriver.logged {σ : Type*} (backend : MutationDriver σ) :
    MutationDriver (σ × List Exchange) where
  register := fun state request =>
    let (driver, answer) := backend.register state.1 request
    ((driver, state.2 ++ [.register request answer]), answer)
  modify := fun state request =>
    let (driver, answer) := backend.modify state.1 request
    ((driver, state.2 ++ [.modify request answer]), answer)
  delete := fun state request =>
    let (driver, answer) := backend.delete state.1 request
    ((driver, state.2 ++ [.delete request answer]), answer)

/-- What happens to a poller: a call with its exchanges and its reply, another
poller moving the shared counter, or a wait that settles one disarm. -/
inductive Happening where
  | called (call : Call) (exchanges : List Exchange) (reply : Reply)
  | elsewhere (nextPollId : UInt64)
  | disarmed (id : RegistrationId) (commit : CommitStatus)

/-! ## The abstract registry -/

/-- What the registry knows about one registration. -/
structure Record where
  descriptor : Fd
  key : Key
  interest : Interest
  mode : Mode
  state : RegistrationState

/-- A new registration is registered and armed. -/
def Intake.record (intake : Intake) (descriptor : Fd) : Record :=
  { descriptor
    key := intake.key
    interest := intake.interest
    mode := intake.mode
    state := .registered .armed }

/-- A finite map from identities to records, beside the counter that poller
identities are drawn from. -/
structure Registry where
  limit : Nat
  owner : Option PollId
  nextPollId : UInt64
  records : RegistrationId → Option Record
  spent : Nat

namespace Record

def uncertain (record : Record) : Record :=
  { record with state := .uncertain }

def afterRegister (record : Record) : CommitStatus → Option Record
  | .applied => some record
  | .notApplied => none
  | .unknown => some record.uncertain

def afterModify (record : Record) (interest : Interest) (mode : Mode) :
    CommitStatus → Option Record
  | .applied =>
      some { record with interest, mode, state := .registered .armed }
  | .notApplied => some record
  | .unknown => some record.uncertain

def afterDelete (record : Record) : CommitStatus → Option Record
  | .applied => none
  | .notApplied => some record
  | .unknown => some record.uncertain

def afterDisarm (record : Record) (commit : CommitStatus) : Record :=
  { record with
    state := RegistrationTable.disarmedState commit record.state }

end Record

namespace Registry

/-- The registry of a new poller. -/
def empty
    (limit : Nat) (owner : Option PollId) (nextPollId : UInt64) :
    Registry :=
  { limit, owner, nextPollId, records := fun _ => none, spent := 0 }

/-- The identity that a counter hands out, with what is left of it.  Zero is not
an identity, and the last value is never handed out. -/
def draw (next : UInt64) : Option PollId × UInt64 :=
  if next = u64Max then (none, next)
  else if next = 0 then (none, next + 1)
  else (some ⟨next⟩, next + 1)

/-- The number of live records. -/
noncomputable def live (registry : Registry) : Nat :=
  { id | registry.records id ≠ none }.ncard

def put
    (registry : Registry) (id : RegistrationId) (record : Option Record) :
    Registry :=
  { registry with
    records := fun other =>
      if other = id then record else registry.records other }

/-- Use up the slot of an identity that leaves the map for good. -/
def retireSlot
    (registry : Registry) (id : RegistrationId) (record : Option Record) :
    Registry :=
  { registry with
    spent :=
      registry.spent + (if record.isNone then lastGeneration id else 0) }

def stateOf (registry : Registry) (id : RegistrationId) :
    Option RegistrationState :=
  (registry.records id).map Record.state

/-- Why a full registry refuses a registration. -/
def fullError (registry : Registry) : Error :=
  if registry.spent = registry.limit then .registrationSpaceExhausted
  else .capacity registry.limit

/-- The contract of one happening. -/
inductive Step : Registry → Happening → Registry → Prop
  | invalidInterest {registry : Registry} {call : Call} {intake : Intake} :
      call.intake = some intake →
      intake.interest.isEmpty = true →
      Step registry
        (.called call []
          (.register
            (.error { error := .invalidInterest, registration := none })))
        registry
  | duplicationFailed {registry : Registry} {call : Call}
      {intake : Intake} {source : IoError} :
      call.intake = some intake →
      intake.interest.isEmpty = false →
      intake.duplicate = .error source →
      Step registry
        (.called call []
          (.register
            (.error
              { error := .io .register source, registration := none })))
        registry
  | full {registry : Registry} {call : Call} {intake : Intake}
      {descriptor : Fd} :
      call.intake = some intake →
      intake.interest.isEmpty = false →
      intake.duplicate = .ok descriptor →
      registry.live + registry.spent = registry.limit →
      Step registry
        (.called call []
          (.register
            (.error
              { error := registry.fullError, registration := none })))
        registry
  | unowned {registry : Registry} {call : Call} {intake : Intake}
      {descriptor : Fd} {nextPollId : UInt64} :
      call.intake = some intake →
      intake.interest.isEmpty = false →
      intake.duplicate = .ok descriptor →
      registry.live + registry.spent < registry.limit →
      registry.owner = none →
      draw registry.nextPollId = (none, nextPollId) →
      Step registry
        (.called call []
          (.register
            (.error { error := .invariant, registration := none })))
        { registry with nextPollId }
  | registered {registry : Registry} {call : Call} {intake : Intake}
      {descriptor : Fd} {registration : Registration} {answer : Answer}
      {nextPollId : UInt64} :
      call.intake = some intake →
      intake.interest.isEmpty = false →
      intake.duplicate = .ok descriptor →
      registry.live + registry.spent < registry.limit →
      (registry.owner = some registration.owner ∧
          nextPollId = registry.nextPollId ∨
        registry.owner = none ∧
          draw registry.nextPollId =
            (some registration.owner, nextPollId)) →
      registry.records registration.id = none →
      Step registry
        (.called call
          [.register
            { descriptor
              registration := registration.id
              key := intake.key
              interest := intake.interest
              mode := intake.mode }
            answer]
          (.register (registerReply registration answer)))
        ((({ registry with
                owner := some registration.owner
                nextPollId } : Registry).put registration.id
            ((intake.record descriptor).afterRegister
              (answerCommit answer))).retireSlot
          registration.id
          ((intake.record descriptor).afterRegister
            (answerCommit answer)))
  | modifyRefused {registry : Registry} {registration : Registration}
      {interest : Interest} {mode : Mode} {error : Error} :
      modifyRefusal registry.owner registration interest
        (registry.stateOf registration.id) = some error →
      Step registry
        (.called (.modify registration interest mode) []
          (.modify (.error error)))
        registry
  | modified {registry : Registry} {registration : Registration}
      {interest : Interest} {mode : Mode} {record : Record}
      {arm : ArmState} {answer : Answer} :
      modifyRefusal registry.owner registration interest
        (registry.stateOf registration.id) = none →
      registry.records registration.id = some record →
      record.state = .registered arm →
      Step registry
        (.called (.modify registration interest mode)
          [.modify
            { descriptor := record.descriptor
              registration := registration.id
              previousInterest := record.interest
              previousMode := record.mode
              previousArm := arm
              desiredInterest := interest
              desiredMode := mode }
            answer]
          (.modify (modifyReply answer)))
        (registry.put registration.id
          (record.afterModify interest mode (answerCommit answer)))
  | deleteRefused {registry : Registry} {registration : Registration}
      {error : Error} :
      deleteRefusal registry.owner registration
        (registry.stateOf registration.id) = some error →
      Step registry
        (.called (.delete registration) []
          (.delete (.error { error, registration })))
        registry
  | deleted {registry : Registry} {registration : Registration}
      {record : Record} {answer : Answer} :
      deleteRefusal registry.owner registration
        (registry.stateOf registration.id) = none →
      registry.records registration.id = some record →
      Step registry
        (.called (.delete registration)
          [.delete
            { descriptor := record.descriptor
              registration := registration.id
              interest := record.interest
              state := record.state }
            answer]
          (.delete (deleteReply registration answer)))
        ((registry.put registration.id
            (record.afterDelete (answerCommit answer))).retireSlot
          registration.id (record.afterDelete (answerCommit answer)))
  | queried {registry : Registry} {registration : Registration} :
      Step registry
        (.called (.registrationState registration) []
          (.registrationState
            (if registry.owner = some registration.owner then
              okOr (registry.stateOf registration.id)
                (.stale registration.id)
            else .error (.wrongPoller registration.id))))
        registry
  | elsewhere {registry : Registry} {nextPollId : UInt64} :
      Step registry (.elsewhere nextPollId) { registry with nextPollId }
  | disarmed {registry : Registry} {id : RegistrationId}
      {commit : CommitStatus} {record : Record} :
      registry.records id = some record →
      record.mode = .oneShot →
      record.state = .registered .armed →
      Step registry (.disarmed id commit)
        (registry.put id (some (record.afterDisarm commit)))
  | notDisarmed {registry : Registry} {id : RegistrationId}
      {commit : CommitStatus} :
      (∀ record, registry.records id = some record →
        ¬ (record.mode = .oneShot ∧ record.state = .registered .armed)) →
      Step registry (.disarmed id commit) registry

end Registry

/-! ## Concrete runs -/

def Entry.record (entry : Entry) : Record :=
  { descriptor := entry.descriptor.asFd
    key := entry.key
    interest := entry.interest
    mode := entry.mode
    state := entry.state }

namespace MutationSession

variable {σ τ : Type*}

/-- One happening of a poller over a driver. -/
inductive Step (backend : MutationDriver σ) :
    MutationSession σ → Happening → MutationSession σ → Prop
  | called {before after : MutationSession σ} {request : Call}
      {exchanges : List Exchange} {reply : Reply} :
      call backend.logged (before.withDriver (before.driver, []))
          request =
        (after.withDriver (after.driver, exchanges), reply) →
      Step backend before (.called request exchanges reply) after
  | elsewhere {before : MutationSession σ} (nextPollId : UInt64) :
      Step backend before (.elsewhere nextPollId)
        { before with nextPollId }
  | disarmed {before : MutationSession σ} (id : RegistrationId)
      (commit : CommitStatus) :
      Step backend before (.disarmed id commit)
        { before with
          registrations :=
            (before.registrations.applyDisarm id commit).1 }

/-- The registry that a session represents. -/
def registry (session : MutationSession σ) : Registry :=
  { limit := session.registrations.limit.val
    owner := session.owner.current
    nextPollId := session.nextPollId
    records := fun id =>
      (session.registrations.lookup id).map Entry.record
    spent := session.registrations.exhausted }

theorem registry_live
    {session : MutationSession σ}
    (wellFormed : session.registrations.WellFormed) :
    session.registry.live = session.registrations.live := by
  rw [← wellFormed.ncard_lookup]
  unfold Registry.live registry
  congr 1
  ext id
  simp

theorem registry_records
    {session : MutationSession σ} {id : RegistrationId} {entry : Entry}
    (present : session.registrations.lookup id = some entry) :
    session.registry.records id = some entry.record := by
  simp only [registry, present, Option.map_some]

theorem registry_stateOf
    (session : MutationSession σ) (id : RegistrationId) :
    session.registry.stateOf id =
      (session.registrations.lookup id).map Entry.state := by
  simp only [Registry.stateOf, registry, Option.map_map]
  rfl

/-! ## Simulation -/

theorem assignFrom_draw
    {owner assigned : PollOwner} {next after : UInt64}
    {result : Except Error PollId}
    (drawn : owner.assignFrom next = (assigned, after, result)) :
    Registry.draw next = (result.toOption, after) := by
  unfold PollOwner.assignFrom at drawn
  unfold Registry.draw
  split at drawn
  · rename_i full
    cases drawn
    exact if_pos full
  · rename_i notFull
    rw [if_neg notFull]
    split at drawn
    · rename_i zero
      cases drawn
      exact if_pos zero
    · rename_i nonzero
      cases drawn
      exact if_neg nonzero

theorem registerSettlement_remaining
    (entry : Entry) (commit : CommitStatus) :
    ((registerSettlement commit).remaining entry).map Entry.record =
      entry.record.afterRegister commit := by
  cases commit <;> rfl

theorem deleteSettlement_remaining
    (entry : Entry) (commit : CommitStatus) :
    ((deleteSettlement commit).remaining entry).map Entry.record =
      entry.record.afterDelete commit := by
  cases commit <;> rfl

theorem modifyWritten_record
    (interest : Interest) (mode : Mode) (entry : Entry)
    (commit : CommitStatus) :
    some
        (RegistrationTable.modifyWritten interest mode entry
          commit).record =
      entry.record.afterModify interest mode commit := by
  cases commit <;> rfl

/-- A settled lease is one update of the registry. -/
theorem registry_settle
    {lease : SlotLease} {id : RegistrationId} {entry : Entry}
    {session : MutationSession σ} (settlement : Settlement)
    (wellFormed : lease.table.WellFormed)
    (holds : lease.Holds id entry)
    (lookup : ∀ other, other ≠ id →
      lease.table.lookup other = session.registrations.lookup other)
    (limit : lease.table.limit = session.registrations.limit)
    (exhausted : lease.table.exhausted = session.registrations.exhausted)
    (nextPollId : UInt64) (owner : PollOwner) (driver : τ) :
    MutationSession.registry
        { nextPollId, owner, driver
          registrations := (lease.settle settlement).1 } =
      ((({ session.registry with
              owner := owner.current
              nextPollId } : Registry).put id
          ((settlement.remaining entry).map Entry.record)).retireSlot id
        ((settlement.remaining entry).map Entry.record)) := by
  have limits :=
    RegistrationTable.Moves.limit_eq
      (RegistrationTable.settle_moves holds settlement)
  simp only [registry, Registry.put, Registry.retireSlot,
    Registry.mk.injEq, true_and]
  refine ⟨?_, ?_, ?_⟩
  · rw [limits, limit]
  · funext other
    rw [wellFormed.settle_lookup holds]
    by_cases same : other = id
    · rw [if_pos same, if_pos same]
    · rw [if_neg same, if_neg same, lookup other same]
  · rw [wellFormed.settle_exhausted holds, exhausted]
    cases settlement <;> rfl

/-- A settled modification is one update of the registry. -/
theorem registry_modifySettled
    {session : MutationSession σ} {id : RegistrationId} {entry : Entry}
    (present : session.registrations.lookup id = some entry)
    (interest : Interest) (mode : Mode) (commit : CommitStatus)
    (driver : τ) :
    MutationSession.registry
        { nextPollId := session.nextPollId
          owner := session.owner
          registrations :=
            session.registrations.modifySettled id interest mode commit
          driver } =
      session.registry.put id
        (entry.record.afterModify interest mode commit) := by
  have limits :=
    RegistrationTable.Moves.limit_eq
      (RegistrationTable.modifySettled_moves session.registrations id
        interest mode commit)
  simp only [registry, Registry.put, Registry.mk.injEq, true_and]
  refine ⟨?_, ?_, ?_⟩
  · rw [limits]
  · funext other
    rw [RegistrationTable.modifySettled_lookup present]
    by_cases same : other = id
    · rw [if_pos same, if_pos same, Option.map_some,
        modifyWritten_record]
    · rw [if_neg same, if_neg same]
  · rw [RegistrationTable.modifySettled_exhausted]

theorem registrationState_eq
    (owner : Option PollId) (table : RegistrationTable)
    (registration : Registration) :
    registrationState owner table registration =
      if owner = some registration.owner then
        okOr ((table.lookup registration.id).map Entry.state)
          (.stale registration.id)
      else .error (.wrongPoller registration.id) := by
  unfold registrationState requireOwner
  split
  · rename_i error foreign
    split at foreign
    · cases foreign
    · cases foreign
      rename_i different
      rw [if_neg different]
  · rename_i own
    split at own
    · rename_i same
      rw [if_pos same, RegistrationTable.state_eq]
      cases table.lookup registration.id <;> rfl
    · cases own

theorem Effect.simulates
    {backend : MutationDriver σ}
    {session : MutationSession (σ × List Exchange)}
    {request : Call} {result : MutationSession (σ × List Exchange) × Reply}
    (wellFormed : session.registrations.WellFormed)
    (quiet : session.driver.2 = [])
    (effect : Effect backend.logged session request result) :
    Registry.Step session.registry
      (.called request result.1.driver.2 result.2)
      result.1.registry := by
  cases effect with
  | invalidInterest taken noInterest =>
      rw [quiet]
      exact Registry.Step.invalidInterest taken noInterest
  | duplicationFailed taken interested failed =>
      rw [quiet]
      exact Registry.Step.duplicationFailed taken interested failed
  | modifyRefused refused =>
      rw [quiet]
      exact Registry.Step.modifyRefused (by
        rw [registry_stateOf]
        exact refused)
  | deleteRefused refused =>
      rw [quiet]
      exact Registry.Step.deleteRefused (by
        rw [registry_stateOf]
        exact refused)
  | @queried registration =>
      rw [quiet]
      rw [registrationState_eq, ← registry_stateOf]
      exact Registry.Step.queried
  | registering taken interested duplicated registers =>
      cases registers with
      | full full =>
          rw [quiet]
          rw [← registry_live wellFormed] at full
          exact Registry.Step.full taken interested duplicated full
      | unowned nextPollId room vacant drawn =>
          rw [quiet]
          rw [← registry_live wellFormed] at room
          exact Registry.Step.unowned taken interested duplicated room
            vacant (assignFrom_draw drawn)
      | answered owner nextPollId registration lease driver answer room
          assigned reserves moves exhausted asked =>
          rw [← registry_live wellFormed] at room
          obtain ⟨held, before⟩ := PollOwner.getOrAssign_ok assigned
          have source := before.imp_right fun (drawn : _ ∧ _) =>
            And.intro drawn.1 (assignFrom_draw drawn.2)
          have settled :=
            registry_settle (registerSettlement (answerCommit answer))
              (wellFormed.moves moves) reserves.holds
              (fun other different => by
                rw [reserves.lookup, if_neg different])
              reserves.limit exhausted nextPollId owner driver
          rw [registerSettlement_remaining, held] at settled
          simp only [MutationDriver.logged, quiet, List.nil_append,
            Prod.mk.injEq] at asked
          obtain ⟨rfl, answered⟩ := asked
          rw [settled, ← answered]
          exact Registry.Step.registered taken interested duplicated room
            source (by simp [registry, reserves.absent])
  | modified accepted present held asked =>
      simp only [MutationDriver.logged, quiet, List.nil_append,
        Prod.mk.injEq] at asked
      obtain ⟨rfl, answered⟩ := asked
      rw [registry_modifySettled present, ← answered]
      exact Registry.Step.modified (by rw [registry_stateOf]; exact accepted)
        (registry_records present) held
  | deleted accepted same holds asked =>
      simp only [MutationDriver.logged, quiet, List.nil_append,
        Prod.mk.injEq] at asked
      obtain ⟨rfl, answered⟩ := asked
      have present := holds.located.lookup
      rw [same] at present
      rw [registry_settle _ (by rw [same]; exact wellFormed) holds
          (fun other _ => by rw [same]) (by rw [same]) (by rw [same]),
        deleteSettlement_remaining, ← answered]
      exact Registry.Step.deleted (by rw [registry_stateOf]; exact accepted)
        (registry_records present)

theorem Step.moves
    {backend : MutationDriver σ} {before after : MutationSession σ}
    {happening : Happening}
    (wellFormed : before.registrations.WellFormed)
    (step : Step backend before happening after) :
    RegistrationTable.Moves before.registrations after.registrations := by
  cases step with
  | @called _ request exchanges reply performed =>
      have effect :=
        call_effect backend.logged
          (before.withDriver (before.driver, [])) wellFormed request
      rw [performed] at effect
      exact effect.moves
  | elsewhere nextPollId => exact Relation.ReflTransGen.refl
  | disarmed id commit =>
      exact RegistrationTable.applyDisarm_moves _ id commit

theorem registry_applyDisarm
    (session : MutationSession σ) (id : RegistrationId)
    (commit : CommitStatus) :
    Registry.Step session.registry (.disarmed id commit)
      (MutationSession.registry
        { session with
          registrations :=
            (session.registrations.applyDisarm id commit).1 }) := by
  rcases RegistrationTable.applyDisarm_cases session.registrations id
      commit with
    ⟨index, slot, entry, located, ready, result⟩ |
      ⟨entry, present, blocked, result⟩ | ⟨absent, result⟩
  · have written :
        MutationSession.registry
            { session with
              registrations :=
                session.registrations.writeEntry index slot
                  (RegistrationTable.disarmedEntry commit entry) } =
          session.registry.put id
            (some (entry.record.afterDisarm commit)) := by
      simp only [registry, Registry.put, Registry.mk.injEq, true_and]
      refine ⟨rfl, ?_, rfl⟩
      funext other
      rw [RegistrationTable.lookup_writeEntry located]
      by_cases same : other = id
      · rw [if_pos same, if_pos same]
        rfl
      · rw [if_neg same, if_neg same]
    rw [result, written]
    exact Registry.Step.disarmed (registry_records located.lookup)
      ready.1 ready.2
  · rw [result]
    refine Registry.Step.notDisarmed fun record recorded ready => ?_
    simp only [registry, present, Option.map_some, Option.some.injEq]
      at recorded
    subst recorded
    exact blocked ready
  · rw [result]
    refine Registry.Step.notDisarmed fun record recorded _ => ?_
    simp [registry, absent] at recorded

theorem Step.simulates
    {backend : MutationDriver σ} {before after : MutationSession σ}
    {happening : Happening}
    (wellFormed : before.registrations.WellFormed)
    (step : Step backend before happening after) :
    Registry.Step before.registry happening after.registry := by
  cases step with
  | @called _ request exchanges reply performed =>
      have effect :=
        call_effect backend.logged
          (before.withDriver (before.driver, [])) wellFormed request
      rw [performed] at effect
      exact effect.simulates wellFormed rfl
  | elsewhere nextPollId => exact Registry.Step.elsewhere
  | disarmed id commit => exact registry_applyDisarm before id commit

/-- Every run of a new poller over any driver is a run of the abstract
registry with the same calls, requests, answers and replies, and the table
represents the map that this run reaches. -/
theorem run_refines_registry
    {limit : NonZeroUsize} {allocated : Bool}
    {backend : MutationDriver σ} {start finish : MutationSession σ}
    {happenings : List Happening}
    (created :
      RegistrationTable.new limit allocated = .ok start.registrations)
    (run : Execution (Step backend) start happenings finish) :
    Execution Registry.Step
        (Registry.empty limit.val start.owner.current start.nextPollId)
        happenings finish.registry ∧
      finish.registry.live + finish.registry.spent ≤ limit.val := by
  obtain ⟨_, fresh⟩ := RegistrationTable.new_eq_ok created
  let Good : MutationSession σ → Prop := fun session =>
    session.registrations.WellFormed ∧ session.registrations.limit = limit
  have initial : Good start :=
    ⟨RegistrationTable.new_wellFormed created, by rw [fresh]⟩
  have kept : ∀ before happening after,
      Good before → Step backend before happening after → Good after := by
    intro before happening after good step
    have moves := step.moves good.1
    exact ⟨good.1.moves moves,
      (RegistrationTable.Moves.limit_eq moves).trans good.2⟩
  have emptyView :
      start.registry =
        Registry.empty limit.val start.owner.current start.nextPollId := by
    simp only [registry, Registry.empty, Registry.mk.injEq, true_and]
    refine ⟨by rw [fresh], ?_, by rw [fresh]⟩
    funext id
    rw [RegistrationTable.new_lookup created]
    rfl
  constructor
  · rw [← emptyView]
    exact run.simulate registry kept
      (fun _ _ _ good step => step.simulates good.1) initial
  · obtain ⟨wellFormed, limits⟩ := run.invariant Good kept initial
    have within := wellFormed.withinLimit
    rw [limits] at within
    rw [registry_live wellFormed]
    exact wellFormed.live_add_exhausted_le.trans within

/-- A driver that loses track of every deletion. -/
def forgetfulDriver : MutationDriver Unit where
  register := fun _ _ => ((), .ok ())
  modify := fun _ _ => ((), .ok ())
  delete := fun _ _ =>
    ((), .error { commit := .unknown, source := .os 5 })

/-- A new poller with room for one registration. -/
def smallPoller : MutationSession Unit :=
  { nextPollId := 1
    owner := PollOwner.unassigned
    registrations :=
      { limit := ⟨1, Nat.one_pos⟩
        slots := []
        freeHead := freeEnd
        exhausted := 0 }
    driver := () }

/-- The first handle of that poller. -/
def firstHandle : Registration :=
  { owner := ⟨1⟩
    encodedId := RegistrationTable.oneSlotId }

def firstCalls : List Happening :=
  [.called
      (.register (.ok firstDescriptor) ⟨7⟩ Interest.readable .oneShot)
      [.register
        { descriptor := firstDescriptor
          registration := firstHandle.id
          key := ⟨7⟩
          interest := Interest.readable
          mode := .oneShot }
        (.ok ())]
      (.register (.ok firstHandle)),
    .called (.delete firstHandle)
      [.delete
        { descriptor := firstDescriptor
          registration := firstHandle.id
          interest := Interest.readable
          state := .registered .armed }
        (.error { commit := .unknown, source := .os 5 })]
      (.delete
        (.error
          { error :=
              .mutation
                { operation := .delete
                  commit := .unknown
                  source := .os 5 }
            registration := firstHandle }))]

theorem firstCalls_refine :
    ∃ finish,
      Execution Registry.Step (Registry.empty 1 none 1) firstCalls
          finish ∧
        finish.stateOf firstHandle.id = some .uncertain := by
  let table : RegistrationState → RegistrationTable := fun state =>
    { smallPoller.registrations with
      slots :=
        [{ generation := 1
           entry :=
            some
              { Entry.registered (Descriptor.owned firstDescriptor) ⟨7⟩
                  Interest.readable .oneShot with
                state }
           nextFree := freeEnd }] }
  let session : RegistrationState → MutationSession Unit := fun state =>
    { nextPollId := 2
      owner := ⟨1⟩
      registrations := table state
      driver := () }
  have run :
      Execution (Step forgetfulDriver) smallPoller firstCalls
        (session .uncertain) :=
    Execution.cons
      (show Step forgetfulDriver smallPoller _
          (session (.registered .armed)) from Step.called rfl)
      (Execution.cons (Step.called rfl) (Execution.refl _))
  have created :
      RegistrationTable.new ⟨1, Nat.one_pos⟩ true =
        .ok smallPoller.registrations := rfl
  exact ⟨_, (run_refines_registry created run).1, rfl⟩

end MutationSession

end Zio
