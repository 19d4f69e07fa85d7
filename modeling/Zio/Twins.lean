import Zio.Portable

/-!
# Pollers of the two backends, driven alike

A Linux poller and a kqueue poller that were created with the same sizes
receive the same calls from drivers that answer alike, and the same waits from
kernels that report the same observation: one epoll record for each
registration on one side, one kqueue record for each filter on the other.
Their replies, their deliveries and their tables never differ, up to and
including the first wait that either of them refuses as inconsistent.
-/

namespace Zio

open Transition

variable {Backend Selector : Type*}

/-! ## Drivers that answer alike -/

section Drivers

variable {σ τ : Type*}

/-- The driver that answers every request as in one state. -/
def MutationDriver.frozen (driver : MutationDriver σ) (state : σ) :
    MutationDriver σ :=
  { register := fun _ request => driver.register state request
    modify := fun _ request => driver.modify state request
    delete := fun _ request => driver.delete state request }

/-- A call asks its driver in the state that its session holds, and nowhere
else. -/
theorem MutationSession.call_frozen
    (driver : MutationDriver σ) (session : MutationSession σ)
    (request : Call) :
    session.call (driver.frozen session.driver) request =
      session.call driver request := by
  cases request with
  | register duplicate key interest mode => rfl
  | registerBorrowed lent key interest mode => rfl
  | modify registration interest mode => rfl
  | delete registration => rfl
  | registrationState registration => rfl

/-- In their states, two drivers give every request the same answer. -/
structure MutationDriver.AnswersAlike
    (first : MutationDriver σ) (firstState : σ)
    (second : MutationDriver τ) (secondState : τ) : Prop where
  register : ∀ request,
    (first.register firstState request).2 =
      (second.register secondState request).2
  modify : ∀ request,
    (first.modify firstState request).2 =
      (second.modify secondState request).2
  delete : ∀ request,
    (first.delete firstState request).2 =
      (second.delete secondState request).2

/-- Two drivers side by side, with the answers of the first. -/
def MutationDriver.beside
    (first : MutationDriver σ) (second : MutationDriver τ) :
    MutationDriver (σ × τ) :=
  { register := fun state request =>
      let answered := first.register state.1 request
      ((answered.1, (second.register state.2 request).1), answered.2)
    modify := fun state request =>
      let answered := first.modify state.1 request
      ((answered.1, (second.modify state.2 request).1), answered.2)
    delete := fun state request =>
      let answered := first.delete state.1 request
      ((answered.1, (second.delete state.2 request).1), answered.2) }

variable {first : MutationDriver σ} {second : MutationDriver τ}
  {firstState : σ} {secondState : τ}

theorem MutationDriver.beside_fst
    (first : MutationDriver σ) (second : MutationDriver τ) :
    (first.beside second).Maps first Prod.fst :=
  { register := fun _ _ => rfl
    modify := fun _ _ => rfl
    delete := fun _ _ => rfl }

theorem MutationDriver.AnswersAlike.beside_snd
    (alike : first.AnswersAlike firstState second secondState) :
    ((first.frozen firstState).beside (second.frozen secondState)).Maps
      (second.frozen secondState) Prod.snd :=
  { register := fun _ request => Prod.ext rfl (alike.register request).symm
    modify := fun _ request => Prod.ext rfl (alike.modify request).symm
    delete := fun _ request => Prod.ext rfl (alike.delete request).symm }

/-- Sessions that differ in their drivers only answer a call alike, and still
differ in their drivers only. -/
theorem MutationSession.call_alike
    {session : MutationSession σ} {other : MutationSession τ}
    (alike : first.AnswersAlike session.driver second other.driver)
    (same : session.withDriver () = other.withDriver ())
    (request : Call) :
    (session.call first request).2 = (other.call second request).2 ∧
      (session.call first request).1.withDriver () =
        (other.call second request).1.withDriver () := by
  let both : MutationSession (σ × τ) :=
    session.withDriver (session.driver, other.driver)
  have left := call_map
    (MutationDriver.beside_fst (first.frozen session.driver)
      (second.frozen other.driver)) both request
  have right := call_map alike.beside_snd both request
  have leftSession : both.mapDriver Prod.fst = session := rfl
  have rightSession : both.mapDriver Prod.snd = other :=
    congrArg (fun parts => parts.withDriver other.driver) same
  rw [leftSession, call_frozen] at left
  rw [rightSession, call_frozen] at right
  rw [left, right]
  exact ⟨rfl, rfl⟩

end Drivers

/-! ## Observations -/

/-- What a kernel reports in one wait: the live registrations with their
hints, in the order of their first records, and whether the waker fired. -/
structure Sighting where
  resources : List (RegistrationId × Readiness)
  woke : Bool
deriving DecidableEq, Repr

/-- What epoll records report: each record is one registration. -/
def epollSighting
    (table : RegistrationTable) (records : List EpollEvent) : Sighting :=
  { resources := records.filterMap (recordResource table)
    woke := records.any fun record => record.token = 0 }

/-- What kqueue records report: the records of one registration, one for each
filter, are joined. -/
def keventSighting
    (table : RegistrationTable) (raws : List RawEvent) : Sighting :=
  { resources :=
      Grouping.whole Readiness.union Readiness.empty
        (resourcesOf table raws)
    woke := raws.any RawEvent.control }

/-- Two kernels answer one wait alike: they fail alike, or both report the same
observation within the records that they were offered. -/
inductive SameAnswer
    (target : KqueueTarget) (linux : LinuxPoll Backend)
    (kqueue : KqueuePoll Selector) :
    Except IoError (List EpollEvent) → Except IoError (List Kevent) → Prop
  | failed (source : IoError) :
      SameAnswer target linux kqueue (.error source) (.error source)
  | observed {records : List EpollEvent} {kevents : List Kevent}
      {raws : List RawEvent} :
      records.length ≤ linux.eventCapacity.val →
      kevents.length ≤ kqueue.rawEvents.raw.arena.eventCapacity →
      Decoded target kevents raws →
      epollSighting linux.registrations records =
        keventSighting kqueue.registrations raws →
      SameAnswer target linux kqueue (.ok records) (.ok kevents)

/-! ## Twins -/

section Twins

variable {Raw Pending OtherRaw OtherPending : Type*}

/-- Two pollers that nothing but their backends and their storage tells
apart. -/
structure Twins
    (one : Poll Backend Raw Pending)
    (other : Poll Selector OtherRaw OtherPending) : Prop where
  nextPollId : one.nextPollId = other.nextPollId
  owner : one.owner = other.owner
  registrations : one.registrations = other.registrations
  eventCapacity : one.eventCapacity = other.eventCapacity
  wakeKey : one.wakeKey = other.wakeKey

variable {one : Poll Backend Raw Pending}
  {other : Poll Selector OtherRaw OtherPending}

theorem Twins.refl (poll : Poll Backend Raw Pending) : Twins poll poll :=
  ⟨rfl, rfl, rfl, rfl, rfl⟩

theorem Twins.symm (twins : Twins one other) : Twins other one :=
  { nextPollId := twins.nextPollId.symm
    owner := twins.owner.symm
    registrations := twins.registrations.symm
    eventCapacity := twins.eventCapacity.symm
    wakeKey := twins.wakeKey.symm }

theorem Twins.trans
    {Third ThirdRaw ThirdPending : Type*}
    {third : Poll Third ThirdRaw ThirdPending}
    (twins : Twins one other) (next : Twins other third) :
    Twins one third :=
  { nextPollId := twins.nextPollId.trans next.nextPollId
    owner := twins.owner.trans next.owner
    registrations := twins.registrations.trans next.registrations
    eventCapacity := twins.eventCapacity.trans next.eventCapacity
    wakeKey := twins.wakeKey.trans next.wakeKey }

theorem Twins.disarmed
    (twins : Twins one other)
    (disarms : List (RegistrationId × CommitStatus)) :
    Twins
      { one with registrations := one.registrations.applyDisarms disarms }
      { other with
        registrations := other.registrations.applyDisarms disarms } :=
  { twins with
    registrations := by
      simp only
      rw [twins.registrations] }

theorem Twins.session (twins : Twins one other) :
    one.mutations.withDriver () = other.mutations.withDriver () := by
  unfold Poll.mutations MutationSession.withDriver
  rw [twins.nextPollId, twins.owner, twins.registrations]

/-- What creation fixes of a poller, whatever its backend. -/
structure Poll.Created
    (nextPollId : UInt64) (events registrations : Nat)
    (poll : Poll Backend Raw Pending) : Prop where
  nextPollId : poll.nextPollId = nextPollId
  owner : poll.owner = PollOwner.unassigned
  registrations : ∃ positive : 0 < registrations,
    poll.registrations =
      { limit := ⟨registrations, positive⟩
        slots := []
        freeHead := freeEnd
        exhausted := 0 }
  eventCapacity : poll.eventCapacity.val = events
  wakeKey : poll.wakeKey = none

/-- New pollers with the same sizes are twins. -/
theorem twins_created
    {nextPollId : UInt64} {events registrations : Nat}
    (created : one.Created nextPollId events registrations)
    (otherCreated : other.Created nextPollId events registrations) :
    Twins one other := by
  obtain ⟨_, table⟩ := created.registrations
  obtain ⟨_, otherTable⟩ := otherCreated.registrations
  exact
    { nextPollId := by
        rw [created.nextPollId, otherCreated.nextPollId]
      owner := by rw [created.owner, otherCreated.owner]
      registrations := by rw [table, otherTable]
      eventCapacity := Subtype.ext (by
        rw [created.eventCapacity, otherCreated.eventCapacity])
      wakeKey := by rw [created.wakeKey, otherCreated.wakeKey] }

theorem Twins.call
    (twins : Twins one other)
    {driver : MutationDriver Backend}
    {otherDriver : MutationDriver Selector}
    (alike : driver.AnswersAlike one.backend otherDriver
      other.backend) (request : Call) :
    (one.call driver request).2 =
        (other.call otherDriver request).2 ∧
      Twins (one.call driver request).1
        (other.call otherDriver request).1 := by
  obtain ⟨replies, parts⟩ :=
    @MutationSession.call_alike _ _ _ _ one.mutations other.mutations
      alike twins.session request
  exact ⟨replies,
    { nextPollId := congrArg MutationSession.nextPollId parts
      owner := congrArg MutationSession.owner parts
      registrations := congrArg MutationSession.registrations parts
      eventCapacity := twins.eventCapacity
      wakeKey := twins.wakeKey }⟩

theorem Twins.waker (twins : Twins one other) (key : Key) :
    (one.waker key).2 = (other.waker key).2 ∧
      Twins (one.waker key).1 (other.waker key).1 := by
  unfold Poll.waker
  rw [twins.wakeKey]
  cases other.wakeKey with
  | none => exact ⟨rfl, { twins with wakeKey := rfl }⟩
  | some existing =>
      simp only
      by_cases same : existing = key
      · rw [if_pos same, if_pos same]
        exact ⟨rfl, twins⟩
      · rw [if_neg same, if_neg same]
        exact ⟨rfl, twins⟩

end Twins

section Created

variable {target : KqueueTarget} {linux : LinuxPoll Backend}
  {kqueue : KqueuePoll Selector}

theorem LinuxPoll.created
    {layout : EventLayout} {nextPollId : UInt64}
    {events registrations : Nat} {backend : Except Error Backend}
    {tableAllocated : Bool}
    (created : LinuxPoll.withCapacity layout nextPollId events
      registrations backend tableAllocated = .ok linux) :
    linux.Created nextPollId events registrations := by
  unfold LinuxPoll.withCapacity at created
  split at created
  · split at created
    · rename_i registrationsPositive
      split at created
      · cases created
      · split at created
        · cases created
        · rename_i table tableCreated
          split at created
          · cases created
          · cases created
            exact
              { nextPollId := rfl
                owner := rfl
                registrations := ⟨registrationsPositive,
                  (RegistrationTable.new_eq_ok tableCreated).2⟩
                eventCapacity := rfl
                wakeKey := rfl }
    · cases created
  · cases created

theorem KqueuePoll.created
    {nextPollId : UInt64} {events registrations : Nat}
    {backend : Except Error Selector}
    {arenaAllocated plansAllocated tableAllocated entriesAllocated
      slotsAllocated : Bool}
    (created : KqueuePoll.withCapacity target nextPollId events
      registrations backend arenaAllocated plansAllocated tableAllocated
      entriesAllocated slotsAllocated = .ok kqueue) :
    kqueue.Created nextPollId events registrations := by
  unfold KqueuePoll.withCapacity at created
  split at created
  · split at created
    · rename_i registrationsPositive
      split at created
      · cases created
      · split at created
        · cases created
        · rename_i table tableCreated
          split at created
          · cases created
          · split at created
            · cases created
            · cases created
              exact
                { nextPollId := rfl
                  owner := rfl
                  registrations := ⟨registrationsPositive,
                    (RegistrationTable.new_eq_ok tableCreated).2⟩
                  eventCapacity := rfl
                  wakeKey := rfl }
    · cases created
  · cases created

end Created

/-! ## Waits -/

/-- The events of an observation. -/
def Sighting.deliveries
    (sighting : Sighting) (table : RegistrationTable)
    (wakeKey : Option Key) : List Delivery :=
  sighting.resources.filterMap (groupDelivery table) ++
    wakeDeliveries sighting.woke wakeKey

/-- The one-shot registrations of an observation. -/
def Sighting.oneShots
    (sighting : Sighting) (table : RegistrationTable) :
    List RegistrationId :=
  sighting.resources.filterMap (groupOneShot table)

/-- The table after every one-shot registration of an observation was
disarmed. -/
def Sighting.disarmed
    (sighting : Sighting) (table : RegistrationTable) :
    RegistrationTable :=
  table.applyDisarms
    ((sighting.oneShots table).map fun id => (id, .applied))

/-- What a wait does with an observation, whatever the backend: it refuses an
observation that names a one-shot registration that may not be disarmed, and
otherwise reports every resource and disarms every one-shot registration. -/
inductive Sighting.Reported
    {Raw Pending : Type*} (sighting : Sighting)
    (before : Poll Backend Raw Pending) :
    Poll.Observed Backend Raw Pending → Prop
  | refused {after : Poll Backend Raw Pending} {filled : Events} :
      ¬ before.registrations.Disarms
        (sighting.oneShots before.registrations) →
      filled.deliveries = [] →
      Reported sighting before (after, filled, .error .invariant)
  | delivered {after : Poll Backend Raw Pending} {filled : Events} :
      before.registrations.Disarms
        (sighting.oneShots before.registrations) →
      filled.deliveries =
        sighting.deliveries before.registrations before.wakeKey →
      Twins after
        { before with
          registrations := sighting.disarmed before.registrations } →
      Reported sighting before (after, filled, .ok { recovery := none })

section Waits

variable {target : KqueueTarget} {linux : LinuxPoll Backend}
  {kqueue : KqueuePoll Selector} {events : Events}
  {records : List EpollEvent} {raws : List RawEvent}

/-- A Linux wait reports what its records observe. -/
theorem LinuxPoll.Sound.reports
    (sound : linux.Sound)
    (large : linux.eventCapacity.val ≤ events.capacity.val)
    (short : records.length ≤ linux.eventCapacity.val) :
    (epollSighting linux.registrations records).Reported linux
      (LinuxPoll.wait (.ok records) linux events) := by
  have waited := sound.wait (.ok records) events
  rcases answered : LinuxPoll.wait (.ok records) linux events with
    ⟨after, filled, outcome⟩
  rw [answered] at waited
  have oneShots :
      (epollSighting linux.registrations records).oneShots
          linux.registrations =
        recordOneShots linux.registrations records :=
    record_oneShots records
  cases waited with
  | small small => omega
  | failed impossible => cases impossible
  | translated given translates =>
      cases given
      cases translates with
      | excessive excessive _ => omega
      | blocked blocked _ =>
          rw [← oneShots] at blocked
          exact .refused blocked rfl
      | delivered _ disarms contents =>
          rw [wakeEvent_eq, ← record_deliveries] at contents
          rw [← oneShots] at disarms
          refine .delivered disarms contents ?_
          exact
            { nextPollId := rfl
              owner := rfl
              registrations := by
                simp only [Sighting.disarmed, oneShots, recordDisarms]
              eventCapacity := rfl
              wakeKey := rfl }

theorem Decoded.unique
    {kevents : List Kevent} {others : List RawEvent}
    (decoded : Decoded target kevents raws)
    (again : Decoded target kevents others) : raws = others := by
  refine List.right_unique_forall₂' ?_ decoded again
  intro kevent raw other first second
  rw [first] at second
  exact Option.some.inj second

theorem decoded_fits
    {kevents : List Kevent} (decoded : Decoded target kevents raws) :
    ∀ kevent ∈ kevents, rawFdOfIdent kevent.ident ≠ none := by
  induction decoded with
  | nil =>
      intro kevent member
      cases member
  | @cons first raw kevents raws decodes _ inductionHypothesis =>
      intro kevent member
      rcases List.mem_cons.mp member with rfl | later
      · intro unfit
        simp [rawKevent, unfit] at decodes
      · exact inductionHypothesis kevent later

/-- A collected batch that fits beside the wake is the whole observation. -/
theorem Collected.sighted
    {observed : Nat} {pending : KqueuePending}
    {batch : List PendingResource}
    (collected : Collected target kqueue observed raws pending batch)
    (room :
      (keventSighting kqueue.registrations raws).resources.length +
          (keventSighting kqueue.registrations raws).woke.toNat ≤
        kqueue.eventCapacity.val) :
    batch.map PendingResource.delivery =
        (keventSighting kqueue.registrations raws).resources.filterMap
          (groupDelivery kqueue.registrations) ∧
      oneShots kqueue.registrations batch =
        (keventSighting kqueue.registrations raws).oneShots
          kqueue.registrations := by
  have whole :
      deliveredGroups kqueue.registrations kqueue.eventCapacity.val raws =
        (keventSighting kqueue.registrations raws).resources := by
    simp only [keventSighting] at room ⊢
    exact Grouping.summary_of_room (by omega)
  have groups := collected.groups
  rw [whole] at groups
  rw [batch_deliveries collected.resolved, batch_oneShots, groups]
  exact ⟨rfl, rfl⟩

/-- A kqueue wait whose disarms apply reports what its records observe. -/
theorem KqueuePoll.Sound.reports
    (sound : kqueue.Sound)
    {executor : DisarmExecutor (Selector × KeventBatch)}
    (applies : executor.Applies) {kevents : List Kevent}
    (large : kqueue.eventCapacity.val ≤ events.capacity.val)
    (inside : kevents.length ≤ kqueue.rawEvents.raw.arena.eventCapacity)
    (decoded : Decoded target kevents raws)
    (room :
      (keventSighting kqueue.registrations raws).resources.length +
          (keventSighting kqueue.registrations raws).woke.toNat ≤
        kqueue.eventCapacity.val) :
    (keventSighting kqueue.registrations raws).Reported kqueue
      (KqueuePoll.wait target executor (.ok kevents) kqueue events) := by
  have waited := sound.wait target executor (.ok kevents) events
  obtain ⟨raw, fits⟩ := KeventBatch.wait_fits inside
  rcases answered :
      KqueuePoll.wait target executor (.ok kevents) kqueue events with
    ⟨after, filled, outcome⟩
  rw [answered] at waited
  cases waited with
  | small small => omega
  | failed _ failed =>
      rw [fits] at failed
      cases failed
  | translated _ native translates =>
      rw [fits] at native
      cases native
      cases translates with
      | undecoded inBatch undecoded _ _ =>
          exact (event_of_wait sound.arena fits (decoded_fits decoded)
            inBatch undecoded).elim
      | blocked collected _ blocked _ =>
          have again := decoded_of_wait sound.arena fits collected.decoded
          cases decoded.unique again
          obtain ⟨_, oneShots⟩ := collected.sighted room
          obtain ⟨entry, member, notReady⟩ := blocked
          refine .refused ?_ rfl
          intro disarms
          rw [← oneShots] at disarms
          exact notReady ((ready_iff_disarms collected.facts.2).2 disarms
            entry member)
      | @delivered collectedRaws _ batch backend batchRaw source _ _
          collected _ ready _ reported _ =>
          have again := decoded_of_wait sound.arena fits collected.decoded
          cases decoded.unique again
          obtain ⟨deliveries, oneShots⟩ := collected.sighted room
          have disarms := (ready_iff_disarms collected.facts.2).1 ready
          have noFailure : source = none := by
            rw [← Option.not_isSome_iff_eq_none, reported,
              ← provenDisarms_commits, applies.provenDisarms]
            simp
          rw [noFailure]
          rw [oneShots] at disarms
          refine .delivered disarms ?_ ?_
          · simp only [Poll.settledEvents, deliveries]
            rfl
          · exact
              { nextPollId := rfl
                owner := rfl
                registrations := by
                  simp only [applies.provenDisarms, oneShots,
                    Sighting.disarmed]
                eventCapacity := rfl
                wakeKey := rfl }

/-- Two reports of one observation by twins are the same, and leave twins
unless they refuse it. -/
theorem Sighting.Reported.agree
    {sighting : Sighting} (twins : Twins linux kqueue)
    {onLinux : Poll.Observed Backend EpollBatch Unit}
    {onKqueue : Poll.Observed Selector KqueueBatch KqueuePending}
    (linuxReported : sighting.Reported linux onLinux)
    (kqueueReported : sighting.Reported kqueue onKqueue) :
    onLinux.2.2 = onKqueue.2.2 ∧
      onLinux.2.1.deliveries = onKqueue.2.1.deliveries ∧
      (onLinux.2.2 ≠ .error .invariant →
        Twins onLinux.1 onKqueue.1) := by
  have same := twins.registrations
  cases linuxReported with
  | refused blocked vacant =>
      cases kqueueReported with
      | refused _ otherVacant =>
          exact ⟨rfl, vacant.trans otherVacant.symm,
            fun accepted => (accepted rfl).elim⟩
      | delivered disarms _ _ =>
          rw [same] at blocked
          exact (blocked disarms).elim
  | delivered disarms contents settled =>
      cases kqueueReported with
      | refused blocked _ =>
          rw [same] at disarms
          exact (blocked disarms).elim
      | delivered _ otherContents otherSettled =>
          rw [same, twins.wakeKey, ← otherContents] at contents
          have between := twins.disarmed
            ((sighting.oneShots kqueue.registrations).map
              fun id => (id, .applied))
          unfold Sighting.disarmed at settled otherSettled
          rw [same] at settled between
          exact ⟨rfl, contents,
            fun _ => (settled.trans between).trans otherSettled.symm⟩

/-- The waits of twins agree, and leave twins unless they refuse the
observation as inconsistent. -/
theorem Twins.wait
    (twins : Twins linux kqueue) (linuxSound : linux.Sound)
    (kqueueSound : kqueue.Sound)
    {executor : DisarmExecutor (Selector × KeventBatch)}
    (applies : executor.Applies)
    {linuxAnswer : Except IoError (List EpollEvent)}
    {kqueueAnswer : Except IoError (List Kevent)}
    (same : SameAnswer target linux kqueue linuxAnswer kqueueAnswer)
    {linuxEvents kqueueEvents : Events}
    (sameRoom : linuxEvents.capacity = kqueueEvents.capacity) :
    let onLinux := LinuxPoll.wait linuxAnswer linux linuxEvents
    let onKqueue :=
      KqueuePoll.wait target executor kqueueAnswer kqueue kqueueEvents
    onLinux.2.2 = onKqueue.2.2 ∧
      onLinux.2.1.deliveries = onKqueue.2.1.deliveries ∧
      (onLinux.2.2 ≠ .error .invariant →
        Twins onLinux.1 onKqueue.1) := by
  have sameCapacity := twins.eventCapacity
  by_cases small : linuxEvents.capacity.val < linux.eventCapacity.val
  · have linuxSmall : LinuxPoll.wait linuxAnswer linux linuxEvents =
        (linux, linuxEvents.clear,
          .error (.eventsTooSmall linux.eventCapacity.val
            linuxEvents.capacity.val)) :=
      Poll.waitWith_eq (Poll.observeWith_small small)
    have kqueueWaited :=
      kqueueSound.wait target executor kqueueAnswer kqueueEvents
    rcases answered :
        KqueuePoll.wait target executor kqueueAnswer kqueue kqueueEvents
      with ⟨after, filled, result⟩
    rw [answered] at kqueueWaited
    rw [sameCapacity, sameRoom] at small
    rw [linuxSmall]
    cases kqueueWaited with
    | small _ =>
        simp only [sameCapacity, sameRoom]
        exact ⟨trivial, rfl, fun _ => twins⟩
    | failed large _ => omega
    | translated large _ _ => omega
  · have large : linux.eventCapacity.val ≤ linuxEvents.capacity.val :=
      Nat.not_lt.mp small
    have kqueueLarge :
        kqueue.eventCapacity.val ≤ kqueueEvents.capacity.val := by
      rw [← sameCapacity, ← sameRoom]
      exact large
    cases same with
    | failed source =>
        have linuxWaited := linuxSound.wait (.error source) linuxEvents
        have kqueueWaited :=
          kqueueSound.wait target executor (.error source) kqueueEvents
        rcases linuxAnswered :
            LinuxPoll.wait (.error source) linux linuxEvents with
          ⟨linuxAfter, linuxFilled, linuxResult⟩
        rcases kqueueAnswered :
            KqueuePoll.wait target executor (.error source) kqueue
              kqueueEvents with
          ⟨kqueueAfter, kqueueFilled, kqueueResult⟩
        rw [linuxAnswered] at linuxWaited
        rw [kqueueAnswered] at kqueueWaited
        cases linuxWaited with
        | small small => omega
        | translated impossible _ => cases impossible
        | failed given =>
            cases given
            cases kqueueWaited with
            | small small => omega
            | translated _ impossible _ => cases impossible
            | failed _ given =>
                cases given
                exact ⟨rfl, rfl, fun _ => { twins with }⟩
    | @observed records kevents raws short inside decoded sighted =>
        have reported := linuxSound.reports large short
        have bounded := length_resources linux.registrations records
        have room :
            (epollSighting linux.registrations records).resources.length +
                (epollSighting linux.registrations records).woke.toNat ≤
              linux.eventCapacity.val := by
          simp only [epollSighting]
          omega
        rw [sighted] at reported room
        rw [sameCapacity] at room
        exact reported.agree twins
          (kqueueSound.reports applies kqueueLarge inside decoded room)

end Waits

/-! ## Runs -/

/-- One step of two pollers that are driven alike, with the label of each. -/
inductive Paired
    (target : KqueueTarget) :
    LinuxPoll Backend × KqueuePoll Selector → PollLabel × PollLabel →
      LinuxPoll Backend × KqueuePoll Selector → Prop
  | called {linux : LinuxPoll Backend} {kqueue : KqueuePoll Selector}
      (linuxDriver : MutationDriver Backend)
      (kqueueDriver : MutationDriver Selector) (request : Call) :
      linuxDriver.AnswersAlike linux.backend kqueueDriver kqueue.backend →
      Paired target (linux, kqueue)
        (.called request (linux.call linuxDriver request).2,
          .called request (kqueue.call kqueueDriver request).2)
        ((linux.call linuxDriver request).1,
          (kqueue.call kqueueDriver request).1)
  | configured {linux : LinuxPoll Backend} {kqueue : KqueuePoll Selector}
      (key : Key) :
      Paired target (linux, kqueue)
        (.configured key (linux.waker key).2,
          .configured key (kqueue.waker key).2)
        ((linux.waker key).1, (kqueue.waker key).1)
  | elsewhere {linux : LinuxPoll Backend} {kqueue : KqueuePoll Selector}
      (nextPollId : UInt64) :
      Paired target (linux, kqueue)
        (.elsewhere nextPollId, .elsewhere nextPollId)
        ({ linux with nextPollId }, { kqueue with nextPollId })
  | waited {linux linuxAfter : LinuxPoll Backend}
      {kqueue kqueueAfter : KqueuePoll Selector}
      {executor : BatchExecutor Selector}
      {linuxAnswer : Except IoError (List EpollEvent)}
      {kqueueAnswer : Except IoError (List Kevent)}
      {linuxEvents kqueueEvents linuxFilled kqueueFilled : Events}
      {linuxResult kqueueResult : Except Error WaitReport} :
      executor.toDisarmExecutor.Applies →
      SameAnswer target linux kqueue linuxAnswer kqueueAnswer →
      linuxEvents.capacity = kqueueEvents.capacity →
      LinuxPoll.wait linuxAnswer linux linuxEvents =
        (linuxAfter, linuxFilled, linuxResult) →
      KqueuePoll.wait target executor.toDisarmExecutor kqueueAnswer kqueue
          kqueueEvents =
        (kqueueAfter, kqueueFilled, kqueueResult) →
      Paired target (linux, kqueue)
        (.waited linuxFilled.deliveries linuxResult,
          .waited kqueueFilled.deliveries kqueueResult)
        (linuxAfter, kqueueAfter)

/-- The first poller refuses an observation as inconsistent. -/
def Refuses (labels : PollLabel × PollLabel) : Prop :=
  ∃ deliveries, labels.1 = .waited deliveries (.error .invariant)

/-- Both pollers are as some run of their backend left them. -/
structure SoundPair
    (pair : LinuxPoll Backend × KqueuePoll Selector) : Prop where
  linux : LinuxPoll.Sound pair.1
  kqueue : KqueuePoll.Sound pair.2

section Runs

variable {target : KqueueTarget}
  {before after : LinuxPoll Backend × KqueuePoll Selector}
  {labels : PollLabel × PollLabel}

/-- Each side of a paired step is a step of its backend. -/
theorem Paired.sides (step : Paired target before labels after) :
    Poll.Step LinuxPoll.Waits before.1 labels.1 after.1 ∧
      Poll.Step (KqueuePoll.Waits target) before.2 labels.2 after.2 := by
  cases step with
  | called linuxDriver kqueueDriver request _ =>
      exact ⟨.called linuxDriver request, .called kqueueDriver request⟩
  | configured key => exact ⟨.configured key, .configured key⟩
  | elsewhere nextPollId =>
      exact ⟨.elsewhere nextPollId, .elsewhere nextPollId⟩
  | waited _ _ _ onLinux onKqueue =>
      exact ⟨.waited ⟨_, _, _, onLinux, rfl⟩,
        .waited ⟨_, _, _, _, onKqueue, rfl⟩⟩

theorem Paired.sound
    (sound : SoundPair before) (step : Paired target before labels after) :
    SoundPair after := by
  obtain ⟨onLinux, onKqueue⟩ := step.sides
  exact ⟨sound.linux.step onLinux, sound.kqueue.step onKqueue⟩

/-- A paired step of twins has one label, and leaves twins unless both refuse
the observation. -/
theorem Paired.agree
    (sound : SoundPair before) (twins : Twins before.1 before.2)
    (step : Paired target before labels after) :
    labels.1 = labels.2 ∧
      (¬ Refuses labels → Twins after.1 after.2) := by
  cases step with
  | called linuxDriver kqueueDriver request alike =>
      obtain ⟨replies, settled⟩ := twins.call alike request
      exact ⟨by simp only [replies], fun _ => settled⟩
  | configured key =>
      obtain ⟨results, settled⟩ := twins.waker key
      exact ⟨by simp only [results], fun _ => settled⟩
  | elsewhere nextPollId =>
      exact ⟨rfl, fun _ => { twins with nextPollId := rfl }⟩
  | waited applies same sameRoom onLinux onKqueue =>
      have agree :=
        twins.wait sound.linux sound.kqueue applies same sameRoom
      simp only [onLinux, onKqueue] at agree
      obtain ⟨results, deliveries, settled⟩ := agree
      refine ⟨by simp only [results, deliveries], fun accepted => ?_⟩
      apply settled
      intro refused
      exact accepted ⟨_, by rw [refused]⟩

/-- Created alike and driven alike, the two pollers answer alike at every step
up to and including the first wait that refuses its observation, and remain
twins as long as none does. -/
theorem paired_agree
    {layout : EventLayout} {nextPollId : UInt64}
    {events registrations : Nat} {linuxBackend : Except Error Backend}
    {kqueueBackend : Except Error Selector}
    {linuxAllocated arenaAllocated plansAllocated tableAllocated
      entriesAllocated slotsAllocated : Bool}
    {linux : LinuxPoll Backend} {kqueue : KqueuePoll Selector}
    (linuxCreated : LinuxPoll.withCapacity layout nextPollId events
      registrations linuxBackend linuxAllocated = .ok linux)
    (kqueueCreated : KqueuePoll.withCapacity target nextPollId events
      registrations kqueueBackend arenaAllocated plansAllocated
      tableAllocated entriesAllocated slotsAllocated = .ok kqueue)
    {labels : List (PollLabel × PollLabel)}
    {finish : LinuxPoll Backend × KqueuePoll Selector}
    (run : Execution (Paired target) (linux, kqueue) labels finish) :
    (∀ earlier label later, labels = earlier ++ label :: later →
        (∀ other ∈ earlier, ¬ Refuses other) → label.1 = label.2) ∧
      ((∀ label ∈ labels, ¬ Refuses label) →
        Twins finish.1 finish.2) := by
  have sound : SoundPair (linux, kqueue) :=
    ⟨LinuxPoll.withCapacity_sound linuxCreated,
      KqueuePoll.withCapacity_sound kqueueCreated⟩
  have twins : Twins linux kqueue :=
    twins_created (LinuxPoll.created linuxCreated)
      (KqueuePoll.created kqueueCreated)
  have remain : ∀ {past middle},
      Execution (Paired target) (linux, kqueue) past middle →
      (∀ label ∈ past, ¬ Refuses label) →
        SoundPair middle ∧ Twins middle.1 middle.2 := by
    intro past middle leading accepted
    have still := leading.until_break SoundPair
      (fun pair => Twins pair.1 pair.2) Refuses
      (fun _ _ _ sound step => step.sound sound)
      (fun _ _ _ sound twins step accepted =>
        (step.agree sound twins).2 accepted)
      sound twins
    refine ⟨leading.invariant SoundPair
      (fun _ _ _ sound step => step.sound sound) sound, ?_⟩
    rcases still with held | ⟨label, member, refuses⟩
    · exact held
    · exact (accepted label member refuses).elim
  constructor
  · rintro earlier label later rfl accepted
    obtain ⟨middle, leading, rest⟩ := run.split
    obtain ⟨middleSound, middleTwins⟩ := remain leading accepted
    cases rest with
    | cons step _ => exact (step.agree middleSound middleTwins).1
  · intro accepted
    exact (remain run accepted).2

end Runs

/-- A registration of both directions of descriptor 3, for one delivery. -/
def bothDirections : Call :=
  .register (.ok firstDescriptor) ⟨7⟩
    (Interest.readable.union Interest.writable) .oneShot

/-- The pollers after that registration. -/
def firstPair : LinuxPoll Unit × KqueuePoll Unit :=
  ((firstLinux.call acceptingDriver bothDirections).1,
    (firstKqueue.call acceptingDriver bothDirections).1)

/-- One record of both directions on Linux. -/
def bothRecord : EpollEvent :=
  { events := epollIn ||| epollOut, token := 0x100000001 }

/-- Two records, one for each filter, on kqueue. -/
def bothKevents : List Kevent :=
  [firstReadable, { firstReadable with filter := -2 }]

def applyingBatchExecutor : BatchExecutor Unit :=
  { applyingExecutor with fixed := fun _ _ => rfl }

theorem bothKevents_sameAnswer :
    SameAnswer .macos firstPair.1 firstPair.2 (.ok [bothRecord])
      (.ok bothKevents) := by
  refine @SameAnswer.observed _ _ _ _ _ _ _
    [{ token := 0x100000001
       descriptor := 3
       readiness := Readiness.readable
       control := false },
      { token := 0x100000001
        descriptor := 3
        readiness := Readiness.writable
        control := false }]
    (by decide) (by decide) ?_ (by decide)
  exact .cons rfl (.cons rfl .nil)

theorem firstPair_agree :
    let onLinux := LinuxPoll.wait (.ok [bothRecord]) firstPair.1 firstEvents
    let onKqueue :=
      KqueuePoll.wait .macos applyingExecutor (.ok bothKevents) firstPair.2
        firstEvents
    onLinux.2.1.deliveries =
        [{ event := .resource ⟨7⟩
            (Readiness.readable.union Readiness.writable)
           source := some ⟨0x100000001⟩ }] ∧
      onLinux.2.1.deliveries = onKqueue.2.1.deliveries ∧
      Twins onLinux.1 onKqueue.1 := by
  intro onLinux onKqueue
  have answersAlike : acceptingDriver.AnswersAlike () acceptingDriver () :=
    ⟨fun _ => rfl, fun _ => rfl, fun _ => rfl⟩
  have waited : Paired .macos firstPair
      (.waited onLinux.2.1.deliveries onLinux.2.2,
        .waited onKqueue.2.1.deliveries onKqueue.2.2)
      (onLinux.1, onKqueue.1) :=
    @Paired.waited _ _ _ _ _ _ _ applyingBatchExecutor _ _ firstEvents
      firstEvents onLinux.2.1 onKqueue.2.1 onLinux.2.2 onKqueue.2.2
      (fun _ _ => trivial) bothKevents_sameAnswer rfl rfl rfl
  obtain ⟨sameLabels, twins⟩ := paired_agree firstLinux_created
    (show KqueuePoll.withCapacity .macos 1 2 2 (.ok ()) true true true
      true true = .ok firstKqueue from rfl)
    (.cons (.called acceptingDriver acceptingDriver bothDirections
      answersAlike) (.cons waited (.refl _)))
  have accepted : ∀ replies : Reply × Reply,
      ¬ Refuses (.called bothDirections replies.1,
        .called bothDirections replies.2) := by
    rintro replies ⟨deliveries, impossible⟩
    cases impossible
  have same := sameLabels [_] _ [] rfl (by
    intro other member
    rw [List.mem_singleton.mp member]
    exact accepted (_, _))
  refine ⟨rfl, ?_, twins ?_⟩
  · injection same
  · intro label member
    rcases List.mem_cons.mp member with rfl | last
    · exact accepted (_, _)
    · rw [List.mem_singleton.mp last]
      rintro ⟨deliveries, refused⟩
      injection refused with _ failed
      cases failed

end Zio
