import Mathlib.Data.List.Forall2
import Zio.Kqueue.Reduction
import Zio.Kqueue.Run

/-!
# The specification of a kqueue delivery

A wait that answers a list of native records either meets a record that names a
disarmed one-shot registration, or delivers.  A delivery is determined by the
records, the table and the executor's receipts: the events, the submitted
disarms and every change to the table are given here in terms of them.
-/

namespace Zio

variable {Backend : Type*}

/-! ## The records of a wait -/

/-- Detach and normalize every native record. -/
def Decoded
    (target : KqueueTarget) (kevents : List Kevent)
    (raws : List RawEvent) : Prop :=
  List.Forall₂
    (fun kevent raw => (rawKevent target kevent).map rawEvent = some raw)
    kevents raws

theorem KeventBatch.wait_ok
    {self raw : KeventBatch} {kevents : List Kevent} {observed : Nat}
    (large : self.arena.eventCapacity ≤ self.arena.storage.length)
    (waited : self.wait (.ok kevents) = (raw, .ok observed)) :
    observed = kevents.length ∧
      ∀ target index,
        raw.event target index observed =
          kevents[index]?.bind (rawKevent target) := by
  unfold KeventBatch.wait at waited
  simp only at waited
  split at waited
  · cases waited
  · rename_i fits
    cases waited
    refine ⟨rfl, fun target index => ?_⟩
    simp only [KeventBatch.event]
    by_cases inside : index < kevents.length
    · rw [if_neg (by simp; omega), List.getElem?_take,
        if_pos (by omega), List.getElem?_append_left inside,
        List.getElem?_eq_getElem inside]
      rfl
    · rw [if_pos (Or.inr (Nat.not_lt.mp inside)),
        List.getElem?_eq_none (Nat.not_lt.mp inside)]
      rfl

theorem KeventBatch.wait_fits
    {self : KeventBatch} {kevents : List Kevent}
    (fits : kevents.length ≤ self.arena.eventCapacity) :
    ∃ raw, self.wait (.ok kevents) = (raw, .ok kevents.length) := by
  unfold KeventBatch.wait
  simp only
  rw [if_neg (Nat.not_lt.mpr fits)]
  exact ⟨_, rfl⟩

/-- The records that a translation decoded are the records of the wait. -/
theorem decoded_of_wait
    {target : KqueueTarget} {self : KqueueBatch} {raw : KeventBatch}
    {kevents : List Kevent} {observed : Nat} {raws : List RawEvent}
    (large : self.raw.arena.eventCapacity ≤ self.raw.arena.storage.length)
    (waited : self.raw.wait (.ok kevents) = (raw, .ok observed))
    (decoded :
      List.Forall₂
        (fun index event =>
          KqueueBatch.event target { self with raw } index observed =
            some event)
        (List.range observed) raws) :
    Decoded target kevents raws := by
  obtain ⟨rfl, events⟩ := KeventBatch.wait_ok large waited
  rw [List.forall₂_iff_get] at decoded
  obtain ⟨sameLength, each⟩ := decoded
  rw [List.length_range] at sameLength
  refine List.forall₂_iff_get.mpr ⟨sameLength, ?_⟩
  intro index inside insideRaws
  have decodedAt := each index (by simpa using inside) insideRaws
  simp only [List.get_eq_getElem, List.getElem_range,
    KqueueBatch.event] at decodedAt ⊢
  rw [events, List.getElem?_eq_getElem inside] at decodedAt
  exact decodedAt

/-- A record that fits a descriptor is decoded. -/
theorem event_of_wait
    {target : KqueueTarget} {self : KqueueBatch} {raw : KeventBatch}
    {kevents : List Kevent} {observed index : Nat}
    (large : self.raw.arena.eventCapacity ≤ self.raw.arena.storage.length)
    (waited : self.raw.wait (.ok kevents) = (raw, .ok observed))
    (fits : ∀ kevent ∈ kevents, rawFdOfIdent kevent.ident ≠ none)
    (inside : index < observed) :
    KqueueBatch.event target { self with raw } index observed ≠ none := by
  obtain ⟨rfl, decodes⟩ := KeventBatch.wait_ok large waited
  intro undecoded
  simp only [KqueueBatch.event, decodes,
    List.getElem?_eq_getElem inside, Option.map_eq_none_iff] at undecoded
  have known := fits kevents[index] (List.getElem_mem inside)
  simp only [Option.bind_some, rawKevent] at undecoded
  split at undecoded
  · rename_i unfit
    exact known unfit
  · cases undecoded

/-! ## Success -/

/-- Every resource record keeps the token of its native record. -/
theorem Decoded.token
    {target : KqueueTarget} {kevents : List Kevent} {raws : List RawEvent}
    (decoded : Decoded target kevents raws) {raw : RawEvent}
    (member : raw ∈ raws) (resource : raw.control = false) :
    ∃ kevent ∈ kevents, kevent.udata = raw.token := by
  induction decoded with
  | nil => cases member
  | @cons kevent first kevents raws decodes _ inductionHypothesis =>
      rcases List.mem_cons.mp member with rfl | later
      · refine ⟨kevent, List.mem_cons_self .., ?_⟩
        obtain ⟨detached, detaches, rfl⟩ := Option.map_eq_some_iff.mp decodes
        have udata : detached.token = kevent.udata := by
          unfold rawKevent at detaches
          split at detaches
          · cases detaches
          · cases detaches
            rfl
        unfold rawEvent at resource ⊢
        split
        · rename_i wake
          rw [if_pos wake] at resource
          cases resource
        · exact udata.symm
      · obtain ⟨found, inRest, same⟩ := inductionHypothesis later
        exact ⟨found, List.mem_cons_of_mem _ inRest, same⟩

/-- The registration of a counted record is named by a native record. -/
theorem Decoded.resource
    {target : KqueueTarget} {kevents : List Kevent} {raws : List RawEvent}
    (decoded : Decoded target kevents raws) {table : RegistrationTable}
    {id : RegistrationId}
    (member : id ∈ (resourcesOf table raws).map Prod.fst) :
    ∃ kevent ∈ kevents, id = ⟨kevent.udata⟩ := by
  obtain ⟨⟨named, readiness⟩, inResources, rfl⟩ := List.mem_map.mp member
  obtain ⟨raw, inRaws, counted⟩ := List.mem_filterMap.mp inResources
  unfold resourceOf at counted
  split at counted
  · cases counted
  · rename_i resource
    split at counted
    · cases counted
    · rename_i observation found
      split at counted
      · cases counted
      · cases counted
        obtain ⟨_, _, _, _, identity⟩ := resolve_located found
        obtain ⟨kevent, inKevents, same⟩ :=
          decoded.token inRaws (by simpa using resource)
        exact ⟨kevent, inKevents, by rw [same]; exact identity⟩

/-- The registrations of a collected batch are counted records. -/
theorem Collected.counted
    {target : KqueueTarget} {poll : KqueuePoll Backend} {observed : Nat}
    {raws : List RawEvent} {pending : KqueuePending}
    {batch : List PendingResource}
    (collected : Collected target poll observed raws pending batch)
    {entry : PendingResource} (member : entry ∈ batch) :
    entry.registration ∈
      (resourcesOf poll.registrations raws).map Prod.fst := by
  have grouped : entry.group ∈
      deliveredGroups poll.registrations poll.eventCapacity.val raws := by
    rw [← collected.groups]
    exact List.mem_map.mpr ⟨entry, member, rfl⟩
  obtain ⟨id, inTake, same⟩ := List.mem_map.mp grouped
  have identity : id = entry.registration := congrArg Prod.fst same
  rw [← identity]
  exact List.mem_eraseDups.mp (List.mem_of_mem_take inTake)

/-- A translation of records that name no disarmed registration succeeds. -/
theorem Translates.succeeds
    {target : KqueueTarget}
    {executor : DisarmExecutor (Backend × KeventBatch)}
    {poll after : KqueuePoll Backend} {raw : KeventBatch}
    {kevents : List Kevent} {observed : Nat} {events filled : Events}
    {result : Except Error WaitReport}
    (large : poll.rawEvents.raw.arena.eventCapacity ≤
      poll.rawEvents.raw.arena.storage.length)
    (waited : poll.rawEvents.raw.wait (.ok kevents) = (raw, .ok observed))
    (fits : ∀ kevent ∈ kevents, rawFdOfIdent kevent.ident ≠ none)
    (quiet : ∀ kevent ∈ kevents, ∀ entry,
      poll.registrations.lookup ⟨kevent.udata⟩ = some entry →
        entry.state ≠ .registered .disarmed)
    (translates :
      Translates target executor observed
        { poll with rawEvents := { poll.rawEvents with raw } } events
        (after, filled, result)) :
    ∃ report, result = .ok report := by
  cases translates with
  | undecoded inside undecoded _ _ =>
      exact (event_of_wait large waited fits inside undecoded).elim
  | @blocked raws _ batch _ _ _ _ collected _ blocked _ =>
      obtain ⟨entry, member, notReady⟩ := blocked
      refine (notReady fun once => ?_).elim
      obtain ⟨live, arm, present, held⟩ := collected.facts.1 entry member
      have oneShot : live.mode = .oneShot := by
        simpa [oneShotIn, present] using once
      obtain ⟨kevent, inKevents, same⟩ :=
        (decoded_of_wait large waited collected.decoded).resource
          (collected.counted member)
      have awake := quiet kevent inKevents live (same ▸ present)
      refine ⟨live, present, oneShot, ?_⟩
      cases arm with
      | armed => exact held
      | disarmed => exact (awake held).elim
  | delivered _ _ _ _ _ _ => exact ⟨_, rfl⟩

/-! ### A first poller -/

/-- A new poller for two registrations and two events. -/
def firstKqueue : KqueuePoll Unit :=
  { nextPollId := 1
    owner := PollOwner.unassigned
    backend := ()
    rawEvents :=
      { raw :=
          { arena :=
              { storage := List.replicate 8 emptyKevent
                eventCapacity := 5
                changeCapacity := 4 }
            observed := 0
            receipts := 0 }
        disarms :=
          { planCapacity := 2
            changeCapacity := 4
            changeLen := 0
            plans := [] } }
    registrations :=
      { limit := ⟨2, Nat.two_pos⟩
        slots := []
        freeHead := freeEnd
        exhausted := 0 }
    eventCapacity := ⟨2, Nat.two_pos⟩
    wakeKey := none
    pending :=
      { capacity := ⟨2, Nat.two_pos⟩
        entries := []
        bySlot := [pendingEmpty, pendingEmpty] } }

/-- A driver that accepts everything. -/
def acceptingDriver : MutationDriver Unit :=
  { register := fun state _ => (state, .ok ())
    modify := fun state _ => (state, .ok ())
    delete := fun state _ => (state, .ok ()) }

/-- The poller after a one-shot registration of descriptor 3. -/
def firstRegistered : KqueuePoll Unit :=
  (firstKqueue.call acceptingDriver
    (.register (.ok firstDescriptor) ⟨7⟩ Interest.readable .oneShot)).1

theorem firstRegistered_reachable :
    KqueuePoll.Reachable .macos firstRegistered :=
  ⟨1, 2, 2, .ok (), true, true, true, true, true, firstKqueue, _, rfl,
    .cons (.called acceptingDriver _) (.refl _)⟩

/-- A readable record of that registration. -/
def firstReadable : Kevent :=
  { ident := 3, filter := -1, flags := 0, fflags := 0, data := 0
    udata := 0x100000001 }

/-- An empty destination for two events. -/
def firstEvents : Events :=
  { capacity := ⟨2, Nat.two_pos⟩, deliveries := [], address := ⟨8, by decide⟩
    native := [] }

/-- No wait trips its own checks: whatever the executor does, a wait whose
records fit descriptors and name no disarmed one-shot registration succeeds. -/
theorem KqueuePoll.Reachable.wait_succeeds
    {target : KqueueTarget} {poll : KqueuePoll Backend}
    (reachable : KqueuePoll.Reachable target poll)
    (executor : DisarmExecutor (Backend × KeventBatch))
    (kevents : List Kevent)
    (inside : kevents.length ≤ poll.rawEvents.raw.arena.eventCapacity)
    (fits : ∀ kevent ∈ kevents, rawFdOfIdent kevent.ident ≠ none)
    (quiet : ∀ kevent ∈ kevents, ∀ entry,
      poll.registrations.lookup ⟨kevent.udata⟩ = some entry →
        entry.state ≠ .registered .disarmed)
    (events : Events)
    (large : poll.eventCapacity.val ≤ events.capacity.val) :
    (∃ report,
        (translateKqueue target executor kevents.length
          (KqueuePoll.nativeWait (.ok kevents) poll events.clear).1
          events.clear).2.2 = .ok report) ∧
      ∃ report,
        (KqueuePoll.wait target executor (.ok kevents) poll
          events).2.2 = .ok report := by
  have sound := reachable.sound
  obtain ⟨raw, waited⟩ := KeventBatch.wait_fits inside
  constructor
  · have waitedSound := sound.nativeWait (.ok kevents) events.clear
    have translates :=
      translateKqueue_translates target executor kevents.length
        waitedSound (show events.clear.deliveries = [] from rfl) large
    simp only [KqueuePoll.nativeWait, waited] at translates ⊢
    exact translates.succeeds sound.arena waited fits quiet
  · have performs := sound.wait target executor (.ok kevents) events
    rcases performed : KqueuePoll.wait target executor (.ok kevents) poll
        events with ⟨after, filled, result⟩
    rw [performed] at performs
    cases performs with
    | small small => omega
    | failed _ failed =>
        rw [waited] at failed
        cases failed
    | translated _ again translates =>
        exact translates.succeeds sound.arena again fits quiet

/-- A submission that fails as a whole. -/
def failingExecutor : DisarmExecutor (Unit × KeventBatch) :=
  { apply := fun state _ => (state, .unknown (.os 5))
    receipt := fun _ _ _ _ => .applied }

theorem firstRegistered_succeeds :
    (∃ report,
        (translateKqueue .macos failingExecutor 1
          (KqueuePoll.nativeWait (.ok [firstReadable]) firstRegistered
            firstEvents.clear).1 firstEvents.clear).2.2 = .ok report) ∧
      ∃ report,
        (KqueuePoll.wait .macos failingExecutor (.ok [firstReadable])
          firstRegistered firstEvents).2.2 = .ok report := by
  refine firstRegistered_reachable.wait_succeeds failingExecutor
    [firstReadable] (by decide) (by decide) ?_ firstEvents (by decide)
  intro kevent member entry present disarmed
  rw [List.mem_singleton.mp member] at present
  have armed :
      (firstRegistered.registrations.lookup
        ⟨firstReadable.udata⟩).map Entry.state =
          some (.registered .armed) := by
    decide
  rw [present, Option.map_some, disarmed] at armed
  cases armed

/-! ## Delivery -/

/-- The delivered registrations: the first distinct ones of the counted records
that fit beside a wake. -/
def deliveredIds
    (table : RegistrationTable) (capacity : Nat) (raws : List RawEvent) :
    List RegistrationId :=
  ((resourcesOf table raws).map Prod.fst).eraseDups.take
    (capacity - (raws.any RawEvent.control).toNat)

/-- What a delivered one-shot registration submits for its disarm. -/
def disarmRequest (table : RegistrationTable) (id : RegistrationId) :
    Option Disarm :=
  match table.lookup id with
  | none => none
  | some entry =>
      if entry.mode = .oneShot then
        some
          { registration := id
            descriptor := entry.descriptor.asRawFd
            interest := entry.interest }
      else
        none

/-- The disarms of the delivered registrations. -/
def deliveredDisarms
    (table : RegistrationTable) (capacity : Nat) (raws : List RawEvent) :
    List Disarm :=
  (deliveredIds table capacity raws).filterMap (disarmRequest table)

/-- Every disarmed registration was armed and is settled by its own status, and
every other one is kept. -/
structure RegistrationTable.Settles
    (before after : RegistrationTable) (disarms : List Disarm)
    (commits : List CommitStatus) : Prop where
  settled :
    List.Forall₂
      (fun disarm commit =>
        ∃ entry, before.lookup disarm.registration = some entry ∧
          entry.state = .registered .armed ∧
          after.lookup disarm.registration =
            some
              { entry with
                state :=
                  (RecoveryOutcome.new disarm.registration
                    commit).state })
      disarms commits
  kept : ∀ id, id ∉ disarms.map Disarm.registration →
    after.lookup id = before.lookup id

/-- What a delivery of normalized records does.  `native` is the storage as the
kernel has written it. -/
structure KqueuePoll.Specified
    (executor : DisarmExecutor (Backend × KeventBatch))
    (before : KqueuePoll Backend) (native : KeventBatch)
    (raws : List RawEvent) (after : KqueuePoll Backend) (events : Events)
    (report : WaitReport) : Prop where
  resources :
    ∃ resources,
      List.Forall₂
          (fun id delivery =>
            ∃ entry, before.registrations.lookup id = some entry ∧
              delivery =
                { event :=
                    .resource entry.key
                      (Grouping.total Readiness.union Readiness.empty
                        (resourcesOf before.registrations raws) id)
                  source := some id })
          (deliveredIds before.registrations before.eventCapacity.val raws)
          resources ∧
        events.deliveries =
          resources ++
            wakeDeliveries (raws.any RawEvent.control) before.wakeKey
  bounded : events.deliveries.length ≤ before.eventCapacity.val
  submitted :
    let disarms :=
      deliveredDisarms before.registrations before.eventCapacity.val raws
    ∃ commits source,
      DisarmBatch.Submission executor (before.backend, native) disarms
          (after.backend, after.rawEvents.raw) commits source ∧
        before.registrations.Settles after.registrations disarms commits ∧
        after.rawEvents.disarms.plans =
          List.zipWith (fun disarm commit => { disarm.plan with commit })
            disarms commits ∧
        (source = none ↔ ∀ commit ∈ commits, commit = .applied) ∧
        report =
          { recovery :=
              source.map fun source =>
                { operation := .disarm
                  outcomes :=
                    List.zipWith
                      (fun disarm commit =>
                        RecoveryOutcome.new disarm.registration commit)
                      disarms commits
                  source } }

theorem deliveredGroups_ids
    (table : RegistrationTable) (capacity : Nat) (raws : List RawEvent) :
    (deliveredGroups table capacity raws).map Prod.fst =
      deliveredIds table capacity raws := by
  simp [deliveredGroups, deliveredIds, Function.comp_def]

section Batches

variable {target : KqueueTarget}
  {executor : DisarmExecutor (Backend × KeventBatch)} {observed : Nat}
  {poll : KqueuePoll Backend} {raws : List RawEvent}
  {pending : KqueuePending} {batch : List PendingResource}

theorem Collected.registrations
    (collected : Collected target poll observed raws pending batch) :
    batch.map PendingResource.registration =
      deliveredIds poll.registrations poll.eventCapacity.val raws := by
  rw [← deliveredGroups_ids, ← collected.groups, List.map_map]
  rfl

/-- Every delivered event carries its entry's key and all its hints. -/
theorem Collected.deliveries
    (collected : Collected target poll observed raws pending batch) :
    List.Forall₂
      (fun id delivery =>
        ∃ entry, poll.registrations.lookup id = some entry ∧
          delivery =
            { event :=
                .resource entry.key
                  (Grouping.total Readiness.union Readiness.empty
                    (resourcesOf poll.registrations raws) id)
              source := some id })
      (deliveredIds poll.registrations poll.eventCapacity.val raws)
      (batch.map PendingResource.delivery) := by
  rw [← collected.registrations, List.forall₂_map_left_iff,
    List.forall₂_map_right_iff, List.forall₂_same]
  intro pendingEntry member
  obtain ⟨observation, found, sameKey⟩ :=
    collected.resolved pendingEntry member
  obtain ⟨entry, _, present, _, rfl⟩ :=
    (RegistrationTable.resolve_eq_some_iff _ _ _).1 found
  have grouped : pendingEntry.group ∈
      deliveredGroups poll.registrations poll.eventCapacity.val raws := by
    rw [← collected.groups]
    exact List.mem_map.mpr ⟨pendingEntry, member, rfl⟩
  obtain ⟨id, _, same⟩ := List.mem_map.mp grouped
  simp only [PendingResource.group, Prod.mk.injEq] at same
  obtain ⟨rfl, total⟩ := same
  refine ⟨entry, present, ?_⟩
  rw [total, PendingResource.delivery, sameKey]
  rfl

theorem length_wakeDeliveries (woke : Bool) (wakeKey : Option Key) :
    (wakeDeliveries woke wakeKey).length ≤ woke.toNat := by
  cases woke <;> cases wakeKey <;> simp [wakeDeliveries]

theorem Collected.length_le
    (collected : Collected target poll observed raws pending batch) :
    batch.length + (raws.any RawEvent.control).toNat ≤
      poll.eventCapacity.val := by
  have positive := poll.eventCapacity.property
  have atMostOne := Bool.toNat_le (raws.any RawEvent.control)
  have size := congrArg List.length collected.registrations
  rw [List.length_map, deliveredIds, List.length_take] at size
  omega

/-- The plans of a batch are the requests of its one-shot registrations. -/
theorem plansOf_requests
    (table : RegistrationTable) (batch : List PendingResource) :
    plansOf table batch =
      ((batch.map PendingResource.registration).filterMap
        (disarmRequest table)).map Disarm.plan := by
  rw [plansOf, List.map_filterMap, List.filterMap_map]
  apply List.filterMap_congr
  intro entry _
  simp only [planOf, disarmRequest, Function.comp_apply]
  cases table.lookup entry.registration with
  | none => rfl
  | some live =>
      by_cases once : live.mode = .oneShot
      · simp [once, Disarm.plan]
      · simp [once]

theorem changeTotal_plans (disarms : List Disarm) :
    changeTotal (disarms.map Disarm.plan) =
      (disarms.flatMap Disarm.changes).length := by
  rw [changeTotal, ← flatMap_plan_changes, List.length_flatMap]
  exact congrArg List.sum
    (List.map_congr_left fun plan _ => (Plan.length_changes plan).symm)

theorem Collected.plans
    (collected : Collected target poll observed raws pending batch) :
    plansOf poll.registrations batch =
      (deliveredDisarms poll.registrations poll.eventCapacity.val
        raws).map Disarm.plan := by
  rw [plansOf_requests, collected.registrations]
  rfl

theorem Collected.disarmed
    (collected : Collected target poll observed raws pending batch) :
    oneShots poll.registrations batch =
      (deliveredDisarms poll.registrations poll.eventCapacity.val
        raws).map Disarm.registration := by
  rw [← plansOf_registrations, collected.plans, List.map_map]
  rfl

/-- The executor is asked for exactly the delivered disarms. -/
theorem Collected.submission
    (collected : Collected target poll observed raws pending batch)
    {backend : Backend} {raw : KeventBatch} {disarms : DisarmBatch}
    {submitted : Except IoError Unit}
    (submission :
      (planned poll batch).submit executor
          (poll.backend, poll.rawEvents.raw) =
        (disarms, (backend, raw), submitted)) :
    DisarmBatch.Submission executor (poll.backend, poll.rawEvents.raw)
      (deliveredDisarms poll.registrations poll.eventCapacity.val raws)
      (backend, raw) (provenCommits executor poll batch)
      (resultErr submitted) := by
  refine DisarmBatch.submit_submission collected.plans ?_ submission
  simp only [planned, collected.plans]
  exact changeTotal_plans _

/-- The proven disarms of a batch settle the delivered registrations. -/
theorem Collected.settles
    (collected : Collected target poll observed raws pending batch)
    (ready : ∀ entry ∈ batch, Ready poll.registrations entry) :
    poll.registrations.Settles
      (poll.registrations.applyDisarms
        (provenDisarms executor poll batch))
      (deliveredDisarms poll.registrations poll.eventCapacity.val raws)
      (provenCommits executor poll batch) := by
  obtain ⟨_, distinct⟩ := collected.facts
  constructor
  · apply List.forall₂_iff_zip.mpr
    constructor
    · rw [length_provenCommits, collected.disarmed, List.length_map]
    intro disarm commit member
    have inDisarms : (disarm.registration, commit) ∈
        provenDisarms executor poll batch := by
      rw [provenDisarms, collected.disarmed, List.zip_map_left]
      exact List.mem_map.mpr ⟨(disarm, commit), member, rfl⟩
    have inOneShots : disarm.registration ∈
        oneShots poll.registrations batch := by
      rw [collected.disarmed]
      exact List.mem_map_of_mem (List.of_mem_zip member).1
    obtain ⟨entry, present, disarmable⟩ :=
      oneShots_disarmable ready inOneShots
    refine ⟨entry, present, disarmable.2, ?_⟩
    rw [RegistrationTable.applyDisarms_lookup ?_ inDisarms present
      disarmable]
    · cases commit <;>
        simp [RegistrationTable.disarmedEntry,
          RegistrationTable.disarmedState, RecoveryOutcome.new,
          disarmable.2]
    · rw [provenDisarms_registrations]
      exact oneShots_nodup distinct
  · intro id absent
    rw [RegistrationTable.applyDisarms_other]
    rw [provenDisarms_registrations, collected.disarmed]
    exact absent

end Batches

/-- A successful translation meets the specification of a delivery. -/
theorem Translates.specified
    {target : KqueueTarget}
    {executor : DisarmExecutor (Backend × KeventBatch)}
    {poll after : KqueuePoll Backend} {observed : Nat}
    {events filled : Events} {report : WaitReport}
    (vacant : events.deliveries = [])
    (translates :
      Translates target executor observed poll events
        (after, filled, .ok report)) :
    ∃ raws,
      List.Forall₂
          (fun index event =>
            poll.rawEvents.event target index observed = some event)
          (List.range observed) raws ∧
        poll.Specified executor poll.rawEvents.raw raws after filled
          report := by
  cases translates with
  | @delivered raws pending batch backend raw source disarms submitted
      collected capacity ready submission reported same =>
      refine ⟨raws, collected.decoded, ?_⟩
      refine { resources := ?_, bounded := ?_, submitted := ?_ }
      · exact ⟨_, collected.deliveries, by simp [vacant]⟩
      · have size := collected.length_le
        have wake := length_wakeDeliveries (raws.any RawEvent.control)
          poll.wakeKey
        simp only [vacant, List.nil_append, List.length_append,
          List.length_map]
        omega
      · refine ⟨provenCommits executor poll batch, source, ?_,
          collected.settles ready, ?_, ?_, ?_⟩
        · rw [same]
          exact collected.submission submission
        · simp only [submittedBatch, DisarmBatch.setCommits,
            collected.plans, List.zipWith_map_left]
        · rw [← Option.not_isSome_iff_eq_none, reported]
          simp
        · simp only [provenDisarms, collected.disarmed]
          rw [List.zip_map_left, List.map_map, List.zip,
            List.map_zipWith]
          rfl

/-- A successful wait delivers exactly what its records and the table specify,
asks the executor for exactly the delivered disarms, and settles each by what
the executor answered. -/
theorem KqueuePoll.Reachable.wait_specified
    {target : KqueueTarget} {poll after : KqueuePoll Backend}
    (reachable : KqueuePoll.Reachable target poll)
    {executor : DisarmExecutor (Backend × KeventBatch)}
    {kevents : List Kevent} {events filled : Events} {report : WaitReport}
    (performed :
      KqueuePoll.wait target executor (.ok kevents) poll events =
        (after, filled, .ok report)) :
    ∃ raws, Decoded target kevents raws ∧
      poll.Specified executor (poll.rawEvents.raw.wait (.ok kevents)).1
        raws after filled report := by
  have sound := reachable.sound
  have performs := sound.wait target executor (.ok kevents) events
  rw [performed] at performs
  cases performs with
  | @translated raw observed middle written _ large waited translates =>
      obtain ⟨raws, decoded, specified⟩ :=
        translates.specified (show events.clear.deliveries = [] from rfl)
      rw [waited]
      exact ⟨raws, decoded_of_wait sound.arena waited decoded,
        { specified with }⟩

/-- A submission that applies every change. -/
def applyingExecutor : DisarmExecutor (Unit × KeventBatch) :=
  { apply := fun state _ => (state, .appliedWithoutReceipts)
    receipt := fun _ _ _ _ => .applied }

/-! ### A wait with every kind of settlement -/

/-- A new poller for four registrations and four events. -/
def fourKqueue : KqueuePoll Unit :=
  { firstKqueue with
    rawEvents :=
      { raw :=
          { arena :=
              { storage := List.replicate 16 emptyKevent
                eventCapacity := 9
                changeCapacity := 8 }
            observed := 0
            receipts := 0 }
        disarms :=
          { planCapacity := 4
            changeCapacity := 8
            changeLen := 0
            plans := [] } }
    registrations :=
      { firstKqueue.registrations with limit := ⟨4, by decide⟩ }
    eventCapacity := ⟨4, by decide⟩
    pending :=
      { capacity := ⟨4, by decide⟩
        entries := []
        bySlot := List.replicate 4 pendingEmpty } }

/-- The descriptor after the first one. -/
def secondDescriptor : Fd := ⟨4, by decide⟩

/-- One-shot registrations of four descriptors. -/
def fourCalls : List Call :=
  [.register (.ok firstDescriptor) ⟨7⟩ Interest.both .oneShot,
    .register (.ok secondDescriptor) ⟨8⟩ Interest.readable .oneShot,
    .register (.ok ⟨5, by decide⟩) ⟨9⟩ Interest.writable .oneShot,
    .register (.ok ⟨6, by decide⟩) ⟨10⟩ Interest.readable .oneShot]

/-- The poller after these registrations, with a wake key. -/
def fourRegistered : KqueuePoll Unit :=
  ((fourCalls.foldl
    (fun poll request => (poll.call acceptingDriver request).1)
    fourKqueue).waker ⟨11⟩).1

theorem fourRegistered_reachable :
    KqueuePoll.Reachable .macos fourRegistered :=
  ⟨1, 4, 4, .ok (), true, true, true, true, true, fourKqueue, _, rfl,
    .cons (.called acceptingDriver _) (.cons (.called acceptingDriver _)
      (.cons (.called acceptingDriver _)
        (.cons (.called acceptingDriver _)
          (.cons (.configured _) (.refl _)))))⟩

/-- A record of every registration, one of the wake source, and a late second
filter of the first registration. -/
def fourKevents : List Kevent :=
  [firstReadable,
    { firstReadable with ident := 4, udata := 0x100000002 },
    { firstReadable with ident := 5, filter := -2, udata := 0x100000003 },
    { firstReadable with ident := 6, udata := 0x100000004 },
    { firstReadable with ident := 0, filter := -10, udata := 0 },
    { firstReadable with filter := -2 }]

/-- An executor that returns a receipt for each of four changes. -/
def mixedReceipts : DisarmExecutor (Unit × KeventBatch) :=
  { apply := fun state _ =>
      ((state.1, { state.2 with receipts := 4 }), .receipts 4)
    receipt := fun _ index _ _ =>
      [FilterApply.applied, .unknown (some 5), .notApplied 9,
        .alreadyAbsent].getD index .applied }

/-- An empty destination for four events. -/
def fourSlots : Events :=
  { firstEvents with capacity := ⟨4, by decide⟩ }

def fourWaited : Poll.Observed Unit KqueueBatch KqueuePending :=
  KqueuePoll.wait .macos mixedReceipts (.ok fourKevents) fourRegistered
    fourSlots

/-- Three delivered disarms, settled in three ways; the fourth registration was
not delivered beside the wake. -/
def fourReport : WaitReport :=
  { recovery :=
      some
        { operation := .disarm
          outcomes :=
            [RecoveryOutcome.new ⟨0x100000001⟩ .unknown,
              RecoveryOutcome.new ⟨0x100000002⟩ .notApplied,
              RecoveryOutcome.new ⟨0x100000003⟩ .applied]
          source := .os 5 } }

theorem fourRegistered_specified :
    ∃ raws, Decoded .macos fourKevents raws ∧
      fourRegistered.Specified mixedReceipts
        (fourRegistered.rawEvents.raw.wait (.ok fourKevents)).1 raws
        fourWaited.1 fourWaited.2.1 fourReport := by
  have succeeded : fourWaited.2.2 = .ok fourReport := by rfl
  exact fourRegistered_reachable.wait_specified
    (Prod.ext rfl (Prod.ext rfl succeeded))

example :
    fourWaited.2.1.deliveries.map Delivery.event =
      [.resource ⟨7⟩ (Readiness.readable.union Readiness.writable),
        .resource ⟨8⟩ Readiness.readable,
        .resource ⟨9⟩ Readiness.writable, .wake ⟨11⟩] := by
  rfl

end Zio
