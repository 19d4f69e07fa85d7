import Zio.Kqueue.Specification
import Zio.Linux.Run

/-!
# What both backends promise

One-shot safety holds on either backend against any kernel.  On observations
that both kernels can report, the epoll translation, which disarms record by
record, and the kqueue translation, which coalesces, plans, submits, validates
and commits, are indistinguishable.
-/

namespace Zio

open Transition

variable {Backend Selector : Type*}

/-! ## One-shot safety -/

/-- Both backends are safe for one-shot registrations, whatever the kernels,
the drivers and the disarm executors do. -/
theorem oneShot_safety :
    (∀ {layout nextPollId events registrations backend tableAllocated}
        {start : LinuxPoll Backend},
      LinuxPoll.withCapacity layout nextPollId events registrations backend
          tableAllocated = .ok start →
        Poll.OneShotSafe LinuxPoll.Waits start) ∧
      ∀ {target nextPollId events registrations backend arenaAllocated
          plansAllocated tableAllocated entriesAllocated slotsAllocated}
          {start : KqueuePoll Selector},
        KqueuePoll.withCapacity target nextPollId events registrations
            backend arenaAllocated plansAllocated tableAllocated
            entriesAllocated slotsAllocated = .ok start →
          Poll.OneShotSafe (KqueuePoll.Waits target) start := by
  constructor
  · intro _ _ _ _ _ _ start created
    exact Poll.oneShotSafe (fun _ sound => sound.wellFormed)
      (fun _ _ _ sound step => sound.step step)
      (fun _ _ _ _ sound waits => (waits.settles sound).2)
      (LinuxPoll.withCapacity_sound created)
  · intro _ _ _ _ _ _ _ _ _ _ start created
    exact Poll.oneShotSafe (fun _ sound => sound.wellFormed)
      (fun _ _ _ sound step => sound.step step)
      (fun _ _ _ _ sound waits => (waits.settles sound).2)
      (KqueuePoll.withCapacity_sound created)

/-- A new Linux poller for two registrations and two events. -/
def firstLinux : LinuxPoll Unit :=
  { nextPollId := 1
    owner := PollOwner.unassigned
    backend := ()
    rawEvents :=
      { maxEvents := 2
        capacity := 2
        nativeOffset := 8
        observed := 0
        storageAddress := 0 }
    registrations :=
      { limit := ⟨2, Nat.two_pos⟩
        slots := []
        freeHead := freeEnd
        exhausted := 0 }
    eventCapacity := ⟨2, Nat.two_pos⟩
    wakeKey := none
    pending := () }

theorem firstLinux_created :
    LinuxPoll.withCapacity packedLayout 1 2 2 (.ok ()) true =
      .ok firstLinux := rfl

theorem firstPollers_safe :
    Poll.OneShotSafe LinuxPoll.Waits firstLinux ∧
      ((KqueuePoll.wait .macos applyingExecutor (.ok [firstReadable])
          firstRegistered firstEvents).2.1.deliveries.countP
        fun delivery => delivery.source = some ⟨0x100000001⟩) = 1 := by
  obtain ⟨linuxSafe, kqueueSafe⟩ :=
    @oneShot_safety Unit Unit
  refine ⟨linuxSafe firstLinux_created, ?_⟩
  have safe : Poll.OneShotSafe (KqueuePoll.Waits .macos) firstKqueue :=
    kqueueSafe
      (show KqueuePoll.withCapacity .macos 1 2 2 (.ok ()) true true true
        true true = .ok firstKqueue from rfl)
  have delivered :
      (KqueuePoll.wait .macos applyingExecutor (.ok [firstReadable])
          firstRegistered firstEvents).2.1.deliveries =
        [{ event := .resource ⟨7⟩ Readiness.readable
           source := some ⟨0x100000001⟩ }] := by
    rfl
  have waits : KqueuePoll.Waits .macos firstRegistered
      (KqueuePoll.wait .macos applyingExecutor (.ok [firstReadable])
        firstRegistered firstEvents).2.1.deliveries
      (.ok { recovery := none })
      (KqueuePoll.wait .macos applyingExecutor (.ok [firstReadable])
        firstRegistered firstEvents).1 :=
    ⟨{ applyingExecutor with fixed := fun _ _ => rfl },
      .ok [firstReadable], firstEvents, _, rfl, rfl⟩
  exact safe.single _ firstRegistered _ _ _
    (.cons (.called acceptingDriver _) (.refl _)) (.waited waits)
    ⟨0x100000001⟩
    (Entry.registered (Descriptor.owned firstDescriptor) ⟨7⟩
      Interest.readable .oneShot)
    rfl rfl ⟨_, by rw [delivered]; exact List.mem_singleton_self _, rfl⟩

/-! ## Observations that both kernels report -/

/-- An epoll record and a normalized kqueue record of the same observation:
both are wakes, or both name the same token with the same hints and, where the
token is live, its descriptor. -/
inductive Alike (table : RegistrationTable) : EpollEvent → RawEvent → Prop
  | wake {flags : UInt32} :
      Alike table { events := flags, token := 0 } RawEvent.wake
  | resource {record : EpollEvent} {descriptor : RawFd} :
      record.token ≠ 0 →
      (∀ entry, table.lookup ⟨record.token⟩ = some entry →
        descriptor = entry.descriptor.asRawFd) →
      Alike table record
        { token := record.token
          descriptor
          readiness := fromEpollFlags record.events
          control := false }

/-- The executor reports every disarm as applied. -/
def DisarmExecutor.Applies {ε : Type*} (executor : DisarmExecutor ε) :
    Prop :=
  ∀ state changes,
    match executor.apply state changes with
    | (_, .appliedWithoutReceipts) => True
    | (_, .unknown _) => False
    | (after, .receipts returned) =>
        returned ≤ changes.len ∧
          ∀ index change,
            (executor.receipt after index returned change).satisfied = true

section Alike

variable {table : RegistrationTable} {records : List EpollEvent}
  {raws : List RawEvent}

/-- The registration and the hints of a record that resolves. -/
def recordResource (table : RegistrationTable) (record : EpollEvent) :
    Option (RegistrationId × Readiness) :=
  if record.token = 0 then
    none
  else
    (table.resolve record.token).map fun _ =>
      (⟨record.token⟩, fromEpollFlags record.events)

theorem Alike.resourceOf_eq
    {record : EpollEvent} {raw : RawEvent} (alike : Alike table record raw) :
    resourceOf table raw = recordResource table record := by
  cases alike with
  | wake => simp [resourceOf, recordResource, RawEvent.wake]
  | resource resource matching =>
      cases found : table.resolve record.token with
      | none => simp [resourceOf, recordResource, resource, found]
      | some observation =>
          obtain ⟨entry, _, present, _, rfl⟩ :=
            (RegistrationTable.resolve_eq_some_iff _ _ _).1 found
          simp [resourceOf, recordResource, resource, found,
            Entry.observation, matching entry present]

theorem Alike.control_eq
    {record : EpollEvent} {raw : RawEvent} (alike : Alike table record raw) :
    raw.control = decide (record.token = 0) := by
  cases alike with
  | wake => rfl
  | resource resource _ => simp [resource]

theorem resourcesOf_alike
    (alike : List.Forall₂ (Alike table) records raws) :
    resourcesOf table raws = records.filterMap (recordResource table) := by
  unfold resourcesOf
  induction alike with
  | nil => rfl
  | cons first _ inductionHypothesis =>
      rw [List.filterMap_cons, List.filterMap_cons, first.resourceOf_eq,
        inductionHypothesis]

theorem woke_alike
    (alike : List.Forall₂ (Alike table) records raws) :
    raws.any RawEvent.control =
      records.any fun record => record.token = 0 := by
  induction alike with
  | nil => rfl
  | cons first _ inductionHypothesis =>
      rw [List.any_cons, List.any_cons, first.control_eq,
        inductionHypothesis]

/-- Resources and a wake never outnumber the records. -/
theorem length_resources
    (table : RegistrationTable) (records : List EpollEvent) :
    (records.filterMap (recordResource table)).length +
        (records.any fun record => record.token = 0).toNat ≤
      records.length := by
  induction records with
  | nil => simp
  | cons record rest inductionHypothesis =>
      have atMostOne :=
        Bool.toNat_le (rest.any fun record => record.token = 0)
      by_cases wake : record.token = 0
      · have silent : recordResource table record = none := by
          simp [recordResource, wake]
        rw [List.filterMap_cons, silent]
        simp only [List.any_cons, wake, decide_true, Bool.true_or,
          Bool.toNat_true, List.length_cons]
        omega
      · have shorter :
            ((record :: rest).filterMap (recordResource table)).length ≤
              (rest.filterMap (recordResource table)).length + 1 := by
          cases resource : recordResource table record <;>
            simp [resource]
        simp only [List.any_cons, wake, decide_false, Bool.false_or,
          List.length_cons]
        omega

/-- Records with distinct resource tokens name distinct registrations. -/
theorem resources_nodup
    (distinct : records.Pairwise fun first second =>
      first.token ≠ 0 → first.token ≠ second.token) :
    ((records.filterMap (recordResource table)).map Prod.fst).Nodup := by
  rw [List.map_filterMap]
  refine List.Pairwise.filterMap _ ?_ distinct
  intro first second different firstId firstNamed secondId secondNamed same
  subst same
  have named : ∀ {record : EpollEvent},
      (recordResource table record).map Prod.fst = some firstId →
        record.token ≠ 0 ∧ firstId = ⟨record.token⟩ := by
    intro record named
    obtain ⟨resource, found, rfl⟩ := Option.map_eq_some_iff.mp named
    unfold recordResource at found
    split at found
    · cases found
    · rename_i nonzero
      obtain ⟨_, _, rfl⟩ := Option.map_eq_some_iff.mp found
      exact ⟨nonzero, rfl⟩
  obtain ⟨nonzero, firstSame⟩ := named firstNamed
  obtain ⟨_, secondSame⟩ := named secondNamed
  rw [firstSame] at secondSame
  exact different nonzero (congrArg RegistrationId.raw secondSame)

/-- The groups of a short batch of distinct observations are its resources. -/
theorem deliveredGroups_alike
    (alike : List.Forall₂ (Alike table) records raws)
    (distinct : records.Pairwise fun first second =>
      first.token ≠ 0 → first.token ≠ second.token)
    {capacity : Nat} (short : records.length ≤ capacity) :
    deliveredGroups table capacity raws =
      records.filterMap (recordResource table) := by
  have bounded := length_resources table records
  have unit : ∀ value : Readiness,
      Readiness.union Readiness.empty value = value := by
    intro value
    cases value
    simp [Readiness.union, Readiness.empty]
  have groups :
      deliveredGroups table capacity raws =
        Grouping.summary Readiness.union Readiness.empty
          (capacity - (raws.any RawEvent.control).toNat)
          (resourcesOf table raws) := rfl
  rw [groups, resourcesOf_alike alike, woke_alike alike,
    Grouping.summary_of_nodup unit (resources_nodup distinct) (by omega)]

/-! ## Batches of alike observations -/

/-- The event of one resource of the table. -/
def groupDelivery
    (table : RegistrationTable) (group : RegistrationId × Readiness) :
    Option Delivery :=
  (table.resolve group.1.raw).map fun resource =>
    { event := .resource resource.key group.2, source := some group.1 }

/-- The registration of one resource, when it is one-shot. -/
def groupOneShot
    (table : RegistrationTable) (group : RegistrationId × Readiness) :
    Option RegistrationId :=
  match table.lookup group.1 with
  | none => none
  | some entry => if entry.mode = .oneShot then some group.1 else none

theorem batch_deliveries
    {batch : List PendingResource}
    (resolved : ∀ entry ∈ batch,
      ∃ observation,
        table.resolve entry.registration.raw = some observation ∧
          entry.key = observation.key) :
    batch.map PendingResource.delivery =
      (batch.map PendingResource.group).filterMap
        (groupDelivery table) := by
  rw [List.filterMap_map, ← List.filterMap_eq_map']
  apply List.filterMap_congr
  intro entry member
  obtain ⟨observation, found, sameKey⟩ := resolved entry member
  simp [groupDelivery, PendingResource.group, PendingResource.delivery,
    found, sameKey]

theorem batch_oneShots (batch : List PendingResource) :
    oneShots table batch =
      (batch.map PendingResource.group).filterMap
        (groupOneShot table) := by
  rw [List.filterMap_map]
  induction batch with
  | nil => rfl
  | cons entry rest inductionHypothesis =>
      unfold oneShots at *
      rw [List.filterMap_cons, ← inductionHypothesis]
      cases present : table.lookup entry.registration with
      | none =>
          simp [oneShotIn, groupOneShot, PendingResource.group, present]
      | some live =>
          by_cases once : live.mode = .oneShot
          · simp [oneShotIn, groupOneShot, PendingResource.group, present,
              once]
          · simp [oneShotIn, groupOneShot, PendingResource.group, present,
              once]

theorem record_deliveries (records : List EpollEvent) :
    (records.filterMap (recordResource table)).filterMap
        (groupDelivery table) =
      records.filterMap (recordDelivery table) := by
  rw [List.filterMap_filterMap]
  apply List.filterMap_congr
  intro record _
  by_cases wake : record.token = 0
  · simp [recordResource, recordDelivery, wake]
  · cases found : table.resolve record.token <;>
      simp [recordResource, recordDelivery, groupDelivery, wake, found]

theorem record_oneShots (records : List EpollEvent) :
    (records.filterMap (recordResource table)).filterMap
        (groupOneShot table) =
      recordOneShots table records := by
  rw [List.filterMap_filterMap]
  apply List.filterMap_congr
  intro record _
  by_cases wake : record.token = 0
  · simp [recordResource, recordOneShot, wake]
  · cases found : table.resolve record.token with
    | none => simp [recordResource, recordOneShot, wake, found]
    | some observation =>
        obtain ⟨entry, _, present, _, rfl⟩ :=
          (RegistrationTable.resolve_eq_some_iff _ _ _).1 found
        by_cases once : entry.mode = .oneShot
        · simp [recordResource, recordOneShot, groupOneShot, wake, found,
            present, once, Entry.observation]
        · simp [recordResource, recordOneShot, groupOneShot, wake, found,
            present, once, Entry.observation]

end Alike

/-! ## Submissions that apply -/

theorem DisarmExecutor.Applies.submittedCommits
    {ε : Type*} {executor : DisarmExecutor ε} (applies : executor.Applies)
    (batch : DisarmBatch) (state : ε) :
    batch.submittedCommits executor state =
      List.replicate batch.plans.length .applied := by
  have reported := applies state batch.changes
  unfold DisarmBatch.submittedCommits
  rcases answered : executor.apply state batch.changes with ⟨after, answer⟩
  rw [answered] at reported
  cases answer with
  | appliedWithoutReceipts => rfl
  | unknown error => exact reported.elim
  | receipts returned =>
      have bounded : ¬ returned > batch.changeLen :=
        Nat.not_lt.mpr reported.1
      simp only [if_neg bounded]
      exact DisarmBatch.planCommits_applied reported.2 _ _

theorem DisarmExecutor.Applies.provenDisarms
    {executor : DisarmExecutor (Backend × KeventBatch)}
    (applies : executor.Applies) (poll : KqueuePoll Backend)
    (batch : List PendingResource) :
    provenDisarms executor poll batch =
      (oneShots poll.registrations batch).map fun id => (id, .applied) := by
  have size := length_provenCommits executor poll batch
  have commits := applies.submittedCommits (planned poll batch)
    (poll.backend, poll.rawEvents.raw)
  unfold Zio.provenDisarms
  unfold provenCommits at size ⊢
  rw [commits] at size ⊢
  rw [List.length_replicate] at size
  rw [size]
  generalize oneShots poll.registrations batch = ids
  induction ids with
  | nil => rfl
  | cons id rest inductionHypothesis =>
      rw [List.length_cons, List.replicate_succ, List.zip_cons_cons,
        inductionHypothesis, List.map_cons]

/-! ## The two translations -/

section Translations

variable {target : KqueueTarget} {linux : LinuxPoll Backend}
  {kqueue : KqueuePoll Selector}
  {executor : DisarmExecutor (Selector × KeventBatch)}
  {records : List EpollEvent} {raws : List RawEvent} {observed : Nat}
  {pending : KqueuePending} {batch : List PendingResource}

/-- A collected batch of alike observations is what the records name. -/
theorem Collected.alike
    (collected : Collected target kqueue observed raws pending batch)
    (alike : List.Forall₂ (Alike kqueue.registrations) records raws)
    (distinct : records.Pairwise fun first second =>
      first.token ≠ 0 → first.token ≠ second.token)
    (short : records.length ≤ kqueue.eventCapacity.val) :
    batch.map PendingResource.delivery =
        records.filterMap (recordDelivery kqueue.registrations) ∧
      oneShots kqueue.registrations batch =
        recordOneShots kqueue.registrations records := by
  have groups := collected.groups
  rw [deliveredGroups_alike alike distinct short] at groups
  rw [batch_deliveries collected.resolved, batch_oneShots, groups,
    record_deliveries, record_oneShots]
  exact ⟨rfl, rfl⟩

/-- A batch is deliverable exactly when its one-shot registrations may be
disarmed. -/
theorem ready_iff_disarms
    {table : RegistrationTable} {batch : List PendingResource}
    (distinct : (batch.map PendingResource.registration).Nodup) :
    (∀ entry ∈ batch, Ready table entry) ↔
      table.Disarms (oneShots table batch) := by
  constructor
  · intro ready
    exact ⟨oneShots_nodup distinct,
      fun id member => oneShots_disarmable ready member⟩
  · rintro ⟨_, all⟩ entry member once
    exact all entry.registration
      (List.mem_map.mpr ⟨entry, List.mem_filter.mpr ⟨member, once⟩, rfl⟩)

theorem wakeEvent_eq (woke : Bool) (wakeKey : Option Key) :
    EpollBatch.wakeEvent woke wakeKey = wakeDeliveries woke wakeKey := by
  cases woke <;> cases wakeKey <;> rfl

theorem alike_decoded
    {table : RegistrationTable} {kevents : List Kevent}
    (alike : List.Forall₂
      (fun record kevent => ∃ raw,
        (rawKevent target kevent).map rawEvent = some raw ∧
          Alike table record raw) records kevents)
    (decoded : Decoded target kevents raws) :
    List.Forall₂ (Alike table) records raws := by
  induction alike generalizing raws with
  | nil =>
      cases decoded
      exact .nil
  | cons first _ inductionHypothesis =>
      cases decoded with
      | cons decodes rest =>
          obtain ⟨raw, again, same⟩ := first
          rw [decodes] at again
          cases again
          exact .cons same (inductionHypothesis rest)

theorem alike_fits
    {table : RegistrationTable} {kevents : List Kevent}
    (alike : List.Forall₂
      (fun record kevent => ∃ raw,
        (rawKevent target kevent).map rawEvent = some raw ∧
          Alike table record raw) records kevents) :
    ∀ kevent ∈ kevents, rawFdOfIdent kevent.ident ≠ none := by
  induction alike with
  | nil => simp
  | cons first _ inductionHypothesis =>
      intro kevent member
      rcases List.mem_cons.mp member with rfl | later
      · obtain ⟨_, decodes, _⟩ := first
        intro unfit
        simp [rawKevent, unfit] at decodes
      · exact inductionHypothesis kevent later

/-- On the same observations, with distinct resource tokens and every disarm
applied, the two translations fail together with an empty destination, or
succeed with the same events and the same table. -/
theorem translations_agree
    (linuxReachable : LinuxPoll.Reachable linux)
    (kqueueReachable : KqueuePoll.Reachable target kqueue)
    (sameTable : linux.registrations = kqueue.registrations)
    (sameCapacity : linux.eventCapacity = kqueue.eventCapacity)
    (sameKey : linux.wakeKey = kqueue.wakeKey)
    (applies : executor.Applies) {kevents : List Kevent}
    (alike : List.Forall₂
      (fun record kevent => ∃ raw,
        (rawKevent target kevent).map rawEvent = some raw ∧
          Alike kqueue.registrations record raw) records kevents)
    (distinct : records.Pairwise fun first second =>
      first.token ≠ 0 → first.token ≠ second.token)
    (short : records.length ≤ linux.eventCapacity.val)
    (inside : kevents.length ≤ kqueue.rawEvents.raw.arena.eventCapacity)
    (events : Events)
    (large : linux.eventCapacity.val ≤ events.capacity.val) :
    let staged := LinuxPoll.nativeWait (.ok records) linux events.clear
    let onLinux := translateLinux records.length staged.1 staged.2.1
    let waited := KqueuePoll.nativeWait (.ok kevents) kqueue events.clear
    let onKqueue :=
      translateKqueue target executor kevents.length waited.1 waited.2.1
    (∃ linuxError kqueueError,
        onLinux.2.2 = .error linuxError ∧
          onKqueue.2.2 = .error kqueueError ∧
          onLinux.2.1.deliveries = [] ∧
          onKqueue.2.1.deliveries = []) ∨
      (onLinux.2.2 = .ok () ∧
        onKqueue.2.2 = .ok { recovery := none } ∧
        onLinux.2.1.deliveries = onKqueue.2.1.deliveries ∧
        onLinux.1.registrations = onKqueue.1.registrations) := by
  have linuxSound := linuxReachable.sound
  have kqueueSound := kqueueReachable.sound
  obtain ⟨staged, filled, native, onLinux⟩ :=
    linuxSound.translates events large records
  obtain ⟨raw, waited⟩ := KeventBatch.wait_fits inside
  have waitedSound := kqueueSound.nativeWait (.ok kevents) events.clear
  have onKqueue :=
    translateKqueue_translates target executor kevents.length
      waitedSound (show events.clear.deliveries = [] from rfl)
      (by rw [sameCapacity] at large; exact large)
  simp only [native]
  simp only [KqueuePoll.nativeWait, waited] at onKqueue ⊢
  rcases linuxResult : translateLinux records.length staged filled with
    ⟨linuxAfter, linuxEvents, linuxOutcome⟩
  rcases kqueueResult : translateKqueue target executor kevents.length
      { kqueue with rawEvents := { kqueue.rawEvents with raw } }
      events.clear with
    ⟨kqueueAfter, kqueueEvents, kqueueOutcome⟩
  rw [linuxResult] at onLinux
  rw [kqueueResult] at onKqueue
  simp only
  rw [sameCapacity] at short
  cases onKqueue with
  | undecoded inBatch undecoded _ _ =>
      exact (event_of_wait kqueueSound.arena waited (alike_fits alike)
        inBatch undecoded).elim
  | @blocked raws pending batch _ _ _ _ collected _ blocked _ =>
      have decoded :=
        decoded_of_wait kqueueSound.arena waited collected.decoded
      obtain ⟨_, oneShots⟩ := collected.alike
        (alike_decoded alike decoded) distinct short
      cases onLinux with
      | excessive excessive _ =>
          rw [sameCapacity] at excessive
          omega
      | blocked _ vacant =>
          exact Or.inl ⟨_, _, rfl, rfl, vacant, rfl⟩
      | delivered _ disarms _ =>
          rw [sameTable, ← oneShots] at disarms
          obtain ⟨entry, member, notReady⟩ := blocked
          exact (notReady ((ready_iff_disarms collected.facts.2).2 disarms
            entry member)).elim
  | @delivered raws pending batch _ _ source _ _ collected _ ready _
      reported _ =>
      have decoded :=
        decoded_of_wait kqueueSound.arena waited collected.decoded
      have alikeRaws := alike_decoded alike decoded
      obtain ⟨deliveries, oneShots⟩ := collected.alike alikeRaws distinct
        short
      have disarms := (ready_iff_disarms collected.facts.2).1 ready
      rw [oneShots] at disarms
      have noFailure : source = none := by
        rw [← Option.not_isSome_iff_eq_none, reported,
          ← provenDisarms_commits, applies.provenDisarms]
        simp
      cases onLinux with
      | excessive excessive _ =>
          rw [sameCapacity] at excessive
          omega
      | blocked blocked _ =>
          rw [sameTable] at blocked
          exact (blocked disarms).elim
      | delivered _ _ contents =>
          refine Or.inr ⟨rfl, ?_, ?_, ?_⟩
          · rw [noFailure]
            rfl
          · rw [contents, sameTable, sameKey, wakeEvent_eq,
              ← woke_alike alikeRaws]
            simp only [deliveries]
            rfl
          · simp only [applies.provenDisarms, oneShots, sameTable]
            rfl

end Translations

/-- The Linux poller after the same registration. -/
def firstLinuxRegistered : LinuxPoll Unit :=
  (firstLinux.call acceptingDriver
    (.register (.ok firstDescriptor) ⟨7⟩ Interest.readable .oneShot)).1

/-- The readable record of that registration on Linux. -/
def firstRecord : EpollEvent := { events := epollIn, token := 0x100000001 }

/-! ### Stale, wake, level and one-shot observations together -/

/-- A new Linux poller for four registrations and four events. -/
def fourLinux : LinuxPoll Unit :=
  { firstLinux with
    rawEvents :=
      { firstLinux.rawEvents with
        maxEvents := 4
        capacity := 4
        nativeOffset := 16 }
    registrations :=
      { firstLinux.registrations with limit := fourKqueue.eventCapacity }
    eventCapacity := fourKqueue.eventCapacity }

theorem fourLinux_created :
    LinuxPoll.withCapacity packedLayout 1 4 4 (.ok ()) true =
      .ok fourLinux := rfl

/-- A registration that is deleted, a one-shot registration that takes over its
slot, and a level one. -/
def mixedCalls : List Call :=
  [.register (.ok firstDescriptor) ⟨7⟩ Interest.readable .level,
    .delete { owner := ⟨1⟩, encodedId := RegistrationTable.oneSlotId },
    .register (.ok firstDescriptor) ⟨8⟩ Interest.readable .oneShot,
    .register (.ok secondDescriptor) ⟨9⟩ Interest.both .level]

/-- A poller after these calls, with a wake key. -/
def mixedRegistered {Raw Pending : Type} (poll : Poll Unit Raw Pending) :
    Poll Unit Raw Pending :=
  ((mixedCalls.foldl
    (fun poll request => (poll.call acceptingDriver request).1)
    poll).waker ⟨11⟩).1

theorem mixedRegistered_run
    {Raw Pending : Type} (waits : WaitRelation Unit Raw Pending)
    (poll : Poll Unit Raw Pending) :
    ∃ labels,
      Transition.Execution (Poll.Step waits) poll labels
        (mixedRegistered poll) :=
  ⟨_, .cons (.called acceptingDriver _) (.cons (.called acceptingDriver _)
    (.cons (.called acceptingDriver _) (.cons (.called acceptingDriver _)
      (.cons (.configured _) (.refl _)))))⟩

/-- The deleted registration, a wake, the level and the one-shot one. -/
def mixedRecords : List EpollEvent :=
  [firstRecord, { events := epollIn, token := 0 },
    { events := epollOut, token := 0x100000002 },
    { events := epollIn, token := 0x200000001 }]

/-- The same observations on kqueue. -/
def mixedKevents : List Kevent :=
  [firstReadable, { firstReadable with ident := 0, filter := -10, udata := 0 },
    { firstReadable with ident := 4, filter := -2, udata := 0x100000002 },
    { firstReadable with udata := 0x200000001 }]

theorem mixed_translations_agree :
    let staged :=
      LinuxPoll.nativeWait (.ok mixedRecords) (mixedRegistered fourLinux)
        fourSlots.clear
    let onLinux := translateLinux 4 staged.1 staged.2.1
    let waited :=
      KqueuePoll.nativeWait (.ok mixedKevents) (mixedRegistered fourKqueue)
        fourSlots.clear
    let onKqueue :=
      translateKqueue .macos applyingExecutor 4 waited.1 waited.2.1
    onLinux.2.2 = .ok () ∧
      onKqueue.2.2 = .ok { recovery := none } ∧
      onLinux.2.1.deliveries = onKqueue.2.1.deliveries ∧
      onLinux.1.registrations = onKqueue.1.registrations := by
  obtain ⟨_, linuxRun⟩ := mixedRegistered_run LinuxPoll.Waits fourLinux
  obtain ⟨_, kqueueRun⟩ :=
    mixedRegistered_run (KqueuePoll.Waits .macos) fourKqueue
  have onLinux : LinuxPoll.Reachable (mixedRegistered fourLinux) :=
    ⟨packedLayout, 1, 4, 4, .ok (), true, fourLinux, _,
      fourLinux_created, linuxRun⟩
  have onKqueue : KqueuePoll.Reachable .macos (mixedRegistered fourKqueue) :=
    ⟨1, 4, 4, .ok (), true, true, true, true, true, fourKqueue, _, rfl,
      kqueueRun⟩
  have applies : applyingExecutor.Applies := fun _ _ => trivial
  have named : ∀ {token : UInt64} {descriptor : RawFd},
      ((mixedRegistered fourKqueue).registrations.lookup ⟨token⟩).map
          (fun entry => entry.descriptor.asRawFd) = some descriptor →
        ∀ entry,
          (mixedRegistered fourKqueue).registrations.lookup ⟨token⟩ =
              some entry →
            descriptor = entry.descriptor.asRawFd := by
    intro token descriptor found entry present
    rw [present] at found
    exact (Option.some.inj found).symm
  have stale :
      (mixedRegistered fourKqueue).registrations.lookup
        ⟨firstRecord.token⟩ = none := rfl
  have distinct : mixedRecords.Pairwise fun first second =>
      first.token ≠ 0 → first.token ≠ second.token := by
    decide
  have alike : List.Forall₂
      (fun record kevent => ∃ raw,
        (rawKevent .macos kevent).map rawEvent = some raw ∧
          Alike (mixedRegistered fourKqueue).registrations record raw)
      mixedRecords mixedKevents := by
    refine .cons ⟨_, rfl, .resource (by decide) ?_⟩
      (.cons ⟨_, rfl, .wake⟩
        (.cons ⟨_, rfl, .resource (by decide) (named rfl)⟩
          (.cons ⟨_, rfl, .resource (by decide) (named rfl)⟩ .nil)))
    intro entry present
    rw [stale] at present
    cases present
  rcases translations_agree onLinux onKqueue rfl rfl rfl applies alike
      distinct (by decide) (by decide) fourSlots (by decide) with
    ⟨_, _, failed, _⟩ | agreed
  · cases failed
  · exact agreed

end Zio
