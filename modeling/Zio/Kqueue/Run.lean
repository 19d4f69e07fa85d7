import Zio.Kqueue.Delivery
import Zio.Poll.Run

/-!
# Runs of a kqueue poller

Every kqueue poller that was created by `with_capacity` and driven by any
mutation driver, any kernel answers and any disarm executor keeps its storage
sized and its index consistent.  A wait on such a poller succeeds whenever no
record names a disarmed registration, and its deliveries, its disarm plans and
its table follow the specification of a delivery.
-/

namespace Zio

open Transition

variable {Backend : Type*}

/-! ## Executors and waits -/

/-- The sizes of an arena; its storage is one fixed slice. -/
def KqueueArena.sizes (self : KqueueArena) : Nat × Nat × Nat :=
  (self.storage.length, self.eventCapacity, self.changeCapacity)

/-- A disarm executor on the native storage that it borrows: it may write any
record but cannot resize the slice. -/
structure BatchExecutor (Backend : Type*) extends
    DisarmExecutor (Backend × KeventBatch) where
  fixed : ∀ state changes,
    (apply state changes).1.2.arena.sizes = state.2.arena.sizes

/-- A wait with some executor, kernel answer and destination. -/
def KqueuePoll.Waits (target : KqueueTarget) :
    WaitRelation Backend KqueueBatch KqueuePending :=
  fun before deliveries result after =>
    ∃ (executor : BatchExecutor Backend)
        (answer : Except IoError (List Kevent)) (events filled : Events),
      KqueuePoll.wait target executor.toDisarmExecutor answer before
          events = (after, filled, result) ∧
        filled.deliveries = deliveries

/-- A poller that some run of `with_capacity` reaches. -/
def KqueuePoll.Reachable
    (target : KqueueTarget) (poll : KqueuePoll Backend) : Prop :=
  ∃ nextPollId events registrations backend arenaAllocated plansAllocated
      tableAllocated entriesAllocated slotsAllocated start labels,
    KqueuePoll.withCapacity target nextPollId events registrations backend
        arenaAllocated plansAllocated tableAllocated entriesAllocated
        slotsAllocated = .ok start ∧
      Execution (Poll.Step (KqueuePoll.Waits target)) start labels poll

/-! ## Creation -/

theorem KqueueArena.new_room
    {target : KqueueTarget} {eventCapacity changeCapacity : Nat}
    {allocated : Bool} {arena : KqueueArena}
    (created : KqueueArena.new target eventCapacity changeCapacity
      allocated = some arena) :
    arena.eventCapacity ≤ arena.storage.length ∧
      2 * arena.changeCapacity ≤ arena.storage.length := by
  unfold KqueueArena.new at created
  split at created
  · cases created
  · split at created
    · cases created
    · split at created
      · cases created
      · rename_i doubled product
        split at created
        · cases created
          have value : changeCapacity * 2 = doubled := by
            unfold usizeCheckedMul at product
            split at product
            · exact Option.some.inj product
            · cases product
          simp only [List.length_replicate]
          omega
        · cases created

theorem KqueueBatch.new_sized
    {target : KqueueTarget} {events registrations : Nat}
    {arenaAllocated plansAllocated : Bool} {batch : KqueueBatch}
    (created : KqueueBatch.new target events registrations arenaAllocated
      plansAllocated = some batch) :
    batch.disarms.Sized ∧
      batch.disarms.planCapacity = min events registrations ∧
      batch.raw.arena.eventCapacity ≤ batch.raw.arena.storage.length ∧
      2 * batch.raw.arena.changeCapacity ≤
        batch.raw.arena.storage.length := by
  unfold KqueueBatch.new at created
  simp only [Option.bind_eq_bind, Option.bind_eq_some_iff] at created
  obtain ⟨doubled, _, eventCapacity, _, nativeCapacity, native, raw,
    rawCreated, disarms, disarmsCreated, result⟩ := created
  cases result
  unfold KeventBatch.new at rawCreated
  obtain ⟨arena, arenaCreated, rfl⟩ := Option.map_eq_some_iff.mp rawCreated
  have room := KqueueArena.new_room arenaCreated
  unfold DisarmBatch.new at disarmsCreated
  split at disarmsCreated
  · cases disarmsCreated
  · rename_i changes product
    split at disarmsCreated
    · cases disarmsCreated
      unfold usizeCheckedMul at product
      split at product
      · rename_i fits
        cases product
        exact ⟨⟨rfl, fits⟩, rfl, room⟩
      · cases product
    · cases disarmsCreated

theorem KqueuePending.new_fresh
    {capacity registrations : NonZeroUsize}
    {entriesAllocated slotsAllocated : Bool} {pending : KqueuePending}
    (created : KqueuePending.new capacity registrations entriesAllocated
      slotsAllocated = .ok pending) :
    pending.Fresh ∧ pending.bySlot.length = registrations.val ∧
      pending.capacity = capacity := by
  unfold KqueuePending.new at created
  split at created
  · cases created
  · split at created
    · cases created
    · cases created
      simp [KqueuePending.Fresh]

/-- The parts of a new poller. -/
theorem KqueuePoll.withCapacity_parts
    {target : KqueueTarget} {nextPollId : UInt64}
    {events registrations : Nat} {backend : Except Error Backend}
    {arenaAllocated plansAllocated tableAllocated entriesAllocated
      slotsAllocated : Bool} {poll : KqueuePoll Backend}
    (created : KqueuePoll.withCapacity target nextPollId events
      registrations backend arenaAllocated plansAllocated tableAllocated
      entriesAllocated slotsAllocated = .ok poll) :
    ∃ limit : NonZeroUsize,
      KqueueBatch.new target poll.eventCapacity.val limit.val
          arenaAllocated plansAllocated = some poll.rawEvents ∧
        RegistrationTable.new limit tableAllocated =
          .ok poll.registrations ∧
        backend = .ok poll.backend ∧
        KqueuePending.new poll.eventCapacity limit entriesAllocated
          slotsAllocated = .ok poll.pending := by
  unfold KqueuePoll.withCapacity at created
  split at created
  · split at created
    · split at created
      · cases created
      · rename_i rawEvents batchCreated
        split at created
        · cases created
        · rename_i table tableCreated
          split at created
          · cases created
          · split at created
            · cases created
            · rename_i pending pendingCreated
              cases created
              exact ⟨_, batchCreated, tableCreated, rfl, pendingCreated⟩
    · cases created
  · cases created

theorem KqueuePoll.withCapacity_sound
    {target : KqueueTarget} {nextPollId : UInt64}
    {events registrations : Nat} {backend : Except Error Backend}
    {arenaAllocated plansAllocated tableAllocated entriesAllocated
      slotsAllocated : Bool} {poll : KqueuePoll Backend}
    (created : KqueuePoll.withCapacity target nextPollId events
      registrations backend arenaAllocated plansAllocated tableAllocated
      entriesAllocated slotsAllocated = .ok poll) :
    poll.Sound := by
  obtain ⟨limit, batchCreated, tableCreated, _, pendingCreated⟩ :=
    withCapacity_parts created
  obtain ⟨sized, plans, arena, _⟩ := KqueueBatch.new_sized batchCreated
  obtain ⟨fresh, slots, capacity⟩ :=
    KqueuePending.new_fresh pendingCreated
  have shape := RegistrationTable.new_eq_ok tableCreated
  have sameLimit : poll.registrations.limit = limit := by simp [shape]
  refine
    { wellFormed := RegistrationTable.new_wellFormed tableCreated
      interested := ?_
      fresh
      slots := by rw [slots, sameLimit]
      capacity
      plans := by rw [plans, sameLimit]
      sized
      arena }
  intro id entry present
  rw [RegistrationTable.new_lookup tableCreated] at present
  cases present

/-! ## Storage through a wait -/

theorem KqueuePending.Fresh.clear_eq
    {pending : KqueuePending} (fresh : pending.Fresh) :
    pending.clear = pending := by
  obtain ⟨noEntries, _⟩ := fresh
  rcases pending with ⟨capacity, entries, bySlot⟩
  simp only at noEntries
  subst noEntries
  rfl

theorem KqueuePending.Indexed.clear_fresh
    {pending : KqueuePending} (indexed : pending.Indexed) :
    pending.clear.Fresh ∧
      pending.clear.bySlot.length = pending.bySlot.length ∧
      pending.clear.capacity = pending.capacity := by
  rw [indexed.clear_eq]
  simp [Fresh]

theorem KeventBatch.wait_sizes
    (self : KeventBatch) (answer : Except IoError (List Kevent)) :
    (self.wait answer).1.arena.sizes = self.arena.sizes := by
  cases answer with
  | error source => rfl
  | ok written =>
      have kept :
          ((written ++ self.arena.storage.drop written.length).take
              self.arena.storage.length).length =
            self.arena.storage.length := by
        simp
        omega
      simp only [KeventBatch.wait]
      split <;> simp only [KqueueArena.sizes, kept]

/-- A submission leaves the executor's state as `apply` left it. -/
theorem BatchExecutor.submit_sizes
    {executor : BatchExecutor Backend} {batch disarms : DisarmBatch}
    {backend after : Backend} {raw returned : KeventBatch}
    {result : Except IoError Unit}
    (submitted :
      batch.submit executor.toDisarmExecutor (backend, raw) =
        (disarms, (after, returned), result)) :
    returned.arena.sizes = raw.arena.sizes := by
  have fixed := executor.fixed (backend, raw) batch.changes
  unfold DisarmBatch.submit at submitted
  split at submitted
  · cases submitted
    rfl
  · rcases applied : executor.apply (backend, raw) batch.changes with
      ⟨state, answer⟩
    rw [applied] at submitted fixed
    cases answer with
    | appliedWithoutReceipts =>
        cases submitted
        exact fixed
    | unknown source =>
        cases submitted
        exact fixed
    | receipts count =>
        simp only [Prod.mk.injEq] at submitted
        obtain ⟨_, rfl, _⟩ := submitted
        exact fixed

/-- What a translation keeps of a poller: everything that its soundness needs,
with an index that is consistent but not yet cleared. -/
structure KqueuePoll.Frames (before after : KqueuePoll Backend) : Prop where
  moves :
    RegistrationTable.Moves before.registrations after.registrations
  interested :
    before.registrations.Interested → after.registrations.Interested
  indexed : after.pending.Indexed
  slots : after.pending.bySlot.length = before.pending.bySlot.length
  capacity : after.pending.capacity = before.pending.capacity
  eventCapacity : after.eventCapacity = before.eventCapacity
  planCapacity :
    after.rawEvents.disarms.planCapacity =
      before.rawEvents.disarms.planCapacity
  changeCapacity :
    after.rawEvents.disarms.changeCapacity =
      before.rawEvents.disarms.changeCapacity
  arena : after.rawEvents.raw.arena.sizes = before.rawEvents.raw.arena.sizes

theorem KqueuePoll.Sound.addressable
    {poll : KqueuePoll Backend} (sound : poll.Sound) :
    poll.pending.bySlot.length ≤ maxRegistrations := by
  rw [sound.slots]
  exact sound.wellFormed.limitAddressable

/-- Clearing the index of a framed poller makes it sound again. -/
theorem KqueuePoll.Frames.sound
    {before after : KqueuePoll Backend} (frames : before.Frames after)
    (sound : before.Sound) :
    KqueuePoll.Sound { after with pending := after.pending.clear } := by
  obtain ⟨fresh, slots, capacity⟩ := frames.indexed.clear_fresh
  have limit := RegistrationTable.Moves.limit_eq frames.moves
  have sizes := frames.arena
  simp only [KqueueArena.sizes, Prod.mk.injEq] at sizes
  exact
    { wellFormed := sound.wellFormed.moves frames.moves
      interested := frames.interested sound.interested
      fresh
      slots := by
        rw [slots, frames.slots, sound.slots, limit]
      capacity := by
        rw [capacity, frames.capacity, sound.capacity,
          frames.eventCapacity]
      plans := by
        simp only
        rw [frames.planCapacity, sound.plans, frames.eventCapacity, limit]
      sized :=
        { changes := by
            simp only
            rw [frames.changeCapacity, frames.planCapacity,
              sound.sized.changes]
          fits := by
            simp only
            rw [frames.planCapacity]
            exact sound.sized.fits }
      arena := by
        simp only
        rw [sizes.1, sizes.2.1]
        exact sound.arena }

theorem KqueuePoll.Sound.nativeWait
    {poll : KqueuePoll Backend} (sound : poll.Sound)
    (answer : Except IoError (List Kevent)) (events : Events) :
    (KqueuePoll.nativeWait answer poll events).1.Sound := by
  have sizes := poll.rawEvents.raw.wait_sizes answer
  simp only [KqueueArena.sizes, Prod.mk.injEq] at sizes
  exact
    { wellFormed := sound.wellFormed
      interested := sound.interested
      fresh := sound.fresh
      slots := sound.slots
      capacity := sound.capacity
      plans := sound.plans
      sized := sound.sized
      arena := by
        simp only [KqueuePoll.nativeWait]
        rw [sizes.1, sizes.2.1]
        exact sound.arena }

/-! ## Translations -/

section Translations

variable {target : KqueueTarget}
  {executor : DisarmExecutor (Backend × KeventBatch)} {observed : Nat}
  {poll : KqueuePoll Backend} {raws : List RawEvent}
  {pending : KqueuePending} {batch : List PendingResource}

/-- The disarmed registrations of a deliverable batch are armed. -/
theorem oneShots_disarmable
    {table : RegistrationTable}
    (ready : ∀ entry ∈ batch, Ready table entry)
    {id : RegistrationId} (member : id ∈ oneShots table batch) :
    table.Disarmable id := by
  obtain ⟨entry, inBatch, rfl⟩ := List.mem_map.mp member
  obtain ⟨inBatch, once⟩ := List.mem_filter.mp inBatch
  exact ready entry inBatch once

theorem oneShots_nodup
    {table : RegistrationTable}
    (distinct : (batch.map PendingResource.registration).Nodup) :
    (oneShots table batch).Nodup :=
  distinct.sublist (List.Sublist.map _ List.filter_sublist)

variable (executor) in
/-- A disarmed registration of a batch is settled by one proven status. -/
theorem provenDisarms_settled
    (distinct : (batch.map PendingResource.registration).Nodup)
    {id : RegistrationId}
    (member : id ∈ oneShots poll.registrations batch)
    {entry : Entry} (present : poll.registrations.lookup id = some entry)
    (disarmable : entry.Disarmable) :
    ∃ commit,
      (id, commit) ∈ provenDisarms executor poll batch ∧
        (poll.registrations.applyDisarms
            (provenDisarms executor poll batch)).lookup id =
          some (RegistrationTable.disarmedEntry commit entry) := by
  rw [← provenDisarms_registrations executor] at member
  obtain ⟨⟨named, commit⟩, inDisarms, rfl⟩ := List.mem_map.mp member
  refine ⟨commit, inDisarms, ?_⟩
  refine RegistrationTable.applyDisarms_lookup ?_ inDisarms present
    disarmable
  rw [provenDisarms_registrations]
  exact oneShots_nodup distinct

/-- The entries that a deliverable batch reports are armed. -/
theorem ready_armed
    {table : RegistrationTable} (wellFormed : table.WellFormed)
    {pending : PendingResource} (delivers : Delivers table pending)
    (ready : Ready table pending) :
    ∃ entry, table.lookup pending.registration = some entry ∧
      entry.state = .registered .armed := by
  obtain ⟨entry, arm, present, held⟩ := delivers
  refine ⟨entry, present, ?_⟩
  cases arm with
  | armed => exact held
  | disarmed =>
      have oneShot := wellFormed.oneShot_of_disarmed present held
      obtain ⟨found, again, disarmable⟩ :=
        ready (by simp [oneShotIn, present, oneShot])
      rw [present] at again
      cases again
      exact disarmable.2

/-- The deliveries of one registration come from its batch entries. -/
theorem delivered_iff
    (woke : Bool) (wakeKey : Option Key) (id : RegistrationId) :
    Delivered
        (batch.map PendingResource.delivery ++ wakeDeliveries woke wakeKey)
        id ↔
      id ∈ batch.map PendingResource.registration := by
  constructor
  · rintro ⟨delivery, member, named⟩
    rcases List.mem_append.mp member with resource | wake
    · obtain ⟨entry, inBatch, rfl⟩ := List.mem_map.mp resource
      cases named
      exact List.mem_map.mpr ⟨entry, inBatch, rfl⟩
    · unfold wakeDeliveries at wake
      split at wake
      · rw [List.mem_singleton.mp wake] at named
        cases named
      · cases wake
  · intro member
    obtain ⟨entry, inBatch, rfl⟩ := List.mem_map.mp member
    exact ⟨entry.delivery,
      List.mem_append_left _ (List.mem_map.mpr ⟨entry, inBatch, rfl⟩), rfl⟩

theorem countP_delivered
    (distinct : (batch.map PendingResource.registration).Nodup)
    (woke : Bool) (wakeKey : Option Key) {id : RegistrationId}
    (member : id ∈ batch.map PendingResource.registration) :
    ((batch.map PendingResource.delivery ++
        wakeDeliveries woke wakeKey).countP
      fun delivery => delivery.source = some id) = 1 := by
  have noWake :
      ((wakeDeliveries woke wakeKey).countP
        fun delivery => delivery.source = some id) = 0 := by
    rw [List.countP_eq_zero]
    intro delivery wake
    unfold wakeDeliveries at wake
    split at wake
    · rw [List.mem_singleton.mp wake]
      simp
    · cases wake
  have counted :
      ((batch.map PendingResource.delivery).countP
          fun delivery => delivery.source = some id) =
        (batch.map PendingResource.registration).count id := by
    rw [List.count, List.countP_map, List.countP_map]
    apply List.countP_congr
    intro entry _
    simp [PendingResource.delivery]
  rw [List.countP_append, noWake, counted,
    List.count_eq_one_of_mem distinct member]

theorem Translates.observes
    {events filled : Events} {after : KqueuePoll Backend}
    {result : Except Error WaitReport} (sound : poll.Sound)
    (vacant : events.deliveries = [])
    (translates : Translates target executor observed poll events
      (after, filled, result)) :
    Observes poll.registrations filled.deliveries result
      after.registrations := by
  cases translates with
  | undecoded _ _ _ _ => exact Observes.failed _ _ _ []
  | blocked _ _ _ _ => exact Observes.failed _ _ _ []
  | @delivered raws pending batch backend raw source disarms submitted
      collected capacity ready submission reported _ =>
      obtain ⟨delivers, distinct⟩ := collected.facts
      simp only [vacant, List.nil_append]
      refine
        { moves := RegistrationTable.applyDisarms_moves _ _
          interested := fun interested => interested.applyDisarms _
          kept := ?_
          armed := ?_
          once := ?_ }
      · intro id entry present quiet
        exact RegistrationTable.applyDisarms_kept _ present
          fun disarmable => quiet disarmable.2
      · intro report _ id delivered
        obtain ⟨entry, inBatch, rfl⟩ :=
          List.mem_map.mp ((delivered_iff _ _ _).1 delivered)
        exact ready_armed sound.wellFormed (delivers entry inBatch)
          (ready entry inBatch)
      · intro report succeeded id entry present oneShot delivered
        have member := (delivered_iff _ _ _).1 delivered
        refine ⟨countP_delivered distinct _ _ member, ?_⟩
        obtain ⟨pendingEntry, inBatch, rfl⟩ := List.mem_map.mp member
        have once : oneShotIn poll.registrations pendingEntry = true := by
          simp [oneShotIn, present, oneShot]
        obtain ⟨found, held, disarmable⟩ := ready pendingEntry inBatch once
        rw [present] at held
        cases held
        have inOneShots : pendingEntry.registration ∈
            oneShots poll.registrations batch :=
          List.mem_map.mpr
            ⟨pendingEntry, List.mem_filter.mpr ⟨inBatch, once⟩, rfl⟩
        obtain ⟨commit, inDisarms, settled⟩ :=
          provenDisarms_settled executor distinct inOneShots present
            disarmable
        refine ⟨commit, settled, ?_⟩
        rintro rfl
        have failed : source.isSome = true :=
          reported.2 ⟨.notApplied, by
            rw [← provenDisarms_commits]
            exact List.mem_map.mpr ⟨_, inDisarms, rfl⟩, by decide⟩
        obtain ⟨failure, rfl⟩ := Option.isSome_iff_exists.mp failed
        cases succeeded
        refine ⟨_, rfl, _, List.mem_map.mpr ⟨_, inDisarms, rfl⟩, rfl, rfl⟩

end Translations

theorem Translates.frames
    {target : KqueueTarget} {executor : BatchExecutor Backend}
    {observed : Nat} {poll after : KqueuePoll Backend}
    {events filled : Events} {result : Except Error WaitReport}
    (sound : poll.Sound)
    (translates :
      Translates target executor.toDisarmExecutor observed poll events
        (after, filled, result)) :
    poll.Frames after := by
  cases translates with
  | undecoded _ _ coalesces capacity =>
      exact
        { moves := Relation.ReflTransGen.refl
          interested := id
          indexed := coalesces.indexed
          slots := by rw [coalesces.slots, sound.slots]
          capacity
          eventCapacity := rfl
          planCapacity := rfl
          changeCapacity := rfl
          arena := rfl }
  | blocked collected capacity _ submission =>
      exact
        { moves := Relation.ReflTransGen.refl
          interested := id
          indexed := collected.coalesces.indexed
          slots := by rw [collected.coalesces.slots, sound.slots]
          capacity
          eventCapacity := rfl
          planCapacity := rfl
          changeCapacity := rfl
          arena := BatchExecutor.submit_sizes submission }
  | delivered collected capacity _ submission _ _ =>
      exact
        { moves := RegistrationTable.applyDisarms_moves _ _
          interested := fun interested => interested.applyDisarms _
          indexed := collected.coalesces.indexed
          slots := by
            rw [collected.coalesces.slots, sound.slots]
          capacity
          eventCapacity := rfl
          planCapacity := rfl
          changeCapacity := rfl
          arena := BatchExecutor.submit_sizes submission }

/-! ## Waits -/

/-- Everything that a wait can do. -/
inductive KqueuePoll.Waited
    (target : KqueueTarget)
    (executor : DisarmExecutor (Backend × KeventBatch))
    (answer : Except IoError (List Kevent)) (poll : KqueuePoll Backend)
    (events : Events) :
    Poll.Observed Backend KqueueBatch KqueuePending → Prop
  | small :
      events.capacity.val < poll.eventCapacity.val →
      Waited target executor answer poll events
        (poll, events.clear,
          .error
            (.eventsTooSmall poll.eventCapacity.val events.capacity.val))
  | failed {raw : KeventBatch} {source : IoError} :
      poll.eventCapacity.val ≤ events.capacity.val →
      poll.rawEvents.raw.wait answer = (raw, .error source) →
      Waited target executor answer poll events
        ({ poll with rawEvents := { poll.rawEvents with raw } },
          events.clear, .error (.io .wait source))
  | translated {raw : KeventBatch} {observed : Nat}
      {after : KqueuePoll Backend} {filled : Events}
      {result : Except Error WaitReport} :
      poll.eventCapacity.val ≤ events.capacity.val →
      poll.rawEvents.raw.wait answer = (raw, .ok observed) →
      Translates target executor observed
        { poll with rawEvents := { poll.rawEvents with raw } }
        events.clear (after, filled, result) →
      Waited target executor answer poll events
        ({ after with pending := after.pending.clear },
          Poll.settledEvents filled result, result)

theorem KqueuePoll.Sound.wait
    (target : KqueueTarget)
    (executor : DisarmExecutor (Backend × KeventBatch))
    (answer : Except IoError (List Kevent)) {poll : KqueuePoll Backend}
    (sound : poll.Sound) (events : Events) :
    Waited target executor answer poll events
      (KqueuePoll.wait target executor answer poll events) := by
  have fresh := sound.fresh.clear_eq
  have unchanged :
      { poll with pending := poll.pending.clear } = poll := by rw [fresh]
  have framed : ∀ {after filled result},
      Poll.observeWith (KqueuePoll.nativeWait answer)
          (translateKqueue target executor) poll events.clear =
        (after, filled, result) →
      KqueuePoll.wait target executor answer poll events =
        ({ after with pending := after.pending.clear },
          Poll.settledEvents filled result, result) := by
    intro after filled result observed
    rw [← unchanged] at observed
    exact Poll.waitWith_eq observed
  by_cases small : events.capacity.val < poll.eventCapacity.val
  · rw [framed (Poll.observeWith_small small), unchanged]
    exact Waited.small small
  · have large : poll.eventCapacity.val ≤ events.capacity.val := by omega
    have room : poll.eventCapacity.val ≤ events.clear.capacity.val := large
    have waitedSound := sound.nativeWait answer events.clear
    rcases waited : poll.rawEvents.raw.wait answer with ⟨raw, outcome⟩
    have native :
        KqueuePoll.nativeWait answer poll events.clear =
          ({ poll with rawEvents := { poll.rawEvents with raw } },
            events.clear, outcome) := by
      simp only [KqueuePoll.nativeWait, waited]
    rw [native] at waitedSound
    cases outcome with
    | error source =>
        rw [framed (Poll.observeWith_failed room native)]
        simp only [fresh]
        exact Waited.failed large waited
    | ok observed =>
        have translates :=
          translateKqueue_translates target executor observed waitedSound
            (show events.clear.deliveries = [] from rfl) large
        rcases translated : translateKqueue target executor observed
            { poll with rawEvents := { poll.rawEvents with raw } }
            events.clear with ⟨after, filled, result⟩
        rw [translated] at translates
        rw [framed
          ((Poll.observeWith_translated room native).trans translated)]
        exact Waited.translated large waited translates

theorem KqueuePoll.Waits.settles
    {target : KqueueTarget} {before after : KqueuePoll Backend}
    {deliveries : List Delivery} {result : Except Error WaitReport}
    (sound : before.Sound)
    (waits : KqueuePoll.Waits target before deliveries result after) :
    after.Sound ∧
      Observes before.registrations deliveries result
        after.registrations := by
  obtain ⟨executor, answer, events, filled, performed, rfl⟩ := waits
  have waited :=
    sound.wait target executor.toDisarmExecutor answer events
  rw [performed] at waited
  cases waited with
  | small _ => exact ⟨sound, Observes.failed _ _ _ []⟩
  | @failed raw source _ waited =>
      refine ⟨?_, Observes.failed _ _ _ []⟩
      have waitedSound := sound.nativeWait answer events
      simpa only [KqueuePoll.nativeWait, waited] using waitedSound
  | @translated raw observed middle written _ large waited translates =>
      have waitedSound := sound.nativeWait answer events
      simp only [KqueuePoll.nativeWait, waited] at waitedSound
      refine ⟨(translates.frames waitedSound).sound waitedSound, ?_⟩
      have observes :=
        translates.observes waitedSound
          (show events.clear.deliveries = [] from rfl)
      cases result with
      | ok report => exact observes
      | error error => exact observes.cleared

/-- Every step of a kqueue poller keeps it sound. -/
theorem KqueuePoll.Sound.step
    {target : KqueueTarget} {before after : KqueuePoll Backend}
    {label : PollLabel} (sound : before.Sound)
    (step : Poll.Step (KqueuePoll.Waits target) before label after) :
    after.Sound := by
  cases step with
  | called driver request =>
      have effect := MutationSession.call_effect driver before.mutations
        sound.wellFormed request
      have limit := RegistrationTable.Moves.limit_eq effect.moves
      exact
        { wellFormed := sound.wellFormed.moves effect.moves
          interested := effect.interested sound.wellFormed sound.interested
          fresh := sound.fresh
          slots := by
            rw [show (before.call driver request).1.registrations.limit =
              before.registrations.limit from limit]
            exact sound.slots
          capacity := sound.capacity
          plans := by
            rw [show (before.call driver request).1.registrations.limit =
              before.registrations.limit from limit]
            exact sound.plans
          sized := sound.sized
          arena := sound.arena }
  | configured key =>
      unfold Poll.waker
      split
      · exact { sound with }
      · split <;> exact sound
  | elsewhere nextPollId => exact { sound with }
  | waited performed => exact (performed.settles sound).1

theorem KqueuePoll.Reachable.sound
    {target : KqueueTarget} {poll : KqueuePoll Backend}
    (reachable : KqueuePoll.Reachable target poll) : poll.Sound := by
  obtain ⟨_, _, _, _, _, _, _, _, _, start, labels, created, run⟩ :=
    reachable
  exact run.invariant KqueuePoll.Sound
    (fun _ _ _ sound step => sound.step step)
    (KqueuePoll.withCapacity_sound created)

end Zio
