import Zio.Linux.Translate

/-!
# Runs of a Linux poller

Every Linux poller that was created by `with_capacity` and driven by any
mutation driver and any kernel answers keeps its batch sized, and its waits
only observe.
-/

namespace Zio

open Transition

variable {Backend : Type*}

namespace LinuxPoll

/-- A wait with some kernel answer and destination. -/
def Waits : WaitRelation Backend EpollBatch Unit :=
  fun before deliveries result after =>
    ∃ (answer : Except IoError (List EpollEvent)) (events filled : Events),
      LinuxPoll.wait answer before events = (after, filled, result) ∧
        filled.deliveries = deliveries

/-- A poller that some run of `with_capacity` reaches. -/
def Reachable (poll : LinuxPoll Backend) : Prop :=
  ∃ layout nextPollId events registrations backend tableAllocated start
      labels,
    LinuxPoll.withCapacity layout nextPollId events registrations backend
        tableAllocated = .ok start ∧
      Execution (Poll.Step Waits) start labels poll

theorem new_sizes
    {layout : EventLayout} {capacity : Nat} {batch : EpollBatch}
    (created : EpollBatch.new layout capacity = some batch) :
    batch.capacity = capacity ∧ batch.maxEvents = capacity := by
  unfold EpollBatch.new at created
  split at created
  · cases created
  · split at created
    · cases created
    · simp only at created
      split at created
      · cases created
      · split at created
        · cases created
        · cases created
          exact ⟨rfl, rfl⟩

/-- The parts of a new poller. -/
theorem withCapacity_parts
    {layout : EventLayout} {nextPollId : UInt64}
    {events registrations : Nat} {backend : Except Error Backend}
    {tableAllocated : Bool} {poll : LinuxPoll Backend}
    (created : LinuxPoll.withCapacity layout nextPollId events
      registrations backend tableAllocated = .ok poll) :
    EpollBatch.new layout poll.eventCapacity.val = some poll.rawEvents ∧
      (∃ limit, RegistrationTable.new limit tableAllocated =
        .ok poll.registrations) ∧
      backend = .ok poll.backend := by
  unfold LinuxPoll.withCapacity at created
  split at created
  · split at created
    · split at created
      · cases created
      · rename_i rawEvents batchCreated
        split at created
        · cases created
        · rename_i table tableCreated
          split at created
          · cases created
          · cases created
            exact ⟨batchCreated, ⟨_, tableCreated⟩, rfl⟩
    · cases created
  · cases created

theorem withCapacity_sound
    {layout : EventLayout} {nextPollId : UInt64}
    {events registrations : Nat} {backend : Except Error Backend}
    {tableAllocated : Bool} {poll : LinuxPoll Backend}
    (created : LinuxPoll.withCapacity layout nextPollId events
      registrations backend tableAllocated = .ok poll) :
    poll.Sound := by
  obtain ⟨batchCreated, ⟨limit, tableCreated⟩, _⟩ :=
    withCapacity_parts created
  obtain ⟨capacity, maxEvents⟩ := new_sizes batchCreated
  refine
    { wellFormed := RegistrationTable.new_wellFormed tableCreated
      interested := ?_
      capacity
      maxEvents }
  intro id entry present
  rw [RegistrationTable.new_lookup tableCreated] at present
  cases present

/-! ## Deliveries -/

section Deliveries

variable {table : RegistrationTable} {records : List EpollEvent}

theorem wakeEvent_source
    {woke : Bool} {wakeKey : Option Key} {delivery : Delivery}
    (member : delivery ∈ EpollBatch.wakeEvent woke wakeKey) :
    delivery.source = none := by
  unfold EpollBatch.wakeEvent at member
  split at member
  · rw [List.mem_singleton.mp member]
  · cases member

/-- Every delivered registration is named by a record that resolves. -/
theorem delivered_record
    {woke : Bool} {wakeKey : Option Key} {id : RegistrationId}
    (delivered :
      Delivered
        (records.filterMap (recordDelivery table) ++
          EpollBatch.wakeEvent woke wakeKey) id) :
    ∃ raw ∈ records, raw.token ≠ 0 ∧ id = ⟨raw.token⟩ ∧
      ∃ entry arm, table.lookup id = some entry ∧
        entry.state = .registered arm := by
  obtain ⟨delivery, member, named⟩ := delivered
  rcases List.mem_append.mp member with resource | wake
  · obtain ⟨raw, inRecords, delivers⟩ := List.mem_filterMap.mp resource
    unfold recordDelivery at delivers
    split at delivers
    · cases delivers
    · rename_i notWake
      obtain ⟨observation, found, rfl⟩ := Option.map_eq_some_iff.mp delivers
      cases named
      obtain ⟨entry, arm, present, held, _⟩ :=
        (RegistrationTable.resolve_eq_some_iff _ _ _).1 found
      exact ⟨raw, inRecords, notWake, rfl, entry, arm, present, held⟩
  · rw [wakeEvent_source wake] at named
    cases named

/-- A record that names a live one-shot registration. -/
theorem recordOneShot_eq
    {raw : EpollEvent} {entry : Entry} {arm : ArmState}
    (resource : raw.token ≠ 0)
    (present : table.lookup ⟨raw.token⟩ = some entry)
    (held : entry.state = .registered arm) (once : entry.mode = .oneShot) :
    recordOneShot table raw = some ⟨raw.token⟩ := by
  have found :=
    (RegistrationTable.resolve_eq_some_iff table raw.token
      (entry.observation ⟨raw.token⟩)).2 ⟨entry, arm, present, held, rfl⟩
  simp [recordOneShot, resource, found, Entry.observation, once]

/-- The events of a one-shot registration are its disarms. -/
theorem countP_recordDelivery
    {id : RegistrationId} {entry : Entry}
    (present : table.lookup id = some entry)
    (once : entry.mode = .oneShot) (records : List EpollEvent) :
    ((records.filterMap (recordDelivery table)).countP
        fun delivery => delivery.source = some id) =
      (recordOneShots table records).count id := by
  induction records with
  | nil => rfl
  | cons raw rest inductionHypothesis =>
      have agree :
          ((recordDelivery table raw).toList.countP
              fun delivery => delivery.source = some id) =
            (recordOneShot table raw).toList.count id := by
        by_cases wake : raw.token = 0
        · simp [recordDelivery, recordOneShot, wake]
        · cases found : table.resolve raw.token with
          | none => simp [recordDelivery, recordOneShot, wake, found]
          | some observation =>
              obtain ⟨live, arm, held, _, rfl⟩ :=
                (RegistrationTable.resolve_eq_some_iff _ _ _).1 found
              by_cases same : (⟨raw.token⟩ : RegistrationId) = id
              · subst same
                rw [present] at held
                cases held
                simp [recordDelivery, recordOneShot, wake, found,
                  Entry.observation, once]
              · by_cases liveOnce : live.mode = .oneShot
                · simp [recordDelivery, recordOneShot, wake, found,
                    Entry.observation, liveOnce, same]
                · simp [recordDelivery, recordOneShot, wake, found,
                    Entry.observation, liveOnce, same]
      have deliveries :
          (raw :: rest).filterMap (recordDelivery table) =
            (recordDelivery table raw).toList ++
              rest.filterMap (recordDelivery table) := by
        cases delivery : recordDelivery table raw <;> simp [delivery]
      have oneShots :
          recordOneShots table (raw :: rest) =
            (recordOneShot table raw).toList ++
              recordOneShots table rest := by
        unfold recordOneShots
        cases named : recordOneShot table raw <;> simp [named]
      rw [deliveries, oneShots, List.countP_append, List.count_append,
        agree, inductionHypothesis]

/-- A translation that disarmed every named registration only observed. -/
theorem observes_delivered
    (wellFormed : table.WellFormed)
    (disarms : table.Disarms (recordOneShots table records))
    (woke : Bool) (wakeKey : Option Key) (report : WaitReport) :
    Observes table
      (records.filterMap (recordDelivery table) ++
        EpollBatch.wakeEvent woke wakeKey) (.ok report)
      (table.applyDisarms (recordDisarms table records)) := by
  obtain ⟨distinct, ready⟩ := disarms
  have names : (recordDisarms table records).map Prod.fst =
      recordOneShots table records := by
    simp [recordDisarms, Function.comp_def]
  have named : ∀ {id entry}, table.lookup id = some entry →
      entry.mode = .oneShot →
      Delivered
        (records.filterMap (recordDelivery table) ++
          EpollBatch.wakeEvent woke wakeKey) id →
        id ∈ recordOneShots table records ∧ entry.Disarmable := by
    intro id entry present once delivered
    obtain ⟨raw, inRecords, resource, rfl, live, arm, held, state⟩ :=
      delivered_record delivered
    rw [present] at held
    cases held
    have member : (⟨raw.token⟩ : RegistrationId) ∈
        recordOneShots table records :=
      List.mem_filterMap.mpr
        ⟨raw, inRecords, recordOneShot_eq resource present state once⟩
    obtain ⟨_, again, disarmable⟩ := ready _ member
    rw [present] at again
    cases again
    exact ⟨member, disarmable⟩
  refine
    { moves := table.applyDisarms_moves _
      interested := fun interested => interested.applyDisarms _
      kept := fun _ _ present quiet =>
        RegistrationTable.applyDisarms_kept _ present
          fun disarmable => quiet disarmable.2
      armed := ?_
      once := ?_ }
  · intro _ _ id delivered
    obtain ⟨_, _, _, _, entry, arm, present, held⟩ :=
      delivered_record delivered
    refine ⟨entry, present, ?_⟩
    cases arm with
    | armed => exact held
    | disarmed =>
        have once := wellFormed.oneShot_of_disarmed present held
        exact (named present once delivered).2.2
  · intro _ _ id entry present once delivered
    obtain ⟨member, disarmable⟩ := named present once delivered
    constructor
    · have noWake :
          ((EpollBatch.wakeEvent woke wakeKey).countP
            fun delivery => delivery.source = some id) = 0 := by
        rw [List.countP_eq_zero]
        intro delivery wake
        simp [wakeEvent_source wake]
      rw [List.countP_append, noWake, countP_recordDelivery present once,
        List.count_eq_one_of_mem distinct member]
    · refine ⟨.applied, ?_, fun impossible => by cases impossible⟩
      refine RegistrationTable.applyDisarms_lookup (by rwa [names]) ?_
        present disarmable
      exact List.mem_map.mpr ⟨id, member, rfl⟩

end Deliveries

/-! ## Steps -/

theorem Waits.settles
    {before after : LinuxPoll Backend} {deliveries : List Delivery}
    {result : Except Error WaitReport} (sound : before.Sound)
    (waits : Waits before deliveries result after) :
    after.Sound ∧
      Observes before.registrations deliveries result
        after.registrations := by
  obtain ⟨answer, events, filled, performed, rfl⟩ := waits
  have waited := sound.wait answer events
  rw [performed] at waited
  have kept : ∀ disarms : List (RegistrationId × CommitStatus),
      LinuxPoll.Sound
        { before with
          rawEvents := before.rawEvents.invalidate
          registrations := before.registrations.applyDisarms disarms } := by
    intro disarms
    exact
      { wellFormed := sound.wellFormed.moves
          (before.registrations.applyDisarms_moves disarms)
        interested := sound.interested.applyDisarms disarms
        capacity := sound.capacity
        maxEvents := sound.maxEvents }
  cases waited with
  | small _ => exact ⟨sound, Observes.failed _ _ _ []⟩
  | failed _ => exact ⟨kept [], Observes.failed _ _ _ []⟩
  | translated _ translates =>
      cases translates with
      | excessive _ _ => exact ⟨kept [], Observes.failed _ _ _ []⟩
      | blocked _ _ => exact ⟨kept _, Observes.failed _ _ _ _⟩
      | delivered _ disarms contents =>
          refine ⟨kept _, ?_⟩
          simp only [Except.map, Poll.settledEvents, contents]
          exact observes_delivered sound.wellFormed disarms _ _ _

/-- Every step of a Linux poller keeps it sound. -/
theorem Sound.step
    {before after : LinuxPoll Backend} {label : PollLabel}
    (sound : before.Sound) (step : Poll.Step Waits before label after) :
    after.Sound := by
  cases step with
  | called driver request =>
      have effect := MutationSession.call_effect driver before.mutations
        sound.wellFormed request
      exact
        { wellFormed := sound.wellFormed.moves effect.moves
          interested := effect.interested sound.wellFormed sound.interested
          capacity := sound.capacity
          maxEvents := sound.maxEvents }
  | configured key =>
      unfold Poll.waker
      split
      · exact { sound with }
      · split <;> exact sound
  | elsewhere nextPollId => exact { sound with }
  | waited performed => exact (performed.settles sound).1

theorem Reachable.sound
    {poll : LinuxPoll Backend} (reachable : poll.Reachable) :
    poll.Sound := by
  obtain ⟨_, _, _, _, _, _, start, labels, created, run⟩ := reachable
  exact run.invariant Sound (fun _ _ _ sound step => sound.step step)
    (withCapacity_sound created)

end LinuxPoll

end Zio
