import Zio.Kqueue.Observe

/-!
# What a kqueue translation delivers

The translation of a batch in closed form: which records count, how they are
coalesced, which registrations are planned for disarm, and what the submission
and the final commitment leave behind.
-/

namespace Zio

/-! ## Collection -/

/-- The registration and the hints of a record that counts: no wake record, and
the token resolves to a registered entry with the same descriptor. -/
def resourceOf (table : RegistrationTable) (raw : RawEvent) :
    Option (RegistrationId × Readiness) :=
  if raw.control then
    none
  else
    match table.resolve raw.token with
    | none => none
    | some resource =>
        if raw.descriptor ≠ resource.descriptor then none
        else some (resource.id, raw.readiness)

/-- The records that count, in order. -/
def resourcesOf (table : RegistrationTable) (raws : List RawEvent) :
    List (RegistrationId × Readiness) :=
  raws.filterMap (resourceOf table)

/-- Every pending entry carries the key of a live registration. -/
def Resolved (table : RegistrationTable) (pending : KqueuePending) :
    Prop :=
  ∀ entry ∈ pending.entries,
    ∃ observation,
      table.resolve entry.registration.raw = some observation ∧
        entry.key = observation.key

/-- What collection keeps of its storage. -/
structure Coalesces
    (table : RegistrationTable) (pending : KqueuePending) : Prop where
  indexed : pending.Indexed
  resolved : Resolved table pending
  slots : pending.bySlot.length = table.limit.val

theorem resolve_located
    {table : RegistrationTable} {token : UInt64}
    {observation : Observation}
    (found : table.resolve token = some observation) :
    ∃ entry index slot,
      table.Located observation.id index slot entry ∧
        observation.id = ⟨token⟩ := by
  obtain ⟨entry, arm, present, _, rfl⟩ :=
    (RegistrationTable.resolve_eq_some_iff _ _ _).1 found
  obtain ⟨index, slot, located⟩ :=
    (RegistrationTable.lookup_eq_some_iff _ _ _).1 present
  exact ⟨entry, index, slot, located, rfl⟩

/-- Adding the record of a live registration succeeds and absorbs it. -/
theorem Coalesces.add
    {table : RegistrationTable} {pending : KqueuePending}
    (wellFormed : table.WellFormed) (coalesces : Coalesces table pending)
    {token : UInt64} {observation : Observation}
    (found : table.resolve token = some observation)
    (readiness : Readiness) :
    ∃ after,
      pending.add observation.id observation.key readiness =
          (after, .ok ()) ∧
        Coalesces table after ∧
        after.groups =
          Grouping.absorb Readiness.union pending.capacity.val
            pending.groups (observation.id, readiness) ∧
        after.capacity = pending.capacity := by
  obtain ⟨entry, index, slot, located, identity⟩ := resolve_located found
  obtain ⟨generation, decoded, _⟩ := located.decoded
  have inside : index < pending.bySlot.length := by
    rw [coalesces.slots]
    exact Nat.lt_of_lt_of_le located.index_lt wellFormed.withinLimit
  have sole : ∀ other ∈ pending.entries, ∀ otherGeneration,
      decode other.registration = .ok (index, otherGeneration) →
        other.registration = observation.id := by
    intro other member otherGeneration otherDecoded
    obtain ⟨otherObservation, otherFound, _⟩ :=
      coalesces.resolved other member
    obtain ⟨otherEntry, otherIndex, otherSlot, otherLocated,
      otherIdentity⟩ := resolve_located otherFound
    have same : otherObservation.id = other.registration := otherIdentity
    rw [same] at otherLocated
    obtain ⟨_, redecoded, _⟩ := otherLocated.decoded
    rw [otherDecoded] at redecoded
    cases redecoded
    exact otherLocated.id_unique located
  obtain ⟨after, added, absorbed⟩ :=
    coalesces.indexed.add_absorbed decoded inside sole observation.key
      readiness
  refine ⟨after, added, ⟨absorbed.indexed, ?_, ?_⟩, absorbed.groups,
    absorbed.capacity⟩
  · intro candidate member
    rcases absorbed.keys candidate member with
      ⟨earlier, earlierMember, sameRegistration, sameKey⟩ |
        ⟨sameRegistration, sameKey⟩
    · obtain ⟨earlierObservation, earlierFound, earlierKey⟩ :=
        coalesces.resolved earlier earlierMember
      exact ⟨earlierObservation,
        by rw [sameRegistration]; exact earlierFound,
        by rw [sameKey]; exact earlierKey⟩
    · refine ⟨observation, ?_, sameKey⟩
      rw [sameRegistration, identity]
      exact found
  · rw [absorbed.slots, coalesces.slots]

/-- One record is absorbed, notes a wake or is skipped. -/
theorem collectKqueue_step
    {target : KqueueTarget} {rawEvents : KqueueBatch}
    {table : RegistrationTable} {observed index : Nat} {raw : RawEvent}
    (wellFormed : table.WellFormed)
    (decoded : rawEvents.event target index observed = some raw)
    (rest : List Nat) {pending : KqueuePending}
    (coalesces : Coalesces table pending) (woke : Bool) :
    ∃ middle,
      Coalesces table middle ∧ middle.capacity = pending.capacity ∧
        middle.groups =
          (resourceOf table raw).toList.foldl
            (Grouping.absorb Readiness.union pending.capacity.val)
            pending.groups ∧
        collectKqueue target rawEvents table observed (index :: rest)
            pending woke =
          collectKqueue target rawEvents table observed rest middle
            (woke || raw.control) := by
  cases control : raw.control with
  | true =>
      refine ⟨pending, coalesces, rfl, ?_, ?_⟩
      · simp [resourceOf, control]
      · simp [collectKqueue, decoded, control]
  | false =>
      cases found : table.resolve raw.token with
      | none =>
          refine ⟨pending, coalesces, rfl, ?_, ?_⟩
          · simp [resourceOf, control, found]
          · simp [collectKqueue, decoded, control, found]
      | some observation =>
          by_cases same : raw.descriptor = observation.descriptor
          · obtain ⟨after, added, afterCoalesces, groups, capacity⟩ :=
              coalesces.add wellFormed found raw.readiness
            refine ⟨after, afterCoalesces, capacity, ?_, ?_⟩
            · rw [groups]
              simp [resourceOf, control, found, same]
            · simp [collectKqueue, decoded, control, found, same, added]
          · refine ⟨pending, coalesces, rfl, ?_, ?_⟩
            · simp [resourceOf, control, found, same]
            · simp [collectKqueue, decoded, control, found, same]

/-- Collection either absorbs every record or stops at one that cannot be
decoded. -/
theorem collectKqueue_cases
    (target : KqueueTarget) (rawEvents : KqueueBatch) (observed : Nat)
    {table : RegistrationTable} (wellFormed : table.WellFormed) (indices : List Nat)
    {pending : KqueuePending} (coalesces : Coalesces table pending)
    (woke : Bool) :
    ∃ after,
      Coalesces table after ∧ after.capacity = pending.capacity ∧
        ((∃ raws,
            List.Forall₂
                (fun index raw =>
                  rawEvents.event target index observed = some raw)
                indices raws ∧
              collectKqueue target rawEvents table observed indices
                  pending woke =
                (after, .ok (woke || raws.any RawEvent.control)) ∧
              after.groups =
                (resourcesOf table raws).foldl
                  (Grouping.absorb Readiness.union pending.capacity.val)
                  pending.groups) ∨
          ((∃ index ∈ indices,
              rawEvents.event target index observed = none) ∧
            collectKqueue target rawEvents table observed indices pending
                woke =
              (after, .error .invariant))) := by
  induction indices generalizing pending woke with
  | nil =>
      refine ⟨pending, coalesces, rfl, Or.inl ⟨[], .nil, ?_, rfl⟩⟩
      simp [collectKqueue]
  | cons index rest inductionHypothesis =>
      cases decoded : rawEvents.event target index observed with
      | none =>
          refine ⟨pending, coalesces, rfl, Or.inr ⟨?_, ?_⟩⟩
          · exact ⟨index, List.mem_cons_self .., decoded⟩
          · simp [collectKqueue, decoded]
      | some raw =>
          obtain ⟨middle, middleCoalesces, middleCapacity, groups,
            step⟩ :=
              collectKqueue_step wellFormed decoded rest coalesces woke
          obtain ⟨after, afterCoalesces, afterCapacity, outcome⟩ :=
            inductionHypothesis middleCoalesces (woke || raw.control)
          refine ⟨after, afterCoalesces,
            afterCapacity.trans middleCapacity, ?_⟩
          rw [step]
          rcases outcome with
            ⟨raws, decodedRest, result, restGroups⟩ |
              ⟨⟨stuck, member, undecoded⟩, result⟩
          · refine Or.inl ⟨raw :: raws, .cons decoded decodedRest, ?_, ?_⟩
            · rw [result, List.any_cons, Bool.or_assoc]
            · rw [restGroups, groups, middleCapacity]
              unfold resourcesOf
              rw [List.filterMap_cons]
              cases resourceOf table raw <;> rfl
          · exact Or.inr
              ⟨⟨stuck, List.mem_cons_of_mem _ member, undecoded⟩, result⟩

/-! ## Disarm plans -/

/-- The plan that disarms a delivered one-shot registration. -/
def planOf (table : RegistrationTable) (pending : PendingResource) :
    Option Plan :=
  match table.lookup pending.registration with
  | none => none
  | some entry =>
      if entry.mode = .oneShot then
        some
          { registration := pending.registration
            descriptor := entry.descriptor.asRawFd
            interest := entry.interest
            commit := .unknown }
      else
        none

def plansOf (table : RegistrationTable) (batch : List PendingResource) :
    List Plan :=
  batch.filterMap (planOf table)

theorem plansOf_registrations
    (table : RegistrationTable) (batch : List PendingResource) :
    (plansOf table batch).map Plan.registration = oneShots table batch := by
  induction batch with
  | nil => rfl
  | cons pending rest inductionHypothesis =>
      unfold plansOf oneShots at *
      cases present : table.lookup pending.registration with
      | none => simp [planOf, oneShotIn, present, inductionHypothesis]
      | some entry =>
          by_cases once : entry.mode = .oneShot
          · simp [planOf, oneShotIn, present, once, inductionHypothesis]
          · simp [planOf, oneShotIn, present, once, inductionHypothesis]

/-- The number of native changes of a list of plans. -/
def changeTotal (plans : List Plan) : Nat :=
  (plans.map Plan.changeCount).sum

theorem changeTotal_le (plans : List Plan) :
    changeTotal plans ≤ 2 * plans.length := by
  induction plans with
  | nil => rfl
  | cons plan rest inductionHypothesis =>
      have one : plan.changeCount ≤ 2 := by
        unfold Plan.changeCount
        cases plan.interest.isReadable <;>
          cases plan.interest.isWritable <;> simp
      simp only [changeTotal, List.map_cons, List.sum_cons,
        List.length_cons] at *
      omega

/-- Plans fit the storage that was sized for them. -/
structure DisarmBatch.Sized (batch : DisarmBatch) : Prop where
  changes : batch.changeCapacity = batch.planCapacity * 2
  fits : batch.planCapacity * 2 ≤ usizeMax

theorem DisarmBatch.push_eq
    {batch : DisarmBatch} (sized : batch.Sized)
    (counted : batch.changeLen = changeTotal batch.plans)
    (registration : RegistrationId) (descriptor : RawFd)
    {interest : Interest} (interested : interest.isEmpty = false)
    (room : batch.plans.length < batch.planCapacity) :
    batch.push registration descriptor interest =
      some
        { batch with
          plans :=
            batch.plans ++
              [{ registration, descriptor, interest
                 commit := .unknown }]
          changeLen :=
            changeTotal
              (batch.plans ++
                [{ registration, descriptor, interest
                   commit := .unknown }]) } := by
  have directions := Interest.directions_of_nonempty interested
  have bounded := changeTotal_le batch.plans
  have atMost : interest.isReadable.toNat + interest.isWritable.toNat ≤
      2 := by
    cases interest.isReadable <;> cases interest.isWritable <;> simp
  have positive : interest.isReadable.toNat + interest.isWritable.toNat ≠
      0 := by
    rcases directions with readable | writable
    · simp [readable]
    · simp [writable]
  have capacity := sized.changes
  have fits := sized.fits
  unfold DisarmBatch.push
  rw [if_neg (by omega)]
  simp only [usizeCheckedAdd]
  rw [if_pos (by omega)]
  simp only
  rw [if_neg (by omega)]
  simp [changeTotal, Plan.changeCount, counted]

theorem prepareDisarmsFrom_eq
    {table : RegistrationTable} (interested : table.Interested)
    {batch : List PendingResource}
    (delivers : ∀ pending ∈ batch, Delivers table pending)
    {rawEvents : KqueueBatch} (sized : rawEvents.disarms.Sized)
    (counted :
      rawEvents.disarms.changeLen = changeTotal rawEvents.disarms.plans)
    (room : rawEvents.disarms.plans.length + batch.length ≤
      rawEvents.disarms.planCapacity) :
    prepareDisarmsFrom table batch rawEvents =
      ({ rawEvents with
          disarms :=
            { rawEvents.disarms with
              plans := rawEvents.disarms.plans ++ plansOf table batch
              changeLen :=
                changeTotal
                  (rawEvents.disarms.plans ++ plansOf table batch) } },
        .ok ()) := by
  induction batch generalizing rawEvents with
  | nil =>
      simp only [prepareDisarmsFrom, plansOf, List.filterMap_nil,
        List.append_nil, ← counted]
  | cons pending rest inductionHypothesis =>
      obtain ⟨entry, arm, present, held⟩ :=
        delivers pending (List.mem_cons_self ..)
      have restDelivers := fun other member =>
        delivers other (List.mem_cons_of_mem _ member)
      simp only [List.length_cons] at room
      rw [prepareDisarmsFrom, binding_delivers present held]
      simp only [Entry.binding]
      by_cases once : entry.mode = .oneShot
      · have pushed :=
          DisarmBatch.push_eq sized counted pending.registration
            entry.descriptor.asRawFd
            (interested pending.registration entry present) (by omega)
        simp only [once, ne_eq, not_true_eq_false, if_false,
          KqueueBatch.pushDisarm, Descriptor.asFd, pushed,
          Option.map_some]
        rw [inductionHypothesis restDelivers
          (by exact ⟨sized.changes, sized.fits⟩) (by rfl)
          (by simp; omega)]
        simp [plansOf, planOf, present, once]
      · simp only [once, ne_eq, not_false_eq_true, if_true]
        rw [inductionHypothesis restDelivers sized counted (by omega)]
        simp [plansOf, planOf, present, once]

/-! ## Translation -/

variable {Backend : Type*}

/-- What every reachable kqueue poller satisfies between two calls. -/
structure KqueuePoll.Sound (poll : KqueuePoll Backend) : Prop where
  wellFormed : poll.registrations.WellFormed
  interested : poll.registrations.Interested
  fresh : poll.pending.Fresh
  slots : poll.pending.bySlot.length = poll.registrations.limit.val
  capacity : poll.pending.capacity = poll.eventCapacity
  plans :
    poll.rawEvents.disarms.planCapacity =
      min poll.eventCapacity.val poll.registrations.limit.val
  sized : poll.rawEvents.disarms.Sized
  arena :
    poll.rawEvents.raw.arena.eventCapacity ≤
      poll.rawEvents.raw.arena.storage.length

/-- The delivered registrations with the union of their hints: the first
distinct identities that fit beside a wake. -/
def deliveredGroups
    (table : RegistrationTable) (capacity : Nat) (raws : List RawEvent) :
    List (RegistrationId × Readiness) :=
  let resources := resourcesOf table raws
  let limit := capacity - (raws.any RawEvent.control).toNat
  ((resources.map Prod.fst).eraseDups.take limit).map fun id =>
    (id, Grouping.total Readiness.union Readiness.empty resources id)

/-- The outcome of collecting the records of a batch. -/
structure Collected
    (target : KqueueTarget) (poll : KqueuePoll Backend) (observed : Nat)
    (raws : List RawEvent) (pending : KqueuePending)
    (batch : List PendingResource) : Prop where
  decoded :
    List.Forall₂
      (fun index raw =>
        poll.rawEvents.event target index observed = some raw)
      (List.range observed) raws
  coalesces : Coalesces poll.registrations pending
  groups :
    batch.map PendingResource.group =
      deliveredGroups poll.registrations poll.eventCapacity.val raws
  resolved : ∀ entry ∈ batch,
    ∃ observation,
      poll.registrations.resolve entry.registration.raw =
          some observation ∧
        entry.key = observation.key

/-- The disarm batch that a delivery plans. -/
def planned (poll : KqueuePoll Backend) (batch : List PendingResource) :
    DisarmBatch :=
  { poll.rawEvents.disarms with
    plans := plansOf poll.registrations batch
    changeLen := changeTotal (plansOf poll.registrations batch) }

/-- The statuses that the executor proves for a planned delivery. -/
def provenCommits
    (executor : DisarmExecutor (Backend × KeventBatch))
    (poll : KqueuePoll Backend) (batch : List PendingResource) :
    List CommitStatus :=
  (planned poll batch).submittedCommits executor
    (poll.backend, poll.rawEvents.raw)

/-- The disarms that a delivery commits. -/
def provenDisarms
    (executor : DisarmExecutor (Backend × KeventBatch))
    (poll : KqueuePoll Backend) (batch : List PendingResource) :
    List (RegistrationId × CommitStatus) :=
  (oneShots poll.registrations batch).zip
    (provenCommits executor poll batch)

/-- The storage after a submission. -/
def submittedBatch
    (executor : DisarmExecutor (Backend × KeventBatch))
    (poll : KqueuePoll Backend) (batch : List PendingResource)
    (raw : KeventBatch) : KqueueBatch :=
  { raw
    disarms :=
      { planned poll batch with
        plans :=
          DisarmBatch.setCommits (plansOf poll.registrations batch)
            (provenCommits executor poll batch) } }

/-- Everything that a translation can do. -/
inductive Translates
    (target : KqueueTarget)
    (executor : DisarmExecutor (Backend × KeventBatch))
    (observed : Nat) (poll : KqueuePoll Backend) (events : Events) :
    Poll.Observed Backend KqueueBatch KqueuePending → Prop
  | undecoded {index : Nat} {pending : KqueuePending} :
      index < observed →
      poll.rawEvents.event target index observed = none →
      Coalesces poll.registrations pending →
      pending.capacity = poll.pending.capacity →
      Translates target executor observed poll events
        ({ poll with pending }, events, .error .invariant)
  | blocked {raws : List RawEvent} {pending : KqueuePending}
      {batch : List PendingResource} {backend : Backend}
      {raw : KeventBatch} {disarms : DisarmBatch}
      {submitted : Except IoError Unit} :
      Collected target poll observed raws pending batch →
      pending.capacity = poll.pending.capacity →
      (∃ entry ∈ batch, ¬ Ready poll.registrations entry) →
      (planned poll batch).submit executor
          (poll.backend, poll.rawEvents.raw) =
        (disarms, (backend, raw), submitted) →
      Translates target executor observed poll events
        ({ poll with
            pending
            backend
            rawEvents := submittedBatch executor poll batch raw },
          events, .error .invariant)
  | delivered {raws : List RawEvent} {pending : KqueuePending}
      {batch : List PendingResource} {backend : Backend}
      {raw : KeventBatch} {source : Option IoError}
      {disarms : DisarmBatch} {submitted : Except IoError Unit} :
      Collected target poll observed raws pending batch →
      pending.capacity = poll.pending.capacity →
      (∀ entry ∈ batch, Ready poll.registrations entry) →
      (planned poll batch).submit executor
          (poll.backend, poll.rawEvents.raw) =
        (disarms, (backend, raw), submitted) →
      (source.isSome = true ↔
        ∃ commit ∈ provenCommits executor poll batch,
          commit ≠ .applied) →
      source = resultErr submitted →
      Translates target executor observed poll events
        ({ poll with
            pending
            backend
            rawEvents := submittedBatch executor poll batch raw
            registrations :=
              poll.registrations.applyDisarms
                (provenDisarms executor poll batch) },
          { events with
            deliveries :=
              events.deliveries ++ batch.map PendingResource.delivery ++
                wakeDeliveries (raws.any RawEvent.control)
                  poll.wakeKey },
          .ok
            { recovery :=
                source.map fun source =>
                  { operation := .disarm
                    outcomes :=
                      (provenDisarms executor poll batch).map
                        fun disarm =>
                          RecoveryOutcome.new disarm.1 disarm.2
                    source } })

/-! ### Steps of the translation -/

theorem KqueuePoll.Sound.coalesces
    {poll : KqueuePoll Backend} (sound : poll.Sound) :
    Coalesces poll.registrations poll.pending := by
  have addressable : poll.pending.bySlot.length ≤ maxRegistrations := by
    rw [sound.slots]
    exact sound.wellFormed.limitAddressable
  refine ⟨sound.fresh.indexed addressable, ?_, sound.slots⟩
  intro entry member
  rw [sound.fresh.1] at member
  cases member

theorem delivers_of_resolve
    {table : RegistrationTable} {entry : PendingResource}
    {observation : Observation}
    (found : table.resolve entry.registration.raw = some observation) :
    Delivers table entry := by
  obtain ⟨live, arm, present, held, _⟩ :=
    (RegistrationTable.resolve_eq_some_iff _ _ _).1 found
  exact ⟨live, arm, present, held⟩

/-- The delivered prefix of the coalesced entries. -/
theorem delivered_groups
    {table : RegistrationTable} {capacity : Nat} {raws : List RawEvent}
    {entries : List PendingResource}
    (groups : entries.map PendingResource.group =
      Grouping.summary Readiness.union Readiness.empty capacity
        (resourcesOf table raws)) :
    (entries.take
        (min entries.length
          (capacity - (raws.any RawEvent.control).toNat))).map
        PendingResource.group =
      deliveredGroups table capacity raws := by
  have sameTake :
      entries.take
          (min entries.length
            (capacity - (raws.any RawEvent.control).toNat)) =
        entries.take (capacity - (raws.any RawEvent.control).toNat) := by
    rw [Nat.min_comm, ← List.take_take, List.take_length]
  rw [sameTake, List.map_take, groups]
  unfold Grouping.summary deliveredGroups
  rw [← List.map_take, List.take_take, Nat.min_eq_left (Nat.sub_le _ _)]

theorem deliveredGroups_nodup
    (table : RegistrationTable) (capacity : Nat) (raws : List RawEvent) :
    ((deliveredGroups table capacity raws).map Prod.fst).Nodup := by
  simp only [deliveredGroups, List.map_map, Function.comp_def,
    List.map_id']
  exact (Grouping.nodup_eraseDups _).sublist (List.take_sublist _ _)

theorem outcomes_eq
    {executor : DisarmExecutor (Backend × KeventBatch)}
    {poll : KqueuePoll Backend} {batch : List PendingResource} :
    (DisarmBatch.setCommits (plansOf poll.registrations batch)
        (provenCommits executor poll batch)).map Plan.outcome =
      (provenDisarms executor poll batch).map fun disarm =>
        RecoveryOutcome.new disarm.1 disarm.2 := by
  rw [DisarmBatch.setCommits_outcomes, provenDisarms,
    ← plansOf_registrations, List.zip_map_left, List.map_map, List.zip,
    List.map_zipWith]
  rfl

theorem length_provenCommits
    (executor : DisarmExecutor (Backend × KeventBatch))
    (poll : KqueuePoll Backend) (batch : List PendingResource) :
    (provenCommits executor poll batch).length =
      (oneShots poll.registrations batch).length := by
  rw [provenCommits, DisarmBatch.length_submittedCommits,
    ← plansOf_registrations, List.length_map]
  rfl

theorem provenDisarms_registrations
    (executor : DisarmExecutor (Backend × KeventBatch))
    (poll : KqueuePoll Backend) (batch : List PendingResource) :
    (provenDisarms executor poll batch).map Prod.fst =
      oneShots poll.registrations batch := by
  rw [provenDisarms, List.map_fst_zip]
  rw [length_provenCommits]

theorem provenDisarms_commits
    (executor : DisarmExecutor (Backend × KeventBatch))
    (poll : KqueuePoll Backend) (batch : List PendingResource) :
    (provenDisarms executor poll batch).map Prod.snd =
      provenCommits executor poll batch := by
  rw [provenDisarms, List.map_snd_zip]
  rw [length_provenCommits]

/-- The preparation of a collected batch plans exactly its one-shots. -/
theorem KqueuePoll.Sound.prepareDisarms_eq
    {poll : KqueuePoll Backend} (sound : poll.Sound)
    (entries : List PendingResource) (delivered : Nat)
    (bounded : delivered ≤ entries.length)
    (delivers : ∀ entry ∈ entries.take delivered,
      Delivers poll.registrations entry)
    (withinEvents : delivered ≤ poll.eventCapacity.val)
    (withinSlots : delivered ≤ poll.registrations.limit.val) :
    prepareDisarms poll.registrations entries delivered poll.rawEvents =
      ({ poll.rawEvents with
          disarms := planned poll (entries.take delivered) },
        .ok ()) := by
  have capacity := sound.plans
  have size : (entries.take delivered).length = delivered := by
    rw [List.length_take]
    omega
  simp only [prepareDisarms]
  rw [prepareDisarmsFrom_eq sound.interested delivers
    (by exact ⟨sound.sized.changes, sound.sized.fits⟩) (by rfl)
    (by
      simp only [KqueueBatch.clearDisarms, DisarmBatch.clear,
        List.length_nil, size, capacity]
      omega)]
  simp only [if_pos bounded, KqueueBatch.clearDisarms, DisarmBatch.clear,
    List.nil_append, planned]

/-- What is known about a collected batch before it is submitted. -/
theorem Collected.facts
    {target : KqueueTarget} {poll : KqueuePoll Backend} {observed : Nat}
    {raws : List RawEvent} {pending : KqueuePending}
    {batch : List PendingResource}
    (collected : Collected target poll observed raws pending batch) :
    (∀ entry ∈ batch, Delivers poll.registrations entry) ∧
      (batch.map PendingResource.registration).Nodup := by
  constructor
  · intro entry member
    obtain ⟨observation, found, _⟩ := collected.resolved entry member
    exact delivers_of_resolve found
  · have distinct :=
      deliveredGroups_nodup poll.registrations poll.eventCapacity.val raws
    rw [← collected.groups, List.map_map] at distinct
    exact distinct

theorem translateKqueue_translates
    (target : KqueueTarget)
    (executor : DisarmExecutor (Backend × KeventBatch))
    (observed : Nat) {poll : KqueuePoll Backend} {events : Events}
    (sound : poll.Sound) (vacant : events.deliveries = [])
    (room : poll.eventCapacity.val ≤ events.capacity.val) :
    Translates target executor observed poll events
      (translateKqueue target executor observed poll events) := by
  obtain ⟨pending, coalesces, capacity, outcome⟩ :=
    collectKqueue_cases target poll.rawEvents observed sound.wellFormed
      (List.range observed) sound.coalesces false
  rcases outcome with
    ⟨raws, decoded, result, groups⟩ | ⟨⟨index, member, undecoded⟩, result⟩
  · have noGroups : poll.pending.groups = [] := by
      simp [KqueuePending.groups, sound.fresh.1]
    have unit : ∀ value : Readiness,
        Readiness.union Readiness.empty value = value := by
      intro value
      cases value
      simp [Readiness.union, Readiness.empty]
    rw [noGroups, Grouping.foldl_absorb unit, sound.capacity] at groups
    let woke := raws.any RawEvent.control
    let delivered :=
      min pending.entries.length
        (poll.eventCapacity.val - woke.toNat)
    let batch := pending.entries.take delivered
    have collected :
        Collected target poll observed raws pending batch :=
      { decoded, coalesces
        groups := delivered_groups groups
        resolved := fun entry inBatch =>
          coalesces.resolved entry (List.mem_of_mem_take inBatch) }
    obtain ⟨delivers, distinct⟩ := collected.facts
    have withinSlots : delivered ≤ poll.registrations.limit.val := by
      have bound := coalesces.indexed.length_le
      rw [coalesces.slots] at bound
      omega
    have prepared :=
      sound.prepareDisarms_eq pending.entries delivered
        (Nat.min_le_left _ _) delivers (by omega) withinSlots
    obtain ⟨⟨backend, raw⟩, submitted, submission, failed⟩ :=
      (planned poll batch).submit_eq executor
        (poll.backend, poll.rawEvents.raw)
    let source := resultErr submitted
    have reported : source.isSome = true ↔
        ∃ commit ∈ provenCommits executor poll batch,
          commit ≠ .applied := by
      refine Iff.trans ?_ failed
      cases submitted <;> simp [source, resultErr]
    have named :
        ((provenDisarms executor poll batch).map fun disarm =>
            RecoveryOutcome.new disarm.1 disarm.2).map
            RecoveryOutcome.registration =
          oneShots poll.registrations batch := by
      rw [List.map_map, ← provenDisarms_registrations executor]
      rfl
    have translated :
        translateKqueue target executor observed poll events =
          (let finished :=
            finish poll.registrations events pending.entries delivered
              woke poll.wakeKey
              ((provenDisarms executor poll batch).map fun disarm =>
                RecoveryOutcome.new disarm.1 disarm.2) source
          ({ poll with
              pending
              backend
              rawEvents := submittedBatch executor poll batch raw
              registrations := finished.1 },
            finished.2.1, finished.2.2)) := by
      unfold translateKqueue
      rw [result]
      simp only [Bool.false_or]
      rw [prepared]
      simp only
      rw [submission]
      have shape :
          (DisarmBatch.setCommits (planned poll batch).plans
              ((planned poll batch).submittedCommits executor
                (poll.backend, poll.rawEvents.raw))).map Plan.outcome =
            (provenDisarms executor poll batch).map fun disarm =>
              RecoveryOutcome.new disarm.1 disarm.2 :=
        outcomes_eq
      simp only [DisarmBatch.outcomes, shape]
      rfl
    rw [translated]
    have positive := poll.eventCapacity.property
    by_cases ready : ∀ entry ∈ batch, Ready poll.registrations entry
    · have reportedOutcomes : source.isSome =
          ((provenDisarms executor poll batch).map fun disarm =>
            RecoveryOutcome.new disarm.1 disarm.2).any
              fun outcome => outcome.commit ≠ .applied := by
        rw [Bool.eq_iff_iff, reported, List.any_map,
          ← provenDisarms_commits executor, List.any_eq_true]
        constructor
        · rintro ⟨commit, member, failing⟩
          obtain ⟨disarm, inDisarms, rfl⟩ := List.mem_map.mp member
          exact ⟨disarm, inDisarms, by
            simpa [RecoveryOutcome.new] using failing⟩
        · rintro ⟨disarm, inDisarms, failing⟩
          exact ⟨disarm.2, List.mem_map.mpr ⟨disarm, inDisarms, rfl⟩, by
            simpa [RecoveryOutcome.new] using failing⟩
      have enough : events.deliveries.length + delivered + woke.toNat ≤
          events.capacity.val := by
        have atMostOne : woke.toNat ≤ 1 := Bool.toNat_le woke
        rw [vacant, List.length_nil]
        omega
      have agreed : ∀ outcome ∈
          (provenDisarms executor poll batch).map fun disarm =>
            RecoveryOutcome.new disarm.1 disarm.2,
          outcome =
            RecoveryOutcome.new outcome.registration outcome.commit := by
        intro outcome member
        obtain ⟨disarm, _, rfl⟩ := List.mem_map.mp member
        rfl
      rw [finish_ready (Nat.min_le_left _ _) delivers ready distinct named
        agreed reportedOutcomes enough]
      have disarms :
          ((provenDisarms executor poll batch).map fun disarm =>
              RecoveryOutcome.new disarm.1 disarm.2).map
              RecoveryOutcome.disarm =
            provenDisarms executor poll batch := by
        rw [List.map_map]
        exact List.map_id _
      rw [disarms]
      exact Translates.delivered collected capacity ready submission
        reported rfl
    · have blocked : ∃ entry ∈ batch, ¬ Ready poll.registrations entry := by
        simpa using ready
      rw [finish_blocked (Nat.min_le_left _ _) blocked]
      exact Translates.blocked collected capacity blocked submission
  · have inside : index < observed := List.mem_range.mp member
    unfold translateKqueue
    rw [result]
    exact Translates.undecoded inside undecoded coalesces capacity

end Zio
