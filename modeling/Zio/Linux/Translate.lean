import Zio.Linux.Epoll
import Zio.Poll.Run

/-!
# What an epoll translation delivers

The forward loop in closed form: it resolves every record against the table at
the start of the wait, disarms each one-shot registration once, and stops at
the first one that may not be disarmed.
-/

namespace Zio

open Transition

namespace RegistrationTable

/-- A proven disarm changes what no token resolves to. -/
theorem resolve_applyDisarm
    (table : RegistrationTable) (id : RegistrationId) (token : UInt64) :
    (table.applyDisarm id .applied).1.resolve token =
      table.resolve token := by
  rcases applyDisarm_cases table id .applied with
    ⟨index, slot, entry, located, disarmable, result⟩ |
      ⟨_, _, _, result⟩ | ⟨_, result⟩
  · rw [result, resolve_eq, resolve_eq, lookup_writeEntry located]
    by_cases same : (⟨token⟩ : RegistrationId) = id
    · rw [if_pos same, same, located.lookup]
      simp [disarmedEntry, disarmedState, disarmable.2, Entry.observation]
    · rw [if_neg same]
  · rw [result]
  · rw [result]

/-- Distinct registrations that may all be disarmed. -/
def Disarms (table : RegistrationTable) (ids : List RegistrationId) :
    Prop :=
  ids.Nodup ∧ ∀ id ∈ ids, table.Disarmable id

theorem disarms_cons
    {table : RegistrationTable} {id : RegistrationId} {entry : Entry}
    (present : table.lookup id = some entry) (ready : entry.Disarmable)
    (rest : List RegistrationId) :
    table.Disarms (id :: rest) ↔
      (table.applyDisarm id .applied).1.Disarms rest := by
  have disarmed := (applyDisarm_ready present ready .applied).2 id
  rw [if_pos rfl] at disarmed
  have spent : ¬ (table.applyDisarm id .applied).1.Disarmable id := by
    rintro ⟨found, held, disarmable⟩
    rw [disarmed] at held
    cases held
    cases disarmable.2
  have others : ∀ other, other ≠ id →
      ((table.applyDisarm id .applied).1.Disarmable other ↔
        table.Disarmable other) := by
    intro other different
    unfold Disarmable
    rw [applyDisarm_other _ _ _ different]
  constructor
  · rintro ⟨distinct, all⟩
    obtain ⟨absent, distinctRest⟩ := List.nodup_cons.mp distinct
    refine ⟨distinctRest, fun other member => ?_⟩
    have different : other ≠ id := by
      rintro rfl
      exact absent member
    exact (others other different).2
      (all other (List.mem_cons_of_mem _ member))
  · rintro ⟨distinctRest, all⟩
    have absent : id ∉ rest := fun member => spent (all id member)
    refine ⟨List.nodup_cons.mpr ⟨absent, distinctRest⟩, ?_⟩
    intro other member
    rcases List.mem_cons.mp member with rfl | later
    · exact ⟨entry, present, ready⟩
    · have different : other ≠ id := by
        rintro rfl
        exact absent later
      exact (others other different).1 (all other later)

end RegistrationTable

/-! ## The forward loop -/

/-- The event of one record, when its token resolves. -/
def recordDelivery (table : RegistrationTable) (raw : EpollEvent) :
    Option Delivery :=
  if raw.token = 0 then
    none
  else
    (table.resolve raw.token).map fun resource =>
      { event := .resource resource.key (fromEpollFlags raw.events)
        source := some ⟨raw.token⟩ }

/-- The one-shot registration that a record names. -/
def recordOneShot (table : RegistrationTable) (raw : EpollEvent) :
    Option RegistrationId :=
  if raw.token = 0 then
    none
  else
    match table.resolve raw.token with
    | none => none
    | some resource =>
        if resource.mode = .oneShot then some resource.id else none

/-- The one-shot registrations that the records name, in order. -/
def recordOneShots
    (table : RegistrationTable) (records : List EpollEvent) :
    List RegistrationId :=
  records.filterMap (recordOneShot table)

/-- The disarms that the records commit. -/
def recordDisarms
    (table : RegistrationTable) (records : List EpollEvent) :
    List (RegistrationId × CommitStatus) :=
  (recordOneShots table records).map fun id => (id, .applied)

theorem recordOneShots_congr
    {before after : RegistrationTable} (records : List EpollEvent)
    (same : ∀ token, after.resolve token = before.resolve token) :
    recordOneShots after records = recordOneShots before records := by
  apply List.filterMap_congr
  intro raw _
  simp only [recordOneShot, same]

theorem recordDeliveries_congr
    {before after : RegistrationTable} (records : List EpollEvent)
    (same : ∀ token, after.resolve token = before.resolve token) :
    records.filterMap (recordDelivery after) =
      records.filterMap (recordDelivery before) := by
  apply List.filterMap_congr
  intro raw _
  simp only [recordDelivery, same]

theorem recordOneShot_live
    {table : RegistrationTable} {raw : EpollEvent} {id : RegistrationId}
    (named : recordOneShot table raw = some id) :
    raw.token ≠ 0 ∧ id = ⟨raw.token⟩ ∧
      ∃ entry, table.lookup id = some entry ∧ entry.mode = .oneShot ∧
        table.resolve raw.token = some (entry.observation id) := by
  unfold recordOneShot at named
  split at named
  · cases named
  · rename_i resource
    split at named
    · cases named
    · rename_i observation found
      split at named
      · rename_i once
        obtain ⟨entry, arm, present, _, rfl⟩ :=
          (RegistrationTable.resolve_eq_some_iff _ _ _).1 found
        cases named
        exact ⟨resource, rfl, entry, present, once, found⟩
      · cases named

/-- One record that names no blocked one-shot registration. -/
theorem translateFrom_step
    {table : RegistrationTable} {raw : EpollEvent}
    (ready : ∀ id, recordOneShot table raw = some id →
      table.Disarmable id)
    (rest : List EpollEvent) (resources : List Delivery) (woke : Bool) :
    EpollBatch.translateFrom classifyLinux (raw :: rest) table resources
        woke =
      EpollBatch.translateFrom classifyLinux rest
        (table.applyDisarms (recordDisarms table [raw]))
        (resources ++ (recordDelivery table raw).toList)
        (woke || raw.token = 0) := by
  by_cases wake : raw.token = 0
  · simp [EpollBatch.translateFrom, recordDisarms, recordOneShots,
      recordOneShot, recordDelivery, wake]
  · cases named : recordOneShot table raw with
    | none =>
        cases found : table.resolve raw.token with
        | none =>
            simp [EpollBatch.translateFrom, recordDisarms, recordOneShots,
              named, recordDelivery, wake, classifyLinux, found]
        | some resource =>
            have level : resource.mode ≠ .oneShot := by
              intro once
              simp [recordOneShot, wake, found, once] at named
            simp [EpollBatch.translateFrom, recordDisarms, recordOneShots,
              named, recordDelivery, wake, classifyLinux, found, level]
    | some id =>
        obtain ⟨_, rfl, entry, present, once, found⟩ :=
          recordOneShot_live named
        obtain ⟨_, held, disarmable⟩ := ready _ named
        rw [present] at held
        cases held
        have applied := (RegistrationTable.applyDisarm_ready present
          disarmable .applied).1
        rcases disarmed : table.applyDisarm ⟨raw.token⟩ .applied with
          ⟨next, outcome⟩
        rw [disarmed] at applied
        simp only at applied
        subst applied
        simp [EpollBatch.translateFrom, recordDisarms, recordOneShots,
          named, recordDelivery, wake, classifyLinux, found, once,
          Entry.observation, disarmed]

/-- One record that names a blocked one-shot registration. -/
theorem translateFrom_stop
    {table : RegistrationTable} {raw : EpollEvent} {id : RegistrationId}
    (named : recordOneShot table raw = some id)
    (blocked : ¬ table.Disarmable id)
    (rest : List EpollEvent) (resources : List Delivery) (woke : Bool) :
    EpollBatch.translateFrom classifyLinux (raw :: rest) table resources
        woke = (table, .error .invariant) := by
  obtain ⟨resource, rfl, entry, present, once, found⟩ :=
    recordOneShot_live named
  rcases RegistrationTable.applyDisarm_cases table ⟨raw.token⟩
      .applied with
    ⟨_, _, held, located, disarmable, _⟩ | ⟨_, _, _, result⟩ |
      ⟨absent, _⟩
  · exact (blocked ⟨held, located.lookup, disarmable⟩).elim
  · simp [EpollBatch.translateFrom, resource, classifyLinux, found, once,
      Entry.observation, result]
  · rw [absent] at present
    cases present

/-- The loop either disarms every named one-shot registration and resolves
every record, or stops at one that may not be disarmed. -/
theorem translateFrom_cases
    (records : List EpollEvent) (table : RegistrationTable)
    (resources : List Delivery) (woke : Bool) :
    (table.Disarms (recordOneShots table records) ∧
        EpollBatch.translateFrom classifyLinux records table resources
            woke =
          (table.applyDisarms (recordDisarms table records),
            .ok
              (resources ++ records.filterMap (recordDelivery table),
                woke || records.any fun raw => raw.token = 0))) ∨
      (¬ table.Disarms (recordOneShots table records) ∧
        ∃ disarms,
          EpollBatch.translateFrom classifyLinux records table resources
              woke =
            (table.applyDisarms disarms, .error .invariant)) := by
  induction records generalizing table resources woke with
  | nil =>
      refine Or.inl ⟨⟨List.nodup_nil, by simp [recordOneShots]⟩, ?_⟩
      simp [EpollBatch.translateFrom, recordDisarms, recordOneShots]
  | cons raw rest inductionHypothesis =>
      have deliveries :
          (raw :: rest).filterMap (recordDelivery table) =
            (recordDelivery table raw).toList ++
              rest.filterMap (recordDelivery table) := by
        cases delivery : recordDelivery table raw <;>
          simp [delivery]
      cases named : recordOneShot table raw with
      | none =>
          have head : recordOneShots table (raw :: rest) =
              recordOneShots table rest := by
            simp [recordOneShots, named]
          rw [translateFrom_step (by simp [named]), head, deliveries]
          simpa [recordDisarms, head, recordOneShots, named,
            Bool.or_assoc] using
              inductionHypothesis table
                (resources ++ (recordDelivery table raw).toList)
                (woke || raw.token = 0)
      | some id =>
          have head : recordOneShots table (raw :: rest) =
              id :: recordOneShots table rest := by
            simp [recordOneShots, named]
          by_cases ready : table.Disarmable id
          · obtain ⟨entry, present, disarmable⟩ := ready
            have same := table.resolve_applyDisarm id
            have single :
                table.applyDisarms (recordDisarms table [raw]) =
                  (table.applyDisarm id .applied).1 := by
              simp [recordDisarms, recordOneShots, named]
            rw [translateFrom_step (by
                intro other again
                rw [named] at again
                cases again
                exact ⟨entry, present, disarmable⟩), single, head,
              RegistrationTable.disarms_cons present disarmable,
              deliveries]
            have next := inductionHypothesis
              (table.applyDisarm id .applied).1
              (resources ++ (recordDelivery table raw).toList)
              (woke || raw.token = 0)
            rw [recordOneShots_congr rest same,
              recordDeliveries_congr rest same] at next
            rcases next with ⟨disarms, result⟩ | ⟨blocked, disarms, result⟩
            · refine Or.inl ⟨disarms, ?_⟩
              rw [result]
              simp [recordDisarms, head, recordOneShots_congr rest same,
                Bool.or_assoc]
            · refine Or.inr ⟨blocked, (id, .applied) :: disarms, ?_⟩
              rw [result]
              rfl
          · refine Or.inr ⟨?_, [], translateFrom_stop named ready _ _ _⟩
            rintro ⟨_, all⟩
            exact ready (all id (by rw [head]; exact List.mem_cons_self ..))

/-! ## Stamped batches -/

namespace EpollBatch

/-- A batch that its last wait stamped with the destination. -/
structure Stamped (batch : EpollBatch) (events : Events) : Prop where
  vacant : events.deliveries = []
  large : batch.capacity ≤ events.capacity.val
  counted : batch.observed = events.native.length
  address : batch.storageAddress = events.address.val

variable {σ : Type*} {batch : EpollBatch} {events : Events}

theorem translate_excessive
    (classify : σ → UInt64 → σ × Except Error (Option Key))
    (excessive : batch.capacity < events.native.length)
    (wakeKey : Option Key) (state : σ) :
    batch.translate classify events events.native.length wakeKey state =
      (batch.invalidate, events, state, .error .invariant) := by
  unfold translate
  rw [if_pos (by simp [excessive])]

theorem Stamped.translate_eq
    (classify : σ → UInt64 → σ × Except Error (Option Key))
    (stamped : batch.Stamped events)
    (fits : events.native.length ≤ batch.capacity)
    (wakeKey : Option Key) (state : σ) :
    batch.translate classify events events.native.length wakeKey state =
      match translateFrom classify events.native state [] false with
      | (state, .error error) =>
          (batch.invalidate, events, state, .error error)
      | (state, .ok (resources, woke)) =>
          (batch.invalidate,
            { events with
              deliveries := resources ++ wakeEvent woke wakeKey },
            state, .ok ()) := by
  have positive := events.address.property
  have large := stamped.large
  unfold translate
  rw [if_neg (by
      simp [stamped.address, stamped.counted, Events.isEmpty,
        stamped.vacant]
      omega),
    if_neg (by simp [stamped.address])]
  rcases translated : translateFrom classify events.native state [] false
    with ⟨after, result⟩
  cases result with
  | error error => simp only [List.take_length, translated]
  | ok value => simp only [List.take_length, translated]

end EpollBatch

/-! ## Waits -/

variable {Backend : Type*}

namespace LinuxPoll

/-- What every reachable Linux poller satisfies between two calls. -/
structure Sound (poll : LinuxPoll Backend) : Prop where
  wellFormed : poll.registrations.WellFormed
  interested : poll.registrations.Interested
  capacity : poll.rawEvents.capacity = poll.eventCapacity.val
  maxEvents : poll.rawEvents.maxEvents = poll.eventCapacity.val

/-- Everything that the translation of a wait's records can do. -/
inductive Translates (records : List EpollEvent) (poll : LinuxPoll Backend) :
    LinuxPoll Backend × Events × Except Error Unit → Prop
  | excessive {filled : Events} :
      poll.eventCapacity.val < records.length →
      filled.deliveries = [] →
      Translates records poll
        ({ poll with rawEvents := poll.rawEvents.invalidate }, filled,
          .error .invariant)
  | blocked {filled : Events}
      {disarms : List (RegistrationId × CommitStatus)} :
      ¬ poll.registrations.Disarms
        (recordOneShots poll.registrations records) →
      filled.deliveries = [] →
      Translates records poll
        ({ poll with
            rawEvents := poll.rawEvents.invalidate
            registrations := poll.registrations.applyDisarms disarms },
          filled, .error .invariant)
  | delivered {filled : Events} :
      records.length ≤ poll.eventCapacity.val →
      poll.registrations.Disarms
        (recordOneShots poll.registrations records) →
      filled.deliveries =
        records.filterMap (recordDelivery poll.registrations) ++
          EpollBatch.wakeEvent (records.any fun raw => raw.token = 0)
            poll.wakeKey →
      Translates records poll
        ({ poll with
            rawEvents := poll.rawEvents.invalidate
            registrations :=
              poll.registrations.applyDisarms
                (recordDisarms poll.registrations records) },
          filled, .ok ())

/-- Everything that a wait can do. -/
inductive Waited
    (answer : Except IoError (List EpollEvent)) (poll : LinuxPoll Backend)
    (events : Events) : Poll.Observed Backend EpollBatch Unit → Prop
  | small :
      events.capacity.val < poll.eventCapacity.val →
      Waited answer poll events
        (poll, events.clear,
          .error
            (.eventsTooSmall poll.eventCapacity.val events.capacity.val))
  | failed {source : IoError} :
      answer = .error source →
      Waited answer poll events
        ({ poll with rawEvents := poll.rawEvents.invalidate },
          events.clear, .error (.io .wait source))
  | translated {records : List EpollEvent} {after : LinuxPoll Backend}
      {filled : Events} {result : Except Error Unit} :
      answer = .ok records →
      Translates records poll (after, filled, result) →
      Waited answer poll events
        (after,
          Poll.settledEvents filled
            (result.map fun _ => { recovery := none }),
          result.map fun _ => { recovery := none })

section Closed

variable {poll : LinuxPoll Backend} (sound : poll.Sound) (events : Events)
  (room : poll.eventCapacity.val ≤ events.capacity.val)
include sound room

theorem Sound.admitted :
    ¬ (¬ events.clear.isEmpty = true ∨
      events.clear.capacity.val < poll.rawEvents.invalidate.capacity) := by
  have vacant : events.clear.isEmpty = true := rfl
  simp only [vacant, not_true_eq_false, false_or, Nat.not_lt]
  rw [show poll.rawEvents.invalidate.capacity =
    poll.rawEvents.capacity from rfl, sound.capacity]
  exact room

theorem Sound.nativeWait_failed (source : IoError) :
    LinuxPoll.nativeWait (.error source) poll events.clear =
      ({ poll with rawEvents := poll.rawEvents.invalidate },
        events.clear, .error source) := by
  simp only [LinuxPoll.nativeWait, EpollBatch.wait]
  rw [if_neg (sound.admitted events room)]

/-- The records that a wait answered are translated from the table at its
start. -/
theorem Sound.translateLinux_eq
    {records : List EpollEvent}
    (fits : records.length ≤ poll.eventCapacity.val) :
    ∃ waited staged,
      LinuxPoll.nativeWait (.ok records) poll events.clear =
          (waited, staged, .ok records.length) ∧
        (∀ table error,
          EpollBatch.translateFrom classifyLinux records
              poll.registrations [] false = (table, .error error) →
          translateLinux records.length waited staged =
            ({ poll with
                rawEvents := poll.rawEvents.invalidate
                registrations := table },
              { events.clear with native := records },
              .error error)) ∧
        ∀ table resources woke,
          EpollBatch.translateFrom classifyLinux records
              poll.registrations [] false =
            (table, .ok (resources, woke)) →
          translateLinux records.length waited staged =
            ({ poll with
                rawEvents := poll.rawEvents.invalidate
                registrations := table },
              { events.clear with
                native := records
                deliveries :=
                  resources ++
                    EpollBatch.wakeEvent woke poll.wakeKey },
              .ok ()) := by
  let stamped : EpollBatch :=
    { poll.rawEvents.invalidate with
      observed := records.length
      storageAddress := events.address.val }
  let staged : Events := { events.clear with native := records }
  have capacity : stamped.capacity = poll.eventCapacity.val :=
    sound.capacity
  have isStamped : stamped.Stamped staged :=
    { vacant := rfl
      large := by rw [capacity]; exact room
      counted := rfl
      address := rfl }
  have translates := isStamped.translate_eq classifyLinux
    (by rw [capacity]; exact fits) poll.wakeKey poll.registrations
  rw [show staged.native = records from rfl] at translates
  refine ⟨{ poll with rawEvents := stamped }, staged, ?_, ?_, ?_⟩
  · simp only [LinuxPoll.nativeWait, EpollBatch.wait]
    rw [if_neg (sound.admitted events room)]
    rfl
  · intro table error failed
    rw [failed] at translates
    simp only [translateLinux, translates]
    rfl
  · intro table resources woke succeeded
    rw [succeeded] at translates
    simp only [translateLinux, translates]
    rfl

/-- Records that exceed the batch are refused. -/
theorem Sound.translateLinux_excessive
    {records : List EpollEvent}
    (excessive : poll.eventCapacity.val < records.length) :
    ∃ waited staged,
      LinuxPoll.nativeWait (.ok records) poll events.clear =
          (waited, staged, .ok records.length) ∧
        translateLinux records.length waited staged =
          ({ poll with rawEvents := poll.rawEvents.invalidate },
            { events.clear with native := records },
            .error .invariant) := by
  let stamped : EpollBatch :=
    { poll.rawEvents.invalidate with
      observed := records.length
      storageAddress := events.address.val }
  let staged : Events := { events.clear with native := records }
  have short : stamped.capacity < staged.native.length := by
    rw [show stamped.capacity = poll.eventCapacity.val from
      sound.capacity]
    exact excessive
  have translates := EpollBatch.translate_excessive classifyLinux short
    poll.wakeKey poll.registrations
  rw [show staged.native = records from rfl] at translates
  refine ⟨{ poll with rawEvents := stamped }, staged, ?_, ?_⟩
  · simp only [LinuxPoll.nativeWait, EpollBatch.wait]
    rw [if_neg (sound.admitted events room)]
    rfl
  · simp only [translateLinux, translates]
    rfl

/-- The translation of the records that a wait answered. -/
theorem Sound.translates (records : List EpollEvent) :
    ∃ waited staged,
      LinuxPoll.nativeWait (.ok records) poll events.clear =
          (waited, staged, .ok records.length) ∧
        Translates records poll
          (translateLinux records.length waited staged) := by
  by_cases fits : records.length ≤ poll.eventCapacity.val
  · obtain ⟨waited, staged, native, failed, succeeded⟩ :=
      sound.translateLinux_eq events room fits
    refine ⟨waited, staged, native, ?_⟩
    rcases translateFrom_cases records poll.registrations [] false with
      ⟨disarms, result⟩ | ⟨blocked, disarms, result⟩
    · rw [succeeded _ _ _ result]
      exact Translates.delivered fits disarms rfl
    · rw [failed _ _ result]
      exact Translates.blocked blocked rfl
  · have excessive := Nat.not_le.mp fits
    obtain ⟨waited, staged, native, refused⟩ :=
      sound.translateLinux_excessive events room excessive
    refine ⟨waited, staged, native, ?_⟩
    rw [refused]
    exact Translates.excessive excessive rfl

end Closed

theorem translated_eq
    {observed : Nat} {poll after : LinuxPoll Backend}
    {events filled : Events} {result : Except Error Unit}
    (translates :
      translateLinux observed poll events = (after, filled, result)) :
    translated observed poll events =
      (after, filled, result.map fun _ => { recovery := none }) := by
  simp only [translated, translates]
  cases result <;> rfl

/-- A destination that is too small is refused before the kernel is asked. -/
theorem wait_small
    (answer : Except IoError (List EpollEvent)) {poll : LinuxPoll Backend}
    {events : Events}
    (small : events.capacity.val < poll.eventCapacity.val) :
    LinuxPoll.wait answer poll events =
      (poll, events.clear,
        .error
          (.eventsTooSmall poll.eventCapacity.val events.capacity.val)) :=
  Poll.waitWith_eq (Poll.observeWith_small small)

theorem Sound.wait
    (answer : Except IoError (List EpollEvent)) {poll : LinuxPoll Backend}
    (sound : poll.Sound) (events : Events) :
    Waited answer poll events (LinuxPoll.wait answer poll events) := by
  have framed : ∀ {after filled result},
      Poll.observeWith (LinuxPoll.nativeWait answer) translated poll
          events.clear = (after, filled, result) →
      LinuxPoll.wait answer poll events =
        (after, Poll.settledEvents filled result, result) := by
    intro after filled result observed
    exact Poll.waitWith_eq observed
  by_cases small : events.capacity.val < poll.eventCapacity.val
  · rw [wait_small answer small]
    exact Waited.small small
  · have large : poll.eventCapacity.val ≤ events.capacity.val :=
      Nat.not_lt.mp small
    have room : poll.eventCapacity.val ≤ events.clear.capacity.val := large
    cases answer with
    | error source =>
        rw [framed (Poll.observeWith_failed room
          (sound.nativeWait_failed events large source))]
        exact Waited.failed rfl
    | ok records =>
        obtain ⟨waited, staged, native, translates⟩ :=
          sound.translates events large records
        rcases outcome : translateLinux records.length waited staged with
          ⟨after, filled, result⟩
        rw [outcome] at translates
        rw [framed ((Poll.observeWith_translated room native).trans
          (translated_eq outcome))]
        exact Waited.translated rfl translates

end LinuxPoll

end Zio
