import Zio.Portable

/-!
# What a failed epoll wait leaves behind

The forward loop disarms one-shot registrations record by record, and a later
record can still fail.  A failed wait leaves the table alone exactly when the
records are not divided this way.
-/

namespace Zio

open Transition

/-- The records disarm all the one-shot registrations that they name, or fail
at the first of them. -/
def Undivided (table : RegistrationTable) (records : List EpollEvent) :
    Prop :=
  table.Disarms (recordOneShots table records) ∨
    ∃ id, (recordOneShots table records).head? = some id ∧
      ¬ table.Disarmable id

/-- A loop that fails stopped at the first one-shot registration that the
records name, or disarmed that one before it stopped. -/
theorem translateFrom_failed
    {table : RegistrationTable} {records : List EpollEvent}
    (resources : List Delivery) (woke : Bool)
    (blocked : ¬ table.Disarms (recordOneShots table records)) :
    ∃ id, (recordOneShots table records).head? = some id ∧
      ((¬ table.Disarmable id ∧
          EpollBatch.translateFrom classifyLinux records table resources
              woke = (table, .error .invariant)) ∨
        (table.Disarmable id ∧
          ∃ disarms,
            EpollBatch.translateFrom classifyLinux records table resources
                woke =
              ((table.applyDisarm id .applied).1.applyDisarms disarms,
                .error .invariant))) := by
  induction records generalizing resources woke with
  | nil => exact (blocked ⟨List.nodup_nil, by simp [recordOneShots]⟩).elim
  | cons raw rest inductionHypothesis =>
      cases named : recordOneShot table raw with
      | none =>
          have head : recordOneShots table (raw :: rest) =
              recordOneShots table rest := by
            simp [recordOneShots, named]
          have untouched :
              table.applyDisarms (recordDisarms table [raw]) = table := by
            simp [recordDisarms, recordOneShots, named]
          rw [head] at blocked
          rw [head, translateFrom_step (by simp [named]), untouched]
          exact inductionHypothesis _ _ blocked
      | some id =>
          have head : recordOneShots table (raw :: rest) =
              id :: recordOneShots table rest := by
            simp [recordOneShots, named]
          refine ⟨id, by rw [head]; rfl, ?_⟩
          by_cases ready : table.Disarmable id
          · refine Or.inr ⟨ready, ?_⟩
            obtain ⟨entry, present, disarmable⟩ := ready
            have single :
                table.applyDisarms (recordDisarms table [raw]) =
                  (table.applyDisarm id .applied).1 := by
              simp [recordDisarms, recordOneShots, named]
            have restBlocked :
                ¬ (table.applyDisarm id .applied).1.Disarms
                  (recordOneShots (table.applyDisarm id .applied).1
                    rest) := by
              rw [recordOneShots_congr rest
                  (table.resolve_applyDisarm id),
                ← RegistrationTable.disarms_cons present disarmable,
                ← head]
              exact blocked
            have step : ∀ other, recordOneShot table raw = some other →
                table.Disarmable other := by
              intro other again
              rw [named] at again
              cases again
              exact ⟨entry, present, disarmable⟩
            rw [translateFrom_step step, single]
            rcases translateFrom_cases rest
                (table.applyDisarm id .applied).1
                (resources ++ (recordDelivery table raw).toList)
                (woke || raw.token = 0) with
              ⟨disarms, _⟩ | ⟨_, result⟩
            · exact (restBlocked disarms).elim
            · exact result
          · exact Or.inl ⟨ready, translateFrom_stop named ready _ _ _⟩

/-- Disarming a registration is never undone by further disarms. -/
theorem applyDisarm_applyDisarms_ne
    {table : RegistrationTable} {id : RegistrationId}
    (ready : table.Disarmable id)
    (disarms : List (RegistrationId × CommitStatus)) :
    (table.applyDisarm id .applied).1.applyDisarms disarms ≠ table := by
  obtain ⟨entry, present, disarmable⟩ := ready
  have disarmed := (RegistrationTable.applyDisarm_ready present disarmable
    .applied).2 id
  rw [if_pos rfl] at disarmed
  have kept := RegistrationTable.applyDisarms_kept disarms disarmed
    (fun again => by cases again.2)
  intro same
  rw [same, present] at kept
  have states := congrArg Entry.state (Option.some.inj kept)
  rw [disarmable.2] at states
  cases states

/-- Exactly the undivided batches leave the table alone when they fail. -/
theorem translateFrom_unchanged_iff
    (table : RegistrationTable) (records : List EpollEvent) :
    (∀ error,
        (EpollBatch.translateFrom classifyLinux records table []
          false).2 = .error error →
        (EpollBatch.translateFrom classifyLinux records table []
          false).1 = table) ↔
      Undivided table records := by
  constructor
  · intro unchanged
    by_cases disarms : table.Disarms (recordOneShots table records)
    · exact Or.inl disarms
    · obtain ⟨id, first, ⟨stuck, _⟩ | ⟨ready, others, result⟩⟩ :=
        translateFrom_failed [] false disarms
      · exact Or.inr ⟨id, first, stuck⟩
      · rw [result] at unchanged
        exact (applyDisarm_applyDisarms_ne ready others
          (unchanged .invariant rfl)).elim
  · intro undivided error failed
    rcases undivided with disarms | ⟨id, first, stuck⟩
    · rcases translateFrom_cases records table [] false with
        ⟨_, result⟩ | ⟨blocked, _⟩
      · rw [result] at failed
        cases failed
      · exact (blocked disarms).elim
    · have blocked : ¬ table.Disarms (recordOneShots table records) := by
        intro disarms
        exact stuck (disarms.2 id (List.mem_of_mem_head? first))
      obtain ⟨other, again, ⟨_, result⟩ | ⟨ready, _⟩⟩ :=
        translateFrom_failed [] false blocked
      · rw [result]
      · rw [first] at again
        cases again
        exact (stuck ready).elim

/-! ## Waits -/

variable {Backend : Type*}

namespace LinuxPoll

/-- A wait that fails on these records leaves the destination empty and the
table as it was. -/
def LeavesTable
    (poll : LinuxPoll Backend) (events : Events)
    (records : List EpollEvent) : Prop :=
  ∀ error,
    (LinuxPoll.wait (.ok records) poll events).2.2 = .error error →
      (LinuxPoll.wait (.ok records) poll events).2.1.isEmpty = true ∧
        (LinuxPoll.wait (.ok records) poll events).1.registrations =
          poll.registrations

/-- The records are refused before any of them is classified. -/
def Refuses
    (poll : LinuxPoll Backend) (events : Events)
    (records : List EpollEvent) : Prop :=
  events.capacity.val < poll.eventCapacity.val ∨
    poll.eventCapacity.val < records.length

/-- The table after a wait whose records were classified, and whether it
failed. -/
theorem Sound.wait_classified
    {poll : LinuxPoll Backend} (sound : poll.Sound) {events : Events}
    {records : List EpollEvent} (admitted : ¬ poll.Refuses events records) :
    let translated :=
      EpollBatch.translateFrom classifyLinux records poll.registrations []
        false
    let after := LinuxPoll.wait (.ok records) poll events
    after.1.registrations = translated.1 ∧
      ((∃ error, after.2.2 = .error error) ↔
        ∃ error, translated.2 = .error error) := by
  intro translated after
  obtain ⟨room, fits⟩ : poll.eventCapacity.val ≤ events.capacity.val ∧
      records.length ≤ poll.eventCapacity.val := by
    unfold Refuses at admitted
    omega
  obtain ⟨waited, staged, native, failed, succeeded⟩ :=
    sound.translateLinux_eq events room fits
  have large : poll.eventCapacity.val ≤ events.clear.capacity.val := room
  have observed :
      Poll.observeWith (LinuxPoll.nativeWait (.ok records))
          LinuxPoll.translated poll events.clear =
        LinuxPoll.translated records.length waited staged :=
    Poll.observeWith_translated large native
  rcases result : EpollBatch.translateFrom classifyLinux records
      poll.registrations [] false with ⟨table, outcome⟩
  have same : translated = (table, outcome) := result
  cases outcome with
  | error error =>
      rw [translated_eq (failed _ _ result)] at observed
      have settled : after = _ := Poll.waitWith_eq observed
      rw [settled, same]
      exact ⟨rfl, fun _ => ⟨_, rfl⟩, fun _ => ⟨_, rfl⟩⟩
  | ok value =>
      obtain ⟨resources, woke⟩ := value
      rw [translated_eq (succeeded _ _ _ result)] at observed
      have settled : after = _ := Poll.waitWith_eq observed
      rw [settled, same]
      refine ⟨rfl, ?_, ?_⟩
      · rintro ⟨_, impossible⟩
        cases impossible
      · rintro ⟨_, impossible⟩
        cases impossible

theorem Sound.wait_refused
    {poll : LinuxPoll Backend} (sound : poll.Sound) {events : Events}
    {records : List EpollEvent} (refused : poll.Refuses events records) :
    (LinuxPoll.wait (.ok records) poll events).1.registrations =
      poll.registrations := by
  by_cases small : events.capacity.val < poll.eventCapacity.val
  · rw [wait_small (.ok records) small]
  · have room := Nat.not_lt.mp small
    have excessive := refused.resolve_left small
    obtain ⟨waited, staged, native, failed⟩ :=
      sound.translateLinux_excessive events room excessive
    have large : poll.eventCapacity.val ≤ events.clear.capacity.val := room
    have observed :
        Poll.observeWith (LinuxPoll.nativeWait (.ok records))
            LinuxPoll.translated poll events.clear =
          LinuxPoll.translated records.length waited staged :=
      Poll.observeWith_translated large native
    rw [translated_eq failed] at observed
    have settled : LinuxPoll.wait (.ok records) poll events = _ :=
      Poll.waitWith_eq observed
    rw [settled]

theorem Sound.wait_unanswered
    {poll : LinuxPoll Backend} (sound : poll.Sound) (events : Events)
    (source : IoError) :
    (LinuxPoll.wait (.error source) poll events).1.registrations =
      poll.registrations := by
  have waited := sound.wait (.error source) events
  generalize LinuxPoll.wait (.error source) poll events = after at waited
  cases waited with
  | small _ => rfl
  | failed _ => rfl
  | translated answered _ => cases answered

theorem Sound.wait_failed_empty
    {poll : LinuxPoll Backend} (sound : poll.Sound) {events : Events}
    {answer : Except IoError (List EpollEvent)} {error : Error}
    (failed : (LinuxPoll.wait answer poll events).2.2 = .error error) :
    (LinuxPoll.wait answer poll events).2.1.isEmpty = true := by
  have waited := sound.wait answer events
  revert failed
  generalize LinuxPoll.wait answer poll events = after at waited
  intro failed
  cases waited with
  | small _ => rfl
  | failed _ => rfl
  | @translated _ _ _ result _ _ =>
      cases result with
      | error _ => rfl
      | ok _ => cases failed

/-- A failed wait leaves the table alone exactly when its records are refused
as a whole or undivided. -/
theorem Sound.leavesTable_iff
    {poll : LinuxPoll Backend} (sound : poll.Sound) (events : Events)
    (records : List EpollEvent) :
    poll.LeavesTable events records ↔
      poll.Refuses events records ∨
        Undivided poll.registrations records := by
  unfold LeavesTable
  by_cases refused : poll.Refuses events records
  · have unchanged := sound.wait_refused refused
    refine ⟨fun _ => Or.inl refused, fun _ error failed => ?_⟩
    exact ⟨sound.wait_failed_empty failed, unchanged⟩
  · obtain ⟨table, fails⟩ := sound.wait_classified refused
    have translated :=
      translateFrom_unchanged_iff poll.registrations records
    rw [or_iff_right refused, ← translated]
    constructor
    · intro leaves error failed
      obtain ⟨reported, waitFailed⟩ := fails.mpr ⟨error, failed⟩
      rw [← table]
      exact (leaves reported waitFailed).2
    · intro unchanged error failed
      obtain ⟨raised, translateFailed⟩ := fails.mp ⟨error, failed⟩
      refine ⟨sound.wait_failed_empty failed, ?_⟩
      rw [table]
      exact unchanged raised translateFailed

/-- The waits whose records, when the kernel answers with records, are refused
as a whole or undivided. -/
def UndividedWaits : WaitRelation Backend EpollBatch Unit :=
  fun before deliveries result after =>
    ∃ (answer : Except IoError (List EpollEvent)) (events filled : Events),
      LinuxPoll.wait answer before events = (after, filled, result) ∧
        filled.deliveries = deliveries ∧
        ∀ records, answer = .ok records →
          LinuxPoll.Refuses before events records ∨
            Undivided before.registrations records

theorem UndividedWaits.waits
    {before after : LinuxPoll Backend} {deliveries : List Delivery}
    {result : Except Error WaitReport}
    (performed : UndividedWaits before deliveries result after) :
    Waits before deliveries result after := by
  obtain ⟨answer, events, filled, waited, delivered, _⟩ := performed
  exact ⟨answer, events, filled, waited, delivered⟩

theorem UndividedWaits.unchanged
    {before after : LinuxPoll Backend} (sound : before.Sound)
    {deliveries : List Delivery} {error : Error}
    (performed : UndividedWaits before deliveries (.error error) after) :
    deliveries = [] ∧ after.registrations = before.registrations := by
  obtain ⟨answer, events, filled, waited, rfl, undivided⟩ := performed
  have failed : (LinuxPoll.wait answer before events).2.2 =
      .error error := by
    rw [waited]
  have vacant := sound.wait_failed_empty failed
  rw [waited] at vacant
  refine ⟨List.isEmpty_iff.mp vacant, ?_⟩
  cases answer with
  | ok records =>
      have leaves := (sound.leavesTable_iff events records).mpr
        (undivided records rfl)
      have unchanged := (leaves error failed).2
      rw [waited] at unchanged
      exact unchanged
  | error source =>
      have unchanged := sound.wait_unanswered events source
      rw [waited] at unchanged
      exact unchanged

theorem UndividedWaits.execution
    {start poll : LinuxPoll Backend} {labels : List PollLabel}
    (run : Execution (Poll.Step UndividedWaits) start labels poll) :
    Execution (Poll.Step Waits) start labels poll := by
  induction run with
  | refl state => exact .refl state
  | cons first _ inductionHypothesis =>
      refine .cons ?_ inductionHypothesis
      cases first with
      | called driver request => exact .called driver request
      | configured key => exact .configured key
      | elsewhere nextPollId => exact .elsewhere nextPollId
      | waited performed => exact .waited performed.waits

/-- From every reachable poller, a wait that fails on a batch of records leaves
the destination empty and the table as it was exactly when the batch is
refused before any record is classified, disarms every one-shot registration
that it names, or fails at the first of them.  Hence in a run all of whose
batches are like this, no failed wait changes a registration. -/
theorem failed_wait_unchanged_iff
    {layout : EventLayout} {nextPollId : UInt64}
    {eventCount registrationCount : Nat}
    {backend : Except Error Backend} {tableAllocated : Bool}
    {start : LinuxPoll Backend}
    (created : LinuxPoll.withCapacity layout nextPollId eventCount
      registrationCount backend tableAllocated = .ok start) :
    (∀ labels (poll : LinuxPoll Backend),
      Execution (Poll.Step Waits) start labels poll →
        ∀ events records,
          poll.LeavesTable events records ↔
            poll.Refuses events records ∨
              Undivided poll.registrations records) ∧
      ∀ earlier later deliveries error poll,
        Execution (Poll.Step UndividedWaits) start
            (earlier ++ .waited deliveries (.error error) :: later)
            poll →
          deliveries = [] ∧
            ∃ before after,
              Execution (Poll.Step UndividedWaits) start earlier before ∧
                UndividedWaits before deliveries (.error error) after ∧
                Execution (Poll.Step UndividedWaits) after later poll ∧
                after.registrations = before.registrations := by
  have sound := withCapacity_sound created
  have keeps : ∀ {labels} {poll : LinuxPoll Backend},
      Execution (Poll.Step Waits) start labels poll → poll.Sound :=
    fun run => run.invariant Sound (fun _ _ _ kept step => kept.step step)
      sound
  constructor
  · intro labels poll run events records
    exact (keeps run).leavesTable_iff events records
  · intro earlier later deliveries error poll run
    obtain ⟨before, first, rest⟩ := run.split
    cases rest with
    | cons step remaining =>
        cases step with
        | waited performed =>
            obtain ⟨quiet, unchanged⟩ := performed.unchanged
              (keeps (UndividedWaits.execution first))
            exact ⟨quiet, before, _, first, performed, remaining,
              unchanged⟩

/-- The poller after a wait that delivered its one-shot registration. -/
def firstDelivered : LinuxPoll Unit :=
  (LinuxPoll.wait (.ok [firstRecord]) firstLinuxRegistered firstEvents).1

/-- The poller after a second record of the registration, which is disarmed. -/
def firstRefused : LinuxPoll Unit :=
  (LinuxPoll.wait (.ok [firstRecord]) firstDelivered firstEvents).1

theorem firstRecord_undivided :
    Undivided firstLinuxRegistered.registrations [firstRecord] ∧
      Undivided firstDelivered.registrations [firstRecord] := by
  have single : recordOneShots firstLinuxRegistered.registrations
      [firstRecord] = [RegistrationTable.oneSlotId.id] := rfl
  constructor
  · refine Or.inl ?_
    rw [single]
    refine ⟨List.nodup_singleton _, ?_⟩
    intro id member
    rw [List.mem_singleton.mp member]
    exact ⟨_, rfl, rfl, rfl⟩
  · refine Or.inr ⟨RegistrationTable.oneSlotId.id, rfl, ?_⟩
    rintro ⟨entry, present, _, armed⟩
    have disarmed :
        (firstDelivered.registrations.lookup
          RegistrationTable.oneSlotId.id).map Entry.state =
            some (.registered .disarmed) := rfl
    rw [present, Option.map_some, armed] at disarmed
    cases disarmed

/-- A second record of a delivered one-shot registration: the wait fails, and
neither the batch nor the run that ends with it changes the table. -/
theorem secondRecord_unchanged :
    (LinuxPoll.wait (.ok [firstRecord]) firstDelivered
        firstEvents).2.2 = .error .invariant ∧
      LinuxPoll.LeavesTable firstDelivered firstEvents [firstRecord] ∧
      ∃ labels before after,
        Execution (Poll.Step UndividedWaits) firstLinux labels before ∧
          UndividedWaits before [] (.error .invariant) after ∧
          Execution (Poll.Step UndividedWaits) after [] firstRefused ∧
          after.registrations = before.registrations := by
  obtain ⟨once, again⟩ := firstRecord_undivided
  have delivers : UndividedWaits firstLinuxRegistered _ _ firstDelivered :=
    ⟨.ok [firstRecord], firstEvents, _, rfl, rfl, fun records same => by
      cases same
      exact Or.inr once⟩
  have refuses :
      UndividedWaits firstDelivered [] (.error .invariant) firstRefused :=
    ⟨.ok [firstRecord], firstEvents, _, rfl, rfl, fun records same => by
      cases same
      exact Or.inr again⟩
  have earlier : Execution (Poll.Step UndividedWaits) firstLinux _
      firstDelivered :=
    .cons (.called acceptingDriver _) (.cons (.waited delivers) (.refl _))
  obtain ⟨batch, run⟩ := failed_wait_unchanged_iff firstLinux_created
  refine ⟨rfl, (batch _ firstDelivered (UndividedWaits.execution earlier)
    firstEvents [firstRecord]).mpr (Or.inr again), ?_⟩
  obtain ⟨_, before, after, first, failed, rest, unchanged⟩ :=
    run _ [] [] .invariant firstRefused
      (earlier.append (.cons (.waited refuses) (.refl _)))
  exact ⟨_, before, after, first, failed, rest, unchanged⟩

/-- Two records of one armed one-shot registration: the wait fails with no
event, and the registration stays disarmed. -/
theorem repeated_record_disarms :
    LinuxPoll.Reachable firstLinuxRegistered ∧
      ¬ LinuxPoll.LeavesTable firstLinuxRegistered firstEvents
        [firstRecord, firstRecord] ∧
      firstLinuxRegistered.registrations.state
          RegistrationTable.oneSlotId.id =
        .ok (.registered .armed) ∧
      (let after :=
        LinuxPoll.wait (.ok [firstRecord, firstRecord])
          firstLinuxRegistered firstEvents
      after.2.2 = .error .invariant ∧
        after.2.1.isEmpty = true ∧
        after.1.registrations.state RegistrationTable.oneSlotId.id =
          .ok (.registered .disarmed)) := by
  refine ⟨?_, ?_, rfl, rfl, rfl, rfl⟩
  · exact ⟨packedLayout, 1, 2, 2, .ok (), true, firstLinux, _,
      firstLinux_created, .cons (.called acceptingDriver _) (.refl _)⟩
  · intro leaves
    have unchanged := (leaves .invariant rfl).2
    have states := congrArg
      (fun table => RegistrationTable.state table
        RegistrationTable.oneSlotId.id) unchanged
    have impossible :
        (Except.ok (.registered .disarmed) :
          Except Error RegistrationState) =
            .ok (.registered .armed) := states
    cases impossible

end LinuxPoll

end Zio
