import Zio.Kqueue.Recovery

/-!
# All-or-nothing recovery commits

`finish` checks a whole recovery plan before it stores an event or changes a
registration.  The checks are exactly what the commit loop needs, so that a
plan is either committed completely or rejected without a trace.
-/

namespace Zio

/-- The outcome of a disarm attempt, as the program builds it. -/
def attemptOutcome (attempt : RegistrationId × CommitStatus) :
    RecoveryOutcome :=
  RecoveryOutcome.new attempt.1 attempt.2

/-- The plans that may be committed: every delivered observation names a live
and certain registration, every delivered one-shot registration is armed, the
outcomes are the delivered one-shot registrations in order, and a source
explains exactly the plans in which some disarm was not applied. -/
structure Recoverable
    (table : RegistrationTable) (pending : List PendingResource)
    (delivered : Nat) (outcomes : List RecoveryOutcome)
    (source : Option IoError) : Prop where
  bounded : delivered ≤ pending.length
  registered : ∀ resource ∈ pending.take delivered,
    Delivers table resource
  armed : ∀ resource ∈ pending.take delivered, Ready table resource
  named : outcomes.map RecoveryOutcome.registration =
    oneShots table (pending.take delivered)
  explained : source.isSome = true ↔
    ∃ outcome ∈ outcomes, outcome.commit ≠ .applied

section

variable {table : RegistrationTable} {events : Events}
  {pending : List PendingResource} {delivered : Nat}
  {outcomes : List RecoveryOutcome} {source : Option IoError}

theorem Recoverable.reported
    (plan : Recoverable table pending delivered outcomes source) :
    source.isSome =
      outcomes.any fun outcome => outcome.commit ≠ .applied := by
  rw [Bool.eq_iff_iff, plan.explained]
  simp

theorem validate_ok :
    validate table pending delivered outcomes source.isSome = .ok () ↔
      Recoverable table pending delivered outcomes source := by
  constructor
  · intro valid
    unfold validate at valid
    split at valid
    · cases valid
    · rename_i short
      split at valid
      · cases valid
      · cases valid
      · rename_i passed
        obtain ⟨registered, armed, read, same, named⟩ :=
          (validateDelivered_ok table (pending.take delivered)
            outcomes []).mp passed
        rw [List.append_nil] at same
        subst same
        simp only at valid
        split at valid
        · cases valid
        · rename_i agreed
          have explained : source.isSome =
              outcomes.any fun outcome => outcome.commit ≠ .applied :=
            of_not_not agreed
          refine ⟨by omega, registered, armed, named, ?_⟩
          rw [explained]
          simp
  · intro plan
    have bounded : ¬ delivered > pending.length :=
      Nat.not_lt.mpr plan.bounded
    unfold validate
    rw [if_neg bounded,
      validateDelivered_ready plan.registered plan.armed plan.named]
    simp [plan.reported]

theorem finish_rejected
    (invalid : ¬ Recoverable table pending delivered outcomes source)
    (woke : Bool) (wakeKey : Option Key) :
    ∃ error,
      finish table events pending delivered woke wakeKey outcomes source =
        (table, events, .error error) := by
  cases result :
      validate table pending delivered outcomes source.isSome with
  | error error =>
      refine ⟨error, ?_⟩
      unfold finish
      rw [result]
  | ok passed => exact (invalid (validate_ok.mp result)).elim

end

section

variable {table : RegistrationTable}
  {pending : List PendingResource} {delivered : Nat}
  {attempts : List (RegistrationId × CommitStatus)}
  {source : Option IoError}

theorem map_disarm_attemptOutcome
    (attempts : List (RegistrationId × CommitStatus)) :
    (attempts.map attemptOutcome).map RecoveryOutcome.disarm =
      attempts := by
  rw [List.map_map]
  exact List.map_id attempts

theorem map_registration_attemptOutcome
    (attempts : List (RegistrationId × CommitStatus)) :
    (attempts.map attemptOutcome).map RecoveryOutcome.registration =
      attempts.map Prod.fst := by
  rw [List.map_map]
  rfl

theorem Recoverable.committed
    (plan : Recoverable table pending delivered
      (attempts.map attemptOutcome) source)
    (distinct : (pending.map PendingResource.registration).Nodup)
    {events : Events} (empty : events.isEmpty = true)
    (room : delivered + 1 ≤ events.capacity.val)
    (woke : Bool) (wakeKey : Option Key) :
    finish table events pending delivered woke wakeKey
        (attempts.map attemptOutcome) source =
      (table.applyDisarms attempts,
        { events with
          deliveries :=
            (pending.take delivered).map PendingResource.delivery ++
              wakeDeliveries woke wakeKey },
        .ok
          { recovery :=
              source.map fun source =>
                { operation := .disarm
                  outcomes := attempts.map attemptOutcome
                  source } }) := by
  have unused : events.deliveries = [] := List.isEmpty_iff.mp empty
  have unique :
      ((pending.take delivered).map
        PendingResource.registration).Nodup :=
    distinct.sublist
      ((List.take_sublist delivered pending).map _)
  have agreed : ∀ outcome ∈ attempts.map attemptOutcome,
      outcome =
        RecoveryOutcome.new outcome.registration outcome.commit := by
    intro outcome member
    obtain ⟨attempt, _, rfl⟩ := List.mem_map.mp member
    rfl
  have size : events.deliveries.length + delivered + woke.toNat ≤
      events.capacity.val := by
    have wake : woke.toNat ≤ 1 := Bool.toNat_le woke
    rw [unused, List.length_nil]
    omega
  rw [finish_ready plan.bounded plan.registered plan.armed unique
    plan.named agreed plan.reported size wakeKey,
    map_disarm_attemptOutcome, unused, List.nil_append]

/-- Every attempted registration is an armed one-shot registration, named
once. -/
theorem Recoverable.attempted
    (plan : Recoverable table pending delivered
      (attempts.map attemptOutcome) source)
    (distinct : (pending.map PendingResource.registration).Nodup) :
    (attempts.map Prod.fst).Nodup ∧
      ∀ attempt ∈ attempts, table.Disarmable attempt.1 := by
  have named := plan.named
  rw [map_registration_attemptOutcome] at named
  constructor
  · rw [named]
    exact distinct.sublist
      ((List.filter_sublist.trans
        (List.take_sublist delivered pending)).map _)
  · intro attempt member
    have listed : attempt.1 ∈
        oneShots table (pending.take delivered) := by
      rw [← named]
      exact List.mem_map.mpr ⟨attempt, member, rfl⟩
    obtain ⟨resource, selected, same⟩ := List.mem_map.mp listed
    obtain ⟨inBatch, once⟩ := List.mem_filter.mp selected
    rw [← same]
    exact plan.armed resource inBatch once

/-- The state that an outcome reports is the state of its registration after
the commit. -/
theorem Recoverable.outcome_state
    (plan : Recoverable table pending delivered
      (attempts.map attemptOutcome) source)
    (distinct : (pending.map PendingResource.registration).Nodup)
    {attempt : RegistrationId × CommitStatus}
    (member : attempt ∈ attempts) :
    (table.applyDisarms attempts).state attempt.1 =
      .ok (attemptOutcome attempt).state := by
  obtain ⟨unique, disarmable⟩ := plan.attempted distinct
  obtain ⟨entry, present, ready⟩ := disarmable attempt member
  have lookup :
      (table.applyDisarms attempts).lookup attempt.1 =
        some (RegistrationTable.disarmedEntry attempt.2 entry) :=
    RegistrationTable.applyDisarms_lookup unique member present ready
  rw [RegistrationTable.state_eq, lookup]
  obtain ⟨id, commit⟩ := attempt
  cases commit with
  | applied => rfl
  | notApplied =>
      have held : entry.state = .registered .armed := ready.2
      simp [okOr, Except.map, RegistrationTable.disarmedEntry,
        RegistrationTable.disarmedState, attemptOutcome,
        RecoveryOutcome.new, held]
  | unknown => rfl

/-- A recovery plan commits exactly when it may be committed.  A rejected plan
changes neither the table nor the events.  A committed plan gives every
attempted registration the state that its outcome reports and every other
registration its earlier entry, stores the delivered observations and the
wake, and reports a failure with every outcome exactly when a source explains
one. -/
theorem finish_atomic
    (table : RegistrationTable) (pending : List PendingResource)
    (distinct : (pending.map PendingResource.registration).Nodup)
    (delivered : Nat) (woke : Bool) (wakeKey : Option Key)
    (attempts : List (RegistrationId × CommitStatus))
    (source : Option IoError)
    (events : Events) (empty : events.isEmpty = true)
    (room : delivered + 1 ≤ events.capacity.val) :
    let outcomes := attempts.map attemptOutcome
    let after :=
      finish table events pending delivered woke wakeKey outcomes source
    ((∃ report, after.2.2 = .ok report) ↔
        Recoverable table pending delivered outcomes source) ∧
      (∀ error, after.2.2 = .error error →
        after.1 = table ∧ after.2.1 = events) ∧
      ∀ report, after.2.2 = .ok report →
        (∀ outcome ∈ outcomes,
          after.1.state outcome.registration = .ok outcome.state) ∧
          (∀ id, id ∉ outcomes.map RecoveryOutcome.registration →
            after.1.lookup id = table.lookup id) ∧
          after.2.1 =
            { events with
              deliveries :=
                (pending.take delivered).map PendingResource.delivery ++
                  wakeDeliveries woke wakeKey } ∧
          report.recovery =
            source.map fun source =>
              { operation := .disarm, outcomes, source } := by
  intro outcomes after
  by_cases plan : Recoverable table pending delivered outcomes source
  · have result : after = _ :=
      plan.committed distinct empty room woke wakeKey
    rw [result]
    refine ⟨⟨fun _ => plan, fun _ => ⟨_, rfl⟩⟩, ?_, ?_⟩
    · intro error failed
      cases failed
    · intro report succeeded
      cases succeeded
      refine ⟨?_, ?_, rfl, rfl⟩
      · intro outcome member
        obtain ⟨attempt, attempted, rfl⟩ := List.mem_map.mp member
        exact plan.outcome_state distinct attempted
      · intro id other
        rw [map_registration_attemptOutcome] at other
        exact table.applyDisarms_other attempts other
  · obtain ⟨error, result⟩ : ∃ error, after = (table, events, .error error) :=
      finish_rejected plan woke wakeKey
    rw [result]
    refine ⟨⟨?_, fun held => (plan held).elim⟩, ?_, ?_⟩
    · rintro ⟨report, succeeded⟩
      cases succeeded
    · intro _ _
      exact ⟨rfl, rfl⟩
    · intro report succeeded
      cases succeeded

end

/-! ### A plan with an unproved disarm -/

/-- A table whose only slot holds an armed one-shot registration. -/
def oneShotTable : RegistrationTable :=
  { RegistrationTable.oneSlotTable with
    slots :=
      [RegistrationTable.freshSlot
        (Entry.registered (Descriptor.owned firstDescriptor) ⟨7⟩
          Interest.readable .oneShot)] }

/-- The observation of that registration. -/
def oneShotPending : PendingResource :=
  { registration := RegistrationTable.oneSlotId.id
    key := ⟨7⟩
    readiness := Readiness.readable }

/-- An empty destination for the observation and a wake. -/
def oneShotEvents : Events :=
  { capacity := ⟨2, Nat.two_pos⟩, deliveries := []
    address := ⟨1, Nat.one_pos⟩, native := [] }

/-- The disarm of that registration could not be proved. -/
def oneShotAttempts : List (RegistrationId × CommitStatus) :=
  [(RegistrationTable.oneSlotId.id, .unknown)]

theorem oneShot_recovers :
    (finish oneShotTable oneShotEvents [oneShotPending] 1 true
        (some ⟨9⟩) (oneShotAttempts.map attemptOutcome)
        (some (.os 9))).1.state RegistrationTable.oneSlotId.id =
      .ok .uncertain := by
  have atomic := finish_atomic oneShotTable [oneShotPending]
    (List.nodup_singleton _) 1 true (some ⟨9⟩) oneShotAttempts
    (some (.os 9)) oneShotEvents rfl (Nat.le_refl 2)
  exact (atomic.2.2 _ rfl).1
    (attemptOutcome (RegistrationTable.oneSlotId.id, .unknown))
    (List.mem_singleton.mpr rfl)

end Zio
