import Zio.Events
import Zio.Kqueue.Pending
import Zio.Table.Disarm

/-!
# Post-observation recovery reduction

`finish` validates the outcomes of a disarm submission against the delivered
observations before it stores any event or changes the table.
-/

namespace Zio

/-- The loop of `validate` over the delivered observations, returning the
outcomes that it did not consume. -/
def validateDelivered (registrations : RegistrationTable) :
    List PendingResource → List RecoveryOutcome →
      Except Error (List RecoveryOutcome)
  | [], outcomes => .ok outcomes
  | pending :: rest, outcomes =>
      match registrations.binding pending.registration false with
      | .error _ => .error .invariant
      | .ok binding =>
          if binding.mode ≠ .oneShot then
            validateDelivered registrations rest outcomes
          else if binding.state ≠ .registered .armed then
            .error .invariant
          else
            match outcomes with
            | [] => .error .invariant
            | outcome :: later =>
                if outcome.registration ≠ pending.registration then
                  .error .invariant
                else
                  validateDelivered registrations rest later

def validate
    (registrations : RegistrationTable) (pending : List PendingResource)
    (delivered : Nat) (outcomes : List RecoveryOutcome)
    (hasSource : Bool) : Except Error Unit :=
  if delivered > pending.length then
    .error .invariant
  else
    match validateDelivered registrations (pending.take delivered)
        outcomes with
    | .error error => .error error
    | .ok (_ :: _) => .error .invariant
    | .ok [] =>
        let recoveryRequired :=
          outcomes.any fun outcome => outcome.commit ≠ .applied
        if hasSource ≠ recoveryRequired then
          .error .invariant
        else
          .ok ()

/-- The event that reports one pending observation. -/
def PendingResource.delivery (pending : PendingResource) : Delivery :=
  { event := .resource pending.key pending.readiness
    source := some pending.registration }

/-- Store the delivered observations. -/
def pushResources : List PendingResource → Events →
    Events × Except Error Unit
  | [], events => (events, .ok ())
  | pending :: rest, events =>
      match events.tryPush pending.delivery with
      | (events, .error _) => (events, .error .invariant)
      | (events, .ok ()) => pushResources rest events

/-- Store the wake event, when there is one. -/
def pushWake (woke : Bool) (wakeKey : Option Key) (events : Events) :
    Events × Except Error Unit :=
  match woke, wakeKey with
  | true, some key =>
      match events.tryPush { event := .wake key, source := none } with
      | (events, .error _) => (events, .error .invariant)
      | (events, .ok ()) => (events, .ok ())
  | _, _ => (events, .ok ())

/-- Apply the outcomes in order, with the report snapshot so far. -/
def commitOutcomes : List RecoveryOutcome → RegistrationTable →
    Option (List RecoveryOutcome) →
      RegistrationTable × Except Error (Option (List RecoveryOutcome))
  | [], registrations, snapshot => (registrations, .ok snapshot)
  | outcome :: rest, registrations, snapshot =>
      match registrations.applyDisarm outcome.registration
          outcome.commit with
      | (registrations, .error error) => (registrations, .error error)
      | (registrations, .ok state) =>
          if outcome.state ≠ state then
            (registrations, .error .invariant)
          else
            commitOutcomes rest registrations
              (snapshot.map fun earlier => earlier ++ [outcome])

/-- The report of a recovery that may have failed. -/
def recoveryReport
    (source : Option IoError) (snapshot : Option (List RecoveryOutcome)) :
    Except Error WaitReport :=
  match source with
  | none => .ok { recovery := none }
  | some source =>
      match snapshot with
      | none => .error .invariant
      | some outcomes =>
          .ok { recovery := some { operation := .disarm, outcomes, source } }

def finish
    (registrations : RegistrationTable) (events : Events)
    (pending : List PendingResource) (delivered : Nat) (woke : Bool)
    (wakeKey : Option Key) (outcomes : List RecoveryOutcome)
    (source : Option IoError) :
    RegistrationTable × Events × Except Error WaitReport :=
  match validate registrations pending delivered outcomes
      source.isSome with
  | .error error => (registrations, events, .error error)
  | .ok () =>
      match pushResources (pending.take delivered) events with
      | (events, .error error) => (registrations, events, .error error)
      | (events, .ok ()) =>
          match pushWake woke wakeKey events with
          | (events, .error error) =>
              (registrations, events, .error error)
          | (events, .ok ()) =>
              match commitOutcomes outcomes registrations
                  (source.map fun _ => []) with
              | (registrations, .error error) =>
                  (registrations, events, .error error)
              | (registrations, .ok snapshot) =>
                  (registrations, events, recoveryReport source snapshot)

/-! ## Validation -/

/-- The live entry of a pending observation. -/
def Delivers (table : RegistrationTable) (pending : PendingResource) :
    Prop :=
  ∃ entry arm,
    table.lookup pending.registration = some entry ∧
      entry.state = .registered arm

/-- The observation names a one-shot registration. -/
def oneShotIn (table : RegistrationTable) (pending : PendingResource) :
    Bool :=
  match table.lookup pending.registration with
  | some entry => entry.mode == .oneShot
  | none => false

/-- The registrations that a delivery disarms, in order. -/
def oneShots (table : RegistrationTable) (batch : List PendingResource) :
    List RegistrationId :=
  (batch.filter (oneShotIn table)).map PendingResource.registration

/-- The observation may be delivered: it is not a one-shot registration that
was disarmed before. -/
def Ready (table : RegistrationTable) (pending : PendingResource) : Prop :=
  oneShotIn table pending = true →
    table.Disarmable pending.registration

theorem binding_delivers
    {table : RegistrationTable} {pending : PendingResource}
    {entry : Entry} {arm : ArmState}
    (present : table.lookup pending.registration = some entry)
    (held : entry.state = .registered arm) :
    table.binding pending.registration false = .ok entry.binding := by
  rw [RegistrationTable.binding_eq, present]
  simp [held]

/-- Exactly the registrations that are live and certain have a binding. -/
theorem binding_refused
    {table : RegistrationTable} {pending : PendingResource}
    (missing : ¬ Delivers table pending) :
    ∃ error,
      table.binding pending.registration false = .error error := by
  rw [RegistrationTable.binding_eq]
  cases present : table.lookup pending.registration with
  | none => exact ⟨_, rfl⟩
  | some entry =>
      cases held : entry.state with
      | registered arm => exact (missing ⟨entry, arm, present, held⟩).elim
      | uncertain => exact ⟨.uncertain pending.registration, by simp [held]⟩

theorem validateDelivered_error
    {table : RegistrationTable} {batch : List PendingResource}
    {outcomes : List RecoveryOutcome} {error : Error}
    (failed : validateDelivered table batch outcomes = .error error) :
    error = .invariant := by
  induction batch generalizing outcomes with
  | nil => cases failed
  | cons pending rest inductionHypothesis =>
      unfold validateDelivered at failed
      split at failed
      · exact (Except.error.inj failed).symm
      · split at failed
        · exact inductionHypothesis failed
        · split at failed
          · exact (Except.error.inj failed).symm
          · split at failed
            · exact (Except.error.inj failed).symm
            · split at failed
              · exact (Except.error.inj failed).symm
              · exact inductionHypothesis failed

/-- The loop passes exactly when every observation may be delivered and the
outcomes start with its one-shot registrations in order. -/
theorem validateDelivered_ok
    (table : RegistrationTable) (batch : List PendingResource)
    (outcomes unread : List RecoveryOutcome) :
    validateDelivered table batch outcomes = .ok unread ↔
      (∀ pending ∈ batch, Delivers table pending) ∧
        (∀ pending ∈ batch, Ready table pending) ∧
        ∃ read,
          outcomes = read ++ unread ∧
            read.map RecoveryOutcome.registration =
              oneShots table batch := by
  induction batch generalizing outcomes with
  | nil => simp [validateDelivered, oneShots]
  | cons pending rest inductionHypothesis =>
      simp only [List.forall_mem_cons]
      unfold validateDelivered
      by_cases delivers : Delivers table pending
      · obtain ⟨entry, arm, present, held⟩ := delivers
        have delivers : Delivers table pending :=
          ⟨entry, arm, present, held⟩
        rw [binding_delivers present held]
        simp only [Entry.binding]
        by_cases once : entry.mode = .oneShot
        · have selected : oneShotIn table pending = true := by
            simp [oneShotIn, present, once]
          have listed : oneShots table (pending :: rest) =
              pending.registration :: oneShots table rest := by
            simp [oneShots, selected]
          have readiness : Ready table pending ↔
              entry.state = .registered .armed := by
            simp [Ready, selected, RegistrationTable.Disarmable, present,
              Entry.Disarmable, once]
          simp only [once, delivers, readiness, listed, ne_eq,
            not_true_eq_false, if_false, true_and]
          by_cases armed : entry.state = .registered .armed
          · simp only [armed, not_true_eq_false, if_false, true_and]
            cases outcomes with
            | nil =>
                simp only [reduceCtorEq, false_iff]
                rintro ⟨_, _, read, empty, named⟩
                simp only [List.nil_eq_append_iff] at empty
                simp [empty.1] at named
            | cons outcome later =>
                by_cases same :
                    outcome.registration = pending.registration
                · simp only [same, not_true_eq_false, if_false]
                  rw [inductionHypothesis later]
                  refine and_congr_right fun _ => and_congr_right fun _ => ?_
                  constructor
                  · rintro ⟨read, rfl, named⟩
                    exact ⟨outcome :: read, rfl, by simp [same, named]⟩
                  · rintro ⟨read, split, named⟩
                    cases read with
                    | nil => simp at named
                    | cons first read =>
                        simp only [List.cons_append, List.cons.injEq] at split
                        simp only [List.map_cons, List.cons.injEq] at named
                        exact ⟨read, split.2, named.2⟩
                · simp only [same, not_false_eq_true, if_true, reduceCtorEq,
                    false_iff]
                  rintro ⟨_, _, read, split, named⟩
                  cases read with
                  | nil => simp at named
                  | cons first read =>
                      simp only [List.cons_append, List.cons.injEq] at split
                      simp only [List.map_cons, List.cons.injEq] at named
                      exact same (by rw [split.1, named.1])
          · simp [armed]
        · have skipped : oneShotIn table pending = false := by
            simp [oneShotIn, present, once]
          have ready : Ready table pending := by simp [Ready, skipped]
          have listed : oneShots table (pending :: rest) =
              oneShots table rest := by
            simp [oneShots, skipped]
          simp only [once, delivers, ready, listed, ne_eq,
            not_false_eq_true, if_true, true_and]
          exact inductionHypothesis outcomes
      · obtain ⟨error, refused⟩ := binding_refused delivers
        simp [refused, delivers]

theorem validateDelivered_ready
    {table : RegistrationTable} {batch : List PendingResource}
    (delivers : ∀ pending ∈ batch, Delivers table pending)
    (ready : ∀ pending ∈ batch, Ready table pending)
    {outcomes : List RecoveryOutcome}
    (named : outcomes.map RecoveryOutcome.registration =
      oneShots table batch) :
    validateDelivered table batch outcomes = .ok [] :=
  (validateDelivered_ok table batch outcomes []).mpr
    ⟨delivers, ready, outcomes, (List.append_nil outcomes).symm, named⟩

theorem validateDelivered_blocked
    {table : RegistrationTable} {batch : List PendingResource}
    (blocked : ∃ pending ∈ batch, ¬ Ready table pending)
    (outcomes : List RecoveryOutcome) :
    validateDelivered table batch outcomes = .error .invariant := by
  cases result : validateDelivered table batch outcomes with
  | error error => rw [validateDelivered_error result]
  | ok unread =>
      obtain ⟨_, ready, _⟩ :=
        (validateDelivered_ok table batch outcomes unread).mp result
      obtain ⟨pending, member, stuck⟩ := blocked
      exact (stuck (ready pending member)).elim

/-! ## Commitment -/

theorem pushResources_eq
    {batch : List PendingResource} {events : Events}
    (room : events.deliveries.length + batch.length ≤
      events.capacity.val) :
    pushResources batch events =
      ({ events with
          deliveries :=
            events.deliveries ++ batch.map PendingResource.delivery },
        .ok ()) := by
  induction batch generalizing events with
  | nil => simp [pushResources]
  | cons pending rest inductionHypothesis =>
      simp only [List.length_cons] at room
      have short : ¬ events.deliveries.length ≥ events.capacity.val := by
        omega
      simp only [pushResources, Events.tryPush, if_neg short]
      rw [inductionHypothesis (by simp; omega)]
      simp

/-- The wake event that follows the resources. -/
def wakeDeliveries (woke : Bool) (wakeKey : Option Key) : List Delivery :=
  match woke, wakeKey with
  | true, some key => [{ event := .wake key, source := none }]
  | _, _ => []

theorem pushWake_eq
    {woke : Bool} {events : Events}
    (room : woke = true →
      events.deliveries.length < events.capacity.val)
    (wakeKey : Option Key) :
    pushWake woke wakeKey events =
      ({ events with
          deliveries :=
            events.deliveries ++ wakeDeliveries woke wakeKey },
        .ok ()) := by
  cases woke with
  | false => simp [pushWake, wakeDeliveries]
  | true =>
      cases wakeKey with
      | none => simp [pushWake, wakeDeliveries]
      | some key =>
          have short : ¬ events.deliveries.length ≥ events.capacity.val :=
            Nat.not_le.mpr (room rfl)
          simp only [pushWake, Events.tryPush, if_neg short,
            wakeDeliveries]

/-- The registration and the commit status of an outcome. -/
def RecoveryOutcome.disarm (outcome : RecoveryOutcome) :
    RegistrationId × CommitStatus :=
  (outcome.registration, outcome.commit)

theorem commitOutcomes_eq
    {table : RegistrationTable} {outcomes : List RecoveryOutcome}
    (distinct : (outcomes.map RecoveryOutcome.registration).Nodup)
    (agreed : ∀ outcome ∈ outcomes,
      outcome = RecoveryOutcome.new outcome.registration outcome.commit)
    (ready : ∀ outcome ∈ outcomes, table.Disarmable outcome.registration)
    (snapshot : Option (List RecoveryOutcome)) :
    commitOutcomes outcomes table snapshot =
      (table.applyDisarms (outcomes.map RecoveryOutcome.disarm),
        .ok (snapshot.map fun earlier => earlier ++ outcomes)) := by
  induction outcomes generalizing table snapshot with
  | nil => cases snapshot <;> simp [commitOutcomes]
  | cons outcome rest inductionHypothesis =>
      simp only [List.map_cons, List.nodup_cons] at distinct
      obtain ⟨entry, present, disarmable⟩ :=
        ready outcome (List.mem_cons_self ..)
      obtain ⟨succeeded, lookup⟩ :=
        RegistrationTable.applyDisarm_ready present disarmable
          outcome.commit
      have state : outcome.state =
          RegistrationTable.disarmedState outcome.commit entry.state := by
        rw [agreed outcome (List.mem_cons_self ..), disarmable.2]
        cases outcome.commit <;> rfl
      have restReady : ∀ other ∈ rest,
          (table.applyDisarm outcome.registration
            outcome.commit).1.Disarmable other.registration := by
        intro other member
        obtain ⟨found, foundPresent, foundReady⟩ :=
          ready other (List.mem_cons_of_mem _ member)
        have different :
            other.registration ≠ outcome.registration := by
          intro same
          apply distinct.1
          rw [← same]
          exact List.mem_map.mpr ⟨other, member, rfl⟩
        exact ⟨found, by rw [lookup, if_neg different]; exact foundPresent,
          foundReady⟩
      rw [commitOutcomes]
      rcases applied :
          table.applyDisarm outcome.registration outcome.commit with
        ⟨after, result⟩
      rw [applied] at succeeded restReady
      simp only at succeeded
      subst succeeded
      simp only [state, ne_eq, not_true_eq_false, if_false]
      rw [inductionHypothesis distinct.2
        (fun other member => agreed other (List.mem_cons_of_mem _ member))
        restReady]
      simp only [List.map_cons, RegistrationTable.applyDisarms_cons,
        RecoveryOutcome.disarm, applied]
      cases snapshot <;> simp

section

variable {table : RegistrationTable} {events : Events}
  {pending : List PendingResource} {delivered : Nat} {woke : Bool}
  {outcomes : List RecoveryOutcome} {source : Option IoError}

/-- With every delivered one-shot registration armed, the batch is stored and
every outcome is committed. -/
theorem finish_ready
    (bounded : delivered ≤ pending.length)
    (delivers : ∀ resource ∈ pending.take delivered,
      Delivers table resource)
    (ready : ∀ resource ∈ pending.take delivered, Ready table resource)
    (distinct :
      ((pending.take delivered).map
        PendingResource.registration).Nodup)
    (named : outcomes.map RecoveryOutcome.registration =
      oneShots table (pending.take delivered))
    (agreed : ∀ outcome ∈ outcomes,
      outcome = RecoveryOutcome.new outcome.registration outcome.commit)
    (reported : source.isSome =
      outcomes.any fun outcome => outcome.commit ≠ .applied)
    (room : events.deliveries.length + delivered + woke.toNat ≤
      events.capacity.val)
    (wakeKey : Option Key) :
    finish table events pending delivered woke wakeKey outcomes source =
      (table.applyDisarms (outcomes.map RecoveryOutcome.disarm),
        { events with
          deliveries :=
            events.deliveries ++
                (pending.take delivered).map PendingResource.delivery ++
              wakeDeliveries woke wakeKey },
        .ok
          { recovery :=
              source.map fun source =>
                { operation := .disarm, outcomes, source } }) := by
  have size : (pending.take delivered).length = delivered := by
    rw [List.length_take]
    omega
  have valid :
      validate table pending delivered outcomes source.isSome =
        .ok () := by
    unfold validate
    rw [if_neg (by omega), validateDelivered_ready delivers ready named]
    simp [reported]
  have unique :
      (outcomes.map RecoveryOutcome.registration).Nodup := by
    rw [named]
    exact List.Sublist.nodup
      (List.Sublist.map _ List.filter_sublist) distinct
  have disarmable : ∀ outcome ∈ outcomes,
      table.Disarmable outcome.registration := by
    intro outcome member
    have listed : outcome.registration ∈
        oneShots table (pending.take delivered) := by
      rw [← named]
      exact List.mem_map.mpr ⟨outcome, member, rfl⟩
    obtain ⟨resource, selected, same⟩ := List.mem_map.mp listed
    obtain ⟨inBatch, once⟩ := List.mem_filter.mp selected
    rw [← same]
    exact ready resource inBatch once
  unfold finish
  rw [valid]
  simp only
  rw [pushResources_eq (by rw [size]; omega)]
  simp only
  rw [pushWake_eq (by
    intro woken
    simp only [woken, Bool.toNat_true] at room
    simp only [List.length_append, List.length_map, size]
    omega)]
  simp only
  rw [commitOutcomes_eq unique agreed disarmable]
  cases source <;> simp [recoveryReport]

/-- A delivered one-shot registration that is not armed fails the wait before
anything is stored or committed. -/
theorem finish_blocked
    (bounded : delivered ≤ pending.length)
    (blocked : ∃ resource ∈ pending.take delivered,
      ¬ Ready table resource)
    (wakeKey : Option Key) :
    finish table events pending delivered woke wakeKey outcomes source =
      (table, events, .error .invariant) := by
  have invalid :
      validate table pending delivered outcomes source.isSome =
        .error .invariant := by
    unfold validate
    rw [if_neg (by omega),
      validateDelivered_blocked blocked]
  unfold finish
  rw [invalid]

end

end Zio
