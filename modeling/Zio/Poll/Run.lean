import Zio.Mutation.Effects
import Zio.Poll.Basic
import Zio.Table.Disarm
import Zio.Table.Identity

/-!
# Runs of a poller

Mutation calls, the choice of the wake key and waits in any order, over any
driver and any wait.  What a wait may do to the table is stated once, for both
backends; one-shot safety follows from it for whole runs.
-/

namespace Zio

open Transition

/-! ## Steps -/

/-- What one step of a poller receives and answers.  `elsewhere` is the
process-wide counter after other pollers drew from it. -/
inductive PollLabel where
  | called (request : Call) (reply : Reply)
  | configured (key : Key) (result : Except Error Unit)
  | elsewhere (nextPollId : UInt64)
  | waited (deliveries : List Delivery) (result : Except Error WaitReport)

/-- The waits that a backend can perform. -/
abbrev WaitRelation (Backend Raw Pending : Type*) :=
  Poll Backend Raw Pending → List Delivery → Except Error WaitReport →
    Poll Backend Raw Pending → Prop

variable {Backend Raw Pending : Type*}

/-- One step of a poller.  The driver of every call is arbitrary. -/
inductive Poll.Step (waits : WaitRelation Backend Raw Pending) :
    Poll Backend Raw Pending → PollLabel → Poll Backend Raw Pending → Prop
  | called {before : Poll Backend Raw Pending}
      (driver : MutationDriver Backend) (request : Call) :
      Step waits before (.called request (before.call driver request).2)
        (before.call driver request).1
  | configured {before : Poll Backend Raw Pending} (key : Key) :
      Step waits before (.configured key (before.waker key).2)
        (before.waker key).1
  | elsewhere {before : Poll Backend Raw Pending} (nextPollId : UInt64) :
      Step waits before (.elsewhere nextPollId) { before with nextPollId }
  | waited {before after : Poll Backend Raw Pending}
      {deliveries : List Delivery} {result : Except Error WaitReport} :
      waits before deliveries result after →
      Step waits before (.waited deliveries result) after

/-- An event of the registration is among the deliveries. -/
def Delivered (deliveries : List Delivery) (id : RegistrationId) : Prop :=
  ∃ delivery ∈ deliveries, delivery.source = some id

/-- The report names the registration with an outcome that had no effect. -/
def WaitReport.NotApplied (report : WaitReport) (id : RegistrationId) :
    Prop :=
  ∃ failure, report.recovery = some failure ∧
    ∃ outcome ∈ failure.outcomes,
      outcome.registration = id ∧ outcome.commit = .notApplied

/-- The modification succeeded, or failed after it was applied. -/
def ModifyCommitted : Except Error Unit → Prop
  | .ok () => True
  | .error (.mutation failure) => failure.commit = .applied
  | .error _ => False

/-- The step commits a modification of the registration. -/
def PollLabel.Rearms (label : PollLabel) (id : RegistrationId) : Prop :=
  ∃ registration interest mode result,
    label =
        .called (.modify registration interest mode) (.modify result) ∧
      registration.id = id ∧ ModifyCommitted result

/-! ## What a wait may do -/

/-- The effect of a wait on the table, for any backend and any kernel: it only
disarms, entries that are not armed stay as they are, a success reports armed
entries only, and a reported one-shot entry is reported once and settled. -/
structure Observes
    (before : RegistrationTable) (deliveries : List Delivery)
    (result : Except Error WaitReport) (after : RegistrationTable) :
    Prop where
  moves : RegistrationTable.Moves before after
  interested : before.Interested → after.Interested
  kept : ∀ id entry, before.lookup id = some entry →
    entry.state ≠ .registered .armed → after.lookup id = some entry
  armed : ∀ report, result = .ok report →
    ∀ id, Delivered deliveries id →
      ∃ entry, before.lookup id = some entry ∧
        entry.state = .registered .armed
  once : ∀ report, result = .ok report →
    ∀ id entry, before.lookup id = some entry → entry.mode = .oneShot →
      Delivered deliveries id →
        (deliveries.countP fun delivery => delivery.source = some id) = 1 ∧
          ∃ commit,
            after.lookup id =
                some (RegistrationTable.disarmedEntry commit entry) ∧
              (commit = .notApplied → report.NotApplied id)

/-- A failed wait that disarmed some registrations. -/
theorem Observes.failed
    (table : RegistrationTable) (deliveries : List Delivery)
    (error : Error) (disarms : List (RegistrationId × CommitStatus)) :
    Observes table deliveries (.error error) (table.applyDisarms disarms) :=
  { moves := table.applyDisarms_moves disarms
    interested := fun interested => interested.applyDisarms disarms
    kept := fun _ _ present quiet =>
      RegistrationTable.applyDisarms_kept disarms present
        fun disarmable => quiet disarmable.2
    armed := fun _ impossible => by cases impossible
    once := fun _ impossible => by cases impossible }

/-- Clearing the destination of a failed wait. -/
theorem Observes.cleared
    {before after : RegistrationTable} {deliveries : List Delivery}
    {error : Error}
    (observes : Observes before deliveries (.error error) after) :
    Observes before [] (.error error) after :=
  { observes with
    armed := fun _ impossible => by cases impossible
    once := fun _ impossible => by cases impossible }

/-! ## Silence until a modification -/

/-- The registration is retired, or its entry is not armed. -/
def Silenced (table : RegistrationTable) (id : RegistrationId) : Prop :=
  table.Retired id ∨
    ∃ entry, table.lookup id = some entry ∧
      entry.state ≠ .registered .armed

theorem Silenced.not_armed
    {table : RegistrationTable} {id : RegistrationId} {entry : Entry}
    (silenced : Silenced table id)
    (present : table.lookup id = some entry) :
    entry.state ≠ .registered .armed := by
  rcases silenced with retired | ⟨found, held, quiet⟩
  · rw [retired.lookup] at present
    cases present
  · rw [held] at present
    cases present
    exact quiet

theorem Observes.silenced
    {before after : RegistrationTable} {deliveries : List Delivery}
    {result : Except Error WaitReport} {id : RegistrationId}
    (observes : Observes before deliveries result after)
    (silenced : Silenced before id) : Silenced after id := by
  rcases silenced with retired | ⟨entry, present, quiet⟩
  · exact Or.inl
      (retired.mono (RegistrationTable.Moves.progress observes.moves))
  · exact Or.inr ⟨entry, observes.kept id entry present quiet, quiet⟩

namespace MutationSession

variable {σ : Type*}

/-- A settled deletion never arms anything. -/
theorem settle_silenced
    {lease : SlotLease} {leased : RegistrationId} {entry : Entry}
    (wellFormed : lease.table.WellFormed)
    (holds : lease.Holds leased entry) (settlement : Settlement)
    {id : RegistrationId} {quietEntry : Entry}
    (present : lease.table.lookup id = some quietEntry)
    (quiet : quietEntry.state ≠ .registered .armed) :
    Silenced (lease.settle settlement).1 id := by
  by_cases same : id = leased
  · subst same
    rw [holds.located.lookup] at present
    cases present
    have settled := wellFormed.settle_lookup holds settlement id
    rw [if_pos rfl] at settled
    cases settlement with
    | keep => exact Or.inr ⟨entry, settled, quiet⟩
    | retire =>
        exact Or.inl
          (RegistrationTable.settle_retire_retired holds
            (wellFormed.settle_ok holds .retire))
    | markUncertain => exact Or.inr ⟨_, settled, by simp
        [RegistrationTable.uncertainEntry]⟩
  · refine Or.inr ⟨quietEntry, ?_, quiet⟩
    rw [wellFormed.settle_lookup holds, if_neg same]
    exact present

/-- Only a committed modification of the registration ends its silence. -/
theorem Effect.silenced
    {backend : MutationDriver σ} {session : MutationSession σ}
    {request : Call} {result : MutationSession σ × Reply}
    (wellFormed : session.registrations.WellFormed)
    (effect : Effect backend session request result)
    {id : RegistrationId} (silenced : Silenced session.registrations id)
    (notRearmed : ¬ (PollLabel.called request result.2).Rearms id) :
    Silenced result.1.registrations id := by
  rcases silenced with retired | ⟨quietEntry, held, quiet⟩
  · exact Or.inl
      (retired.mono (RegistrationTable.Moves.progress effect.moves))
  · have unchanged : Silenced session.registrations id :=
      Or.inr ⟨quietEntry, held, quiet⟩
    cases effect with
    | registering _ _ _ registers =>
        cases registers with
        | full _ => exact unchanged
        | unowned _ _ _ _ => exact unchanged
        | answered _ _ registration lease _ _ _ _ reserves moves _ _ =>
            have different : id ≠ registration.id := by
              rintro rfl
              rw [reserves.absent] at held
              cases held
            refine Or.inr ⟨quietEntry, ?_, quiet⟩
            rw [(wellFormed.moves moves).settle_lookup reserves.holds,
              if_neg different, reserves.lookup, if_neg different]
            exact held
    | @modified registration interest mode entry arm driver answer _
        present _ _ =>
        by_cases same : id = registration.id
        · subst same
          rw [present] at held
          cases held
          refine Or.inr
            ⟨RegistrationTable.modifyWritten interest mode quietEntry
              (answerCommit answer), ?_, ?_⟩
          · simp only
            rw [RegistrationTable.modifySettled_lookup present, if_pos rfl]
          · cases answer with
            | ok done =>
                refine (notRearmed ?_).elim
                exact ⟨registration, interest, mode, .ok (), rfl, rfl,
                  trivial⟩
            | error failure =>
                cases commit : failure.commit with
                | applied =>
                    refine (notRearmed ?_).elim
                    exact ⟨registration, interest, mode, _, rfl, rfl,
                      commit⟩
                | notApplied =>
                    simp only [answerCommit, commit,
                      RegistrationTable.modifyWritten]
                    exact quiet
                | unknown =>
                    simp [answerCommit, commit,
                      RegistrationTable.modifyWritten,
                      RegistrationTable.uncertainEntry]
        · refine Or.inr ⟨quietEntry, ?_, quiet⟩
          simp only
          rw [RegistrationTable.modifySettled_lookup present, if_neg same]
          exact held
    | deleted _ same holds _ =>
        rw [← same] at wellFormed held
        exact settle_silenced wellFormed holds _ held quiet
    | invalidInterest _ _ => exact unchanged
    | duplicationFailed _ _ _ => exact unchanged
    | modifyRefused _ => exact unchanged
    | deleteRefused _ => exact unchanged
    | queried => exact unchanged

end MutationSession

/-! ## One-shot safety -/

namespace Poll

/-- One-shot safety over the runs from one poller: a successful wait reports
registrations that are live and armed when it begins; a one-shot registration
is reported once in a wait, and not again before a modification of it is
committed unless the wait that reported it also reported that its disarm had no
effect. -/
structure OneShotSafe
    (waits : WaitRelation Backend Raw Pending)
    (start : Poll Backend Raw Pending) : Prop where
  armed : ∀ labels before deliveries report after,
    Execution (Step waits) start labels before →
    Step waits before (.waited deliveries (.ok report)) after →
    ∀ id, Delivered deliveries id →
      ∃ entry, before.registrations.lookup id = some entry ∧
        entry.state = .registered .armed
  single : ∀ labels before deliveries report after,
    Execution (Step waits) start labels before →
    Step waits before (.waited deliveries (.ok report)) after →
    ∀ id entry, before.registrations.lookup id = some entry →
      entry.mode = .oneShot → Delivered deliveries id →
        (deliveries.countP fun delivery => delivery.source = some id) = 1
  again : ∀ earlier before deliveries report middle between later
      laterDeliveries laterReport finish,
    Execution (Step waits) start earlier before →
    Step waits before (.waited deliveries (.ok report)) middle →
    Execution (Step waits) middle between later →
    Step waits later (.waited laterDeliveries (.ok laterReport)) finish →
    ∀ id entry, before.registrations.lookup id = some entry →
      entry.mode = .oneShot → Delivered deliveries id →
      Delivered laterDeliveries id →
        report.NotApplied id ∨ ∃ label ∈ between, label.Rearms id

variable {waits : WaitRelation Backend Raw Pending}

/-- Every step of a poller moves its table. -/
theorem Step.moves
    {before after : Poll Backend Raw Pending} {label : PollLabel}
    (wellFormed : before.registrations.WellFormed)
    (observes : ∀ deliveries result,
      waits before deliveries result after →
        Observes before.registrations deliveries result
          after.registrations)
    (step : Step waits before label after) :
    RegistrationTable.Moves before.registrations after.registrations := by
  cases step with
  | called driver request =>
      exact (MutationSession.call_effect driver before.mutations
        wellFormed request).moves
  | configured key =>
      unfold waker
      split
      · exact Relation.ReflTransGen.refl
      · split <;> exact Relation.ReflTransGen.refl
  | elsewhere nextPollId => exact Relation.ReflTransGen.refl
  | waited performed => exact (observes _ _ performed).moves

/-- Only a committed modification ends a registration's silence. -/
theorem Step.silenced
    {before after : Poll Backend Raw Pending} {label : PollLabel}
    (wellFormed : before.registrations.WellFormed)
    (observes : ∀ deliveries result,
      waits before deliveries result after →
        Observes before.registrations deliveries result
          after.registrations)
    (step : Step waits before label after) {id : RegistrationId}
    (silenced : Silenced before.registrations id)
    (notRearmed : ¬ label.Rearms id) :
    Silenced after.registrations id := by
  cases step with
  | called driver request =>
      exact (MutationSession.call_effect driver before.mutations
        wellFormed request).silenced wellFormed silenced notRearmed
  | configured key =>
      unfold waker
      split
      · exact silenced
      · split <;> exact silenced
  | elsewhere nextPollId => exact silenced
  | waited performed => exact (observes _ _ performed).silenced silenced

/-- A poller whose waits only observe is safe for one-shot registrations. -/
theorem oneShotSafe
    {Good : Poll Backend Raw Pending → Prop}
    (wellFormed : ∀ poll, Good poll → poll.registrations.WellFormed)
    (kept : ∀ before label after,
      Good before → Step waits before label after → Good after)
    (observes : ∀ before deliveries result after,
      Good before → waits before deliveries result after →
        Observes before.registrations deliveries result
          after.registrations)
    {start : Poll Backend Raw Pending} (initial : Good start) :
    OneShotSafe waits start := by
  have observed : ∀ {labels before deliveries result after},
      Execution (Step waits) start labels before →
      Step waits before (.waited deliveries result) after →
        Good before ∧ Observes before.registrations deliveries result
          after.registrations := by
    intro labels before deliveries result after run step
    have good := run.invariant Good kept initial
    cases step with
    | waited performed => exact ⟨good, observes _ _ _ _ good performed⟩
  refine ⟨?_, ?_, ?_⟩
  · intro labels before deliveries report after run step id delivered
    exact (observed run step).2.armed report rfl id delivered
  · intro labels before deliveries report after run step id entry present
      oneShot delivered
    exact ((observed run step).2.once report rfl id entry present oneShot
      delivered).1
  · intro earlier before deliveries report middle between later
      laterDeliveries laterReport finish run step rest laterStep id entry
      present oneShot delivered laterDelivered
    obtain ⟨good, first⟩ := observed run step
    obtain ⟨_, commit, settled, reported⟩ :=
      first.once report rfl id entry present oneShot delivered
    cases commit with
    | notApplied => exact Or.inl (reported rfl)
    | applied | unknown =>
        have silenced : Silenced middle.registrations id := by
          refine Or.inr ⟨_, settled, ?_⟩
          simp [RegistrationTable.disarmedEntry,
            RegistrationTable.disarmedState]
        have middleGood := kept _ _ _ good step
        rcases rest.until_break Good
            (fun poll => Silenced poll.registrations id)
            (fun label => label.Rearms id) kept
            (fun _ _ _ held silent move quiet =>
              move.silenced (wellFormed _ held)
                (fun _ _ performed => observes _ _ _ _ held performed)
                silent quiet)
            middleGood silenced with
          stillSilent | rearmed
        · have laterGood := rest.invariant Good kept middleGood
          cases laterStep with
          | waited performed =>
              obtain ⟨laterEntry, laterPresent, laterArmed⟩ :=
                (observes _ _ _ _ laterGood performed).armed laterReport
                  rfl id laterDelivered
              exact (stillSilent.not_armed laterPresent laterArmed).elim
        · exact Or.inr rearmed

end Poll

end Zio
