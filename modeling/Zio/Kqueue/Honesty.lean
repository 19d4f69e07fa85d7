import Zio.Kqueue.Policy

/-!
# Honest commit statuses

Over any honest executor the answer of a kqueue mutation describes the filters
of its descriptor: success installed or removed exactly the requested filters,
and a failure that was not applied left them as they were.  The error is that
of the first submission, whatever its rollback answers.
-/

namespace Zio

variable {ε : Type*}

/-- The error of a submission: that of the failed call, or that of its first
failing receipt. -/
def submissionError (ignoreMissingDelete : Bool) :
    Except IoError Receipts → Option IoError
  | .error source => some source
  | .ok receipts =>
      (receipts.iter.findSome?
        (Receipt.failure · ignoreMissingDelete)).map IoError.os

theorem exact_error
    {apply : ε → ChangeList → ε × Except IoError Receipts} {queue : ε}
    {changes : ChangeList} {ignore : Bool} {after : ε} {source : IoError}
    (failed : exact apply queue changes ignore = (after, .error source)) :
    submissionError ignore (apply queue changes).2 = some source := by
  unfold exact at failed
  rcases answered : apply queue changes with ⟨next, answer⟩
  rw [answered] at failed
  cases answer with
  | error source => cases failed; rfl
  | ok receipts =>
      simp only at failed
      split at failed
      · cases failed
      · rename_i code found
        cases failed
        simp only [submissionError, found, Option.map_some]

/-- The registration path of an executor without one of its own is honest when
its submissions are. -/
theorem ChangeExecutor.receiptChecked_honest
    {apply : ε → ChangeList → ε × Except IoError Receipts}
    {filters : ε → FilterMap}
    (applied : ∀ {queue changes after receipts},
      (∀ change ∈ changes.items, change.Resource) →
      apply queue changes = (after, .ok receipts) →
        ∃ errors,
          (filters queue).Reports changes.items errors (filters after) ∧
            receipts.iter = receiptsOf changes.items errors)
    (failed : ∀ {queue changes after source},
      (∀ change ∈ changes.items, change.Resource) →
      apply queue changes = (after, .error source) →
        (filters queue).Partly changes.items (filters after)) :
    (ChangeExecutor.receiptChecked apply).Honest filters := by
  let silent : ChangeExecutor ε :=
    { apply, applyRegistration := fun queue _ _ _ =>
        (queue, .error (.simple .other)) }
  have honest : silent.Honest filters :=
    { applied
      failed
      registered := by
        intro _ _ _ _ _ _ impossible
        cases impossible
      unregistered := by
        intro _ _ _ _ _ _ _ answered
        cases answered
        exact ⟨[], List.nil_sublist _, rfl⟩ }
  have resource : ∀ {descriptor token interest},
      ∀ change ∈ (additions descriptor token interest .addEnabled).items,
        change.Resource :=
    fun change member =>
      (additions_scoped _ _ _ change member).2.2
  exact
    { applied
      failed
      registered := fun _ submitted =>
        (honest.submits resource submitted).2 rfl
      unregistered := fun _ submitted =>
        (honest.submits resource submitted).1 }

namespace ChangeExecutor

variable {executor : ChangeExecutor ε} {queue after : ε}
  {descriptor : RawFd} {token : UInt64} {failure : MutationFailure}

theorem registerDescriptor_source
    {interest : Interest}
    (failed :
      executor.registerDescriptor queue descriptor token interest =
        (after, .error failure)) :
    (executor.applyRegistration queue descriptor token interest).2 =
      .error failure.source := by
  unfold registerDescriptor at failed
  split at failed
  · cases failed
  · rename_i next source registered
    cases failed
    rw [registered]

theorem modifyDescriptor_source
    {previousInterest desiredInterest : Interest} {previousArm : ArmState}
    (failed :
      executor.modifyDescriptor queue descriptor token previousInterest
        previousArm desiredInterest = (after, .error failure)) :
    submissionError true
        (executor.apply queue
          (replacement descriptor token desiredInterest .addEnabled)).2 =
      some failure.source := by
  simp only [modifyDescriptor] at failed
  split at failed
  · cases failed
  · rename_i next source submitted
    cases failed
    exact exact_error submitted

/-- The filters that a deletion removes. -/
def deletedInterest (interest : Interest) : RegistrationState → Interest
  | .registered _ => interest
  | .uncertain => Interest.readable.union Interest.writable

theorem deleteDescriptor_source
    {interest : Interest} {state : RegistrationState}
    (failed :
      executor.deleteDescriptor queue descriptor interest state =
        (after, .error failure)) :
    submissionError true
        (executor.apply queue
          (pushInterests ChangeList.new descriptor 0
            (deletedInterest interest state) .delete)).2 =
      some failure.source := by
  have alike : executor.deleteDescriptor queue descriptor interest state =
      ((executor.cleanupInterests queue descriptor
          (deletedInterest interest state)).1,
        (executor.cleanupInterests queue descriptor
          (deletedInterest interest state)).2.mapError
            fun source => { commit := .unknown, source }) := by
    cases state <;> rfl
  rw [alike] at failed
  rcases submitted : executor.cleanupInterests queue descriptor
      (deletedInterest interest state) with ⟨next, cleaned⟩
  rw [submitted] at failed
  cases cleaned with
  | ok done => cases failed
  | error source =>
      cases failed
      exact exact_error submitted

/-- The answer of a mutation describes what it left: success left the requested
filters on its descriptor, a failure that was not applied left the earlier
ones, and no other descriptor changed. -/
structure Describes
    (filters : ε → FilterMap) (descriptor : RawFd) (queue : ε)
    (requested : Installed) (asked : ε × Answer) : Prop where
  succeeded : asked.2 = .ok () →
    filters asked.1 descriptor = requested
  notApplied : ∀ failure, asked.2 = .error failure →
    failure.commit = .notApplied →
      filters asked.1 descriptor = filters queue descriptor
  elsewhere : ∀ other, other ≠ descriptor →
    filters asked.1 other = filters queue other

theorem describes_of_commits
    {filters : ε → FilterMap} {requested : Installed} {asked : ε × Answer}
    (confined : Confined descriptor token (filters queue)
      (filters asked.1))
    (applied : answerCommit asked.2 = .applied →
      filters asked.1 descriptor = requested)
    (rolledBack : answerCommit asked.2 = .notApplied →
      filters asked.1 descriptor = filters queue descriptor) :
    Describes filters descriptor queue requested asked where
  succeeded := by
    intro succeeded
    apply applied
    rw [succeeded]
    rfl
  notApplied := by
    intro failure failed commit
    apply rolledBack
    rw [failed]
    exact commit
  elsewhere := confined.elsewhere

/-- Over an honest executor, a registration from no filters, a modification
from exact filters and a deletion from exact filters, or from any filters of
an uncertain registration, answer with what they left, and with the error of
their first submission. -/
theorem Honest.describes
    {filters : ε → FilterMap} (honest : executor.Honest filters)
    (queue : ε) (descriptor : RawFd) (token : UInt64) :
    (∀ interest : Interest, interest.isEmpty = false →
      filters queue descriptor = Installed.empty →
        let asked :=
          executor.registerDescriptor queue descriptor token interest
        Describes filters descriptor queue
            (Installed.exact interest token .armed) asked ∧
          ∀ failure, asked.2 = .error failure →
            (executor.applyRegistration queue descriptor token
              interest).2 = .error failure.source) ∧
      (∀ (previousInterest : Interest) (previousArm : ArmState)
          (desiredInterest : Interest),
        previousInterest.isEmpty = false →
        desiredInterest.isEmpty = false →
        filters queue descriptor =
            Installed.exact previousInterest token previousArm →
          let asked :=
            executor.modifyDescriptor queue descriptor token
              previousInterest previousArm desiredInterest
          Describes filters descriptor queue
              (Installed.exact desiredInterest token .armed) asked ∧
            ∀ failure, asked.2 = .error failure →
              submissionError true
                  (executor.apply queue
                    (replacement descriptor token desiredInterest
                      .addEnabled)).2 =
                some failure.source) ∧
      ∀ (interest : Interest) (state : RegistrationState),
        interest.isEmpty = false →
        (∀ arm, state = .registered arm →
          filters queue descriptor =
            Installed.exact interest token arm) →
          let asked :=
            executor.deleteDescriptor queue descriptor interest state
          Describes filters descriptor queue Installed.empty asked ∧
            ∀ failure, asked.2 = .error failure →
              submissionError true
                  (executor.apply queue
                    (pushInterests ChangeList.new descriptor 0
                      (deletedInterest interest state) .delete)).2 =
                some failure.source := by
  refine ⟨?_, ?_, ?_⟩
  · intro interest nonempty vacant asked
    obtain ⟨confined, applied, rolledBack⟩ :=
      honest.register nonempty vacant
        (show executor.registerDescriptor queue descriptor token
          interest = (asked.1, asked.2) from rfl)
    rw [← vacant] at rolledBack
    refine ⟨describes_of_commits confined applied rolledBack, ?_⟩
    intro failure failed
    exact registerDescriptor_source (Prod.ext rfl failed)
  · intro previousInterest previousArm desiredInterest _ _ previous asked
    obtain ⟨confined, applied, rolledBack⟩ :=
      honest.modify previous
        (show executor.modifyDescriptor queue descriptor token
          previousInterest previousArm desiredInterest =
            (asked.1, asked.2) from rfl)
    refine ⟨describes_of_commits confined applied rolledBack, ?_⟩
    intro failure failed
    exact modifyDescriptor_source (Prod.ext rfl failed)
  · intro interest state _ held asked
    obtain ⟨confined, applied, never⟩ :=
      honest.delete held
        (show executor.deleteDescriptor queue descriptor interest
          state = (asked.1, asked.2) from rfl)
    refine ⟨describes_of_commits confined applied
      fun rolled => (never rolled).elim, ?_⟩
    intro failure failed
    exact deleteDescriptor_source (Prod.ext rfl failed)

/-! ### An executor that refuses write filters -/

/-- Apply changes in order, except those that enable a write filter. -/
def refuseWrites :
    FilterMap → List Change → FilterMap × List (Option Int32)
  | filters, [] => (filters, [])
  | filters, change :: rest =>
      if change.filter = .write ∧ change.action = .addEnabled then
        ((refuseWrites filters rest).1,
          some eio :: (refuseWrites filters rest).2)
      else
        ((refuseWrites (filters.apply change) rest).1,
          none :: (refuseWrites (filters.apply change) rest).2)

theorem refuseWrites_reports
    (filters : FilterMap) (changes : List Change) :
    filters.Reports changes (refuseWrites filters changes).2
      (refuseWrites filters changes).1 := by
  induction changes generalizing filters with
  | nil => exact FilterMap.Reports.done filters
  | cons change rest inductionHypothesis =>
      rw [refuseWrites]
      split
      · refine FilterMap.Reports.failed ?_ (inductionHypothesis filters)
        intro impossible
        cases impossible
      · exact FilterMap.Reports.applied
          (inductionHypothesis (filters.apply change))

/-- The receipts of a change list. -/
def reportedReceipts
    (changes : List Change) (errors : List (Option Int32)) : Receipts :=
  { items :=
      (receiptsOf changes errors ++
        (Receipts.new changes.length).items).take 2
    len := changes.length
    sized := by simp [(Receipts.new changes.length).sized] }

/-- The executor whose state is its filters. -/
def writeRefusing : ChangeExecutor FilterMap :=
  ChangeExecutor.receiptChecked fun filters changes =>
    ((refuseWrites filters changes.items).1,
      .ok
        (reportedReceipts changes.items
          (refuseWrites filters changes.items).2))

theorem writeRefusing_honest : writeRefusing.Honest id := by
  apply receiptChecked_honest
  · intro queue changes after receipts _ answered
    cases answered
    have reports := refuseWrites_reports queue changes.items
    refine ⟨_, reports, ?_⟩
    have sized :
        (receiptsOf changes.items
          (refuseWrites queue changes.items).2).length =
            changes.items.length := by
      rw [receiptsOf, List.length_zipWith, reports.length_eq, Nat.min_self]
    have bounded := changes.bounded
    rw [Receipts.iter, reportedReceipts, List.take_take,
      Nat.min_eq_left bounded, ← sized]
    exact List.take_left
  · intro queue changes after source _ impossible
    cases impossible

/-- A registration for both directions whose write filter is refused is rolled
back. -/
theorem refused_registration_described :
    let asked :=
      writeRefusing.registerDescriptor (fun _ => Installed.empty) 9 31
        Interest.both
    asked.2 = .error { commit := .notApplied, source := .os eio } ∧
      asked.1 9 = Installed.empty := by
  have described :=
    ((writeRefusing_honest.describes (fun _ => Installed.empty) 9 31).1
      Interest.both rfl rfl).1
  exact ⟨rfl, described.notApplied _ rfl rfl⟩

end ChangeExecutor

end Zio
