import Zio.Kqueue.Kernel

/-!
# What a disarm batch leaves in the kernel

The changes of distinct plans act on different descriptors, so the receipts of
one plan describe its own filters.  The status that a submission proves for a
plan therefore tells what became of the filters of its descriptor.
-/

namespace Zio

/-! ## One plan -/

/-- What a proven status says about the filters of a plan's descriptor. -/
def Plan.Settles (plan : Plan) (before after : Installed) :
    CommitStatus → Prop
  | .applied => after = plan.changes.foldl Installed.apply before
  | .notApplied => after = before
  | .unknown => ∀ token, before.Carries token → after.Carries token

theorem Plan.mem_changes
    {plan : Plan} {change : Change} (member : change ∈ plan.changes) :
    change.ident = plan.descriptor ∧ change.action = .disable ∧
      change.Resource := by
  have resource : ∀ filter, filter = .read ∨ filter = .write →
      Change.Resource ⟨plan.descriptor, filter, .disable, 0⟩ :=
    fun filter named => ⟨named, nofun, nofun⟩
  unfold Plan.changes at member
  rcases List.mem_append.mp member with read | write
  · split at read
    · rw [List.mem_singleton.mp read]
      exact ⟨rfl, rfl, resource _ (Or.inl rfl)⟩
    · cases read
  · split at write
    · rw [List.mem_singleton.mp write]
      exact ⟨rfl, rfl, resource _ (Or.inr rfl)⟩
    · cases write

/-- The disarmed filters of an exact registration. -/
theorem Plan.changes_exact
    (plan : Plan) (token : UInt64) :
    plan.changes.foldl Installed.apply
        (Installed.exact plan.interest token .armed) =
      Installed.exact plan.interest token .disarmed := by
  unfold Plan.changes
  rcases plan.interest.cases_eq with same | same | same | same <;>
    rw [same] <;> rfl

/-- Attempts that all failed changed nothing. -/
theorem FilterMap.Attempts.eq_before
    {before after : FilterMap} {changes : List Change}
    {errors : List (Option Int32)}
    (attempts : before.Attempts changes errors after)
    (refused : none ∉ errors) : after = before := by
  induction attempts with
  | done => rfl
  | applied => exact (refused (List.mem_cons_self ..)).elim
  | failed _ _ _ inductionHypothesis =>
      exact inductionHypothesis fun member =>
        refused (List.mem_cons_of_mem _ member)

/-- Disarm attempts keep every token. -/
theorem FilterMap.Attempts.disarm_carries
    {before after : FilterMap} {plans : List Plan}
    {errors : List (Option Int32)}
    (attempts :
      before.Attempts (plans.flatMap Plan.changes) errors after)
    {descriptor : RawFd} {token : UInt64}
    (carries : (before descriptor).Carries token) :
    (after descriptor).Carries token := by
  refine attempts.carries ?_ carries
  intro change member
  obtain ⟨plan, _, inPlan⟩ := List.mem_flatMap.mp member
  exact Or.inr (Or.inr (Plan.mem_changes inPlan).2.1)

/-- The receipts that errors may have. -/
abbrev Certified (errors : List (Option Int32))
    (receipts : List FilterApply) : Prop :=
  List.Forall₂ (fun error receipt => FilterApply.Reports receipt error)
    errors receipts

theorem reports_satisfied
    {errors : List (Option Int32)} {receipts : List FilterApply}
    (certified : Certified errors receipts)
    (satisfied : receipts.all FilterApply.satisfied = true) :
    ∀ error ∈ errors, error = none ∨ error = some enoent := by
  induction certified with
  | nil => simp
  | @cons error receipt errors receipts first _ inductionHypothesis =>
      simp only [List.all_cons, Bool.and_eq_true] at satisfied
      intro other member
      rcases List.mem_cons.mp member with rfl | later
      · cases receipt with
        | applied => exact Or.inl first
        | alreadyAbsent => exact Or.inr first
        | notApplied code => cases satisfied.1
        | unknown code => cases satisfied.1
      · exact inductionHypothesis satisfied.2 other later

theorem reports_refused
    {errors : List (Option Int32)} {receipts : List FilterApply}
    (certified : Certified errors receipts)
    (refused : receipts.all FilterApply.refused = true) :
    none ∉ errors := by
  induction certified with
  | nil => simp
  | @cons error receipt errors receipts first _ inductionHypothesis =>
      simp only [List.all_cons, Bool.and_eq_true] at refused
      intro member
      rcases List.mem_cons.mp member with same | later
      · cases receipt with
        | notApplied code =>
            rw [← same] at first
            cases first
        | applied | alreadyAbsent | unknown => cases refused.1
      · exact inductionHypothesis refused.2 later

/-- The receipts of one plan describe the filters of its descriptor. -/
theorem Plan.settles
    {plan : Plan} {before after : FilterMap}
    {errors : List (Option Int32)} {receipts : List FilterApply}
    (attempts : before.Attempts plan.changes errors after)
    (certified : Certified errors receipts) :
    plan.Settles (before plan.descriptor) (after plan.descriptor)
      (reducedStatus receipts) := by
  unfold reducedStatus
  split
  · rename_i satisfied
    have clean := reports_satisfied certified satisfied
    rw [attempts.eq_applyAll clean]
    exact FilterMap.applyAll_at before
      fun change member => (Plan.mem_changes member).1
  · split
    · rename_i refused
      rw [attempts.eq_before (reports_refused certified refused)]
      exact rfl
    · intro token carries
      refine attempts.carries ?_ carries
      intro change member
      exact Or.inr (Or.inr (Plan.mem_changes member).2.1)

/-! ## All plans -/

theorem receiptsFrom_append
    (receipt : Nat → Change → FilterApply) (first second : List Change)
    (index : Nat) :
    DisarmBatch.receiptsFrom receipt (first ++ second) index =
      DisarmBatch.receiptsFrom receipt first index ++
        DisarmBatch.receiptsFrom receipt second
          (index + first.length) := by
  induction first generalizing index with
  | nil => rfl
  | cons change rest inductionHypothesis =>
      simp only [List.cons_append, DisarmBatch.receiptsFrom,
        inductionHypothesis, List.length_cons]
      rw [show index + 1 + rest.length = index + (rest.length + 1) by
        omega]

/-- The receipts of distinct plans describe their filters, plan by plan. -/
theorem planCommits_settle
    {receipt : Nat → Change → FilterApply} {plans : List Plan}
    {before after : FilterMap} {errors : List (Option Int32)} {index : Nat}
    (distinct : (plans.map Plan.descriptor).Nodup)
    (attempts :
      before.Attempts (plans.flatMap Plan.changes) errors after)
    (certified : Certified errors
      (DisarmBatch.receiptsFrom receipt (plans.flatMap Plan.changes)
        index)) :
    List.Forall₂
      (fun plan commit =>
        Plan.Settles plan (before plan.descriptor)
          (after plan.descriptor) commit)
      plans (DisarmBatch.planCommits receipt plans index) := by
  induction plans generalizing before errors index with
  | nil => exact List.Forall₂.nil
  | cons plan rest inductionHypothesis =>
      rw [List.map_cons, List.nodup_cons] at distinct
      rw [List.flatMap_cons] at attempts certified
      rw [receiptsFrom_append, Plan.length_changes] at certified
      obtain ⟨middle, left, right⟩ := attempts.split
      have count : plan.changes.length =
          (DisarmBatch.receiptsFrom receipt plan.changes index).length :=
        (DisarmBatch.length_receiptsFrom _ _ _).symm
      have mine : Certified (errors.take plan.changes.length)
          (DisarmBatch.receiptsFrom receipt plan.changes index) := by
        rw [count]
        exact List.forall₂_take_append _ _ _ certified
      have theirs : Certified (errors.drop plan.changes.length)
          (DisarmBatch.receiptsFrom receipt (rest.flatMap Plan.changes)
            (index + plan.changeCount)) := by
        rw [count]
        exact List.forall₂_drop_append _ _ _ certified
      have later : after plan.descriptor = middle plan.descriptor := by
        apply right.elsewhere
        intro change member same
        obtain ⟨other, inRest, inOther⟩ := List.mem_flatMap.mp member
        apply distinct.1
        refine List.mem_map.mpr ⟨other, inRest, ?_⟩
        rw [← (Plan.mem_changes inOther).1, same]
      have earlier : ∀ other ∈ rest,
          middle other.descriptor = before other.descriptor := by
        intro other inRest
        apply left.elsewhere
        intro change member same
        apply distinct.1
        refine List.mem_map.mpr ⟨other, inRest, ?_⟩
        rw [← same, (Plan.mem_changes member).1]
      refine List.Forall₂.cons ?_ ?_
      · rw [later]
        exact Plan.settles left mine
      · have settled := inductionHypothesis distinct.2 right theirs
        rw [List.forall₂_iff_get] at settled ⊢
        refine ⟨settled.1, ?_⟩
        intro place inside insideCommits
        have each := settled.2 place inside insideCommits
        rw [earlier _ (List.get_mem _ _)] at each
        exact each

theorem forall₂_replicate
    {α β : Type*} {relation : α → β → Prop} {items : List α} {value : β}
    (each : ∀ item ∈ items, relation item value) :
    List.Forall₂ relation items (List.replicate items.length value) := by
  induction items with
  | nil => exact List.Forall₂.nil
  | cons item rest inductionHypothesis =>
      refine List.Forall₂.cons (each item (List.mem_cons_self ..)) ?_
      exact inductionHypothesis fun other member =>
        each other (List.mem_cons_of_mem _ member)

/-- Index-wise reports as one relation of lists. -/
theorem certified_of_index
    {receipt : Nat → Change → FilterApply} {changes : List Change}
    {errors : List (Option Int32)} (index : Nat)
    (length : errors.length = changes.length)
    (reports : ∀ place change error, changes[place]? = some change →
      errors[place]? = some error →
        (receipt (index + place) change).Reports error) :
    Certified errors (DisarmBatch.receiptsFrom receipt changes index) := by
  induction changes generalizing errors index with
  | nil =>
      rw [List.length_eq_zero_iff.mp length]
      exact List.Forall₂.nil
  | cons change rest inductionHypothesis =>
      cases errors with
      | nil => cases length
      | cons error later =>
          refine List.Forall₂.cons (reports 0 change error rfl rfl) ?_
          refine inductionHypothesis (index + 1)
            (Nat.succ.inj length) ?_
          intro place other found named held
          have next := reports (place + 1) other found named held
          rw [show index + (place + 1) = index + 1 + place by omega] at next
          exact next

variable {σ : Type*} {target : KqueueTarget}

/-- A submitted batch settles the filters of its plans by their statuses, and
leaves every other descriptor. -/
theorem KqueueKernel.submit_settles
    (kernel : KqueueKernel target σ) {batch disarms : DisarmBatch}
    {queue after : σ} {raw returned : KeventBatch}
    {result : Except IoError Unit}
    (room : raw.arena.changeCapacity ≤ raw.arena.storage.length)
    (counted :
      batch.changeLen = (batch.plans.flatMap Plan.changes).length)
    (distinct : (batch.plans.map Plan.descriptor).Nodup)
    (submitted :
      batch.submit (nativeDisarmExecutor target
          kernel.kevent).toDisarmExecutor (queue, raw) =
        (disarms, (after, returned), result)) :
    List.Forall₂
        (fun plan commit =>
          Plan.Settles plan (kernel.filters queue plan.descriptor)
            (kernel.filters after plan.descriptor) commit)
        batch.plans
        (batch.submittedCommits (nativeDisarmExecutor target
          kernel.kevent).toDisarmExecutor (queue, raw)) ∧
      ∀ other, other ∉ batch.plans.map Plan.descriptor →
        kernel.filters after other = kernel.filters queue other := by
  have foreign : ∀ {other : RawFd},
      other ∉ batch.plans.map Plan.descriptor →
      ∀ change ∈ batch.plans.flatMap Plan.changes,
        change.ident ≠ other := by
    intro other outside change member same
    obtain ⟨plan, inPlans, inPlan⟩ := List.mem_flatMap.mp member
    apply outside
    refine List.mem_map.mpr ⟨plan, inPlans, ?_⟩
    rw [← (Plan.mem_changes inPlan).1, same]
  have resource : ∀ change ∈ batch.plans.flatMap Plan.changes,
      change.Resource := by
    intro change member
    obtain ⟨plan, _, inPlan⟩ := List.mem_flatMap.mp member
    exact (Plan.mem_changes inPlan).2.2
  unfold DisarmBatch.submit at submitted
  split at submitted
  · rename_i vacant
    have unplanned : batch.plans = [] := List.isEmpty_iff.mp vacant
    cases submitted
    refine ⟨?_, fun _ _ => rfl⟩
    have commits := batch.length_submittedCommits (nativeDisarmExecutor
      target kernel.kevent).toDisarmExecutor (queue, raw)
    rw [unplanned] at commits ⊢
    rw [List.length_eq_zero_iff.mp commits]
    exact List.Forall₂.nil
  · rcases applied : (nativeDisarmExecutor target kernel.kevent).apply
      (queue, raw) batch.changes with ⟨⟨next, written⟩, answer⟩
    have settled := kernel.disarms room
      (by rw [batch.changes_pending]; exact counted)
      (by rw [batch.changes_pending]; exact resource) applied
    rw [batch.changes_pending] at settled
    have reached : next = after := by
      rw [applied] at submitted
      cases answer <;>
        exact congrArg (fun state => state.2.1.1) submitted
    subst reached
    obtain ⟨errors, attempts⟩ := settled.partly.attempts
    have unknown :
        List.Forall₂
          (fun plan commit =>
            Plan.Settles plan (kernel.filters queue plan.descriptor)
              (kernel.filters next plan.descriptor) commit)
          batch.plans (List.replicate batch.plans.length .unknown) :=
      forall₂_replicate fun plan _ token carries =>
        attempts.disarm_carries carries
    refine ⟨?_, fun other outside =>
      attempts.elsewhere (foreign outside)⟩
    unfold DisarmBatch.submittedCommits
    rw [applied]
    cases answer with
    | unknown source => exact unknown
    | appliedWithoutReceipts =>
        have all := FilterMap.attempts_applyAll (kernel.filters queue)
          (batch.plans.flatMap Plan.changes)
        rw [← show kernel.filters next = _ from settled] at all
        have commits :
            DisarmBatch.planCommits (fun _ _ => .applied) batch.plans 0 =
              List.replicate batch.plans.length .applied :=
          DisarmBatch.planCommits_applied (fun _ _ => rfl) _ _
        simp only
        rw [← commits]
        refine planCommits_settle distinct all
          (certified_of_index 0 all.reports.length_eq ?_)
        intro place change error named held
        obtain ⟨_, _, same⟩ := List.mem_map.mp (List.mem_of_getElem? held)
        exact same.symm
    | receipts total =>
        obtain ⟨errors, attempts, reports⟩ := settled
        simp only
        split
        · exact unknown
        · refine planCommits_settle distinct attempts
            (certified_of_index 0 attempts.reports.length_eq ?_)
          intro place change error named held
          rw [Nat.zero_add]
          exact reports place change error named held

end Zio
