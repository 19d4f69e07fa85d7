import Zio.Kqueue.Disarm

/-!
# Exact reduction of disarm batches

A batch flattens its plans into one list of changes and groups the receipts
again by a running index.  Both traversals agree: receipt `k` answers the
`k`-th submitted change, and every plan is reduced from its own receipts.
-/

namespace Zio

/-- One requested disarm: the registration, its descriptor and its
interest. -/
structure Disarm where
  registration : RegistrationId
  descriptor : RawFd
  interest : Interest
deriving DecidableEq, Repr

/-- The plan of a request, before anything is known about it. -/
def Disarm.plan (self : Disarm) : Plan :=
  { registration := self.registration
    descriptor := self.descriptor
    interest := self.interest
    commit := .unknown }

/-- The native changes of a request, read before write. -/
def Disarm.changes (self : Disarm) : List Change :=
  (if self.interest.isReadable then
    [⟨self.descriptor, .read, .disable, 0⟩] else []) ++
  (if self.interest.isWritable then
    [⟨self.descriptor, .write, .disable, 0⟩] else [])

theorem Disarm.plan_changes (disarm : Disarm) :
    disarm.plan.changes = disarm.changes := rfl

theorem flatMap_plan_changes (disarms : List Disarm) :
    (disarms.map Disarm.plan).flatMap Plan.changes =
      disarms.flatMap Disarm.changes := by
  rw [List.flatMap_map]
  exact List.flatMap_congr fun disarm _ => disarm.plan_changes

/-! ## Traversal -/

namespace DisarmChanges

/-- The traversal yields exactly these changes, its length is the number of
changes still to come before every step, and it then ends. -/
def Yields (self : DisarmChanges) : List Change → Prop
  | [] => self.len = 0 ∧ self.next.1 = none
  | change :: rest =>
      self.len = rest.length + 1 ∧
        ∃ after, self.next = (some change, after) ∧ Yields after rest

theorem next_remaining
    {self after : DisarmChanges} {change : Change}
    (stepped : self.next = (some change, after)) :
    after.remaining = self.remaining - 1 := by
  unfold next at stepped
  split at stepped
  · cases stepped
    rfl
  · cases stepped

theorem next_none
    {self : DisarmChanges} (spent : self.pending = []) :
    self.next.1 = none := by
  cases stepped : self.next with
  | mk found after =>
      cases found with
      | none => rfl
      | some change =>
          have yielded := next_some stepped
          rw [spent] at yielded
          cases yielded

theorem next_pending
    {self : DisarmChanges} {change : Change} {rest : List Change}
    (left : self.pending = change :: rest) :
    ∃ after, self.next = (some change, after) ∧ after.pending = rest := by
  have yields := nextIn_cases self.plans _ self.plan self.change rfl
  unfold next
  rcases found : nextIn (self.plans.drop self.plan) self.plan
      self.change with ⟨yielded, plan, following⟩
  rw [found] at yields
  cases yielded with
  | none =>
      have spent : self.pending = [] := yields.1
      rw [spent] at left
      cases left
  | some yielded =>
      have same : self.pending = yielded :: _ := yields
      rw [left] at same
      cases same
      exact ⟨_, rfl, rfl⟩

theorem yields_pending
    (self : DisarmChanges) (changes : List Change)
    (left : self.pending = changes)
    (counted : self.remaining = changes.length) :
    self.Yields changes := by
  induction changes generalizing self with
  | nil => exact ⟨counted, next_none left⟩
  | cons change rest inductionHypothesis =>
      obtain ⟨after, stepped, following⟩ := next_pending left
      refine ⟨counted, after, stepped, ?_⟩
      apply inductionHypothesis after following
      rw [next_remaining stepped, counted]
      rfl

end DisarmChanges

/-! ## Pushed requests -/

namespace DisarmBatch

/-- Push requests one after another; every one must be accepted. -/
def pushAll (self : DisarmBatch) : List Disarm → Option DisarmBatch
  | [] => some self
  | disarm :: rest =>
      match self.push disarm.registration disarm.descriptor
          disarm.interest with
      | none => none
      | some batch => pushAll batch rest

theorem push_some
    {batch after : DisarmBatch} {disarm : Disarm}
    (accepted : batch.push disarm.registration disarm.descriptor
      disarm.interest = some after) :
    after.plans = batch.plans ++ [disarm.plan] ∧
      after.changeLen = batch.changeLen + disarm.changes.length ∧
      disarm.changes ≠ [] := by
  have width : disarm.changes.length =
      disarm.interest.isReadable.toNat +
        disarm.interest.isWritable.toNat :=
    Plan.length_changes disarm.plan
  simp only [push] at accepted
  split at accepted
  · cases accepted
  · rename_i allowed
    have nonempty : disarm.changes ≠ [] := by
      rw [← List.length_pos_iff, width]
      exact Nat.pos_of_ne_zero fun zero => allowed (Or.inl zero)
    split at accepted
    · cases accepted
    · split at accepted
      · cases accepted
      · cases accepted
        refine ⟨rfl, ?_, nonempty⟩
        rw [width]

theorem pushAll_some
    {batch after : DisarmBatch} {disarms : List Disarm}
    (accepted : batch.pushAll disarms = some after) :
    after.plans = batch.plans ++ disarms.map Disarm.plan ∧
      after.changeLen =
        batch.changeLen + (disarms.flatMap Disarm.changes).length ∧
      ∀ disarm ∈ disarms, disarm.changes ≠ [] := by
  induction disarms generalizing batch with
  | nil =>
      cases accepted
      simp
  | cons disarm rest inductionHypothesis =>
      rw [pushAll] at accepted
      split at accepted
      · cases accepted
      · rename_i next pushed
        obtain ⟨plans, changeLen, nonempty⟩ := push_some pushed
        obtain ⟨restPlans, restLen, restNonempty⟩ :=
          inductionHypothesis accepted
        refine ⟨?_, ?_, ?_⟩
        · rw [restPlans, plans, List.map_cons, List.append_assoc]
          rfl
        · rw [restLen, changeLen, List.flatMap_cons, List.length_append,
            Nat.add_assoc]
        · exact List.forall_mem_cons.mpr ⟨nonempty, restNonempty⟩

/-! ## Receipts -/

theorem receiptsFrom_eq
    (receipt : Nat → Change → FilterApply) (changes : List Change)
    (index : Nat) :
    receiptsFrom receipt changes index =
      changes.mapIdx fun offset => receipt (index + offset) := by
  induction changes generalizing index with
  | nil => rfl
  | cons change rest inductionHypothesis =>
      rw [receiptsFrom, inductionHypothesis, List.mapIdx_cons]
      simp only [Nat.add_zero, Nat.add_assoc, Nat.add_comm 1]

/-- The number of changes before a plan. -/
def changesBefore (plans : List Plan) (position : Nat) : Nat :=
  ((plans.take position).flatMap Plan.changes).length

/-- The receipts of one plan within those of all plans. -/
theorem planCommits_getElem
    (receipt : Nat → Change → FilterApply) (plans : List Plan)
    (index position : Nat) :
    (planCommits receipt plans index)[position]? =
      plans[position]?.map fun plan =>
        reducedStatus
          (receiptsFrom receipt plan.changes
            (index + changesBefore plans position)) := by
  induction plans generalizing index position with
  | nil => rfl
  | cons plan rest inductionHypothesis =>
      cases position with
      | zero => simp [planCommits, changesBefore]
      | succ position =>
          rw [planCommits, List.getElem?_cons_succ, inductionHypothesis,
            List.getElem?_cons_succ]
          simp only [changesBefore, List.take_succ_cons,
            List.flatMap_cons, List.length_append, Plan.length_changes,
            Nat.add_assoc]

/-- The receipts of a submission: receipt `k` answers the `k`-th submitted
change. -/
def receiptsOf
    {ε : Type*} (executor : DisarmExecutor ε) (state : ε)
    (disarms : List Disarm) (returned : Nat) : List FilterApply :=
  (disarms.flatMap Disarm.changes).mapIdx fun index expected =>
    executor.receipt state index returned expected

/-- The part of the receipts that belongs to one request. -/
def ownReceipts
    (receipts : List FilterApply) (disarms : List Disarm)
    (position : Nat) (disarm : Disarm) : List FilterApply :=
  (receipts.drop
      ((disarms.take position).flatMap Disarm.changes).length).take
    disarm.changes.length

theorem ownReceipts_eq
    {ε : Type*} (executor : DisarmExecutor ε) (state : ε)
    {disarms : List Disarm} (returned : Nat)
    {position : Nat} {disarm : Disarm}
    (requested : disarms[position]? = some disarm) :
    ownReceipts (receiptsOf executor state disarms returned) disarms
        position disarm =
      receiptsFrom (fun index => executor.receipt state index returned)
        disarm.changes
        ((disarms.take position).flatMap Disarm.changes).length := by
  obtain ⟨inside, same⟩ := List.getElem?_eq_some_iff.mp requested
  have divided : disarms.flatMap Disarm.changes =
      (disarms.take position).flatMap Disarm.changes ++
        (disarm.changes ++
          (disarms.drop (position + 1)).flatMap Disarm.changes) := by
    conv => lhs; rw [← List.take_append_drop position disarms]
    rw [List.flatMap_append, List.drop_eq_getElem_cons inside, same,
      List.flatMap_cons]
  have receipts := receiptsFrom_eq
    (fun index => executor.receipt state index returned)
    (disarms.flatMap Disarm.changes) 0
  simp only [Nat.zero_add] at receipts
  unfold ownReceipts receiptsOf
  rw [← receipts, divided, receiptsFrom_append, Nat.zero_add,
    List.drop_left' (length_receiptsFrom _ _ _), receiptsFrom_append,
    List.take_left' (length_receiptsFrom _ _ _)]

theorem reducedStatus_applied_iff (receipts : List FilterApply) :
    reducedStatus receipts = .applied ↔
      ∀ receipt ∈ receipts, receipt.satisfied = true := by
  have failed := reducedStatus_ne_applied receipts
  rw [Bool.eq_iff_iff, decide_eq_true_iff, List.any_eq_true] at failed
  constructor
  · intro applied receipt member
    by_contra unsatisfied
    refine failed.mpr ⟨receipt, member, ?_⟩ applied
    simpa using unsatisfied
  · exact reducedStatus_applied

theorem reducedStatus_notApplied_iff
    {receipts : List FilterApply} (nonempty : receipts ≠ []) :
    reducedStatus receipts = .notApplied ↔
      ∀ receipt ∈ receipts, receipt.refused = true := by
  rw [← List.all_eq_true]
  unfold reducedStatus
  by_cases every : receipts.all FilterApply.satisfied = true
  · rw [if_pos every]
    simp only [reduceCtorEq, false_iff]
    intro refused
    obtain ⟨receipt, member⟩ := List.exists_mem_of_ne_nil _ nonempty
    have satisfied := List.all_eq_true.mp every receipt member
    have refusal := List.all_eq_true.mp refused receipt member
    cases receipt with
    | notApplied code => cases satisfied
    | applied => cases refusal
    | alreadyAbsent => cases refusal
    | unknown code => cases refusal
  · rw [if_neg every]
    split
    · simp_all
    · simp_all

/-! ## Submission -/

section

variable {ε : Type*} {batch : DisarmBatch} {executor : DisarmExecutor ε}
  {state after : ε}

theorem submit_vacant (vacant : batch.plans = []) :
    batch.submit executor state = (batch, state, .ok ()) := by
  rw [submit, vacant]
  rfl

theorem submit_accepted
    (planned : batch.plans ≠ [])
    (answered : executor.apply state batch.changes =
      (after, .appliedWithoutReceipts)) :
    batch.submit executor state =
      (batch.fillOutcomes .applied, after, .ok ()) := by
  rw [submit, if_neg (by simpa using planned), answered]

theorem submit_unanswered
    {source : IoError} (planned : batch.plans ≠ [])
    (answered : executor.apply state batch.changes =
      (after, .unknown source)) :
    batch.submit executor state =
      (batch.fillOutcomes .unknown, after, .error source) := by
  rw [submit, if_neg (by simpa using planned), answered]

theorem submit_excess
    {returned : Nat} (planned : batch.plans ≠ [])
    (answered : executor.apply state batch.changes =
      (after, .receipts returned))
    (excess : returned > batch.changeLen) :
    batch.submit executor state =
      (batch.fillOutcomes .unknown, after,
        .error disarmProtocolError) := by
  rw [submit, if_neg (by simpa using planned), answered]
  simp only [reduceReceipts, if_pos excess]

/-- The result of a reduction whose first failing receipt has this error. -/
def firstFailure : Option IoError → Except IoError Unit
  | none => .ok ()
  | some error => .error error

theorem submit_receipts
    {returned : Nat} (planned : batch.plans ≠ [])
    (answered : executor.apply state batch.changes =
      (after, .receipts returned))
    (bounded : returned ≤ batch.changeLen) :
    batch.submit executor state =
      ({ batch with
          plans :=
            setCommits batch.plans
              (planCommits
                (fun index => executor.receipt after index returned)
                batch.plans 0) },
        after,
        firstFailure
          ((receiptsFrom
            (fun index => executor.receipt after index returned)
            (batch.plans.flatMap Plan.changes) 0).findSome?
              FilterApply.failure)) := by
  rw [submit, if_neg (by simpa using planned), answered]
  simp only [reduceReceipts, if_neg (Nat.not_lt.mpr bounded),
    readPlans_eq, Option.none_or]
  cases (receiptsFrom
    (fun index => executor.receipt after index returned)
    (batch.plans.flatMap Plan.changes) 0).findSome?
      FilterApply.failure with
  | none => rfl
  | some error => rfl

theorem outcomes_fillOutcomes
    (batch : DisarmBatch) (commit : CommitStatus) :
    (batch.fillOutcomes commit).outcomes =
      batch.plans.map fun plan =>
        RecoveryOutcome.new plan.registration commit := by
  unfold fillOutcomes outcomes
  rw [List.map_map]
  rfl

theorem outcomes_setCommits
    (plans : List Plan) (commits : List CommitStatus)
    (same : commits.length = plans.length) :
    ((setCommits plans commits).map Plan.outcome).map
          RecoveryOutcome.registration =
        plans.map Plan.registration ∧
      ((setCommits plans commits).map Plan.outcome).map
          RecoveryOutcome.commit =
        commits := by
  rw [setCommits_outcomes]
  constructor
  · rw [List.map_zipWith]
    apply List.ext_getElem
    · simp [same]
    · intro position _ _
      simp [RecoveryOutcome.new]
  · rw [List.map_zipWith]
    apply List.ext_getElem
    · simp [same]
    · intro position _ _
      simp [RecoveryOutcome.new]

/-- Whatever the executor answers, the outcomes keep the order of the plans
and the submission fails exactly when some outcome is not applied. -/
theorem submit_outcomes
    (batch : DisarmBatch) (executor : DisarmExecutor ε) (state : ε) :
    let submitted := batch.submit executor state
    submitted.1.outcomes.map RecoveryOutcome.registration =
        batch.plans.map Plan.registration ∧
      ((∃ error, submitted.2.2 = .error error) ↔
        ∃ outcome ∈ submitted.1.outcomes, outcome.commit ≠ .applied) := by
  obtain ⟨after, result, submitted, failed⟩ :=
    submit_eq batch executor state
  obtain ⟨registrations, commits⟩ := outcomes_setCommits batch.plans
    (batch.submittedCommits executor state)
    (length_submittedCommits batch executor state)
  simp only [submitted, outcomes]
  refine ⟨registrations, failed.trans ?_⟩
  constructor
  · rintro ⟨commit, member, other⟩
    rw [← commits] at member
    obtain ⟨outcome, listed, rfl⟩ := List.mem_map.mp member
    exact ⟨outcome, listed, other⟩
  · rintro ⟨outcome, listed, other⟩
    refine ⟨outcome.commit, ?_, other⟩
    rw [← commits]
    exact List.mem_map_of_mem listed

theorem reduced_plan
    {disarms : List Disarm} (returned : Nat)
    (nonempty : ∀ disarm ∈ disarms, disarm.changes ≠ [])
    {position : Nat} {disarm : Disarm}
    (requested : disarms[position]? = some disarm) :
    let own :=
      ownReceipts (receiptsOf executor after disarms returned) disarms
        position disarm
    ∃ commit,
      ((setCommits (disarms.map Disarm.plan)
          (planCommits
            (fun index => executor.receipt after index returned)
            (disarms.map Disarm.plan) 0)).map Plan.outcome)[position]? =
          some (RecoveryOutcome.new disarm.registration commit) ∧
        (commit = .applied ↔
          ∀ receipt ∈ own, receipt.satisfied = true) ∧
        (commit = .notApplied ↔
          ∀ receipt ∈ own, receipt.refused = true) := by
  intro own
  have alike : own = receiptsFrom
      (fun index => executor.receipt after index returned)
      disarm.changes
      ((disarms.take position).flatMap Disarm.changes).length :=
    ownReceipts_eq executor after returned requested
  have before : changesBefore (disarms.map Disarm.plan) position =
      ((disarms.take position).flatMap Disarm.changes).length := by
    rw [changesBefore, ← List.map_take, flatMap_plan_changes]
  have full : own ≠ [] := by
    rw [alike, ← List.length_pos_iff, length_receiptsFrom,
      List.length_pos_iff]
    exact nonempty disarm (List.mem_of_getElem? requested)
  refine ⟨reducedStatus own, ?_, reducedStatus_applied_iff own,
    reducedStatus_notApplied_iff full⟩
  rw [setCommits_outcomes, List.getElem?_zipWith, planCommits_getElem,
    List.getElem?_map, requested, before, Nat.zero_add, alike]
  rfl

end

/-- A batch of accepted requests is submitted and reduced exactly.  The
traversal yields the read and write changes of each request in order and knows
how many are left.  Receipt `k` is asked for the `k`-th submitted change; each
request is applied, not applied or unknown by its own receipts alone, and the
error is that of the first failing receipt. -/
theorem submit_exact
    {ε : Type*} {start batch : DisarmBatch} {disarms : List Disarm}
    (accepted : start.clear.pushAll disarms = some batch)
    (executor : DisarmExecutor ε) (state : ε) :
    let changes := disarms.flatMap Disarm.changes
    let answer := executor.apply state batch.changes
    let submitted := batch.submit executor state
    let outcomes := submitted.1.outcomes
    batch.changeLen = changes.length ∧
      batch.changes.Yields changes ∧
      outcomes.map RecoveryOutcome.registration =
        disarms.map Disarm.registration ∧
      (answer.2 = .appliedWithoutReceipts →
        ∀ outcome ∈ outcomes, outcome.commit = .applied) ∧
      (∀ source, answer.2 = .unknown source →
        (∀ outcome ∈ outcomes, outcome.commit = .unknown) ∧
          (disarms ≠ [] → submitted.2.2 = .error source)) ∧
      (∀ returned, answer.2 = .receipts returned →
        returned > changes.length →
          (∀ outcome ∈ outcomes, outcome.commit = .unknown) ∧
            (disarms ≠ [] →
              submitted.2.2 = .error disarmProtocolError)) ∧
      (∀ returned, answer.2 = .receipts returned →
        returned ≤ changes.length →
          let receipts := receiptsOf executor answer.1 disarms returned
          (∀ position disarm, disarms[position]? = some disarm →
            let own := ownReceipts receipts disarms position disarm
            ∃ commit,
              outcomes[position]? =
                  some (RecoveryOutcome.new disarm.registration commit) ∧
                (commit = .applied ↔
                  ∀ receipt ∈ own, receipt.satisfied = true) ∧
                (commit = .notApplied ↔
                  ∀ receipt ∈ own, receipt.refused = true)) ∧
            ∀ error, submitted.2.2 = .error error ↔
              receipts.findSome? FilterApply.failure = some error) ∧
      ((∃ error, submitted.2.2 = .error error) ↔
        ∃ outcome ∈ outcomes, outcome.commit ≠ .applied) := by
  intro changes answer submitted outcomes
  obtain ⟨plans, counted, nonempty⟩ := pushAll_some accepted
  have planned : batch.plans = disarms.map Disarm.plan := plans
  have length : batch.changeLen = changes.length :=
    counted.trans (Nat.zero_add _)
  have flattened : batch.plans.flatMap Plan.changes = changes := by
    rw [planned, flatMap_plan_changes]
  have pending : batch.changes.pending = changes := by
    rw [changes_pending, flattened]
  obtain ⟨ordered, failed⟩ := submit_outcomes batch executor state
  rw [planned, List.map_map] at ordered
  have filled : ∀ commit, ∀ outcome ∈ (batch.fillOutcomes commit).outcomes,
      outcome.commit = commit := by
    intro commit outcome member
    rw [outcomes_fillOutcomes] at member
    obtain ⟨plan, _, rfl⟩ := List.mem_map.mp member
    rfl
  refine ⟨length, DisarmChanges.yields_pending _ _ pending length,
    ordered, ?_⟩
  by_cases vacant : disarms = []
  · have unplanned : batch.plans = [] := by
      rw [planned, vacant, List.map_nil]
    have result : submitted = (batch, state, .ok ()) :=
      submit_vacant unplanned
    have quiet : outcomes = [] := by
      simp only [outcomes, result, DisarmBatch.outcomes, unplanned,
        List.map_nil]
    rw [quiet, result]
    subst vacant
    refine ⟨by simp, by simp, by simp, ?_, by simp⟩
    intro returned _ _
    simp [receiptsOf]
  · have occupied : batch.plans ≠ [] := by
      rw [planned]
      simpa using vacant
    have answered : executor.apply state batch.changes =
        (answer.1, answer.2) := rfl
    refine ⟨?_, ?_, ?_, ?_, failed⟩
    · intro applied
      rw [applied] at answered
      have result : submitted = _ := submit_accepted occupied answered
      simp only [outcomes, result]
      exact filled .applied
    · intro source unanswered
      rw [unanswered] at answered
      have result : submitted = _ := submit_unanswered occupied answered
      simp only [outcomes, result]
      exact ⟨filled .unknown, fun _ => trivial⟩
    · intro returned received excess
      rw [received] at answered
      rw [← length] at excess
      have result : submitted = _ :=
        submit_excess occupied answered excess
      simp only [outcomes, result]
      exact ⟨filled .unknown, fun _ => trivial⟩
    · intro returned received bounded receipts
      rw [received] at answered
      rw [← length] at bounded
      have result : submitted = _ :=
        submit_receipts occupied answered bounded
      simp only [outcomes, result, DisarmBatch.outcomes]
      constructor
      · intro position disarm requested
        rw [planned]
        exact reduced_plan returned nonempty requested
      · intro error
        have read : receipts = receiptsFrom
            (fun index => executor.receipt answer.1 index returned)
            (batch.plans.flatMap Plan.changes) 0 := by
          rw [flattened, receiptsFrom_eq]
          simp only [Nat.zero_add]
          rfl
        rw [read]
        cases (receiptsFrom
          (fun index => executor.receipt answer.1 index returned)
          (batch.plans.flatMap Plan.changes) 0).findSome?
            FilterApply.failure with
        | none => simp [firstFailure]
        | some first => simp [firstFailure]

/-! ## Submissions -/

/-- What an answer to some requests proves: one status for each request, and
the error of the submission. -/
def answered
    {ε : Type*} (executor : DisarmExecutor ε) (after : ε)
    (disarms : List Disarm) :
    NativeApply → List CommitStatus × Option IoError
  | .appliedWithoutReceipts => (disarms.map fun _ => .applied, none)
  | .unknown source => (disarms.map fun _ => .unknown, some source)
  | .receipts returned =>
      if returned > (disarms.flatMap Disarm.changes).length then
        (disarms.map fun _ => .unknown, some disarmProtocolError)
      else
        let receipts := receiptsOf executor after disarms returned
        (disarms.mapIdx fun position disarm =>
            reducedStatus (ownReceipts receipts disarms position disarm),
          receipts.findSome? FilterApply.failure)

/-- Submit some requests: without a request the executor is not asked, and
otherwise it is applied once, to a traversal of exactly their changes. -/
inductive Submission
    {ε : Type*} (executor : DisarmExecutor ε) (before : ε)
    (disarms : List Disarm) :
    ε → List CommitStatus → Option IoError → Prop
  | vacant :
      disarms = [] → Submission executor before disarms before [] none
  | applied {changes : DisarmChanges} {after : ε} {answer : NativeApply} :
      disarms ≠ [] →
      changes.Yields (disarms.flatMap Disarm.changes) →
      executor.apply before changes = (after, answer) →
      Submission executor before disarms after
        (answered executor after disarms answer).1
        (answered executor after disarms answer).2

theorem planCommits_eq
    {ε : Type*} (executor : DisarmExecutor ε) (after : ε)
    (disarms : List Disarm) (returned : Nat) :
    planCommits (fun index => executor.receipt after index returned)
        (disarms.map Disarm.plan) 0 =
      disarms.mapIdx fun position disarm =>
        reducedStatus
          (ownReceipts (receiptsOf executor after disarms returned) disarms
            position disarm) := by
  apply List.ext_getElem?
  intro position
  rw [planCommits_getElem, List.getElem?_map, List.getElem?_mapIdx]
  cases requested : disarms[position]? with
  | none => rfl
  | some disarm =>
      have before : changesBefore (disarms.map Disarm.plan) position =
          ((disarms.take position).flatMap Disarm.changes).length := by
        rw [changesBefore, ← List.map_take, flatMap_plan_changes]
      simp only [Option.map_some]
      rw [ownReceipts_eq executor after returned requested, before,
        Nat.zero_add]
      rfl

/-- A planned batch submits its requests. -/
theorem submit_submission
    {ε : Type*} {batch submitted : DisarmBatch} {disarms : List Disarm}
    (plans : batch.plans = disarms.map Disarm.plan)
    (counted : batch.changeLen = (disarms.flatMap Disarm.changes).length)
    {executor : DisarmExecutor ε} {before after : ε}
    {result : Except IoError Unit}
    (performed :
      batch.submit executor before = (submitted, after, result)) :
    Submission executor before disarms after
      (batch.submittedCommits executor before) (resultErr result) := by
  have flattened : batch.plans.flatMap Plan.changes =
      disarms.flatMap Disarm.changes := by
    rw [plans, flatMap_plan_changes]
  have filled : ∀ commit : CommitStatus,
      List.replicate batch.plans.length commit =
        disarms.map fun _ => commit := by
    intro commit
    rw [plans, List.length_map, List.map_const']
  by_cases vacant : disarms = []
  · subst vacant
    have uncommitted : batch.submittedCommits executor before = [] := by
      rw [← List.length_eq_zero_iff, length_submittedCommits, plans]
      rfl
    rw [submit_vacant plans] at performed
    cases performed
    rw [uncommitted]
    exact .vacant rfl
  · have occupied : batch.plans ≠ [] := by
      rw [plans]
      simpa using vacant
    have traversed :
        batch.changes.Yields (disarms.flatMap Disarm.changes) :=
      DisarmChanges.yields_pending _ _
        ((changes_pending batch).trans flattened) counted
    rcases applied : executor.apply before batch.changes with
      ⟨finished, answer⟩
    have asked := Submission.applied vacant traversed applied
    unfold submittedCommits
    rw [applied]
    cases answer with
    | appliedWithoutReceipts =>
        rw [submit_accepted occupied applied] at performed
        cases performed
        simp only [filled]
        exact asked
    | unknown source =>
        rw [submit_unanswered occupied applied] at performed
        cases performed
        simp only [filled]
        exact asked
    | receipts returned =>
        by_cases excess : returned > batch.changeLen
        · rw [submit_excess occupied applied excess] at performed
          cases performed
          simp only [answered, if_pos (counted ▸ excess)] at asked
          simp only [if_pos excess, filled]
          exact asked
        · rw [submit_receipts occupied applied (Nat.not_lt.mp excess)]
            at performed
          cases performed
          simp only [answered, if_neg (counted ▸ excess)] at asked
          simp only [if_neg excess]
          rw [flattened, receiptsFrom_eq]
          rw [plans, planCommits_eq]
          have failure : ∀ first : Option IoError,
              resultErr (firstFailure first) = first := by
            intro first
            cases first <;> rfl
          rw [failure]
          simp only [Nat.zero_add]
          exact asked

/-! ### A batch with every kind of outcome -/

/-- Storage for three requests. -/
def threeSlots : DisarmBatch :=
  { planCapacity := 3, changeCapacity := 6, changeLen := 0, plans := [] }

/-- One readable request and two that are readable and writable. -/
def threeDisarms : List Disarm :=
  [⟨⟨1⟩, 11, Interest.readable⟩,
    ⟨⟨2⟩, 12, Interest.both⟩,
    ⟨⟨3⟩, 13, Interest.both⟩]

/-- An executor that returns a receipt for each of the five changes. -/
def mixedExecutor : DisarmExecutor Unit :=
  { apply := fun state _ => (state, .receipts 5)
    receipt := fun _ index _ _ =>
      [FilterApply.applied, .notApplied 71, .notApplied 72, .applied,
        .unknown (some 73)].getD index .applied }

theorem threeDisarms_exact :
    ∃ batch,
      (DisarmBatch.new 3 true).bind
          (fun fresh => fresh.clear.pushAll threeDisarms) = some batch ∧
        (batch.submit mixedExecutor ()).2.2 = .error (.os 71) := by
  have accepted : threeSlots.clear.pushAll threeDisarms =
      some _ := rfl
  have submitted := submit_exact accepted mixedExecutor ()
  refine ⟨_, accepted, ?_⟩
  exact ((submitted.2.2.2.2.2.2.1 5 rfl (Nat.le_refl 5)).2 (.os 71)).mpr rfl

end DisarmBatch

end Zio
