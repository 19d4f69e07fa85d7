import Zio.Events
import Zio.Kqueue.Change

/-!
# One-shot disarm batching

The plans of one delivery, the traversal of their native changes, and the
reduction of receipts to one outcome for each plan.  The executor is an
arbitrary stateful mechanism.
-/

namespace Zio

structure Plan where
  registration : RegistrationId
  descriptor : RawFd
  interest : Interest
  commit : CommitStatus
deriving DecidableEq, Repr

namespace Plan

def changeCount (self : Plan) : Nat :=
  self.interest.isReadable.toNat + self.interest.isWritable.toNat

def change (self : Plan) (index : Nat) : Option Change :=
  match self.interest.isReadable, self.interest.isWritable, index with
  | true, _, 0 => some ⟨self.descriptor, .read, .disable, 0⟩
  | false, true, 0 => some ⟨self.descriptor, .write, .disable, 0⟩
  | true, true, 1 => some ⟨self.descriptor, .write, .disable, 0⟩
  | _, _, _ => none

def outcome (self : Plan) : RecoveryOutcome :=
  RecoveryOutcome.new self.registration self.commit

end Plan

/-- Native-change traversal over retained logical plans. -/
structure DisarmChanges where
  plans : List Plan
  plan : Nat
  change : Nat
  remaining : Nat
deriving DecidableEq, Repr

namespace DisarmChanges

/-- The loop of `next` over the plans that are left. -/
def nextIn : List Plan → Nat → Nat → Option Change × Nat × Nat
  | [], plan, change => (none, plan, change)
  | current :: rest, plan, change =>
      match current.change change with
      | some found => (some found, plan, change + 1)
      | none => nextIn rest (plan + 1) 0

def next (self : DisarmChanges) : Option Change × DisarmChanges :=
  match nextIn (self.plans.drop self.plan) self.plan self.change with
  | (some found, plan, change) =>
      (some found,
        { self with plan, change, remaining := self.remaining - 1 })
  | (none, plan, change) => (none, { self with plan, change })

def len (self : DisarmChanges) : Nat := self.remaining

end DisarmChanges

/-- Executor seam shared by the native backend and policy tests. -/
structure DisarmExecutor (ε : Type*) where
  apply : ε → DisarmChanges → ε × NativeApply
  receipt : ε → Nat → Nat → Change → FilterApply

structure DisarmBatch where
  planCapacity : Nat
  changeCapacity : Nat
  changeLen : Nat
  plans : List Plan
deriving DecidableEq, Repr

def disarmProtocolError : IoError := .simple .invalidData

namespace DisarmBatch

/-- Fixed plan storage.  `allocated` is the allocator's answer. -/
def new (registrations : Nat) (allocated : Bool) : Option DisarmBatch :=
  match usizeCheckedMul registrations 2 with
  | none => none
  | some changes =>
      if allocated then
        some
          { planCapacity := registrations
            changeCapacity := changes
            changeLen := 0
            plans := [] }
      else
        none

def clear (self : DisarmBatch) : DisarmBatch :=
  { self with plans := [], changeLen := 0 }

def push
    (self : DisarmBatch) (registration : RegistrationId)
    (descriptor : RawFd) (interest : Interest) : Option DisarmBatch :=
  let required := interest.isReadable.toNat + interest.isWritable.toNat
  if required = 0 ∨ self.plans.length ≥ self.planCapacity then
    none
  else
    match usizeCheckedAdd self.changeLen required with
    | none => none
    | some total =>
        if total > self.changeCapacity then
          none
        else
          some
            { self with
              plans :=
                self.plans ++
                  [{ registration, descriptor, interest
                     commit := .unknown }]
              changeLen := self.changeLen + required }

def outcomes (self : DisarmBatch) : List RecoveryOutcome :=
  self.plans.map Plan.outcome

def fillOutcomes (self : DisarmBatch) (commit : CommitStatus) :
    DisarmBatch :=
  { self with plans := self.plans.map fun plan => { plan with commit } }

def changes (self : DisarmBatch) : DisarmChanges :=
  { plans := self.plans, plan := 0, change := 0
    remaining := self.changeLen }

/-- The counters of one plan while its receipts are read. -/
structure Tally where
  satisfied : Nat
  notApplied : Nat
  unknown : Bool
  firstError : Option IoError
  changeIndex : Nat

/-- `get_or_insert_with`. -/
def keepFirst (first : Option IoError) (error : IoError) :
    Option IoError :=
  match first with
  | some earlier => some earlier
  | none => some error

/-- Read one receipt. -/
def Tally.read (tally : Tally) (receipt : FilterApply) : Tally :=
  let tally := { tally with changeIndex := tally.changeIndex + 1 }
  match receipt with
  | .applied => { tally with satisfied := tally.satisfied + 1 }
  | .alreadyAbsent => { tally with satisfied := tally.satisfied + 1 }
  | .notApplied code =>
      { tally with
        notApplied := tally.notApplied + 1
        firstError := keepFirst tally.firstError (.os code) }
  | .unknown code =>
      { tally with
        unknown := true
        firstError :=
          keepFirst tally.firstError
            (match code with
            | none => disarmProtocolError
            | some code => .os code) }

/-- The inner loop over the changes of one plan. -/
def readPlan (receipt : Nat → Change → FilterApply) (plan : Plan) :
    List Nat → Tally → Except IoError Tally
  | [], tally => .ok tally
  | planIndex :: rest, tally =>
      match plan.change planIndex with
      | none => .error disarmProtocolError
      | some expected =>
          readPlan receipt plan rest
            (tally.read (receipt tally.changeIndex expected))

/-- The status that the receipts of one plan prove. -/
def Tally.commit (tally : Tally) (changeCount : Nat) : CommitStatus :=
  if !tally.unknown && tally.satisfied == changeCount then .applied
  else if !tally.unknown && tally.notApplied == changeCount then
    .notApplied
  else .unknown

/-- The outer loop over the plans; an early return keeps the plans that were
not reached. -/
def readPlans (receipt : Nat → Change → FilterApply) :
    List Plan → Option IoError → Nat →
      List Plan × Except IoError (Option IoError)
  | [], firstError, _ => ([], .ok firstError)
  | plan :: rest, firstError, changeIndex =>
      match readPlan receipt plan (List.range plan.changeCount)
          { satisfied := 0, notApplied := 0, unknown := false
            firstError, changeIndex } with
      | .error error => (plan :: rest, .error error)
      | .ok tally =>
          let (later, result) :=
            readPlans receipt rest tally.firstError tally.changeIndex
          ({ plan with commit := tally.commit plan.changeCount } :: later,
            result)

def reduceReceipts
    (self : DisarmBatch) (receipt : Nat → Nat → Change → FilterApply)
    (returned : Nat) : DisarmBatch × Except IoError Unit :=
  if returned > self.changeLen then
    (self.fillOutcomes .unknown, .error disarmProtocolError)
  else
    let (plans, result) :=
      readPlans (fun index => receipt index returned) self.plans none 0
    ({ self with plans },
      match result with
      | .error error => .error error
      | .ok none => .ok ()
      | .ok (some error) => .error error)

def submit
    {ε : Type*} (self : DisarmBatch) (executor : DisarmExecutor ε)
    (state : ε) : DisarmBatch × ε × Except IoError Unit :=
  if self.plans.isEmpty then
    (self, state, .ok ())
  else
    let (state, answer) := executor.apply state self.changes
    match answer with
    | .appliedWithoutReceipts =>
        (self.fillOutcomes .applied, state, .ok ())
    | .unknown source => (self.fillOutcomes .unknown, state, .error source)
    | .receipts returned =>
        let (batch, result) :=
          self.reduceReceipts (executor.receipt state) returned
        (batch, state, result)

/-! ## Reduction of receipts -/

end DisarmBatch

/-- The receipt proves that the filter no longer fires. -/
def FilterApply.satisfied : FilterApply → Bool
  | .applied => true
  | .alreadyAbsent => true
  | _ => false

/-- The receipt proves that the change had no effect. -/
def FilterApply.refused : FilterApply → Bool
  | .notApplied _ => true
  | _ => false

/-- The error of a receipt that does not prove success. -/
def FilterApply.failure : FilterApply → Option IoError
  | .applied => none
  | .alreadyAbsent => none
  | .notApplied code => some (.os code)
  | .unknown none => some disarmProtocolError
  | .unknown (some code) => some (.os code)

theorem FilterApply.failure_isSome (receipt : FilterApply) :
    receipt.failure.isSome = !receipt.satisfied := by
  cases receipt with
  | unknown code => cases code <;> rfl
  | _ => rfl

/-- The status that a list of receipts proves. -/
def reducedStatus (receipts : List FilterApply) : CommitStatus :=
  if receipts.all FilterApply.satisfied then .applied
  else if receipts.all FilterApply.refused then .notApplied
  else .unknown

/-- The changes of one plan, read before write. -/
def Plan.changes (self : Plan) : List Change :=
  (if self.interest.isReadable then
    [⟨self.descriptor, .read, .disable, 0⟩] else []) ++
  (if self.interest.isWritable then
    [⟨self.descriptor, .write, .disable, 0⟩] else [])

theorem Plan.length_changes (plan : Plan) :
    plan.changes.length = plan.changeCount := by
  unfold changes changeCount
  cases plan.interest.isReadable <;> cases plan.interest.isWritable <;> rfl

theorem Plan.change_eq (plan : Plan) (index : Nat) :
    plan.change index = plan.changes[index]? := by
  unfold change changes
  cases plan.interest.isReadable <;> cases plan.interest.isWritable <;>
    rcases index with _ | _ | index <;> simp

/-! ## Traversal of the changes -/

namespace DisarmChanges

/-- The changes that a traversal has yet to yield. -/
def pending (self : DisarmChanges) : List Change :=
  match self.plans.drop self.plan with
  | [] => []
  | current :: rest =>
      current.changes.drop self.change ++ rest.flatMap Plan.changes

theorem nextIn_cases
    (plans left : List Plan) (plan change : Nat)
    (remaining : plans.drop plan = left) :
    match nextIn left plan change with
    | (none, after, following) =>
        pending { plans, plan, change, remaining := 0 } = [] ∧
          pending { plans, plan := after, change := following
                    remaining := 0 } = []
    | (some found, after, following) =>
        pending { plans, plan, change, remaining := 0 } =
          found ::
            pending { plans, plan := after, change := following
                      remaining := 0 } := by
  induction left generalizing plan change with
  | nil => simp [nextIn, pending, remaining]
  | cons current rest inductionHypothesis =>
      have following : plans.drop (plan + 1) = rest := by
        rw [← List.drop_drop, remaining]
        rfl
      cases found : current.change change with
      | some yielded =>
          simp only [nextIn, found, pending, remaining]
          rw [Plan.change_eq] at found
          obtain ⟨inside, same⟩ := List.getElem?_eq_some_iff.mp found
          rw [List.drop_eq_getElem_cons inside, same]
          rfl
      | none =>
          have spent : current.changes.drop change = [] := by
            rw [Plan.change_eq] at found
            exact List.drop_eq_nil_of_le (List.getElem?_eq_none_iff.mp found)
          have skipped :
              pending { plans, plan, change, remaining := 0 } =
                pending { plans, plan := plan + 1, change := 0
                          remaining := 0 } := by
            simp only [pending, remaining, following, spent]
            cases rest <;> rfl
          simp only [nextIn, found]
          rw [skipped]
          exact inductionHypothesis (plan + 1) 0 following

/-- A step of the traversal yields the next pending change. -/
theorem next_some
    {self after : DisarmChanges} {change : Change}
    (stepped : self.next = (some change, after)) :
    self.pending = change :: after.pending := by
  have yields := nextIn_cases self.plans _ self.plan self.change rfl
  unfold next at stepped
  rcases found : nextIn (self.plans.drop self.plan) self.plan
      self.change with ⟨yielded, plan, following⟩
  rw [found] at stepped yields
  cases yielded with
  | none => cases stepped
  | some yielded =>
      cases stepped
      exact yields

end DisarmChanges

/-- A traversal of all plans yields their changes in order. -/
theorem DisarmBatch.changes_pending (batch : DisarmBatch) :
    batch.changes.pending = batch.plans.flatMap Plan.changes := by
  cases plans : batch.plans with
  | nil => simp [changes, DisarmChanges.pending, plans]
  | cons plan rest => simp [changes, DisarmChanges.pending, plans]

namespace DisarmBatch

/-- The receipts of consecutive changes. -/
def receiptsFrom (receipt : Nat → Change → FilterApply) :
    List Change → Nat → List FilterApply
  | [], _ => []
  | change :: rest, index =>
      receipt index change :: receiptsFrom receipt rest (index + 1)

/-- The statuses that the receipts of consecutive plans prove. -/
def planCommits (receipt : Nat → Change → FilterApply) :
    List Plan → Nat → List CommitStatus
  | [], _ => []
  | plan :: rest, index =>
      reducedStatus (receiptsFrom receipt plan.changes index) ::
        planCommits receipt rest (index + plan.changeCount)

/-- Write one status into each plan. -/
def setCommits (plans : List Plan) (commits : List CommitStatus) :
    List Plan :=
  List.zipWith (fun plan commit => { plan with commit }) plans commits

theorem length_receiptsFrom
    (receipt : Nat → Change → FilterApply) (changes : List Change)
    (index : Nat) :
    (receiptsFrom receipt changes index).length = changes.length := by
  induction changes generalizing index with
  | nil => rfl
  | cons change rest inductionHypothesis =>
      simp [receiptsFrom, inductionHypothesis]

theorem receiptsFrom_append
    (receipt : Nat → Change → FilterApply) (first rest : List Change)
    (index : Nat) :
    receiptsFrom receipt (first ++ rest) index =
      receiptsFrom receipt first index ++
        receiptsFrom receipt rest (index + first.length) := by
  induction first generalizing index with
  | nil => rfl
  | cons change later inductionHypothesis =>
      rw [List.cons_append, receiptsFrom, inductionHypothesis,
        receiptsFrom, List.length_cons]
      rw [Nat.add_assoc, Nat.add_comm 1, List.cons_append]

theorem length_planCommits
    (receipt : Nat → Change → FilterApply) (plans : List Plan)
    (index : Nat) :
    (planCommits receipt plans index).length = plans.length := by
  induction plans generalizing index with
  | nil => rfl
  | cons plan rest inductionHypothesis =>
      simp [planCommits, inductionHypothesis]

/-- Reading receipts in order is a fold over them. -/
theorem readPlan_eq
    (receipt : Nat → Change → FilterApply) (plan : Plan)
    (skipped : Nat) (changes : List Change)
    (left : plan.changes.drop skipped = changes) (tally : Tally) :
    readPlan receipt plan (List.range' skipped changes.length) tally =
      .ok
        ((receiptsFrom receipt changes tally.changeIndex).foldl
          Tally.read tally) := by
  induction changes generalizing skipped tally with
  | nil => rfl
  | cons change rest inductionHypothesis =>
      have current : plan.change skipped = some change := by
        rw [Plan.change_eq]
        have head := congrArg List.head? left
        rw [List.head?_drop] at head
        exact head
      have following : plan.changes.drop (skipped + 1) = rest := by
        rw [← List.drop_drop, left]
        rfl
      have advanced : ∀ answer,
          (tally.read answer).changeIndex = tally.changeIndex + 1 :=
        fun answer => by cases answer <;> rfl
      rw [List.length_cons, List.range'_succ, readPlan, current]
      simp only
      rw [inductionHypothesis (skipped + 1) following, advanced]
      rfl

/-- What one receipt adds to the counters. -/
theorem read_eq (tally : Tally) (receipt : FilterApply) :
    (tally.read receipt).satisfied =
        tally.satisfied + receipt.satisfied.toNat ∧
      (tally.read receipt).notApplied =
        tally.notApplied + receipt.refused.toNat ∧
      (tally.read receipt).unknown =
        (tally.unknown || (!receipt.satisfied && !receipt.refused)) ∧
      (tally.read receipt).firstError =
        tally.firstError.or receipt.failure ∧
      (tally.read receipt).changeIndex = tally.changeIndex + 1 := by
  cases receipt with
  | unknown code =>
      cases code <;> cases first : tally.firstError <;>
        simp [Tally.read, FilterApply.satisfied, FilterApply.refused,
          FilterApply.failure, keepFirst, first]
  | _ =>
      cases first : tally.firstError <;>
        simp [Tally.read, FilterApply.satisfied, FilterApply.refused,
          FilterApply.failure, keepFirst, first]

/-- What a fold over receipts counts. -/
theorem foldl_read (receipts : List FilterApply) (tally : Tally) :
    (receipts.foldl Tally.read tally).satisfied =
        tally.satisfied + receipts.countP FilterApply.satisfied ∧
      (receipts.foldl Tally.read tally).notApplied =
        tally.notApplied + receipts.countP FilterApply.refused ∧
      (receipts.foldl Tally.read tally).unknown =
        (tally.unknown ||
          receipts.any fun receipt =>
            !receipt.satisfied && !receipt.refused) ∧
      (receipts.foldl Tally.read tally).firstError =
        tally.firstError.or (receipts.findSome? FilterApply.failure) ∧
      (receipts.foldl Tally.read tally).changeIndex =
        tally.changeIndex + receipts.length := by
  induction receipts generalizing tally with
  | nil => simp
  | cons receipt rest inductionHypothesis =>
      obtain ⟨satisfied, refused, unknown, firstError, changeIndex⟩ :=
        inductionHypothesis (tally.read receipt)
      obtain ⟨one, two, three, four, five⟩ := read_eq tally receipt
      rw [List.foldl_cons, satisfied, refused, unknown, firstError,
        changeIndex, one, two, three, four, five, List.countP_cons,
        List.countP_cons, List.any_cons, List.length_cons, Bool.or_assoc,
        Option.or_assoc]
      refine ⟨?_, ?_, rfl, ?_, by omega⟩
      · cases receipt.satisfied <;> simp [Nat.add_comm, Nat.add_left_comm]
      · cases receipt.refused <;> simp [Nat.add_comm, Nat.add_left_comm]
      · rw [List.findSome?_cons]
        cases receipt.failure <;> rfl

theorem tally_commit
    (receipts : List FilterApply) (tally : Tally)
    (noSatisfied : tally.satisfied = 0)
    (noRefused : tally.notApplied = 0)
    (noUnknown : tally.unknown = false) :
    (receipts.foldl Tally.read tally).commit receipts.length =
      reducedStatus receipts := by
  obtain ⟨satisfied, refused, unknown, _, _⟩ := foldl_read receipts tally
  have all (test : FilterApply → Bool) :
      receipts.countP test = receipts.length ↔
        receipts.all test = true := by
    rw [List.countP_eq_length, List.all_eq_true]
  unfold Tally.commit reducedStatus
  rw [satisfied, refused, unknown, noSatisfied, noRefused, noUnknown]
  simp only [Nat.zero_add, Bool.false_or]
  by_cases everySatisfied : receipts.all FilterApply.satisfied = true
  · have counted := (all _).2 everySatisfied
    have certain :
        (receipts.any fun receipt =>
          !receipt.satisfied && !receipt.refused) = false := by
      rw [List.any_eq_false]
      intro receipt member
      rw [List.all_eq_true] at everySatisfied
      simp [everySatisfied receipt member]
    simp [everySatisfied, counted, certain]
  · have notCounted :
        receipts.countP FilterApply.satisfied ≠ receipts.length :=
      fun counted => everySatisfied ((all _).1 counted)
    by_cases everyRefused : receipts.all FilterApply.refused = true
    · have counted := (all _).2 everyRefused
      have certain :
          (receipts.any fun receipt =>
            !receipt.satisfied && !receipt.refused) = false := by
        rw [List.any_eq_false]
        intro receipt member
        rw [List.all_eq_true] at everyRefused
        simp [everyRefused receipt member]
      simp [everySatisfied, everyRefused, counted, notCounted, certain]
    · have notRefused :
          receipts.countP FilterApply.refused ≠ receipts.length :=
        fun counted => everyRefused ((all _).1 counted)
      simp [everySatisfied, everyRefused, notCounted, notRefused]

theorem reducedStatus_ne_applied (receipts : List FilterApply) :
    decide (reducedStatus receipts ≠ .applied) =
      receipts.any fun receipt => !receipt.satisfied := by
  unfold reducedStatus
  by_cases every : receipts.all FilterApply.satisfied = true
  · rw [if_pos every]
    rw [List.all_eq_not_any_not] at every
    simpa using every
  · rw [if_neg every]
    rw [List.all_eq_not_any_not] at every
    simp only [Bool.not_eq_true', Bool.not_eq_false] at every
    rw [every]
    split <;> simp

/-- The receipts of all plans fail exactly when some plan is not proven
applied. -/
theorem planCommits_failed
    (receipt : Nat → Change → FilterApply) (plans : List Plan)
    (index : Nat) :
    ((receiptsFrom receipt (plans.flatMap Plan.changes)
        index).findSome? FilterApply.failure).isSome =
      (planCommits receipt plans index).any
        fun commit => commit ≠ .applied := by
  induction plans generalizing index with
  | nil => rfl
  | cons plan rest inductionHypothesis =>
      rw [List.flatMap_cons, receiptsFrom_append, List.findSome?_append,
        Option.isSome_or, Plan.length_changes, inductionHypothesis,
        planCommits, List.any_cons, reducedStatus_ne_applied,
        List.isSome_findSome?]
      simp only [FilterApply.failure_isSome]

theorem readPlans_eq
    (receipt : Nat → Change → FilterApply) (plans : List Plan)
    (firstError : Option IoError) (index : Nat) :
    readPlans receipt plans firstError index =
      (setCommits plans (planCommits receipt plans index),
        .ok
          (firstError.or
            ((receiptsFrom receipt (plans.flatMap Plan.changes)
              index).findSome? FilterApply.failure))) := by
  induction plans generalizing firstError index with
  | nil => simp [readPlans, setCommits, receiptsFrom]
  | cons plan rest inductionHypothesis =>
      let start : Tally :=
        { satisfied := 0, notApplied := 0, unknown := false
          firstError, changeIndex := index }
      let receipts := receiptsFrom receipt plan.changes index
      have count : receipts.length = plan.changeCount := by
        rw [length_receiptsFrom, Plan.length_changes]
      have read :
          readPlan receipt plan (List.range plan.changeCount) start =
            .ok (receipts.foldl Tally.read start) := by
        have all := readPlan_eq receipt plan 0 plan.changes rfl start
        rw [Plan.length_changes, ← List.range_eq_range'] at all
        exact all
      have commit := tally_commit receipts start rfl rfl rfl
      rw [count] at commit
      obtain ⟨_, _, _, errors, indices⟩ := foldl_read receipts start
      rw [readPlans, read]
      simp only
      rw [inductionHypothesis, indices, errors, commit, count]
      rw [List.flatMap_cons, receiptsFrom_append, List.findSome?_append,
        Plan.length_changes, Option.or_assoc, planCommits]
      rfl

theorem reducedStatus_applied
    {receipts : List FilterApply}
    (satisfied : ∀ receipt ∈ receipts, receipt.satisfied = true) :
    reducedStatus receipts = .applied := by
  unfold reducedStatus
  rw [if_pos (List.all_eq_true.mpr satisfied)]

theorem planCommits_applied
    {receipt : Nat → Change → FilterApply}
    (satisfied : ∀ index change, (receipt index change).satisfied = true)
    (plans : List Plan) (index : Nat) :
    planCommits receipt plans index =
      List.replicate plans.length .applied := by
  have all : ∀ changes start,
      ∀ outcome ∈ receiptsFrom receipt changes start,
        outcome.satisfied = true := by
    intro changes
    induction changes with
    | nil => simp [receiptsFrom]
    | cons change rest inductionHypothesis =>
        intro start outcome member
        rcases List.mem_cons.mp member with rfl | later
        · exact satisfied start change
        · exact inductionHypothesis (start + 1) outcome later
  induction plans generalizing index with
  | nil => rfl
  | cons plan rest inductionHypothesis =>
      rw [planCommits, reducedStatus_applied (all _ _),
        inductionHypothesis]
      rfl

/-- The statuses that one submission proves. -/
def submittedCommits
    {ε : Type*} (batch : DisarmBatch) (executor : DisarmExecutor ε)
    (state : ε) : List CommitStatus :=
  match executor.apply state batch.changes with
  | (_, .appliedWithoutReceipts) =>
      List.replicate batch.plans.length .applied
  | (_, .unknown _) => List.replicate batch.plans.length .unknown
  | (after, .receipts returned) =>
      if returned > batch.changeLen then
        List.replicate batch.plans.length .unknown
      else
        planCommits (fun index => executor.receipt after index returned)
          batch.plans 0

theorem length_submittedCommits
    {ε : Type*} (batch : DisarmBatch) (executor : DisarmExecutor ε)
    (state : ε) :
    (batch.submittedCommits executor state).length =
      batch.plans.length := by
  unfold submittedCommits
  split
  · simp
  · simp
  · split
    · simp
    · exact length_planCommits _ _ _

theorem fillOutcomes_eq (batch : DisarmBatch) (commit : CommitStatus) :
    batch.fillOutcomes commit =
      { batch with
        plans :=
          setCommits batch.plans
            (List.replicate batch.plans.length commit) } := by
  have filled : ∀ plans : List Plan,
      plans.map (fun plan => { plan with commit }) =
        setCommits plans (List.replicate plans.length commit) := by
    intro plans
    induction plans with
    | nil => rfl
    | cons plan rest inductionHypothesis =>
        simp only [List.map_cons, List.length_cons, List.replicate_succ,
          setCommits, List.zipWith_cons_cons]
        rw [inductionHypothesis]
        rfl
  simp only [fillOutcomes, filled]

/-- A submission writes one status into each plan, in order, and fails exactly
when some status is not proven applied. -/
theorem submit_eq
    {ε : Type*} (batch : DisarmBatch) (executor : DisarmExecutor ε)
    (state : ε) :
    ∃ after result,
      batch.submit executor state =
          ({ batch with
              plans :=
                setCommits batch.plans
                  (batch.submittedCommits executor state) },
            after, result) ∧
        ((∃ error, result = .error error) ↔
          ∃ commit ∈ batch.submittedCommits executor state,
            commit ≠ .applied) := by
  unfold submit
  by_cases vacant : batch.plans = []
  · have uncommitted : batch.submittedCommits executor state = [] := by
      rw [← List.length_eq_zero_iff, length_submittedCommits, vacant]
      rfl
    refine ⟨state, .ok (), ?_, ?_⟩
    · rw [uncommitted, vacant]
      simp only [List.isEmpty_nil, if_true, setCommits,
        List.zipWith_nil_left]
      rw [← vacant]
    · rw [uncommitted]
      simp
  · have someLength : batch.plans.length ≠ 0 := by
      simpa using vacant
    rw [if_neg (by simpa using vacant)]
    unfold submittedCommits
    rcases executor.apply state batch.changes with ⟨after, answer⟩
    cases answer with
    | appliedWithoutReceipts =>
        refine ⟨after, .ok (), ?_, ?_⟩
        · simp only [fillOutcomes_eq]
        · simp
    | unknown source =>
        refine ⟨after, .error source, ?_, ?_⟩
        · simp only [fillOutcomes_eq]
        · simp [someLength]
    | receipts returned =>
        simp only [reduceReceipts]
        split
        · refine ⟨after, .error disarmProtocolError, ?_, ?_⟩
          · simp only [fillOutcomes_eq]
          · simp [someLength]
        · have found := planCommits_failed
            (fun index => executor.receipt after index returned)
            batch.plans 0
          rw [readPlans_eq, Option.none_or]
          cases error :
              (receiptsFrom
                (fun index => executor.receipt after index returned)
                (batch.plans.flatMap Plan.changes) 0).findSome?
                  FilterApply.failure with
          | none =>
              refine ⟨after, .ok (), rfl, ?_⟩
              simpa [error] using found
          | some failure =>
              refine ⟨after, .error failure, rfl, ?_⟩
              simpa [error] using found

theorem setCommits_outcomes
    (plans : List Plan) (commits : List CommitStatus) :
    (setCommits plans commits).map Plan.outcome =
      List.zipWith
        (fun plan commit => RecoveryOutcome.new plan.registration commit)
        plans commits := by
  simp [setCommits, List.map_zipWith, Plan.outcome]

end DisarmBatch

end Zio
