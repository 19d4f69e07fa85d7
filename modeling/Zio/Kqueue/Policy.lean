import Zio.Kqueue.Filters
import Zio.Mutation.Effects

/-!
# Atomicity policy for multi-filter kqueue mutations

Registration, modification and deletion over a receipt-checked change executor,
with their rollback.  Over any executor that reports truthfully, the commit
status that each of them answers describes the filters of its descriptor, and
the filters of every other descriptor are untouched.
-/

namespace Zio

/-! ## Receipts -/

/-- Fixed receipt set matching one change list. -/
structure Receipts where
  items : List Receipt
  len : Nat
  sized : items.length = 2

namespace Receipts

def new (len : Nat) : Receipts :=
  { items := List.replicate 2 { action := .delete, error := none }
    len
    sized := rfl }

def set (self : Receipts) (index : Nat) (receipt : Receipt) :
    Except IoError Receipts :=
  if index < 2 then
    .ok
      { self with
        items := self.items.set index receipt
        sized := by rw [List.length_set, self.sized] }
  else
    .error (.custom .other "kqueue receipt index overflowed")

def iter (self : Receipts) : List Receipt := self.items.take self.len

end Receipts

/-! ## Executors -/

structure ChangeExecutor (ε : Type*) where
  apply : ε → ChangeList → ε × Except IoError Receipts
  applyRegistration :
    ε → RawFd → UInt64 → Interest → ε × Except IoError Unit

/-- Push a change and ignore a full list. -/
def ChangeList.pushed (self : ChangeList) (change : Change) : ChangeList :=
  (self.push change).getD self

def pushInterests
    (changes : ChangeList) (descriptor : RawFd) (token : UInt64)
    (interest : Interest) (action : Action) : ChangeList :=
  let changes :=
    if interest.isReadable then
      changes.pushed
        { ident := descriptor, filter := .read, action, token }
    else
      changes
  if interest.isWritable then
    changes.pushed { ident := descriptor, filter := .write, action, token }
  else
    changes

def additions
    (descriptor : RawFd) (token : UInt64) (interest : Interest)
    (action : Action) : ChangeList :=
  pushInterests ChangeList.new descriptor token interest action

def replacement
    (descriptor : RawFd) (token : UInt64) (interest : Interest)
    (add : Action) : ChangeList :=
  let read := if interest.isReadable then add else .delete
  let write := if interest.isWritable then add else .delete
  (ChangeList.new.pushed
    { ident := descriptor, filter := .read, action := read, token }).pushed
    { ident := descriptor, filter := .write, action := write, token }

variable {ε : Type*}

/-- The error of one receipt, unless it is a deletion that may be missing. -/
def Receipt.failure (self : Receipt) (ignoreMissingDelete : Bool) :
    Option Int32 :=
  if self.error = some enoent ∧ ignoreMissingDelete = true ∧
      self.action = .delete then
    none
  else
    self.error

def exact
    (apply : ε → ChangeList → ε × Except IoError Receipts) (queue : ε)
    (changes : ChangeList) (ignoreMissingDelete : Bool) :
    ε × Except IoError Unit :=
  match apply queue changes with
  | (queue, .error source) => (queue, .error source)
  | (queue, .ok receipts) =>
      match receipts.iter.findSome?
          (Receipt.failure · ignoreMissingDelete) with
      | none => (queue, .ok ())
      | some code => (queue, .error (.os code))

/-- The registration of an executor that has no path of its own for it. -/
def ChangeExecutor.receiptChecked
    (apply : ε → ChangeList → ε × Except IoError Receipts) :
    ChangeExecutor ε :=
  { apply
    applyRegistration := fun queue descriptor token interest =>
      exact apply queue (additions descriptor token interest .addEnabled)
        false }

namespace ChangeExecutor

variable (executor : ChangeExecutor ε)

def cleanupInterests
    (queue : ε) (descriptor : RawFd) (interest : Interest) :
    ε × Except IoError Unit :=
  exact executor.apply queue
    (pushInterests ChangeList.new descriptor 0 interest .delete) true

def cleanup (queue : ε) (descriptor : RawFd) : ε × Except IoError Unit :=
  executor.cleanupInterests queue descriptor
    (Interest.readable.union Interest.writable)

/-- The status after a failed submission whose rollback answered `restored`. -/
def rolledBack (restored : Except IoError Unit) : CommitStatus :=
  match restored with
  | .ok () => .notApplied
  | .error _ => .unknown

def registerDescriptor
    (queue : ε) (descriptor : RawFd) (token : UInt64)
    (interest : Interest) : ε × Answer :=
  match executor.applyRegistration queue descriptor token interest with
  | (queue, .ok ()) => (queue, .ok ())
  | (queue, .error source) =>
      let (queue, cleaned) := executor.cleanup queue descriptor
      (queue, .error { commit := rolledBack cleaned, source })

def restoreAction : ArmState → Action
  | .armed => .addEnabled
  | .disarmed => .addDisabled

def modifyDescriptor
    (queue : ε) (descriptor : RawFd) (token : UInt64)
    (previousInterest : Interest) (previousArm : ArmState)
    (desiredInterest : Interest) : ε × Answer :=
  let desired :=
    replacement descriptor token desiredInterest .addEnabled
  match exact executor.apply queue desired true with
  | (queue, .ok ()) => (queue, .ok ())
  | (queue, .error source) =>
      let prior :=
        replacement descriptor token previousInterest
          (restoreAction previousArm)
      let (queue, restored) := exact executor.apply queue prior true
      (queue, .error { commit := rolledBack restored, source })

def deleteDescriptor
    (queue : ε) (descriptor : RawFd) (interest : Interest)
    (state : RegistrationState) : ε × Answer :=
  let exactInterest :=
    match state with
    | .registered _ => interest
    | .uncertain => Interest.readable.union Interest.writable
  let (queue, cleaned) :=
    executor.cleanupInterests queue descriptor exactInterest
  (queue,
    cleaned.mapError fun source => { commit := .unknown, source })

/-- `Backend` as a mutation driver on kqueue. -/
def driver : MutationDriver ε where
  register := fun queue request =>
    executor.registerDescriptor queue request.descriptor.raw
      request.registration.raw request.interest
  modify := fun queue request =>
    executor.modifyDescriptor queue request.descriptor.raw
      request.registration.raw request.previousInterest
      request.previousArm request.desiredInterest
  delete := fun queue request =>
    executor.deleteDescriptor queue request.descriptor.raw
      request.interest request.state

end ChangeExecutor

/-! ## Truthful executors -/

/-- The receipts of attempted changes. -/
def receiptsOf (changes : List Change) (errors : List (Option Int32)) :
    List Receipt :=
  List.zipWith (fun change error => { action := change.action, error })
    changes errors

/-- An executor over a filter map: receipts report what happened to each
change, and a failed submission applied any subset of its changes. -/
structure ChangeExecutor.Truthful
    (executor : ChangeExecutor ε) (filters : ε → FilterMap) : Prop where
  applied : ∀ {queue changes after receipts},
    (∀ change ∈ changes.items, change.Resource) →
    executor.apply queue changes = (after, .ok receipts) →
      ∃ errors,
        (filters queue).Attempts changes.items errors (filters after) ∧
          receipts.iter = receiptsOf changes.items errors
  failed : ∀ {queue changes after source},
    (∀ change ∈ changes.items, change.Resource) →
    executor.apply queue changes = (after, .error source) →
      (filters queue).Partly changes.items (filters after)
  registered : ∀ {queue descriptor token interest after},
    interest.isEmpty = false →
    executor.applyRegistration queue descriptor token interest =
        (after, .ok ()) →
      filters after =
        (filters queue).applyAll
          (additions descriptor token interest .addEnabled).items
  unregistered : ∀ {queue descriptor token interest after source},
    interest.isEmpty = false →
    executor.applyRegistration queue descriptor token interest =
        (after, .error source) →
      (filters queue).Partly
        (additions descriptor token interest .addEnabled).items
        (filters after)

/-- An executor over a filter map whose receipts may carry any error code: a
change with an error left its filter untouched, a deletion is missing only
when its filter is absent, and a failed submission applied any subset of its
changes. -/
structure ChangeExecutor.Honest
    (executor : ChangeExecutor ε) (filters : ε → FilterMap) : Prop where
  applied : ∀ {queue changes after receipts},
    (∀ change ∈ changes.items, change.Resource) →
    executor.apply queue changes = (after, .ok receipts) →
      ∃ errors,
        (filters queue).Reports changes.items errors (filters after) ∧
          receipts.iter = receiptsOf changes.items errors
  failed : ∀ {queue changes after source},
    (∀ change ∈ changes.items, change.Resource) →
    executor.apply queue changes = (after, .error source) →
      (filters queue).Partly changes.items (filters after)
  registered : ∀ {queue descriptor token interest after},
    interest.isEmpty = false →
    executor.applyRegistration queue descriptor token interest =
        (after, .ok ()) →
      filters after =
        (filters queue).applyAll
          (additions descriptor token interest .addEnabled).items
  unregistered : ∀ {queue descriptor token interest after source},
    interest.isEmpty = false →
    executor.applyRegistration queue descriptor token interest =
        (after, .error source) →
      (filters queue).Partly
        (additions descriptor token interest .addEnabled).items
        (filters after)

theorem ChangeExecutor.Truthful.honest
    {executor : ChangeExecutor ε} {filters : ε → FilterMap}
    (truthful : executor.Truthful filters) : executor.Honest filters where
  applied := by
    intro queue changes after receipts resource submitted
    obtain ⟨errors, attempts, reported⟩ :=
      truthful.applied resource submitted
    exact ⟨errors, attempts.reports, reported⟩
  failed := truthful.failed
  registered := truthful.registered
  unregistered := truthful.unregistered

/-! ## Change lists -/

theorem pushInterests_items
    (descriptor : RawFd) (token : UInt64) (interest : Interest)
    (action : Action) :
    (pushInterests ChangeList.new descriptor token interest action).items =
      (if interest.isReadable then
        [{ ident := descriptor, filter := .read, action, token }] else []) ++
      (if interest.isWritable then
        [{ ident := descriptor, filter := .write, action, token }]
        else []) := by
  rcases interest.cases_eq with rfl | rfl | rfl | rfl <;> rfl

theorem replacement_items
    (descriptor : RawFd) (token : UInt64) (interest : Interest)
    (add : Action) :
    (replacement descriptor token interest add).items =
      [{ ident := descriptor, filter := .read, token
         action := if interest.isReadable then add else .delete },
       { ident := descriptor, filter := .write, token
         action := if interest.isWritable then add else .delete }] := rfl

/-- The changes of a list are about one descriptor and add no other token. -/
def Scoped (descriptor : RawFd) (token : UInt64) (changes : List Change) :
    Prop :=
  ∀ change ∈ changes, change.ident = descriptor ∧
    (change.token = token ∨ change.action = .delete) ∧ change.Resource

/-- The changes that an interest pushes. -/
theorem mem_pushInterests
    {descriptor : RawFd} {token : UInt64} {interest : Interest}
    {action : Action} {change : Change}
    (member : change ∈
      (pushInterests ChangeList.new descriptor token interest
        action).items) :
    change.ident = descriptor ∧ change.token = token ∧
      change.action = action ∧
      (change.filter = .read ∨ change.filter = .write) := by
  rw [pushInterests_items, List.mem_append] at member
  rcases member with read | write
  · split at read
    · rw [List.mem_singleton.mp read]
      exact ⟨rfl, rfl, rfl, Or.inl rfl⟩
    · cases read
  · split at write
    · rw [List.mem_singleton.mp write]
      exact ⟨rfl, rfl, rfl, Or.inr rfl⟩
    · cases write

theorem additions_scoped
    (descriptor : RawFd) (token : UInt64) (interest : Interest) :
    Scoped descriptor token
      (additions descriptor token interest .addEnabled).items := by
  intro change member
  obtain ⟨ident, sameToken, action, filter⟩ := mem_pushInterests member
  refine ⟨ident, Or.inl sameToken, filter, ?_⟩
  rw [action]
  decide

theorem cleanup_scoped
    (descriptor : RawFd) (token : UInt64) (interest : Interest) :
    Scoped descriptor token
      (pushInterests ChangeList.new descriptor 0 interest
        .delete).items := by
  intro change member
  obtain ⟨ident, _, action, filter⟩ := mem_pushInterests member
  refine ⟨ident, Or.inr action, filter, ?_⟩
  rw [action]
  decide

theorem replacement_scoped
    (descriptor : RawFd) (token : UInt64) (interest : Interest)
    (arm : ArmState) :
    Scoped descriptor token
      (replacement descriptor token interest
        (ChangeExecutor.restoreAction arm)).items := by
  have resource : ∀ wanted : Bool,
      (if wanted then ChangeExecutor.restoreAction arm
        else Action.delete) ≠ .addUser ∧
      (if wanted then ChangeExecutor.restoreAction arm
        else Action.delete) ≠ .trigger := by
    intro wanted
    cases wanted <;> cases arm <;> decide
  intro change member
  rw [replacement_items] at member
  rcases List.mem_cons.mp member with rfl | later
  · exact ⟨rfl, Or.inl rfl, Or.inl rfl, resource _⟩
  · rw [List.mem_singleton.mp later]
    exact ⟨rfl, Or.inl rfl, Or.inr rfl, resource _⟩

theorem additions_installed
    (descriptor : RawFd) (token : UInt64) (interest : Interest) :
    (additions descriptor token interest .addEnabled).items.foldl
        Installed.apply Installed.empty =
      Installed.exact interest token .armed := by
  rcases interest.cases_eq with rfl | rfl | rfl | rfl <;> rfl

theorem replacement_installed
    (descriptor : RawFd) (token : UInt64) (interest : Interest)
    (arm : ArmState) (installed : Installed) :
    (replacement descriptor token interest
        (ChangeExecutor.restoreAction arm)).items.foldl
        Installed.apply installed =
      Installed.exact interest token arm := by
  cases arm <;>
    rcases interest.cases_eq with rfl | rfl | rfl | rfl <;> rfl

theorem cleanup_both (descriptor : RawFd) (installed : Installed) :
    (pushInterests ChangeList.new descriptor 0
        (Interest.readable.union Interest.writable) .delete).items.foldl
      Installed.apply installed = Installed.empty := rfl

/-- Deleting the recorded interest removes exact filters. -/
theorem cleanup_exact
    (descriptor : RawFd) (interest : Interest) (token : UInt64)
    (arm : ArmState) :
    (pushInterests ChangeList.new descriptor 0 interest
        .delete).items.foldl Installed.apply
      (Installed.exact interest token arm) = Installed.empty := by
  rcases interest.cases_eq with rfl | rfl | rfl | rfl <;> rfl

/-! ## Confined changes -/

/-- Only one descriptor changed, and it gained no other token. -/
structure Confined
    (descriptor : RawFd) (token : UInt64) (before after : FilterMap) :
    Prop where
  elsewhere : ∀ other, other ≠ descriptor → after other = before other
  carries : (before descriptor).Carries token →
    (after descriptor).Carries token

namespace Confined

variable {descriptor : RawFd} {token : UInt64}
  {before middle after : FilterMap}

theorem trans
    (first : Confined descriptor token before middle)
    (second : Confined descriptor token middle after) :
    Confined descriptor token before after :=
  { elsewhere := fun other different =>
      (second.elsewhere other different).trans
        (first.elsewhere other different)
    carries := fun carries => second.carries (first.carries carries) }

theorem of_partly
    {changes : List Change}
    (within : Scoped descriptor token changes)
    (partly : before.Partly changes after) :
    Confined descriptor token before after := by
  obtain ⟨errors, attempts⟩ := partly.attempts
  constructor
  · intro other different
    apply attempts.elsewhere
    intro change member same
    exact different (same.symm.trans (within change member).1)
  · apply attempts.carries
    intro change member
    rcases (within change member).2.1 with same | removes
    · exact Or.inl same
    · exact Or.inr (Or.inl removes)

end Confined

namespace ChangeExecutor.Honest

variable {executor : ChangeExecutor ε} {filters : ε → FilterMap}
  {queue after : ε} {descriptor : RawFd} {token : UInt64}

/-- A receipt without a reported failure has no error, or is a deletion that
may be missing. -/
theorem failure_none
    {receipt : Receipt} {ignore : Bool}
    (quiet : receipt.failure ignore = none) :
    receipt.error = none ∨
      receipt.error = some enoent ∧ receipt.action = .delete := by
  unfold Receipt.failure at quiet
  split at quiet
  · rename_i missing
    exact Or.inr ⟨missing.1, missing.2.2⟩
  · exact Or.inl quiet

/-- Receipts without a reported failure. -/
theorem receiptsOf_quiet
    {changes : List Change} {errors : List (Option Int32)}
    {ignore : Bool} (sized : errors.length = changes.length)
    (quiet : (receiptsOf changes errors).findSome?
      (Receipt.failure · ignore) = none) :
    List.Forall₂ (fun change error => error = none ∨
      error = some enoent ∧ change.action = Action.delete)
      changes errors := by
  induction changes generalizing errors with
  | nil =>
      rw [List.length_nil, List.length_eq_zero_iff] at sized
      rw [sized]
      exact List.Forall₂.nil
  | cons change rest inductionHypothesis =>
      cases errors with
      | nil => cases sized
      | cons error later =>
          simp only [receiptsOf, List.zipWith_cons_cons,
            List.findSome?_cons] at quiet
          split at quiet
          · cases quiet
          · rename_i first
            exact List.Forall₂.cons (failure_none first)
              (inductionHypothesis (Nat.succ.inj sized) quiet)

/-- A submission applies a subset of its changes, and success applied all of
them. -/
theorem submits
    (honest : executor.Honest filters) {changes : ChangeList}
    (resource : ∀ change ∈ changes.items, change.Resource)
    {ignore : Bool} {result : Except IoError Unit}
    (submitted :
      exact executor.apply queue changes ignore = (after, result)) :
    (filters queue).Partly changes.items (filters after) ∧
      (result = .ok () →
        filters after = (filters queue).applyAll changes.items) := by
  unfold exact at submitted
  rcases answered : executor.apply queue changes with ⟨next, answer⟩
  rw [answered] at submitted
  cases answer with
  | error source =>
      cases submitted
      exact ⟨honest.failed resource answered, fun impossible => by
        cases impossible⟩
  | ok receipts =>
      obtain ⟨errors, reports, reported⟩ :=
        honest.applied resource answered
      simp only at submitted
      split at submitted
      · rename_i quiet
        cases submitted
        rw [reported] at quiet
        exact ⟨reports.partly, fun _ =>
          reports.eq_applyAll (receiptsOf_quiet reports.length_eq quiet)⟩
      · cases submitted
        exact ⟨reports.partly, fun impossible => by cases impossible⟩

/-- A submission within one descriptor. -/
theorem submits_at
    (honest : executor.Honest filters) {changes : ChangeList}
    (within : Scoped descriptor token changes.items) {ignore : Bool}
    {result : Except IoError Unit}
    (submitted :
      exact executor.apply queue changes ignore = (after, result)) :
    Confined descriptor token (filters queue) (filters after) ∧
      (result = .ok () →
        filters after descriptor =
          changes.items.foldl Installed.apply
            (filters queue descriptor)) := by
  obtain ⟨partly, applied⟩ := honest.submits
    (fun change member => (within change member).2.2) submitted
  refine ⟨Confined.of_partly within partly, ?_⟩
  intro succeeded
  rw [applied succeeded, FilterMap.applyAll_at]
  exact fun change member => (within change member).1

/-- A registration from no filters: its status describes them. -/
theorem register
    (honest : executor.Honest filters) {interest : Interest}
    (nonempty : interest.isEmpty = false) {answer : Answer}
    (vacant : filters queue descriptor = Installed.empty)
    (asked :
      executor.registerDescriptor queue descriptor token interest =
        (after, answer)) :
    Confined descriptor token (filters queue) (filters after) ∧
      (answerCommit answer = .applied →
        filters after descriptor =
          Installed.exact interest token .armed) ∧
      (answerCommit answer = .notApplied →
        filters after descriptor = Installed.empty) := by
  have within := additions_scoped descriptor token interest
  unfold registerDescriptor at asked
  rcases registered : executor.applyRegistration queue descriptor token
      interest with ⟨next, result⟩
  rw [registered] at asked
  cases result with
  | ok done =>
      cases asked
      have applied := honest.registered nonempty registered
      have whole : (filters queue).Partly
          (additions descriptor token interest .addEnabled).items
          (filters after) := ⟨_, List.Sublist.refl _, applied⟩
      refine ⟨Confined.of_partly within whole, fun _ => ?_,
        fun impossible => by cases impossible⟩
      rw [applied, FilterMap.applyAll_at, vacant, additions_installed]
      exact fun change member => (within change member).1
  | error source =>
      have first := Confined.of_partly within
        (honest.unregistered nonempty registered)
      rcases cleaned : executor.cleanup next descriptor with
        ⟨last, restored⟩
      simp only [cleaned] at asked
      cases asked
      obtain ⟨second, removed⟩ :=
        honest.submits_at (cleanup_scoped descriptor token _) cleaned
      refine ⟨first.trans second, ?_, ?_⟩
      · intro impossible
        cases restored <;> cases impossible
      · intro rolled
        cases restored with
        | error _ => cases rolled
        | ok done => rw [removed rfl, cleanup_both]

/-- A modification from exact filters: its status describes them. -/
theorem modify
    (honest : executor.Honest filters)
    {previousInterest desiredInterest : Interest} {previousArm : ArmState}
    {answer : Answer}
    (previous : filters queue descriptor =
      Installed.exact previousInterest token previousArm)
    (asked :
      executor.modifyDescriptor queue descriptor token previousInterest
        previousArm desiredInterest = (after, answer)) :
    Confined descriptor token (filters queue) (filters after) ∧
      (answerCommit answer = .applied →
        filters after descriptor =
          Installed.exact desiredInterest token .armed) ∧
      (answerCommit answer = .notApplied →
        filters after descriptor = filters queue descriptor) := by
  unfold modifyDescriptor at asked
  rcases desired : exact executor.apply queue
      (replacement descriptor token desiredInterest .addEnabled) true with
    ⟨next, result⟩
  obtain ⟨first, installed⟩ :=
    honest.submits_at
      (replacement_scoped descriptor token desiredInterest .armed) desired
  simp only [desired] at asked
  cases result with
  | ok done =>
      cases asked
      refine ⟨first, fun _ => ?_, fun impossible => by cases impossible⟩
      rw [installed rfl]
      exact replacement_installed descriptor token desiredInterest .armed _
  | error source =>
      rcases prior : exact executor.apply next
          (replacement descriptor token previousInterest
            (restoreAction previousArm)) true with ⟨last, restored⟩
      simp only [prior] at asked
      cases asked
      obtain ⟨second, rolledBack⟩ :=
        honest.submits_at
          (replacement_scoped descriptor token previousInterest previousArm)
          prior
      refine ⟨first.trans second, ?_, ?_⟩
      · intro impossible
        cases restored <;> cases impossible
      · intro rolled
        cases restored with
        | error _ => cases rolled
        | ok done =>
            rw [rolledBack rfl, previous]
            exact replacement_installed descriptor token previousInterest
              previousArm _

/-- A deletion from exact filters, or from any filters of an uncertain
registration: success leaves none. -/
theorem delete
    (honest : executor.Honest filters) {interest : Interest}
    {state : RegistrationState} {answer : Answer}
    (held : ∀ arm, state = .registered arm →
      filters queue descriptor = Installed.exact interest token arm)
    (asked :
      executor.deleteDescriptor queue descriptor interest state =
        (after, answer)) :
    Confined descriptor token (filters queue) (filters after) ∧
      (answerCommit answer = .applied →
        filters after descriptor = Installed.empty) ∧
      answerCommit answer ≠ .notApplied := by
  unfold deleteDescriptor at asked
  have settles : ∀ {exactInterest cleaned},
      executor.cleanupInterests queue descriptor exactInterest =
        (after, cleaned) →
      (pushInterests ChangeList.new descriptor 0 exactInterest
          .delete).items.foldl Installed.apply
        (filters queue descriptor) = Installed.empty →
      answer = cleaned.mapError (fun source =>
        { commit := .unknown, source }) →
      Confined descriptor token (filters queue) (filters after) ∧
        (answerCommit answer = .applied →
          filters after descriptor = Installed.empty) ∧
        answerCommit answer ≠ .notApplied := by
    intro exactInterest cleaned submitted empties answered
    obtain ⟨confined, removed⟩ :=
      honest.submits_at (cleanup_scoped descriptor token _) submitted
    subst answered
    cases cleaned with
    | ok done =>
        refine ⟨confined, fun _ => ?_, by simp [answerCommit, Except.mapError]⟩
        rw [removed rfl, empties]
    | error source =>
        refine ⟨confined, ?_, by simp [answerCommit, Except.mapError]⟩
        intro impossible
        cases impossible
  cases state with
  | registered arm =>
      rcases submitted : executor.cleanupInterests queue descriptor
          interest with ⟨next, cleaned⟩
      simp only [submitted, Prod.mk.injEq] at asked
      obtain ⟨rfl, answered⟩ := asked
      refine settles submitted ?_ answered.symm
      rw [held arm rfl]
      exact cleanup_exact descriptor interest token arm
  | uncertain =>
      rcases submitted : executor.cleanupInterests queue descriptor
          (Interest.readable.union Interest.writable) with ⟨next, cleaned⟩
      simp only [submitted, Prod.mk.injEq] at asked
      obtain ⟨rfl, answered⟩ := asked
      exact settles submitted (cleanup_both descriptor _) answered.symm

end ChangeExecutor.Honest

end Zio
