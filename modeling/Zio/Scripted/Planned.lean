import Zio.Mutation.Accounting
import Zio.Scripted.Lockstep

/-!
# Calls that the script planned

When the next planned step is for the operation that a call makes, the call
consumes it, is recorded, and returns the planned outcome.  One lemma for each
call of a scripted poller says this together with what becomes of the table.
-/

namespace Zio

namespace ScriptedDriver

/-- A request consumed one planned step and was recorded. -/
structure Consumes
    (before after : ScriptedDriver) (rest : List MutationStep)
    (call : MutationCall) : Prop where
  steps : after.steps = rest
  calls : after.calls = before.calls ++ [call]
  fault : after.fault = before.fault

end ScriptedDriver

/-- A tracked entry passes the descriptor check. -/
theorem Lockstep.validate
    {table : RegistrationTable} {model : BackendModel}
    {id : RegistrationId} {entry : Entry}
    (lockstep : Lockstep table model)
    (present : table.lookup id = some entry) :
    model.validate id entry.descriptor.asFd.raw = .ok () := by
  have tracks := lockstep.tracks id
  rw [present] at tracks
  obtain ⟨held, found, retained, _⟩ := tracks.of_live
  have valid := BackendModel.validate_ok found
  rw [retained] at valid
  exact valid

/-! ## Poller authority -/

/-- The identity that a poller has or draws. -/
def PollOwner.identity (owner : PollOwner) (next : UInt64) : PollId :=
  owner.current.getD ⟨next⟩

namespace MutationSession

variable {σ : Type*}

end MutationSession

/-! ## Planned calls of a poller -/

namespace ScriptedPoll

/-- What a planned call on one live entry does. -/
structure Settled
    (before after : ScriptedPoll) (rest : List MutationStep)
    (call : MutationCall) (id : RegistrationId) (entry : Option Entry) :
    Prop where
  lockstep : Lockstep after.registrations after.driver.model
  limit : after.registrations.limit = before.registrations.limit
  moves :
    RegistrationTable.Moves before.registrations after.registrations
  used : after.registrations.used = before.registrations.used
  owner : after.owner = before.owner
  consumes : before.driver.Consumes after.driver rest call
  lookup : ∀ other, after.registrations.lookup other =
    if other = id then entry else before.registrations.lookup other

end ScriptedPoll

end Zio
