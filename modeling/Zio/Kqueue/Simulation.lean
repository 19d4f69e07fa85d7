import Zio.Kqueue.Settlement
import Zio.Kqueue.Specification

/-!
# The table and the kqueue

The registration table simulates the kernel's filters: a registered entry has
exactly the filters of its interest, enabled while it is armed; an uncertain
entry has any filters, all with its token; a descriptor without a live entry
has none.  Every mutation and every delivery keeps the simulation, whatever
fails on the way, as long as live entries have descriptors of their own.
-/

namespace Zio

open Transition

/-! ## Simulation -/

/-- The filters that an entry of the table stands for. -/
def Entry.Installs
    (entry : Entry) (id : RegistrationId) (installed : Installed) : Prop :=
  match entry.state with
  | .registered arm =>
      installed = Installed.exact entry.interest id.raw arm
  | .uncertain => installed.Carries id.raw

structure Simulates (table : RegistrationTable) (filters : FilterMap) :
    Prop where
  live : ∀ id entry, table.lookup id = some entry →
    entry.Installs id (filters entry.descriptor.asRawFd)
  vacant : ∀ descriptor,
    (∀ id entry, table.lookup id = some entry →
      entry.descriptor.asRawFd ≠ descriptor) →
    filters descriptor = Installed.empty
  own : ∀ first second firstEntry secondEntry,
    table.lookup first = some firstEntry →
    table.lookup second = some secondEntry →
    firstEntry.descriptor.asRawFd = secondEntry.descriptor.asRawFd →
      first = second

theorem Entry.Installs.carries
    {entry : Entry} {id : RegistrationId} {installed : Installed}
    (installs : entry.Installs id installed) :
    installed.Carries id.raw := by
  unfold Entry.Installs at installs
  split at installs
  · rw [installs]
    exact Installed.exact_carries _ _ _
  · exact installs

theorem Entry.Installs.exact
    {entry : Entry} {id : RegistrationId} {installed : Installed}
    {arm : ArmState} (installs : entry.Installs id installed)
    (held : entry.state = .registered arm) :
    installed = Installed.exact entry.interest id.raw arm := by
  unfold Entry.Installs at installs
  rw [held] at installs
  exact installs

/-- Settle one identity together with the filters of its descriptor. -/
theorem Simulates.settle
    {table after : RegistrationTable} {filters settled : FilterMap}
    (simulates : Simulates table filters) {id : RegistrationId}
    {descriptor : RawFd} {remaining : Option Entry}
    (written : ∀ other,
      after.lookup other =
        if other = id then remaining else table.lookup other)
    (elsewhere : ∀ other, other ≠ descriptor →
      settled other = filters other)
    (installed : ∀ entry, remaining = some entry →
      entry.descriptor.asRawFd = descriptor ∧
        entry.Installs id (settled descriptor))
    (removed : remaining = none → settled descriptor = Installed.empty)
    (sole : ∀ other found, table.lookup other = some found →
      found.descriptor.asRawFd = descriptor → other = id)
    (kept : ∀ found, table.lookup id = some found →
      found.descriptor.asRawFd = descriptor) :
    Simulates after settled := by
  have others : ∀ other found, after.lookup other = some found →
      (other = id ∧ found.descriptor.asRawFd = descriptor) ∨
        (other ≠ id ∧ table.lookup other = some found ∧
          found.descriptor.asRawFd ≠ descriptor) := by
    intro other found present
    rw [written] at present
    split at present
    · rename_i same
      exact Or.inl ⟨same, (installed found present).1⟩
    · rename_i different
      exact Or.inr ⟨different, present, fun same =>
        different (sole other found present same)⟩
  constructor
  · intro other found present
    rcases others other found present with
      ⟨rfl, own⟩ | ⟨_, before, apart⟩
    · rw [written, if_pos rfl] at present
      rw [own]
      exact (installed found present).2
    · rw [elsewhere _ apart]
      exact simulates.live other found before
  · intro place unowned
    by_cases same : place = descriptor
    · subst same
      cases remains : remaining with
      | none => exact removed remains
      | some entry =>
          have present : after.lookup id = some entry := by
            rw [written, if_pos rfl, remains]
          exact (unowned id entry present
            (installed entry remains).1).elim
    · rw [elsewhere place same]
      apply simulates.vacant
      intro other found present here
      by_cases mine : other = id
      · subst mine
        exact same (here.symm.trans (kept found present))
      · apply unowned other found ?_ here
        rw [written, if_neg mine]
        exact present
  · intro first second firstEntry secondEntry firstLive secondLive same
    rcases others first firstEntry firstLive with
      ⟨rfl, firstOwn⟩ | ⟨_, firstBefore, firstApart⟩
    · rcases others second secondEntry secondLive with
        ⟨rfl, _⟩ | ⟨_, _, secondApart⟩
      · rfl
      · exact (secondApart (same.symm.trans firstOwn)).elim
    · rcases others second secondEntry secondLive with
        ⟨rfl, secondOwn⟩ | ⟨_, secondBefore, _⟩
      · exact (firstApart (same.trans secondOwn)).elim
      · exact simulates.own _ _ _ _ firstBefore secondBefore same

/-! ## Calls -/

/-- No live entry has the descriptor that the call registers: a duplicate is
new, and a borrowed descriptor is promised to be. -/
def OwnDescriptor (table : RegistrationTable) (request : Call) : Prop :=
  ∀ intake source, request.intake = some intake →
    intake.duplicate = .ok source →
    ∀ id entry, table.lookup id = some entry →
      entry.descriptor.asRawFd ≠ source.raw

section Calls

variable {ε : Type*} {executor : ChangeExecutor ε}
  {filters : ε → FilterMap}

theorem Simulates.registered
    (truthful : executor.Truthful filters)
    {session : MutationSession ε} {lease : SlotLease}
    {registration : Registration} {descriptor : Descriptor} {key : Key}
    {interest : Interest} {mode : Mode}
    (wellFormed : lease.table.WellFormed)
    (simulates :
      Simulates session.registrations (filters session.driver))
    (nonempty : interest.isEmpty = false)
    (fresh : ∀ id entry, session.registrations.lookup id = some entry →
      entry.descriptor.asRawFd ≠ descriptor.asRawFd)
    (reserves :
      session.registrations.Reserves lease registration.id
        (Entry.registered descriptor key interest mode))
    {driver : ε} {answer : Answer}
    (asked :
      executor.driver.register session.driver
          { descriptor := descriptor.asFd
            registration := registration.id
            key, interest, mode } = (driver, answer)) :
    Simulates
      (lease.settle (registerSettlement (answerCommit answer))).1
      (filters driver) := by
  have vacant := simulates.vacant descriptor.asRawFd fresh
  obtain ⟨confined, applied, notApplied⟩ :=
    truthful.honest.register nonempty vacant asked
  have carries := confined.carries (by
    rw [vacant]
    exact Installed.empty_carries _)
  have written : ∀ other,
      (lease.settle (registerSettlement
          (answerCommit answer))).1.lookup other =
        if other = registration.id then
          (registerSettlement (answerCommit answer)).remaining
            (Entry.registered descriptor key interest mode)
        else session.registrations.lookup other := by
    intro other
    rw [wellFormed.settle_lookup reserves.holds, reserves.lookup]
    split <;> rfl
  refine simulates.settle written confined.elsewhere ?_ ?_ ?_ ?_
  · intro entry remains
    cases commit : answerCommit answer with
    | applied =>
        rw [commit] at remains
        cases remains
        exact ⟨rfl, applied commit⟩
    | notApplied =>
        rw [commit] at remains
        cases remains
    | unknown =>
        rw [commit] at remains
        cases remains
        exact ⟨rfl, carries⟩
  · intro retired
    cases commit : answerCommit answer with
    | applied | unknown =>
        rw [commit] at retired
        cases retired
    | notApplied => exact notApplied commit
  · intro other found present same
    exact (fresh other found present same).elim
  · intro found present
    rw [reserves.absent] at present
    cases present

theorem Simulates.modified
    (truthful : executor.Truthful filters)
    {session : MutationSession ε} {id : RegistrationId} {entry : Entry}
    {arm : ArmState} {interest : Interest} {mode : Mode}
    (simulates :
      Simulates session.registrations (filters session.driver))
    (present : session.registrations.lookup id = some entry)
    (held : entry.state = .registered arm)
    {driver : ε} {answer : Answer}
    (asked :
      executor.driver.modify session.driver
          { descriptor := entry.descriptor.asFd
            registration := id
            previousInterest := entry.interest
            previousMode := entry.mode
            previousArm := arm
            desiredInterest := interest
            desiredMode := mode } = (driver, answer)) :
    Simulates
      (session.registrations.modifySettled id interest mode
        (answerCommit answer))
      (filters driver) := by
  have installs := simulates.live id entry present
  obtain ⟨confined, applied, notApplied⟩ :=
    truthful.honest.modify (installs.exact held) asked
  have carries := confined.carries installs.carries
  refine simulates.settle
    (RegistrationTable.modifySettled_lookup present interest mode
      (answerCommit answer)) confined.elsewhere ?_ ?_ ?_ ?_
  · intro written remains
    cases commit : answerCommit answer with
    | applied =>
        rw [commit] at remains
        cases remains
        exact ⟨rfl, applied commit⟩
    | notApplied =>
        rw [commit] at remains
        cases remains
        refine ⟨rfl, ?_⟩
        rw [notApplied commit]
        exact installs
    | unknown =>
        rw [commit] at remains
        cases remains
        exact ⟨rfl, carries⟩
  · intro impossible
    cases impossible
  · intro other found live same
    exact simulates.own _ _ _ _ live present same
  · intro found live
    rw [present] at live
    cases live
    rfl

theorem Simulates.deleted
    (truthful : executor.Truthful filters)
    {session : MutationSession ε} {lease : SlotLease}
    {id : RegistrationId} {entry : Entry}
    (wellFormed : lease.table.WellFormed)
    (simulates : Simulates lease.table (filters session.driver))
    (holds : lease.Holds id entry)
    {driver : ε} {answer : Answer}
    (asked :
      executor.driver.delete session.driver
          { descriptor := entry.descriptor.asFd
            registration := id
            interest := entry.interest
            state := entry.state } = (driver, answer)) :
    Simulates (lease.settle (deleteSettlement (answerCommit answer))).1
      (filters driver) := by
  have present := holds.located.lookup
  have installs := simulates.live id entry present
  have recorded : ∀ arm, entry.state = .registered arm →
      filters session.driver entry.descriptor.asRawFd =
        Installed.exact entry.interest id.raw arm :=
    fun arm held => installs.exact held
  obtain ⟨confined, applied, notRefused⟩ :=
    truthful.honest.delete recorded asked
  have carries := confined.carries installs.carries
  refine simulates.settle (wellFormed.settle_lookup holds _)
    confined.elsewhere ?_ ?_ ?_ ?_
  · intro written remains
    cases commit : answerCommit answer with
    | applied =>
        rw [commit] at remains
        cases remains
    | notApplied => exact (notRefused commit).elim
    | unknown =>
        rw [commit] at remains
        cases remains
        exact ⟨rfl, carries⟩
  · intro retired
    cases commit : answerCommit answer with
    | applied => exact applied commit
    | notApplied | unknown =>
        rw [commit] at retired
        cases retired
  · intro other found live same
    exact simulates.own _ _ _ _ live present same
  · intro found live
    rw [present] at live
    cases live
    rfl

/-- Every call on a descriptor of its own keeps the simulation. -/
theorem Simulates.effect
    (truthful : executor.Truthful filters)
    {session : MutationSession ε} {request : Call}
    {result : MutationSession ε × Reply}
    (wellFormed : session.registrations.WellFormed)
    (simulates :
      Simulates session.registrations (filters session.driver))
    (own : OwnDescriptor session.registrations request)
    (effect :
      MutationSession.Effect executor.driver session request result) :
    Simulates result.1.registrations (filters result.1.driver) := by
  cases effect with
  | registering intake nonempty duplicate registers =>
      cases registers with
      | full _ => exact simulates
      | unowned _ _ _ _ => exact simulates
      | answered _ _ _ _ _ _ _ _ reserves moves _ asked =>
          exact simulates.registered truthful (wellFormed.moves moves)
            nonempty (own _ _ intake duplicate) reserves asked
  | modified _ present held asked =>
      exact simulates.modified truthful present held asked
  | deleted _ same holds asked =>
      rw [← same] at wellFormed simulates
      exact simulates.deleted truthful wellFormed holds asked
  | invalidInterest _ _ => exact simulates
  | duplicationFailed _ _ _ => exact simulates
  | modifyRefused _ => exact simulates
  | deleteRefused _ => exact simulates
  | queried => exact simulates

end Calls

/-! ## Observations -/

/-- A record that a wait may return: the wake record, or the record of an
enabled filter. -/
def FilterMap.Observes
    (target : KqueueTarget) (filters : FilterMap) (record : Kevent) :
    Prop :=
  (record.ident = 0 ∧ record.filter = target.evfiltUser ∧
      record.udata = 0) ∨
    ∃ descriptor filter installed,
      rawFdOfIdent record.ident = some descriptor ∧
        record.filter = encodeFilter target filter ∧
        (filters descriptor).get filter = some installed ∧
        installed.enabled = true ∧ record.udata = installed.token

theorem FilterMap.Observes.fits
    {target : KqueueTarget} {filters : FilterMap} {record : Kevent}
    (observed : filters.Observes target record) :
    rawFdOfIdent record.ident ≠ none := by
  rcases observed with ⟨ident, _, _⟩ | ⟨descriptor, _, _, ident, _⟩
  · rw [ident]
    decide
  · rw [ident]
    exact nofun

/-- No observed record names a disarmed registration. -/
theorem Simulates.quiet
    {target : KqueueTarget} {table : RegistrationTable}
    {filters : FilterMap} (simulates : Simulates table filters)
    {record : Kevent} (observed : filters.Observes target record)
    {entry : Entry} (present : table.lookup ⟨record.udata⟩ = some entry) :
    entry.state ≠ .registered .disarmed := by
  intro disarmed
  rcases observed with ⟨_, _, reserved⟩ |
    ⟨descriptor, filter, installed, _, _, held, enabled, token⟩
  · exact RegistrationTable.lookup_nonzero present reserved
  · by_cases owned : ∃ id live, table.lookup id = some live ∧
        live.descriptor.asRawFd = descriptor
    · obtain ⟨id, live, found, rfl⟩ := owned
      have installs := simulates.live id live found
      have raw : record.udata = id.raw :=
        token.trans (installs.carries filter installed held)
      have same : (⟨record.udata⟩ : RegistrationId) = id := by rw [raw]
      rw [same, found] at present
      cases present
      rw [installs.exact disarmed] at held
      rw [Installed.exact_get held] at enabled
      cases enabled
    · have absent := simulates.vacant descriptor
        fun id live found same => owned ⟨id, live, found, same⟩
      rw [absent] at held
      cases filter <;> cases held

/-! ## Deliveries -/

/-- A plan belongs to a delivered one-shot registration. -/
theorem mem_plansOf
    {table : RegistrationTable} {batch : List PendingResource}
    {plan : Plan} (member : plan ∈ plansOf table batch) :
    ∃ entry, table.lookup plan.registration = some entry ∧
      plan.descriptor = entry.descriptor.asRawFd ∧
      plan.interest = entry.interest := by
  obtain ⟨pending, _, planned⟩ := List.mem_filterMap.mp member
  unfold planOf at planned
  split at planned
  · cases planned
  · rename_i entry present
    split at planned
    · cases planned
      exact ⟨entry, present, rfl, rfl⟩
    · cases planned

theorem length_flatMap_changes (plans : List Plan) :
    (plans.flatMap Plan.changes).length = changeTotal plans := by
  rw [List.length_flatMap, changeTotal]
  congr 1
  exact List.map_congr_left fun plan _ => plan.length_changes

/-- Plans of different registrations have different descriptors. -/
theorem Simulates.plans_distinct
    {table : RegistrationTable} {filters : FilterMap}
    (simulates : Simulates table filters) {batch : List PendingResource}
    (distinct : (batch.map PendingResource.registration).Nodup) :
    ((plansOf table batch).map Plan.descriptor).Nodup := by
  have registrations :
      ((plansOf table batch).map Plan.registration).Nodup := by
    rw [plansOf_registrations]
    exact oneShots_nodup distinct
  refine (List.Nodup.of_map _ registrations).map_on ?_
  intro first inPlans second inPlansToo same
  obtain ⟨firstEntry, firstLive, firstOwn, _⟩ := mem_plansOf inPlans
  obtain ⟨secondEntry, secondLive, secondOwn, _⟩ := mem_plansOf inPlansToo
  rw [firstOwn, secondOwn] at same
  have shared := simulates.own _ _ _ _ firstLive secondLive same
  exact List.inj_on_of_nodup_map registrations inPlans inPlansToo shared

theorem exists_plan
    {relation : Plan → CommitStatus → Prop} {plans : List Plan}
    {commits : List CommitStatus}
    (related : List.Forall₂ relation plans commits)
    {id : RegistrationId} {commit : CommitStatus}
    (member : (id, commit) ∈ (plans.map Plan.registration).zip commits) :
    ∃ plan ∈ plans, plan.registration = id ∧ relation plan commit := by
  induction related with
  | nil => cases member
  | @cons plan status plans commits first _ inductionHypothesis =>
      rw [List.map_cons, List.zip_cons_cons] at member
      rcases List.mem_cons.mp member with same | later
      · cases same
        exact ⟨plan, List.mem_cons_self .., rfl, first⟩
      · obtain ⟨found, inRest, named, holds⟩ := inductionHypothesis later
        exact ⟨found, List.mem_cons_of_mem _ inRest, named, holds⟩

/-- The filters of a settled plan are those of its disarmed entry. -/
theorem Plan.Settles.installs
    {plan : Plan} {entry : Entry} {before after : Installed}
    {commit : CommitStatus} (settles : plan.Settles before after commit)
    (armed : entry.state = .registered .armed)
    (interest : plan.interest = entry.interest)
    (installs : entry.Installs plan.registration before) :
    (RegistrationTable.disarmedEntry commit entry).Installs
      plan.registration after := by
  cases commit with
  | applied =>
      have disarmed := plan.changes_exact plan.registration.raw
      rw [interest] at disarmed
      have recorded := installs.exact armed
      rw [show after = _ from settles, recorded]
      exact disarmed
  | notApplied =>
      rw [show after = before from settles]
      exact installs
  | unknown => exact settles _ installs.carries

section Deliveries

variable {σ : Type*} {target : KqueueTarget}

/-- A delivery disarms in the table what it disarmed in the kernel. -/
theorem Simulates.delivered
    {kernel : KqueueKernel target σ} {poll : KqueuePoll σ}
    {batch : List PendingResource} {disarms : DisarmBatch} {backend : σ}
    {raw : KeventBatch} {result : Except IoError Unit}
    (simulates :
      Simulates poll.registrations (kernel.filters poll.backend))
    (room : poll.rawEvents.raw.arena.changeCapacity ≤
      poll.rawEvents.raw.arena.storage.length)
    (distinct : (batch.map PendingResource.registration).Nodup)
    (ready : ∀ entry ∈ batch, Ready poll.registrations entry)
    (submission :
      (planned poll batch).submit
          (nativeDisarmExecutor target kernel.kevent).toDisarmExecutor
          (poll.backend, poll.rawEvents.raw) =
        (disarms, (backend, raw), result)) :
    Simulates
      (poll.registrations.applyDisarms
        (provenDisarms
          (nativeDisarmExecutor target kernel.kevent).toDisarmExecutor
          poll batch))
      (kernel.filters backend) := by
  obtain ⟨settles, elsewhere⟩ := kernel.submit_settles room
    (length_flatMap_changes _).symm (simulates.plans_distinct distinct)
    submission
  let executor :=
    (nativeDisarmExecutor target kernel.kevent).toDisarmExecutor
  let after :=
    poll.registrations.applyDisarms (provenDisarms executor poll batch)
  have quiet : ∀ id, id ∉ oneShots poll.registrations batch →
      after.lookup id = poll.registrations.lookup id := by
    intro id outside
    apply RegistrationTable.applyDisarms_other
    rw [provenDisarms_registrations]
    exact outside
  have disarmed : ∀ id ∈ oneShots poll.registrations batch,
      ∃ entry written,
        poll.registrations.lookup id = some entry ∧
          after.lookup id = some written ∧
          written.descriptor = entry.descriptor ∧
          written.Installs id
            (kernel.filters backend entry.descriptor.asRawFd) := by
    intro id member
    obtain ⟨entry, present, disarmable⟩ := oneShots_disarmable ready member
    obtain ⟨commit, inDisarms, written⟩ :=
      provenDisarms_settled executor distinct member present disarmable
    unfold provenDisarms at inDisarms
    rw [← plansOf_registrations] at inDisarms
    obtain ⟨plan, inPlans, rfl, settled⟩ := exists_plan settles inDisarms
    obtain ⟨found, live, own, interest⟩ := mem_plansOf inPlans
    rw [present] at live
    cases live
    rw [own] at settled
    exact ⟨entry, _, present, written, rfl,
      settled.installs disarmable.2 interest
        (simulates.live _ entry present)⟩
  have back : ∀ {id written}, after.lookup id = some written →
      ∃ entry, poll.registrations.lookup id = some entry ∧
        written.descriptor = entry.descriptor := by
    intro id written present
    by_cases member : id ∈ oneShots poll.registrations batch
    · obtain ⟨entry, found, before, now, same, _⟩ := disarmed id member
      rw [present] at now
      cases now
      exact ⟨entry, before, same⟩
    · rw [quiet id member] at present
      exact ⟨written, present, rfl⟩
  have untouched : ∀ {id entry},
      poll.registrations.lookup id = some entry →
      id ∉ oneShots poll.registrations batch →
      kernel.filters backend entry.descriptor.asRawFd =
        kernel.filters poll.backend entry.descriptor.asRawFd := by
    intro id entry present outside
    apply elsewhere
    intro member
    obtain ⟨plan, inPlans, same⟩ := List.mem_map.mp member
    obtain ⟨found, live, own, _⟩ := mem_plansOf inPlans
    rw [own] at same
    apply outside
    rw [← simulates.own _ _ _ _ live present same,
      ← plansOf_registrations]
    exact List.mem_map.mpr ⟨plan, inPlans, rfl⟩
  constructor
  · intro id written present
    by_cases member : id ∈ oneShots poll.registrations batch
    · obtain ⟨entry, found, _, now, same, installs⟩ := disarmed id member
      rw [show after.lookup id = some written from present] at now
      cases now
      rw [show written.descriptor.asRawFd = entry.descriptor.asRawFd from
        congrArg Descriptor.asRawFd same]
      exact installs
    · have before := (quiet id member).symm.trans present
      rw [untouched before member]
      exact simulates.live id written before
  · intro descriptor unowned
    have before : ∀ id entry, poll.registrations.lookup id = some entry →
        entry.descriptor.asRawFd ≠ descriptor := by
      intro id entry present here
      by_cases member : id ∈ oneShots poll.registrations batch
      · obtain ⟨found, written, live, now, same, _⟩ := disarmed id member
        rw [present] at live
        cases live
        exact unowned id written now
          ((congrArg Descriptor.asRawFd same).trans here)
      · exact unowned id entry ((quiet id member).trans present) here
    rw [elsewhere]
    · exact simulates.vacant descriptor before
    · intro member
      obtain ⟨plan, inPlans, same⟩ := List.mem_map.mp member
      obtain ⟨found, live, own, _⟩ := mem_plansOf inPlans
      exact before _ found live (own.symm.trans same)
  · intro first second firstWritten secondWritten firstLive secondLive same
    obtain ⟨firstEntry, firstBefore, firstSame⟩ := back firstLive
    obtain ⟨secondEntry, secondBefore, secondSame⟩ := back secondLive
    rw [firstSame, secondSame] at same
    exact simulates.own _ _ _ _ firstBefore secondBefore same

end Deliveries

/-! ## Runs -/

section Runs

variable {σ : Type*} {target : KqueueTarget}

/-- A poller whose table simulates its kqueue, with room to stage disarms. -/
structure KqueueKernel.Coupled
    (kernel : KqueueKernel target σ) (poll : KqueuePoll σ) : Prop where
  sound : poll.Sound
  simulates : Simulates poll.registrations (kernel.filters poll.backend)
  room : poll.rawEvents.raw.arena.changeCapacity ≤
    poll.rawEvents.raw.arena.storage.length

/-- One step of a poller together with its kqueue.  Elsewhere the kqueue may
change in any way that keeps its filters, as a wake does. -/
inductive KqueueStep (kernel : KqueueKernel target σ) :
    KqueuePoll σ → PollLabel → KqueuePoll σ → Prop
  | called {before : KqueuePoll σ} (request : Call) :
      OwnDescriptor before.registrations request →
      KqueueStep kernel before
        (.called request
          (before.call (Kqueue.executor target kernel.kevent).driver
            request).2)
        (before.call (Kqueue.executor target kernel.kevent).driver
          request).1
  | configured {before : KqueuePoll σ} (key : Key) :
      KqueueStep kernel before (.configured key (before.waker key).2)
        (before.waker key).1
  | elsewhere {before : KqueuePoll σ} {backend : σ} (nextPollId : UInt64) :
      kernel.filters backend = kernel.filters before.backend →
      KqueueStep kernel before (.elsewhere nextPollId)
        { before with nextPollId, backend }
  | waited {before after : KqueuePoll σ}
      {answer : Except IoError (List Kevent)} {events filled : Events}
      {result : Except Error WaitReport} :
      (∀ records, answer = .ok records → ∀ record ∈ records,
        (kernel.filters before.backend).Observes target record) →
      KqueuePoll.wait target
          (nativeDisarmExecutor target kernel.kevent).toDisarmExecutor
          answer before events = (after, filled, result) →
      KqueueStep kernel before (.waited filled.deliveries result) after

namespace KqueueKernel.Coupled

variable {kernel : KqueueKernel target σ}

theorem room_of_sizes
    {first second : KqueueArena} (same : first.sizes = second.sizes)
    (room : second.changeCapacity ≤ second.storage.length) :
    first.changeCapacity ≤ first.storage.length := by
  simp only [KqueueArena.sizes, Prod.mk.injEq] at same
  rw [same.1, same.2.2]
  exact room

/-- Every wait that observes enabled filters keeps the coupling. -/
theorem wait
    {poll after : KqueuePoll σ} (coupled : kernel.Coupled poll)
    {answer : Except IoError (List Kevent)} {events filled : Events}
    {result : Except Error WaitReport}
    (observes : ∀ records, answer = .ok records → ∀ record ∈ records,
      (kernel.filters poll.backend).Observes target record)
    (performed :
      KqueuePoll.wait target
          (nativeDisarmExecutor target kernel.kevent).toDisarmExecutor
          answer poll events = (after, filled, result)) :
    kernel.Coupled after := by
  have waits : KqueuePoll.Waits target poll filled.deliveries result
      after :=
    ⟨nativeDisarmExecutor target kernel.kevent, answer, events, filled,
      performed, rfl⟩
  have sound := (waits.settles coupled.sound).1
  have waited := coupled.sound.wait target
    (nativeDisarmExecutor target kernel.kevent).toDisarmExecutor answer
    events
  rw [performed] at waited
  cases waited with
  | small _ => exact coupled
  | @failed raw source _ native =>
      have sizes := poll.rawEvents.raw.wait_sizes answer
      rw [native] at sizes
      exact ⟨sound, coupled.simulates, room_of_sizes sizes coupled.room⟩
  | @translated raw observed middle written _ large native translates =>
      have sizes := poll.rawEvents.raw.wait_sizes answer
      rw [native] at sizes
      have room := room_of_sizes sizes coupled.room
      cases answer with
      | error source => cases native
      | ok records =>
          have observed := observes records rfl
          obtain ⟨report, succeeded⟩ := translates.succeeds
            coupled.sound.arena native
            (fun record member => (observed record member).fits)
            (fun record member entry present =>
              coupled.simulates.quiet (observed record member) present)
          have waitedSound := coupled.sound.nativeWait (.ok records) events
          simp only [KqueuePoll.nativeWait, native] at waitedSound
          have frames := translates.frames waitedSound
          cases translates with
          | undecoded _ _ _ _ => cases succeeded
          | blocked _ _ _ _ => cases succeeded
          | delivered collected _ ready submission _ _ =>
              refine ⟨sound, ?_, room_of_sizes frames.arena room⟩
              have simulates :
                  Simulates poll.registrations
                    (kernel.filters poll.backend) := coupled.simulates
              exact Simulates.delivered simulates room
                collected.facts.2 ready submission

/-- A new poller is coupled to a kqueue without filters. -/
theorem initial
    {nextPollId : UInt64} {events registrations : Nat} {backend : σ}
    {arenaAllocated plansAllocated tableAllocated entriesAllocated
      slotsAllocated : Bool} {poll : KqueuePoll σ}
    (created : KqueuePoll.withCapacity target nextPollId events
      registrations (.ok backend) arenaAllocated plansAllocated
      tableAllocated entriesAllocated slotsAllocated = .ok poll)
    (vacant : ∀ descriptor,
      kernel.filters backend descriptor = Installed.empty) :
    kernel.Coupled poll := by
  obtain ⟨limit, batchCreated, tableCreated, sameBackend, _⟩ :=
    KqueuePoll.withCapacity_parts created
  obtain ⟨_, _, _, room⟩ := KqueueBatch.new_sized batchCreated
  cases sameBackend
  have absent := RegistrationTable.new_lookup tableCreated
  refine ⟨KqueuePoll.withCapacity_sound created, ?_, by omega⟩
  constructor
  · intro id entry present
    rw [absent] at present
    cases present
  · exact fun descriptor _ => vacant descriptor
  · intro first second _ _ present
    rw [absent] at present
    cases present

/-- Every step keeps the coupling. -/
theorem step
    {before after : KqueuePoll σ} {label : PollLabel}
    (coupled : kernel.Coupled before)
    (step : KqueueStep kernel before label after) :
    kernel.Coupled after := by
  cases step with
  | called request own =>
      have effect := MutationSession.call_effect
        (Kqueue.executor target kernel.kevent).driver before.mutations
        coupled.sound.wellFormed request
      have performed : Poll.Step (KqueuePoll.Waits target) before _ _ :=
        .called (Kqueue.executor target kernel.kevent).driver request
      exact
        { sound := coupled.sound.step performed
          simulates := Simulates.effect kernel.truthful
            coupled.sound.wellFormed coupled.simulates own effect
          room := coupled.room }
  | configured key =>
      unfold Poll.waker
      split
      · exact { coupled with sound := { coupled.sound with } }
      · split <;> exact coupled
  | elsewhere nextPollId kept =>
      refine ⟨{ coupled.sound with }, ?_, coupled.room⟩
      rw [kept]
      exact coupled.simulates
  | waited observes performed => exact coupled.wait observes performed

end KqueueKernel.Coupled

/-- The table and kqueue stay in simulation over every run, whatever fails:
a registered entry has exactly the filters of its interest with its token,
enabled while it is armed; a descriptor without a live entry has none; and an
uncertain entry has no foreign token. -/
theorem kqueue_simulation
    (kernel : KqueueKernel target σ) {nextPollId : UInt64}
    {events registrations : Nat} {backend : σ}
    {arenaAllocated plansAllocated tableAllocated entriesAllocated
      slotsAllocated : Bool} {start finish : KqueuePoll σ}
    {labels : List PollLabel}
    (created : KqueuePoll.withCapacity target nextPollId events
      registrations (.ok backend) arenaAllocated plansAllocated
      tableAllocated entriesAllocated slotsAllocated = .ok start)
    (vacant : ∀ descriptor,
      kernel.filters backend descriptor = Installed.empty)
    (run : Execution (KqueueStep kernel) start labels finish) :
    (∀ id entry arm, finish.registrations.lookup id = some entry →
      entry.state = .registered arm →
        kernel.filters finish.backend entry.descriptor.asRawFd =
          Installed.exact entry.interest id.raw arm) ∧
      (∀ descriptor,
        (∀ id entry, finish.registrations.lookup id = some entry →
          entry.descriptor.asRawFd ≠ descriptor) →
        kernel.filters finish.backend descriptor = Installed.empty) ∧
      ∀ id entry, finish.registrations.lookup id = some entry →
        (kernel.filters finish.backend
          entry.descriptor.asRawFd).Carries id.raw := by
  have coupled : kernel.Coupled finish :=
    run.invariant kernel.Coupled
      (fun _ _ _ coupled step => coupled.step step)
      (KqueueKernel.Coupled.initial created vacant)
  refine ⟨?_, coupled.simulates.vacant, ?_⟩
  · intro id entry arm present held
    exact (coupled.simulates.live id entry present).exact held
  · intro id entry present
    exact (coupled.simulates.live id entry present).carries

end Runs

/-! ### A kernel that never fails -/

/-- The action that the flags of a native change request. -/
def requestedAction (flags : UInt64) : Action :=
  if hasFlag flags evDelete then .delete
  else if hasFlag flags evAdd then
    if hasFlag flags evDisable then .addDisabled else .addEnabled
  else .disable

def FilterMap.applyNative
    (target : KqueueTarget) (filters : FilterMap) (event : Kevent) :
    FilterMap :=
  match rawFdOfIdent event.ident with
  | none => filters
  | some ident =>
      filters.apply
        { ident
          filter := decodeFilter target event.filter
          action := requestedAction event.flags
          token := event.udata }

theorem FilterMap.applyNative_encoded
    (filters : FilterMap) {change : Change} {event : Kevent}
    {receipt : Bool} (resource : change.Resource)
    (encoded :
      encodeChangeWithReceipt .macos change receipt = .ok event) :
    filters.applyNative .macos event = filters.apply change := by
  unfold encodeChangeWithReceipt at encoded
  split at encoded
  · cases encoded
  · rename_i nonnegative
    cases encoded
    rcases change with ⟨ident, filter, action, token⟩
    simp only [applyNative, rawFdOfIdent_encoded nonnegative]
    obtain ⟨filters, notUser, notTrigger⟩ := resource
    rcases filters with rfl | rfl <;> cases action <;> cases receipt <;>
      first
        | rfl
        | exact (notUser rfl).elim
        | exact (notTrigger rfl).elim

theorem FilterMap.foldl_applyNative
    {changes : List Change} {input : List Kevent} {receipt : Bool}
    (resource : ∀ change ∈ changes, change.Resource)
    (encoded :
      List.Forall₂
        (fun change event =>
          encodeChangeWithReceipt .macos change receipt = .ok event)
        changes input)
    (filters : FilterMap) :
    input.foldl (applyNative .macos) filters =
      filters.applyAll changes := by
  induction encoded generalizing filters with
  | nil => rfl
  | cons first _ inductionHypothesis =>
      rw [List.foldl_cons, applyNative_encoded filters
        (resource _ (List.mem_cons_self ..)) first]
      exact inductionHypothesis
        (fun change member => resource change
          (List.mem_cons_of_mem _ member)) _

/-- The kernel whose state is its filters and whose changes all apply. -/
def mapQueue : KqueueKernel .macos FilterMap where
  filters := id
  kevent := fun filters input outputs =>
    (input.foldl (FilterMap.applyNative .macos) filters,
      .ok ((input.map fun event =>
        { event with flags := evError, data := 0 }).take outputs))
  failed := by
    intro queue after changes input outputs source receipt _ _ called
    cases called
  answered := by
    intro queue after changes input records resource encoded called
    cases called
    refine ⟨changes.map fun _ => none, ?_, ?_⟩
    · rw [id, id, FilterMap.foldl_applyNative resource
        (mapM_forall₂ encoded)]
      exact FilterMap.attempts_applyAll queue changes
    · intro index event record error _ written held _ _ _
      obtain ⟨_, _, rfl⟩ := List.mem_map.mp (List.mem_of_getElem? held)
      obtain ⟨_, _, rfl⟩ := List.mem_map.mp
        (List.mem_of_mem_take (List.mem_of_getElem? written))
      rfl
  unanswered := by
    intro queue after changes input records resource encoded called
    cases called
    have all := FilterMap.foldl_applyNative resource
      (mapM_forall₂ encoded) queue
    exact ⟨fun _ => all, changes, List.Sublist.refl _, all⟩

/-- A new poller over a kqueue without filters. -/
def queuePoll : KqueuePoll FilterMap :=
  { firstKqueue with backend := fun _ => Installed.empty }

/-- That poller with one readable one-shot registration. -/
def queueRegistered : KqueuePoll FilterMap :=
  (queuePoll.call (Kqueue.executor .macos mapQueue.kevent).driver
    (.register (.ok firstDescriptor) ⟨7⟩ Interest.readable .oneShot)).1

/-- What a wait that reports this registration leaves. -/
def queueWaited : Poll.Observed FilterMap KqueueBatch KqueuePending :=
  KqueuePoll.wait .macos
    (nativeDisarmExecutor .macos mapQueue.kevent).toDisarmExecutor
    (.ok [firstReadable]) queueRegistered firstEvents

theorem queueRegistered_simulates :
    queueRegistered.backend 3 =
        Installed.exact Interest.readable 0x100000001 .armed ∧
      queueWaited.1.backend 3 =
        Installed.exact Interest.readable 0x100000001 .disarmed := by
  have created :
      KqueuePoll.withCapacity .macos 1 2 2 (.ok fun _ => Installed.empty)
        true true true true true = .ok queuePoll := rfl
  obtain ⟨_, _, tableCreated, _, _⟩ :=
    KqueuePoll.withCapacity_parts created
  have own : OwnDescriptor queuePoll.registrations
      (.register (.ok firstDescriptor) ⟨7⟩ Interest.readable .oneShot) := by
    intro intake source _ _ id entry present
    rw [RegistrationTable.new_lookup tableCreated] at present
    cases present
  have registers : KqueueStep mapQueue queuePoll _ queueRegistered :=
    .called _ own
  have observes : ∀ records : List Kevent,
      (.ok [firstReadable] : Except IoError (List Kevent)) =
        .ok records →
      ∀ record ∈ records,
        (mapQueue.filters queueRegistered.backend).Observes .macos
          record := by
    intro records same record member
    cases same
    rw [List.mem_singleton.mp member]
    exact Or.inr ⟨3, .read, ⟨0x100000001, true⟩, rfl, rfl, rfl, rfl, rfl⟩
  have performed :
      KqueuePoll.wait .macos
          (nativeDisarmExecutor .macos mapQueue.kevent).toDisarmExecutor
          (.ok [firstReadable]) queueRegistered firstEvents =
        (queueWaited.1, queueWaited.2.1, queueWaited.2.2) := rfl
  constructor
  · exact (kqueue_simulation mapQueue created (fun _ => rfl)
      (.cons registers (.refl queueRegistered))).1
      ⟨0x100000001⟩
      (Entry.registered (Descriptor.owned firstDescriptor) ⟨7⟩
        Interest.readable .oneShot) .armed rfl rfl
  · exact (kqueue_simulation mapQueue created (fun _ => rfl)
      (.cons registers (.cons (.waited observes performed)
        (.refl queueWaited.1)))).1
      ⟨0x100000001⟩
      (RegistrationTable.disarmedEntry .applied
        (Entry.registered (Descriptor.owned firstDescriptor) ⟨7⟩
          Interest.readable .oneShot)) .disarmed rfl rfl

end Zio
