import Zio.Linux.Run

/-!
# Epoll items and the table

Epoll is a map from descriptors to items.  Its control calls apply completely
or fail without effect, and its wait disables every one-shot item that it
returns.  Over any such kernel the table and the items stay in simulation: the
items are exactly those of the live entries.  Waits are then exact and never
meet a broken invariant.
-/

namespace Zio

open Transition

/-! ## The kernel -/

/-- One item of an epoll instance. -/
structure EpollItem where
  token : UInt64
  flags : UInt32
  enabled : Bool
deriving DecidableEq, Repr

/-- The item after it was returned by a wait. -/
def EpollItem.delivered (item : EpollItem) : EpollItem :=
  if item.flags &&& epollOneShot != 0 then { item with enabled := false }
  else item

/-- The items of the registered descriptors. -/
abbrev EpollItems := RawFd → Option EpollItem

/-- A control call sets the item of one descriptor or has no effect. -/
def EpollItems.Sets
    (before after : EpollItems) (descriptor : RawFd)
    (item : Option EpollItem) (result : Except IoError Unit) : Prop :=
  match result with
  | .ok () => after = Function.update before descriptor item
  | .error _ => after = before

/-- An epoll instance: any state with control calls that obey the map. -/
structure EpollKernel (σ : Type*) where
  items : σ → EpollItems
  add : σ → Fd → UInt64 → UInt32 → σ × Except IoError Unit
  modify : σ → Fd → UInt64 → UInt32 → σ × Except IoError Unit
  delete : σ → Fd → σ × Except IoError Unit
  add_sets : ∀ state source token flags,
    (items state).Sets (items (add state source token flags).1) source.raw
      (some { token, flags, enabled := true })
      (add state source token flags).2
  add_absent : ∀ state source token flags,
    (add state source token flags).2 = .ok () →
      items state source.raw = none
  modify_sets : ∀ state source token flags,
    (items state).Sets (items (modify state source token flags).1)
      source.raw (some { token, flags, enabled := true })
      (modify state source token flags).2
  delete_sets : ∀ state source,
    (items state).Sets (items (delete state source).1) source.raw none
      (delete state source).2

/-- What a wait returns: at most `maxEvents` records, each for the wake source
or for a distinct enabled descriptor.  `sources` names the descriptor of each
record, and is absent for the wake source. -/
structure EpollItems.Returns
    (before after : EpollItems) (maxEvents : Nat)
    (records : List EpollEvent) (sources : List (Option RawFd)) :
    Prop where
  bounded : records.length ≤ maxEvents
  reported :
    List.Forall₂
      (fun record source =>
        match source with
        | none => record.token = 0
        | some descriptor =>
            ∃ item, before descriptor = some item ∧
              item.enabled = true ∧ record.token = item.token)
      records sources
  distinct : (sources.filterMap id).Nodup
  delivered : ∀ descriptor,
    after descriptor =
      if some descriptor ∈ sources then
        (before descriptor).map EpollItem.delivered
      else
        before descriptor

/-! ## The driver -/

def notApplied (result : Except IoError Unit) : Answer :=
  result.mapError fun source => { commit := .notApplied, source }

/-- `Backend` as a mutation driver on Linux. -/
def linuxDriver {σ : Type*} (kernel : EpollKernel σ) : MutationDriver σ where
  register := fun state request =>
    let (state, result) :=
      kernel.add state request.descriptor request.registration.raw
        (epollFlags request.interest request.mode)
    (state, notApplied result)
  modify := fun state request =>
    let (state, result) :=
      kernel.modify state request.descriptor request.registration.raw
        (epollFlags request.desiredInterest request.desiredMode)
    (state, notApplied result)
  delete := fun state request =>
    let (state, result) := kernel.delete state request.descriptor
    (state, notApplied result)

/-! ## Simulation -/

/-- The item of a registered entry. -/
def Entry.item (entry : Entry) (id : RegistrationId) (arm : ArmState) :
    EpollItem :=
  { token := id.raw
    flags := epollFlags entry.interest entry.mode
    enabled := arm == .armed }

/-- The items are exactly those of the live entries, and no entry is
uncertain. -/
structure Mirrors (table : RegistrationTable) (items : EpollItems) :
    Prop where
  live : ∀ id entry, table.lookup id = some entry →
    ∃ arm, entry.state = .registered arm ∧
      items entry.descriptor.asRawFd = some (entry.item id arm)
  owned : ∀ descriptor item, items descriptor = some item →
    ∃ id entry, table.lookup id = some entry ∧
      entry.descriptor.asRawFd = descriptor

namespace Mirrors

variable {table after : RegistrationTable} {items : EpollItems}

/-- Live entries have descriptors of their own. -/
theorem unique
    (mirrors : Mirrors table items)
    {first second : RegistrationId} {firstEntry secondEntry : Entry}
    (firstLive : table.lookup first = some firstEntry)
    (secondLive : table.lookup second = some secondEntry)
    (same : firstEntry.descriptor.asRawFd =
      secondEntry.descriptor.asRawFd) :
    first = second := by
  obtain ⟨_, _, firstItem⟩ := mirrors.live first firstEntry firstLive
  obtain ⟨_, _, secondItem⟩ := mirrors.live second secondEntry secondLive
  rw [same, secondItem] at firstItem
  have tokens := congrArg EpollItem.token (Option.some.inj firstItem)
  have raws : second.raw = first.raw := tokens
  rcases first with ⟨firstRaw⟩
  rcases second with ⟨secondRaw⟩
  rw [show firstRaw = secondRaw from raws.symm]

theorem congr
    (mirrors : Mirrors table items)
    (same : ∀ id, after.lookup id = table.lookup id) :
    Mirrors after items := by
  constructor
  · intro id entry present
    rw [same] at present
    exact mirrors.live id entry present
  · intro descriptor item held
    obtain ⟨id, entry, present, own⟩ := mirrors.owned descriptor item held
    exact ⟨id, entry, (same id).trans present, own⟩

/-- Write the entry of one identity together with its item. -/
theorem write
    (mirrors : Mirrors table items) {id : RegistrationId} {entry : Entry}
    {arm : ArmState} (held : entry.state = .registered arm)
    (written : ∀ other,
      after.lookup other =
        if other = id then some entry else table.lookup other)
    (sole : ∀ other found, table.lookup other = some found →
      found.descriptor.asRawFd = entry.descriptor.asRawFd → other = id) :
    (∀ found, table.lookup id = some found →
      found.descriptor.asRawFd = entry.descriptor.asRawFd) →
    Mirrors after
      (Function.update items entry.descriptor.asRawFd
        (some (entry.item id arm))) := by
  intro kept
  constructor
  · intro other found present
    rw [written] at present
    split at present
    · rename_i same
      cases present
      subst same
      exact ⟨arm, held, Function.update_self ..⟩
    · rename_i different
      obtain ⟨otherArm, otherHeld, otherItem⟩ :=
        mirrors.live other found present
      refine ⟨otherArm, otherHeld, ?_⟩
      rw [Function.update_of_ne]
      · exact otherItem
      · intro shared
        exact different (sole other found present shared)
  · intro descriptor item present
    by_cases same : descriptor = entry.descriptor.asRawFd
    · exact ⟨id, entry, (written id).trans (if_pos rfl), same.symm⟩
    · rw [Function.update_of_ne same] at present
      obtain ⟨other, found, live, own⟩ :=
        mirrors.owned descriptor item present
      have different : other ≠ id := by
        rintro rfl
        exact same (own.symm.trans (kept found live))
      exact ⟨other, found, (written other).trans
        ((if_neg different).trans live), own⟩

/-- Remove the entry of one identity together with its item. -/
theorem remove
    (mirrors : Mirrors table items) {id : RegistrationId} {entry : Entry}
    (present : table.lookup id = some entry)
    (removed : ∀ other,
      after.lookup other =
        if other = id then none else table.lookup other) :
    Mirrors after
      (Function.update items entry.descriptor.asRawFd none) := by
  constructor
  · intro other found live
    rw [removed] at live
    split at live
    · cases live
    · rename_i different
      obtain ⟨arm, held, item⟩ := mirrors.live other found live
      refine ⟨arm, held, ?_⟩
      rw [Function.update_of_ne]
      · exact item
      · intro shared
        exact different (mirrors.unique live present shared)
  · intro descriptor item held
    by_cases same : descriptor = entry.descriptor.asRawFd
    · rw [same, Function.update_self] at held
      cases held
    · rw [Function.update_of_ne same] at held
      obtain ⟨other, found, live, own⟩ := mirrors.owned descriptor item held
      have different : other ≠ id := by
        rintro rfl
        rw [present] at live
        cases live
        exact same own.symm
      exact ⟨other, found, (removed other).trans
        ((if_neg different).trans live), own⟩

end Mirrors

/-! ## Calls -/

section Calls

variable {σ : Type*} {kernel : EpollKernel σ}

/-- A control call that answered ok was applied. -/
theorem answerCommit_notApplied (result : Except IoError Unit) :
    (result = .ok () ∧ answerCommit (notApplied result) = .applied) ∨
      ((∃ source, result = .error source) ∧
        answerCommit (notApplied result) = .notApplied) := by
  cases result with
  | ok done => exact Or.inl ⟨rfl, rfl⟩
  | error source => exact Or.inr ⟨⟨source, rfl⟩, rfl⟩

theorem Mirrors.registered
    {session : MutationSession σ} {lease : SlotLease}
    {registration : Registration} {entry : Entry} {arm : ArmState}
    (wellFormed : lease.table.WellFormed)
    (mirrors :
      Mirrors session.registrations (kernel.items session.driver))
    (reserves :
      session.registrations.Reserves lease registration.id entry)
    (held : entry.state = .registered arm) (armed : arm = .armed)
    {driver : σ} {answer : Answer}
    (asked :
      (linuxDriver kernel).register session.driver
          { descriptor := entry.descriptor.asFd
            registration := registration.id
            key := entry.key
            interest := entry.interest
            mode := entry.mode } = (driver, answer)) :
    Mirrors
      (lease.settle (registerSettlement (answerCommit answer))).1
      (kernel.items driver) := by
  have sets := kernel.add_sets session.driver entry.descriptor.asFd
    registration.id.raw (epollFlags entry.interest entry.mode)
  have absent := kernel.add_absent session.driver entry.descriptor.asFd
    registration.id.raw (epollFlags entry.interest entry.mode)
  rcases added : kernel.add session.driver entry.descriptor.asFd
      registration.id.raw (epollFlags entry.interest entry.mode) with
    ⟨after, result⟩
  rw [added] at sets absent
  simp only [linuxDriver, added, Prod.mk.injEq] at asked
  obtain ⟨rfl, rfl⟩ := asked
  have settled := wellFormed.settle_lookup reserves.holds
  rcases answerCommit_notApplied result with
    ⟨rfl, commit⟩ | ⟨⟨source, rfl⟩, commit⟩
  · have vacant : kernel.items session.driver entry.descriptor.asRawFd =
        none := absent rfl
    have fresh : ∀ other found,
        session.registrations.lookup other = some found →
        found.descriptor.asRawFd = entry.descriptor.asRawFd →
          other = registration.id := by
      intro other found live shared
      obtain ⟨_, _, item⟩ := mirrors.live other found live
      rw [shared, vacant] at item
      cases item
    have updated : kernel.items after =
        Function.update (kernel.items session.driver)
          entry.descriptor.asRawFd
          (some (entry.item registration.id arm)) := by
      rw [armed]
      exact sets
    rw [commit, updated]
    apply mirrors.write held
    · intro other
      rw [show registerSettlement .applied = .keep from rfl, settled,
        reserves.lookup]
      split
      · rfl
      · rfl
    · exact fresh
    · intro found live
      rw [reserves.absent] at live
      cases live
  · have unchanged : kernel.items after = kernel.items session.driver :=
      sets
    rw [commit, unchanged]
    apply mirrors.congr
    intro other
    rw [show registerSettlement .notApplied = .retire from rfl, settled,
      reserves.lookup]
    split
    · rename_i same
      rw [same, reserves.absent]
      rfl
    · rfl

theorem Mirrors.modified
    {session : MutationSession σ} {id : RegistrationId} {entry : Entry}
    (mirrors :
      Mirrors session.registrations (kernel.items session.driver))
    (present : session.registrations.lookup id = some entry)
    (interest : Interest) (mode : Mode)
    {request : ModifyRequest}
    (source : request.descriptor = entry.descriptor.asFd)
    (identity : request.registration = id)
    (desiredInterest : request.desiredInterest = interest)
    (desiredMode : request.desiredMode = mode)
    {driver : σ} {answer : Answer}
    (asked :
      (linuxDriver kernel).modify session.driver request =
        (driver, answer)) :
    Mirrors
      (session.registrations.modifySettled id interest mode
        (answerCommit answer))
      (kernel.items driver) := by
  have sets := kernel.modify_sets session.driver entry.descriptor.asFd
    id.raw (epollFlags interest mode)
  rcases changed : kernel.modify session.driver entry.descriptor.asFd
      id.raw (epollFlags interest mode) with ⟨after, result⟩
  rw [changed] at sets
  simp only [linuxDriver, source, identity, desiredInterest, desiredMode,
    changed, Prod.mk.injEq] at asked
  obtain ⟨rfl, rfl⟩ := asked
  have settled := fun commit =>
    RegistrationTable.modifySettled_lookup present interest mode commit
  rcases answerCommit_notApplied result with
    ⟨rfl, commit⟩ | ⟨⟨cause, rfl⟩, commit⟩
  · let written := RegistrationTable.modifiedEntry interest mode entry
    have updated : kernel.items after =
        Function.update (kernel.items session.driver)
          written.descriptor.asRawFd (some (written.item id .armed)) :=
      sets
    rw [commit, updated]
    apply mirrors.write
    · rfl
    · exact settled .applied
    · intro other found live shared
      exact mirrors.unique live present shared
    · intro found live
      rw [present] at live
      cases live
      rfl
  · have unchanged : kernel.items after = kernel.items session.driver :=
      sets
    rw [commit, unchanged]
    exact mirrors.congr fun _ => rfl

theorem Mirrors.deleted
    {session : MutationSession σ} {lease : SlotLease}
    {id : RegistrationId} {entry : Entry}
    (wellFormed : lease.table.WellFormed)
    (mirrors : Mirrors lease.table (kernel.items session.driver))
    (holds : lease.Holds id entry)
    {request : DeleteRequest}
    (source : request.descriptor = entry.descriptor.asFd)
    {driver : σ} {answer : Answer}
    (asked :
      (linuxDriver kernel).delete session.driver request =
        (driver, answer)) :
    Mirrors (lease.settle (deleteSettlement (answerCommit answer))).1
      (kernel.items driver) := by
  have sets := kernel.delete_sets session.driver entry.descriptor.asFd
  rcases removed : kernel.delete session.driver entry.descriptor.asFd with
    ⟨after, result⟩
  rw [removed] at sets
  simp only [linuxDriver, source, removed, Prod.mk.injEq] at asked
  obtain ⟨rfl, rfl⟩ := asked
  have settled := wellFormed.settle_lookup holds
  rcases answerCommit_notApplied result with
    ⟨rfl, commit⟩ | ⟨⟨cause, rfl⟩, commit⟩
  · have updated : kernel.items after =
        Function.update (kernel.items session.driver)
          entry.descriptor.asRawFd none := sets
    rw [commit, updated]
    exact mirrors.remove holds.located.lookup (settled .retire)
  · have unchanged : kernel.items after = kernel.items session.driver :=
      sets
    rw [commit, unchanged]
    exact mirrors.congr fun _ => rfl

/-- Every call keeps the items those of the live entries. -/
theorem Mirrors.effect
    {session : MutationSession σ} {request : Call}
    {result : MutationSession σ × Reply}
    (wellFormed : session.registrations.WellFormed)
    (mirrors :
      Mirrors session.registrations (kernel.items session.driver))
    (effect :
      MutationSession.Effect (linuxDriver kernel) session request result) :
    Mirrors result.1.registrations (kernel.items result.1.driver) := by
  cases effect with
  | registering _ _ _ registers =>
      cases registers with
      | full _ => exact mirrors
      | unowned _ _ _ _ => exact mirrors
      | answered _ _ _ _ _ _ _ _ reserves moves _ asked =>
          exact mirrors.registered (wellFormed.moves moves) reserves rfl
            rfl asked
  | modified _ present _ asked =>
      exact mirrors.modified present _ _ rfl rfl rfl rfl asked
  | deleted _ same holds asked =>
      rw [← same] at wellFormed mirrors
      exact mirrors.deleted wellFormed holds rfl asked
  | invalidInterest _ _ => exact mirrors
  | duplicationFailed _ _ _ => exact mirrors
  | modifyRefused _ => exact mirrors
  | deleteRefused _ => exact mirrors
  | queried => exact mirrors

end Calls

/-! ## Waits -/

theorem epollFlags_oneShot (interest : Interest) (mode : Mode) :
    (epollFlags interest mode &&& epollOneShot != 0) =
      (mode == .oneShot) := by
  rcases interest.cases_eq with rfl | rfl | rfl | rfl <;>
    cases mode <;> decide

theorem Entry.item_delivered
    (entry : Entry) (id : RegistrationId) (arm : ArmState) :
    (entry.item id arm).delivered =
      if entry.mode = .oneShot then entry.item id .disarmed
      else entry.item id arm := by
  simp only [EpollItem.delivered, Entry.item, epollFlags_oneShot]
  cases entry.mode <;> rfl

/-- A record of the wake source, or of an armed entry with its descriptor. -/
def Reported (table : RegistrationTable) (record : EpollEvent) :
    Option RawFd → Prop
  | none => record.token = 0
  | some descriptor =>
      ∃ entry, table.lookup ⟨record.token⟩ = some entry ∧
        entry.descriptor.asRawFd = descriptor ∧
        entry.state = .registered .armed

section Waits

variable {table : RegistrationTable} {items after : EpollItems}
  {maxEvents : Nat} {records : List EpollEvent}
  {sources : List (Option RawFd)}

theorem Mirrors.reported
    (mirrors : Mirrors table items)
    (returns : items.Returns after maxEvents records sources) :
    List.Forall₂ (Reported table) records sources := by
  refine returns.reported.imp ?_
  intro record source named
  cases source with
  | none => exact named
  | some descriptor =>
      obtain ⟨item, held, enabled, token⟩ := named
      obtain ⟨id, entry, live, own⟩ := mirrors.owned descriptor item held
      obtain ⟨arm, state, itemOf⟩ := mirrors.live id entry live
      rw [own, held] at itemOf
      cases itemOf
      have identity : (⟨record.token⟩ : RegistrationId) = id := by
        rw [token]
        rfl
      refine ⟨entry, ?_, own, ?_⟩
      · rw [identity]
        exact live
      · cases arm with
        | armed => exact state
        | disarmed => cases enabled

theorem exists_source
    (reported : List.Forall₂ (Reported table) records sources)
    {record : EpollEvent} (member : record ∈ records) :
    ∃ source ∈ sources, Reported table record source := by
  induction reported with
  | nil => cases member
  | cons first _ inductionHypothesis =>
      rcases List.mem_cons.mp member with rfl | later
      · exact ⟨_, List.mem_cons_self .., first⟩
      · obtain ⟨source, inSources, named⟩ := inductionHypothesis later
        exact ⟨source, List.mem_cons_of_mem _ inSources, named⟩

theorem exists_record
    (reported : List.Forall₂ (Reported table) records sources)
    {source : Option RawFd} (member : source ∈ sources) :
    ∃ record ∈ records, Reported table record source := by
  induction reported with
  | nil => cases member
  | cons first _ inductionHypothesis =>
      rcases List.mem_cons.mp member with rfl | later
      · exact ⟨_, List.mem_cons_self .., first⟩
      · obtain ⟨record, inRecords, named⟩ := inductionHypothesis later
        exact ⟨record, List.mem_cons_of_mem _ inRecords, named⟩

/-- A record with a live token is reported for the token's descriptor. -/
theorem Reported.source_eq
    {record : EpollEvent} {source : Option RawFd} {entry : Entry}
    (named : Reported table record source)
    (live : table.lookup ⟨record.token⟩ = some entry) :
    source = some entry.descriptor.asRawFd ∧
      entry.state = .registered .armed := by
  cases source with
  | none => exact (RegistrationTable.lookup_nonzero live named).elim
  | some descriptor =>
      obtain ⟨found, again, own, armed⟩ := named
      rw [live] at again
      cases again
      exact ⟨congrArg some own.symm, armed⟩

theorem Reported.live
    {record : EpollEvent} {source : Option RawFd}
    (named : Reported table record source) (resource : record.token ≠ 0) :
    ∃ entry, table.lookup ⟨record.token⟩ = some entry ∧
      entry.state = .registered .armed := by
  cases source with
  | none => exact (resource named).elim
  | some descriptor =>
      obtain ⟨entry, present, _, armed⟩ := named
      exact ⟨entry, present, armed⟩

/-- Distinct descriptors are reported with distinct tokens. -/
theorem reported_tokens
    (reported : List.Forall₂ (Reported table) records sources)
    (distinct : (sources.filterMap id).Nodup) :
    records.Pairwise fun first second =>
      first.token ≠ 0 → first.token ≠ second.token := by
  induction reported with
  | nil => exact List.Pairwise.nil
  | @cons record source records sources first rest inductionHypothesis =>
      have later : (sources.filterMap id).Nodup := by
        cases source with
        | none => exact distinct
        | some descriptor => exact (List.nodup_cons.mp distinct).2
      apply List.Pairwise.cons
      · intro other member resource same
        obtain ⟨entry, live, _⟩ := first.live resource
        obtain ⟨own, _⟩ := first.source_eq live
        obtain ⟨otherSource, inSources, otherNamed⟩ :=
          exists_source rest member
        obtain ⟨otherOwn, _⟩ :=
          otherNamed.source_eq (by rw [← same]; exact live)
        rw [own] at distinct
        rw [otherOwn] at inSources
        apply (List.nodup_cons.mp distinct).1
        exact List.mem_filterMap.mpr ⟨_, inSources, rfl⟩
      · exact inductionHypothesis later

/-- The returned one-shot registrations are distinct and armed. -/
theorem reported_disarms
    (reported : List.Forall₂ (Reported table) records sources)
    (distinct : (sources.filterMap id).Nodup) :
    table.Disarms (recordOneShots table records) := by
  constructor
  · refine List.Pairwise.filterMap _ ?_ (reported_tokens reported distinct)
    intro first second different firstId firstNamed secondId secondNamed
      same
    obtain ⟨resource, firstSame, _⟩ := recordOneShot_live firstNamed
    obtain ⟨_, secondSame, _⟩ := recordOneShot_live secondNamed
    rw [firstSame, secondSame] at same
    exact different resource (congrArg RegistrationId.raw same)
  · intro id member
    obtain ⟨record, inRecords, named⟩ := List.mem_filterMap.mp member
    obtain ⟨_, rfl, entry, present, once, _⟩ := recordOneShot_live named
    obtain ⟨source, _, sourced⟩ := exists_source reported inRecords
    exact ⟨entry, present, once, (sourced.source_eq present).2⟩

/-- The entry of a registration after a wait returned the records. -/
def Entry.returned
    (entry : Entry) (id : RegistrationId) (records : List EpollEvent) :
    Entry :=
  if entry.mode = .oneShot ∧ id.raw ∈ records.map EpollEvent.token then
    { entry with state := .registered .disarmed }
  else
    entry

/-- A wait disarms exactly the returned one-shot registrations. -/
theorem lookup_returned
    (reported : List.Forall₂ (Reported table) records sources)
    (distinct : (sources.filterMap id).Nodup) (id : RegistrationId) :
    (table.applyDisarms (recordDisarms table records)).lookup id =
      (table.lookup id).map fun entry => entry.returned id records := by
  obtain ⟨different, ready⟩ := reported_disarms reported distinct
  have names : (recordDisarms table records).map Prod.fst =
      recordOneShots table records := by
    simp [recordDisarms, Function.comp_def]
  by_cases member : id ∈ recordOneShots table records
  · obtain ⟨entry, present, disarmable⟩ := ready id member
    have disarming : (id, .applied) ∈ recordDisarms table records :=
      List.mem_map.mpr ⟨id, member, rfl⟩
    have disarmed := RegistrationTable.applyDisarms_lookup
      (by rwa [names]) disarming present disarmable
    obtain ⟨record, inRecords, named⟩ := List.mem_filterMap.mp member
    obtain ⟨_, rfl, _⟩ := recordOneShot_live named
    have returned : record.token ∈ records.map EpollEvent.token :=
      List.mem_map.mpr ⟨record, inRecords, rfl⟩
    have written : entry.returned ⟨record.token⟩ records =
        RegistrationTable.disarmedEntry .applied entry :=
      if_pos ⟨disarmable.1, returned⟩
    rw [disarmed, present, Option.map_some, written]
  · rw [RegistrationTable.applyDisarms_other _ _ (by rwa [names])]
    cases present : table.lookup id with
    | none => rfl
    | some entry =>
        have kept : entry.returned id records = entry := by
          apply if_neg
          rintro ⟨once, returned⟩
          obtain ⟨record, inRecords, token⟩ := List.mem_map.mp returned
          have identity : id = ⟨record.token⟩ := by rw [token]
          subst identity
          obtain ⟨source, _, sourced⟩ := exists_source reported inRecords
          apply member
          refine List.mem_filterMap.mpr ⟨record, inRecords, ?_⟩
          exact LinuxPoll.recordOneShot_eq (RegistrationTable.lookup_nonzero present) present
            (sourced.source_eq present).2 once
        rw [Option.map_some, kept]

/-- A registration is returned exactly when its descriptor is a source. -/
theorem Mirrors.returned_iff
    (mirrors : Mirrors table items)
    (reported : List.Forall₂ (Reported table) records sources)
    {id : RegistrationId} {entry : Entry}
    (present : table.lookup id = some entry) :
    id.raw ∈ records.map EpollEvent.token ↔
      some entry.descriptor.asRawFd ∈ sources := by
  constructor
  · intro returned
    obtain ⟨record, inRecords, token⟩ := List.mem_map.mp returned
    obtain ⟨source, inSources, named⟩ := exists_source reported inRecords
    have live : table.lookup ⟨record.token⟩ = some entry := by
      rw [token]
      exact present
    rw [(named.source_eq live).1] at inSources
    exact inSources
  · intro inSources
    obtain ⟨record, inRecords, named⟩ := exists_record reported inSources
    obtain ⟨found, live, own, _⟩ := named
    have same := mirrors.unique live present own
    refine List.mem_map.mpr ⟨record, inRecords, ?_⟩
    exact congrArg RegistrationId.raw same

/-- The kernel and the table disarm the same registrations. -/
theorem Mirrors.waited
    (mirrors : Mirrors table items)
    (returns : items.Returns after maxEvents records sources) :
    Mirrors (table.applyDisarms (recordDisarms table records)) after := by
  have reported := mirrors.reported returns
  have looked := lookup_returned reported returns.distinct
  have kept : ∀ (id : RegistrationId) (entry : Entry),
      (entry.returned id records).descriptor = entry.descriptor := by
    intro id entry
    unfold Entry.returned
    split <;> rfl
  constructor
  · intro id written present
    rw [looked] at present
    obtain ⟨entry, live, rfl⟩ := Option.map_eq_some_iff.mp present
    obtain ⟨arm, held, item⟩ := mirrors.live id entry live
    have delivered := returns.delivered entry.descriptor.asRawFd
    have named := mirrors.returned_iff reported live
    rw [kept, delivered, item]
    by_cases inSources : some entry.descriptor.asRawFd ∈ sources
    · rw [if_pos inSources, Option.map_some, Entry.item_delivered]
      by_cases once : entry.mode = .oneShot
      · have disarmed : entry.returned id records =
            { entry with state := .registered .disarmed } :=
          if_pos ⟨once, named.2 inSources⟩
        rw [if_pos once, disarmed]
        exact ⟨.disarmed, rfl, rfl⟩
      · have same : entry.returned id records = entry :=
          if_neg fun both => once both.1
        rw [if_neg once, same]
        exact ⟨arm, held, rfl⟩
    · have same : entry.returned id records = entry :=
        if_neg fun both => inSources (named.1 both.2)
      rw [if_neg inSources, same]
      exact ⟨arm, held, rfl⟩
  · intro descriptor item held
    have before : ∃ found, items descriptor = some found := by
      rw [returns.delivered] at held
      split at held
      · obtain ⟨found, present, _⟩ := Option.map_eq_some_iff.mp held
        exact ⟨found, present⟩
      · exact ⟨item, held⟩
    obtain ⟨found, present⟩ := before
    obtain ⟨id, entry, live, own⟩ := mirrors.owned descriptor found present
    refine ⟨id, entry.returned id records, ?_, ?_⟩
    · rw [looked, live]
      rfl
    · rw [kept]
      exact own

/-- One event for each resource record, in order, with the key of its entry
and the translated readiness. -/
def Exact
    (table : RegistrationTable) (record : EpollEvent) (delivery : Delivery) :
    Prop :=
  ∃ entry, table.lookup ⟨record.token⟩ = some entry ∧
    delivery =
      { event := .resource entry.key (fromEpollFlags record.events)
        source := some ⟨record.token⟩ }

theorem reported_exact
    (reported : List.Forall₂ (Reported table) records sources) :
    List.Forall₂ (Exact table)
      (records.filter fun record => record.token ≠ 0)
      (records.filterMap (recordDelivery table)) := by
  induction reported with
  | nil => exact List.Forall₂.nil
  | @cons record source records sources first rest inductionHypothesis =>
      by_cases wake : record.token = 0
      · have silent : recordDelivery table record = none := if_pos wake
        rw [List.filter_cons_of_neg (by simp [wake]),
          List.filterMap_cons, silent]
        exact inductionHypothesis
      · obtain ⟨entry, live, armed⟩ := first.live wake
        have found :=
          (RegistrationTable.resolve_eq_some_iff table record.token
            (entry.observation ⟨record.token⟩)).2
            ⟨entry, .armed, live, armed, rfl⟩
        have delivers : recordDelivery table record =
            some
              { event := .resource entry.key (fromEpollFlags record.events)
                source := some ⟨record.token⟩ } := by
          simp [recordDelivery, wake, found, Entry.observation]
        rw [List.filter_cons_of_pos (by simp [wake]),
          List.filterMap_cons, delivers]
        exact List.Forall₂.cons ⟨entry, live, rfl⟩ inductionHypothesis

end Waits

/-! ## Runs -/

section Runs

variable {σ : Type*} {kernel : EpollKernel σ}

/-- What the kernel does in a wait.  It is not asked when the destination is
too small, and a failed wait keeps every item. -/
def EpollKernel.Answers
    (kernel : EpollKernel σ) (poll : LinuxPoll σ) (events : Events)
    (answer : Except IoError (List EpollEvent)) (backend : σ) : Prop :=
  if events.capacity.val < poll.eventCapacity.val then
    kernel.items backend = kernel.items poll.backend
  else
    match answer with
    | .error _ => kernel.items backend = kernel.items poll.backend
    | .ok records =>
        ∃ sources,
          (kernel.items poll.backend).Returns (kernel.items backend)
            poll.rawEvents.maxEvents records sources

/-- One step of a poller together with its epoll instance.  Elsewhere the
instance may change in any way that keeps its items. -/
inductive EpollStep (kernel : EpollKernel σ) :
    LinuxPoll σ → PollLabel → LinuxPoll σ → Prop
  | called {before : LinuxPoll σ} (request : Call) :
      EpollStep kernel before
        (.called request (before.call (linuxDriver kernel) request).2)
        (before.call (linuxDriver kernel) request).1
  | configured {before : LinuxPoll σ} (key : Key) :
      EpollStep kernel before (.configured key (before.waker key).2)
        (before.waker key).1
  | elsewhere {before : LinuxPoll σ} {backend : σ} (nextPollId : UInt64) :
      kernel.items backend = kernel.items before.backend →
      EpollStep kernel before (.elsewhere nextPollId)
        { before with nextPollId, backend }
  | waited {before after : LinuxPoll σ} {backend : σ}
      {answer : Except IoError (List EpollEvent)} {events filled : Events}
      {result : Except Error WaitReport} :
      kernel.Answers before events answer backend →
      LinuxPoll.wait answer before events = (after, filled, result) →
      EpollStep kernel before (.waited filled.deliveries result)
        { after with backend }

/-- A poller whose table mirrors its epoll instance. -/
structure EpollKernel.Coupled
    (kernel : EpollKernel σ) (poll : LinuxPoll σ) : Prop where
  sound : poll.Sound
  mirrors : Mirrors poll.registrations (kernel.items poll.backend)

/-- A wait that returned these records: it succeeds with one event for each
resource record and a wake event, and disarms exactly the returned one-shot
registrations. -/
def LinuxPoll.WaitsExactly
    (poll : LinuxPoll σ) (events : Events) (records : List EpollEvent) :
    Prop :=
  ∃ after filled resources,
    LinuxPoll.wait (.ok records) poll events =
        (after, filled, .ok { recovery := none }) ∧
      filled.deliveries =
        resources ++
          EpollBatch.wakeEvent (records.any fun record => record.token = 0)
            poll.wakeKey ∧
      List.Forall₂ (Exact poll.registrations)
        (records.filter fun record => record.token ≠ 0) resources ∧
      ∀ id, after.registrations.lookup id =
        (poll.registrations.lookup id).map fun entry =>
          entry.returned id records

namespace EpollKernel.Coupled

/-- A wait of a coupled poller delivers, and stays coupled. -/
theorem delivers
    {poll : LinuxPoll σ} (coupled : kernel.Coupled poll) {events : Events}
    (room : poll.eventCapacity.val ≤ events.capacity.val)
    {records : List EpollEvent} {sources : List (Option RawFd)} {backend : σ}
    (returns :
      (kernel.items poll.backend).Returns (kernel.items backend)
        poll.rawEvents.maxEvents records sources) :
    ∃ filled,
      LinuxPoll.wait (.ok records) poll events =
          ({ poll with
              rawEvents := poll.rawEvents.invalidate
              registrations :=
                poll.registrations.applyDisarms
                  (recordDisarms poll.registrations records) },
            filled, .ok { recovery := none }) ∧
        filled.deliveries =
          records.filterMap (recordDelivery poll.registrations) ++
            EpollBatch.wakeEvent
              (records.any fun record => record.token = 0)
              poll.wakeKey := by
  have reported := coupled.mirrors.reported returns
  have disarms := reported_disarms reported returns.distinct
  have bounded : records.length ≤ poll.eventCapacity.val := by
    rw [← coupled.sound.maxEvents]
    exact returns.bounded
  have waited := coupled.sound.wait (.ok records) events
  generalize performed : LinuxPoll.wait (.ok records) poll events =
    observed at waited
  cases waited with
  | small small => omega
  | failed impossible => cases impossible
  | translated answered translates =>
      cases answered
      cases translates with
      | excessive excessive _ => omega
      | blocked blocked _ => exact (blocked disarms).elim
      | delivered _ _ contents => exact ⟨_, rfl, contents⟩

theorem waitsExactly
    {poll : LinuxPoll σ} (coupled : kernel.Coupled poll) {events : Events}
    (room : poll.eventCapacity.val ≤ events.capacity.val)
    {records : List EpollEvent} {sources : List (Option RawFd)} {backend : σ}
    (returns :
      (kernel.items poll.backend).Returns (kernel.items backend)
        poll.rawEvents.maxEvents records sources) :
    poll.WaitsExactly events records := by
  have reported := coupled.mirrors.reported returns
  obtain ⟨filled, performed, contents⟩ := coupled.delivers room returns
  refine ⟨_, filled, _, performed, contents, reported_exact reported, ?_⟩
  exact lookup_returned reported returns.distinct

/-- Every wait keeps the coupling and meets no broken invariant. -/
theorem wait
    {poll after : LinuxPoll σ} (coupled : kernel.Coupled poll)
    {events filled : Events} {answer : Except IoError (List EpollEvent)}
    {result : Except Error WaitReport} {backend : σ}
    (answers : kernel.Answers poll events answer backend)
    (performed :
      LinuxPoll.wait answer poll events = (after, filled, result)) :
    kernel.Coupled { after with backend } ∧ result ≠ .error .invariant := by
  have waits : LinuxPoll.Waits poll filled.deliveries result after :=
    ⟨answer, events, filled, performed, rfl⟩
  have sound := (waits.settles coupled.sound).1
  unfold Answers at answers
  split at answers
  · rename_i small
    rw [LinuxPoll.wait_small answer small] at performed
    cases performed
    refine ⟨⟨{ sound with }, ?_⟩, by simp⟩
    rw [answers]
    exact coupled.mirrors
  · rename_i large
    have room := Nat.not_lt.mp large
    cases answer with
    | error source =>
        have waited := coupled.sound.wait (.error source) events
        rw [performed] at waited
        cases waited with
        | small small => exact (large small).elim
        | failed _ =>
            refine ⟨⟨{ sound with }, ?_⟩, by simp⟩
            rw [answers]
            exact coupled.mirrors
        | translated impossible _ => cases impossible
    | ok records =>
        obtain ⟨sources, returns⟩ := answers
        obtain ⟨contents, delivered, _⟩ := coupled.delivers room returns
        rw [performed] at delivered
        cases delivered
        refine ⟨⟨{ sound with }, ?_⟩, by simp⟩
        exact coupled.mirrors.waited returns

/-- Every step keeps the coupling and meets no broken invariant. -/
theorem step
    {before after : LinuxPoll σ} {label : PollLabel}
    (coupled : kernel.Coupled before)
    (step : EpollStep kernel before label after) :
    kernel.Coupled after ∧
      ∀ deliveries, label ≠ .waited deliveries (.error .invariant) := by
  cases step with
  | called request =>
      have effect := MutationSession.call_effect (linuxDriver kernel)
        before.mutations coupled.sound.wellFormed request
      refine ⟨⟨?_, ?_⟩, by simp⟩
      · exact coupled.sound.step (.called (linuxDriver kernel) request)
      · exact coupled.mirrors.effect coupled.sound.wellFormed effect
  | configured key =>
      refine ⟨⟨coupled.sound.step (.configured key), ?_⟩, by simp⟩
      unfold Poll.waker
      split
      · exact coupled.mirrors
      · split <;> exact coupled.mirrors
  | elsewhere nextPollId kept =>
      refine ⟨⟨{ coupled.sound with }, ?_⟩, by simp⟩
      rw [kept]
      exact coupled.mirrors
  | waited answers performed =>
      obtain ⟨still, valid⟩ := coupled.wait answers performed
      refine ⟨still, ?_⟩
      intro deliveries same
      cases same
      exact valid rfl

/-- A new poller is coupled to an instance without items. -/
theorem initial
    {layout : EventLayout} {nextPollId : UInt64}
    {events registrations : Nat} {backend : σ} {tableAllocated : Bool}
    {poll : LinuxPoll σ}
    (created : LinuxPoll.withCapacity layout nextPollId events
      registrations (.ok backend) tableAllocated = .ok poll)
    (vacant : ∀ descriptor, kernel.items backend descriptor = none) :
    kernel.Coupled poll := by
  refine ⟨LinuxPoll.withCapacity_sound created, ?_⟩
  obtain ⟨_, ⟨limit, tableCreated⟩, sameBackend⟩ :=
    LinuxPoll.withCapacity_parts created
  cases sameBackend
  constructor
  · intro id entry present
    rw [RegistrationTable.new_lookup tableCreated] at present
    cases present
  · intro descriptor item held
    rw [vacant] at held
    cases held

end EpollKernel.Coupled

/-- The table and epoll stay in simulation over every run: the items are those
of the live entries, no entry is uncertain, no wait meets a broken invariant,
and whatever the kernel returns next is delivered exactly. -/
theorem epoll_simulation
    (kernel : EpollKernel σ) {layout : EventLayout} {nextPollId : UInt64}
    {events registrations : Nat} {backend : σ} {tableAllocated : Bool}
    {start finish : LinuxPoll σ} {labels : List PollLabel}
    (created : LinuxPoll.withCapacity layout nextPollId events
      registrations (.ok backend) tableAllocated = .ok start)
    (vacant : ∀ descriptor, kernel.items backend descriptor = none)
    (run : Execution (EpollStep kernel) start labels finish) :
    (∀ id entry, finish.registrations.lookup id = some entry →
      ∃ arm, entry.state = .registered arm ∧
        kernel.items finish.backend entry.descriptor.asRawFd =
          some
            { token := id.raw
              flags := epollFlags entry.interest entry.mode
              enabled := arm == .armed }) ∧
      (∀ descriptor item,
        kernel.items finish.backend descriptor = some item →
          ∃ id entry, finish.registrations.lookup id = some entry ∧
            entry.descriptor.asRawFd = descriptor) ∧
      (∀ id entry, finish.registrations.lookup id = some entry →
        entry.state ≠ .uncertain) ∧
      (∀ deliveries,
        PollLabel.waited deliveries (.error .invariant) ∉ labels) ∧
      ∀ destination records sources after,
        finish.eventCapacity.val ≤ destination.capacity.val →
        (kernel.items finish.backend).Returns (kernel.items after)
          finish.rawEvents.maxEvents records sources →
        finish.WaitsExactly destination records := by
  have history := run.history
    (fun past poll => kernel.Coupled poll ∧ ∀ deliveries,
      PollLabel.waited deliveries (.error .invariant) ∉ past) (by
      rintro past before label after ⟨coupled, valid⟩ step
      obtain ⟨still, differs⟩ := coupled.step step
      refine ⟨still, ?_⟩
      intro deliveries member
      rcases List.mem_append.mp member with earlier | last
      · exact valid deliveries earlier
      · exact differs deliveries (List.mem_singleton.mp last).symm)
    ⟨EpollKernel.Coupled.initial created vacant, by simp⟩
  obtain ⟨coupled, valid⟩ := history
  refine ⟨coupled.mirrors.live, coupled.mirrors.owned, ?_, valid, ?_⟩
  · intro id entry present uncertain
    obtain ⟨arm, held, _⟩ := coupled.mirrors.live id entry present
    rw [uncertain] at held
    cases held
  · intro destination records sources after room returns
    exact coupled.waitsExactly room returns

end Runs

/-- The kernel whose state is its items. -/
def mapKernel : EpollKernel EpollItems where
  items := id
  add := fun state source token flags =>
    match state source.raw with
    | some _ => (state, .error (.os 17))
    | none =>
        (Function.update state source.raw
          (some { token, flags, enabled := true }), .ok ())
  modify := fun state source token flags =>
    match state source.raw with
    | none => (state, .error (.os 2))
    | some _ =>
        (Function.update state source.raw
          (some { token, flags, enabled := true }), .ok ())
  delete := fun state source =>
    match state source.raw with
    | none => (state, .error (.os 2))
    | some _ => (Function.update state source.raw none, .ok ())
  add_sets := by
    intro state source token flags
    cases state source.raw <;> simp [EpollItems.Sets]
  add_absent := by
    intro state source token flags
    cases held : state source.raw <;> simp [held]
  modify_sets := by
    intro state source token flags
    cases state source.raw <;> simp [EpollItems.Sets]
  delete_sets := by
    intro state source
    cases state source.raw <;> simp [EpollItems.Sets]

/-- A new poller over an instance without items. -/
def mapPoll : LinuxPoll EpollItems :=
  { nextPollId := 1
    owner := PollOwner.unassigned
    backend := fun _ => none
    rawEvents :=
      { maxEvents := 2
        capacity := 2
        nativeOffset := 8
        observed := 0
        storageAddress := 0 }
    registrations :=
      { limit := ⟨2, Nat.two_pos⟩
        slots := []
        freeHead := freeEnd
        exhausted := 0 }
    eventCapacity := ⟨2, Nat.two_pos⟩
    wakeKey := none
    pending := () }

/-- That poller with one readable one-shot registration. -/
def mapRegistered : LinuxPoll EpollItems :=
  (mapPoll.call (linuxDriver mapKernel)
    (.register (.ok firstDescriptor) ⟨7⟩ Interest.readable .oneShot)).1

theorem mapRegistered_simulates :
    mapRegistered.backend 3 =
        some
          { token := 0x100000001
            flags := epollRdHup ||| epollIn ||| epollOneShot
            enabled := true } ∧
      mapRegistered.WaitsExactly
        { capacity := ⟨2, Nat.two_pos⟩
          deliveries := []
          address := ⟨8, by decide⟩
          native := [] }
        [{ events := epollIn, token := 0x100000001 }] := by
  have created :
      LinuxPoll.withCapacity
          { eventSize := 16, eventAlign := 8, nativeSize := 12
            nativeAlign := 1, needsDrop := false }
          1 2 2 (.ok fun _ => none) true = .ok mapPoll := rfl
  obtain ⟨live, _, _, _, waits⟩ :=
    epoll_simulation mapKernel created (fun _ => rfl)
      (.cons (.called _) (.refl mapRegistered))
  constructor
  · obtain ⟨arm, held, item⟩ := live ⟨0x100000001⟩
      (Entry.registered (Descriptor.owned firstDescriptor) ⟨7⟩
        Interest.readable .oneShot) rfl
    cases held
    exact item
  · refine waits _ _ [some 3]
      (Function.update mapRegistered.backend 3
        ((mapRegistered.backend 3).map EpollItem.delivered))
      (by decide) ?_
    exact
      { bounded := by decide
        reported := .cons ⟨_, rfl, rfl, rfl⟩ .nil
        distinct := by decide
        delivered := by
          intro descriptor
          by_cases same : descriptor = 3
          · subst same
            rfl
          · rw [if_neg (by simp [same])]
            exact Function.update_of_ne same _ _ }

end Zio
