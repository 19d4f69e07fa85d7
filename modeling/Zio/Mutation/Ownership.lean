import Zio.Mutation.Authority
import Zio.Table.Identity

/-!
# Retained descriptors are owned linearly

Dropping a descriptor closes its number when the descriptor is owned.  Each
call drops what its exits let go: a duplicate that found no slot, the entry
that a retired slot held, and nothing else.  So the calls are written with their
drops, and are the calls of the session when these are left out.  Dropping the
poller drops every entry that is left, and a duplicate is closed once, by the
call that failed to keep it, by the deletion of its registration, or with the
poller.
-/

namespace Zio

open Transition

/-! ## What the exits of a call drop -/

/-- The numbers that dropping a descriptor closes. -/
def Descriptor.drop (self : Descriptor) : List Fd :=
  if self.isOwned then [self.asFd] else []

theorem Descriptor.drop_owned (descriptor : Fd) :
    (Descriptor.owned descriptor).drop = [descriptor] := by
  simp [Descriptor.drop]

theorem Descriptor.drop_borrowed (descriptor : Fd) :
    (Descriptor.borrowed descriptor).drop = [] := by
  simp [Descriptor.drop]

/-- `slot.entry = None` runs exactly when `retire` succeeds. -/
def SlotLease.retireDrops (self : SlotLease) : List Descriptor :=
  match self.retire.2 with
  | .error _ => []
  | .ok () => (self.slot.entry.map Entry.descriptor).toList

/-- Dropping the table drops the entries that its slots hold. -/
def RegistrationTable.drops (self : RegistrationTable) : List Descriptor :=
  self.slots.filterMap fun slot => slot.entry.map Entry.descriptor

namespace MutationSession

variable {σ : Type*}

/-- A result beside the descriptors that were dropped on the way to it. -/
abbrev Dropping (Result : Type*) := Result × List Descriptor

/-- `settleRegisterFailure`, with its drops. -/
def settleRegisterFailureDropping
    (self : MutationSession σ) (reservation : SlotLease)
    (registration : Registration) (failure : MutationFailure) :
    Dropping (MutationSession σ × Except RegisterError Registration) :=
  (self.settleRegisterFailure reservation registration failure,
    match failure.commit with
    | .notApplied => reservation.retireDrops
    | .applied => []
    | .unknown => [])

/-- `settleReservation`, with its drops: a refused reservation lets go of the
descriptor that it was given. -/
def settleReservationDropping
    (self : MutationSession σ) (registration : Registration)
    (descriptor : Descriptor)
    (reserved :
      Except (RegistrationTable × Error) (SlotLease × σ × Answer)) :
    Dropping (MutationSession σ × Except RegisterError Registration) :=
  match reserved with
  | .error (registrations, error) =>
      (({ self with registrations }, registerStateFailure error),
        [descriptor])
  | .ok (reservation, driver, native) =>
      let self := { self with driver }
      match native with
      | .ok () =>
          (({ self with registrations := reservation.keep },
            .ok registration), [])
      | .error failure =>
          self.settleRegisterFailureDropping reservation registration
            failure

/-- `registerReused`, with its drops. -/
def registerReusedDropping
    (backend : MutationDriver σ) (self : MutationSession σ)
    (descriptor : Descriptor) (key : Key) (interest : Interest)
    (mode : Mode) :
    Dropping (MutationSession σ × Except RegisterError Registration) :=
  match self.registrations.reusedPermit with
  | .error error => ((self, registerStateFailure error), [descriptor])
  | .ok permit =>
      let (owner, nextPollId, assigned) :=
        self.owner.getOrAssign self.nextPollId
      let self := { self with owner, nextPollId }
      match assigned with
      | .error error => ((self, registerStateFailure error), [descriptor])
      | .ok owner =>
          self.settleReservationDropping { owner, encodedId := permit.id }
            descriptor
            (permit.reserveWith descriptor key interest mode
              fun descriptor registration =>
                backend.register self.driver
                  { descriptor, registration, key, interest, mode })

/-- `registerFresh`, with its drops. -/
def registerFreshDropping
    (backend : MutationDriver σ) (self : MutationSession σ)
    (descriptor : Descriptor) (key : Key) (interest : Interest)
    (mode : Mode) :
    Dropping (MutationSession σ × Except RegisterError Registration) :=
  match self.registrations.freshPermit with
  | .error error => ((self, registerStateFailure error), [descriptor])
  | .ok permit =>
      let (owner, nextPollId, assigned) :=
        self.owner.getOrAssign self.nextPollId
      let self := { self with owner, nextPollId }
      match assigned with
      | .error error => ((self, registerStateFailure error), [descriptor])
      | .ok owner =>
          self.settleReservationDropping { owner, encodedId := permit.id }
            descriptor
            (permit.reserveWith descriptor key interest mode
              fun descriptor registration =>
                backend.register self.driver
                  { descriptor, registration, key, interest, mode })

/-- `registerDescriptor`, with its drops. -/
def registerDescriptorDropping
    (backend : MutationDriver σ) (self : MutationSession σ)
    (descriptor : Descriptor) (key : Key) (interest : Interest)
    (mode : Mode) :
    Dropping (MutationSession σ × Except RegisterError Registration) :=
  if self.registrations.hasReusableSlot then
    registerReusedDropping backend self descriptor key interest mode
  else
    registerFreshDropping backend self descriptor key interest mode

/-- `delete`, with its drops: only a retired slot lets go of its entry. -/
def deleteDropping
    (backend : MutationDriver σ) (self : MutationSession σ)
    (registration : Registration) :
    Dropping (MutationSession σ × Except DeleteError Unit) :=
  match requireOwner self.owner.current registration with
  | .error error => ((self, .error { error, registration }), [])
  | .ok () =>
      match self.registrations.prepareRegistrationRetire
          registration.encodedId true with
      | .error error => ((self, .error { error, registration }), [])
      | .ok prepared =>
          match prepared.binding with
          | .error error => ((self, .error { error, registration }), [])
          | .ok binding =>
              let (driver, result) :=
                backend.delete self.driver
                  { descriptor := binding.descriptor
                    registration := registration.id
                    interest := binding.interest
                    state := binding.state }
              let self := { self with driver }
              match result with
              | .error failure =>
                  let (registrations, settled) :=
                    settleDeleteFailure prepared failure.commit
                  let drops :=
                    match failure.commit with
                    | .notApplied => []
                    | .applied => prepared.retireDrops
                    | .unknown => []
                  let self := { self with registrations }
                  match settled with
                  | .error error =>
                      ((self, .error { error, registration }), drops)
                  | .ok () =>
                      ((self,
                        .error
                          { error := mutationError .delete failure
                            registration }), drops)
              | .ok () =>
                  let (registrations, retired) := prepared.retire
                  let self := { self with registrations }
                  match retired with
                  | .error error =>
                      ((self, .error { error, registration }),
                        prepared.retireDrops)
                  | .ok () => ((self, .ok ()), prepared.retireDrops)

/-- One call, with its drops. -/
def callDropping (backend : MutationDriver σ) (self : MutationSession σ) :
    Call → Dropping (MutationSession σ × Reply)
  | .register duplicate key interest mode =>
      match validateRegistrationInterest interest with
      | .error error => ((self, .register (.error error)), [])
      | .ok () =>
          match duplicate with
          | .error source =>
              ((self,
                .register
                  (.error
                    { error := .io .register source
                      registration := none })), [])
          | .ok descriptor =>
              let ((next, result), drops) :=
                registerDescriptorDropping backend self
                  (Descriptor.owned descriptor) key interest mode
              ((next, .register result), drops)
  | .registerBorrowed source key interest mode =>
      match validateRegistrationInterest interest with
      | .error error => ((self, .register (.error error)), [])
      | .ok () =>
          let ((next, result), drops) :=
            registerDescriptorDropping backend self
              (Descriptor.borrowed source) key interest mode
          ((next, .register result), drops)
  | .modify registration interest mode =>
      (call backend self (.modify registration interest mode), [])
  | .delete registration =>
      let ((next, result), drops) :=
        deleteDropping backend self registration
      ((next, .delete result), drops)
  | .registrationState registration =>
      (call backend self (.registrationState registration), [])

end MutationSession

/-! ## Drops by what the caller sees -/

/-- The descriptor that a call brings in: the duplicate that it creates, or the
descriptor that it borrows. -/
def Call.retains : Call → Option Descriptor
  | .register (.ok descriptor) _ interest _ =>
      if interest.isEmpty then none else some (Descriptor.owned descriptor)
  | .registerBorrowed source _ interest _ =>
      if interest.isEmpty then none else some (Descriptor.borrowed source)
  | _ => none

/-- A deletion that retired its registration. -/
def Reply.retired : Reply → Bool
  | .delete (.ok ()) => true
  | .delete (.error failed) =>
      match failed.error with
      | .mutation failure => failure.commit == .applied
      | _ => false
  | _ => false

namespace MutationSession

variable {σ : Type*}

theorem retireDrops_eq
    {lease : SlotLease} {id : RegistrationId} {entry : Entry}
    (wellFormed : lease.table.WellFormed)
    (holds : lease.Holds id entry) :
    lease.retireDrops = [entry.descriptor] := by
  have settled := wellFormed.settle_ok holds .retire
  unfold SlotLease.settle at settled
  simp only at settled
  unfold SlotLease.retireDrops
  rw [settled, holds.located.occupied]
  rfl

/-- The drops of a call that takes a descriptor by value: it is dropped when the
call hands out no handle. -/
def unkept (descriptor : Descriptor)
    (result : Except RegisterError Registration) : List Descriptor :=
  if (Reply.register result).minted = none then [descriptor] else []

/-- Without its drops, a settled reservation is the settlement; it drops the
descriptor when it hands out no handle. -/
theorem settleReservationDropping_eq
    (session : MutationSession σ) (registration : Registration)
    {lease : SlotLease} {id : RegistrationId} {entry : Entry}
    (wellFormed : lease.table.WellFormed)
    (holds : lease.Holds id entry) (driver : σ) (answer : Answer) :
    session.settleReservationDropping registration entry.descriptor
        (.ok (lease, driver, answer)) =
      (session.settleReservation registration (.ok (lease, driver, answer)),
        unkept entry.descriptor
          (session.settleReservation registration
            (.ok (lease, driver, answer))).2) := by
  have settled := settleReservation_eq session registration wellFormed holds
    driver answer
  cases answer with
  | ok done => rfl
  | error failure =>
      refine Prod.ext rfl ?_
      rw [settled]
      rcases failure with ⟨commit, source⟩
      cases commit with
      | notApplied => exact retireDrops_eq wellFormed holds
      | applied => rfl
      | unknown => rfl

theorem registerReusedDropping_eq
    (backend : MutationDriver σ) (session : MutationSession σ)
    (wellFormed : session.registrations.WellFormed)
    (descriptor : Descriptor) (key : Key) (interest : Interest)
    (mode : Mode) :
    registerReusedDropping backend session descriptor key interest mode =
      (registerReused backend session descriptor key interest mode,
        unkept descriptor
          (registerReused backend session descriptor key interest
            mode).2) := by
  unfold registerReusedDropping registerReused
  cases granted : session.registrations.reusedPermit with
  | error error => rfl
  | ok permit =>
      simp only
      rcases assigned : session.owner.getOrAssign session.nextPollId with
        ⟨owner, nextPollId, outcome⟩
      cases outcome with
      | error error => rfl
      | ok poll =>
          simp only [RegistrationTable.reusedReserve_eq granted]
          exact settleReservationDropping_eq _ _
            (wellFormed.reused granted
              (Entry.registered descriptor key interest mode) rfl)
            (RegistrationTable.reusedLease_reserves granted
              (Entry.registered descriptor key interest mode)).holds _ _

theorem registerFreshDropping_eq
    (backend : MutationDriver σ) (session : MutationSession σ)
    (wellFormed : session.registrations.WellFormed)
    (descriptor : Descriptor) (key : Key) (interest : Interest)
    (mode : Mode) :
    registerFreshDropping backend session descriptor key interest mode =
      (registerFresh backend session descriptor key interest mode,
        unkept descriptor
          (registerFresh backend session descriptor key interest
            mode).2) := by
  unfold registerFreshDropping registerFresh
  cases granted : session.registrations.freshPermit with
  | error error => rfl
  | ok permit =>
      simp only
      rcases assigned : session.owner.getOrAssign session.nextPollId with
        ⟨owner, nextPollId, outcome⟩
      cases outcome with
      | error error => rfl
      | ok poll =>
          simp only [RegistrationTable.freshReserve_eq granted]
          exact settleReservationDropping_eq _ _
            (wellFormed.fresh granted
              (Entry.registered descriptor key interest mode) rfl)
            (RegistrationTable.freshLease_reserves granted
              (Entry.registered descriptor key interest mode)).holds _ _

theorem registerDescriptorDropping_eq
    (backend : MutationDriver σ) (session : MutationSession σ)
    (wellFormed : session.registrations.WellFormed)
    (descriptor : Descriptor) (key : Key) (interest : Interest)
    (mode : Mode) :
    registerDescriptorDropping backend session descriptor key interest
        mode =
      (registerDescriptor backend session descriptor key interest mode,
        unkept descriptor
          (registerDescriptor backend session descriptor key interest
            mode).2) := by
  unfold registerDescriptorDropping registerDescriptor
  split
  · exact registerReusedDropping_eq backend session wellFormed descriptor
      key interest mode
  · exact registerFreshDropping_eq backend session wellFormed descriptor
      key interest mode

theorem deleteDropping_eq
    (backend : MutationDriver σ) (session : MutationSession σ)
    (wellFormed : session.registrations.WellFormed)
    (registration : Registration) :
    deleteDropping backend session registration =
      (delete backend session registration,
        if (Reply.delete
            (delete backend session registration).2).retired then
          ((session.registrations.lookup registration.id).map
            Entry.descriptor).toList
        else []) := by
  by_cases own : session.owner.current = some registration.owner
  · rcases RegistrationTable.prepareRegistrationRetire_cases
        session.registrations registration.encodedId true with
      ⟨lease, entry, prepared, same, holds, _⟩ |
        ⟨_, _, impossible, _, _⟩ | ⟨absent, prepared⟩
    · have present := holds.located.lookup
      rw [same] at present
      have live : session.registrations.lookup registration.id =
          some entry := present
      rw [← same] at wellFormed
      have dropped := retireDrops_eq wellFormed holds
      have retired := wellFormed.settle_ok holds .retire
      simp only [SlotLease.settle] at retired
      rcases asked :
          backend.delete session.driver
            { descriptor := entry.descriptor.asFd
              registration := registration.id
              interest := entry.interest
              state := entry.state } with
        ⟨driver, answer⟩
      rcases answer with ⟨commit, source⟩ | done
      · cases commit <;>
        simp [deleteDropping, delete, requireOwner, own, prepared,
          holds.binding, Entry.binding, asked, dropped, live,
          settleDeleteFailure, retired, holds.markUncertain,
          Reply.retired, mutationError]
      · simp [deleteDropping, delete, requireOwner, own, prepared,
          holds.binding, Entry.binding, asked, dropped, live, retired,
          Reply.retired]
    · cases impossible
    · simp [deleteDropping, delete, requireOwner, own, prepared,
        Reply.retired]
  · simp [deleteDropping, delete, requireOwner, own, Reply.retired]

/-- Without its drops, a call is the call; it drops what it could not keep, and
what its deletion retired. -/
theorem callDropping_eq
    (backend : MutationDriver σ) (session : MutationSession σ)
    (wellFormed : session.registrations.WellFormed) (request : Call) :
    callDropping backend session request =
      (call backend session request,
        match request with
        | .delete registration =>
            if (call backend session request).2.retired then
              ((session.registrations.lookup registration.id).map
                Entry.descriptor).toList
            else []
        | _ =>
            if (call backend session request).2.minted = none then
              request.retains.toList
            else []) := by
  have kept := fun descriptor key interest mode =>
    registerDescriptorDropping_eq backend session wellFormed descriptor key
      interest mode
  cases request with
  | register duplicate key interest mode =>
      cases noInterest : interest.isEmpty with
      | true =>
          cases duplicate <;>
          simp [callDropping, call, register, validateRegistrationInterest,
            noInterest, Call.retains]
      | false =>
          cases duplicate with
          | error source =>
              simp [callDropping, call, register,
                validateRegistrationInterest, noInterest, Call.retains]
          | ok descriptor =>
              simp only [callDropping, call, register, kept, unkept,
                validateRegistrationInterest, noInterest, Call.retains,
                Bool.false_eq_true, if_false, Option.toList_some]
  | registerBorrowed source key interest mode =>
      cases noInterest : interest.isEmpty with
      | true =>
          simp [callDropping, call, registerBorrowed,
            validateRegistrationInterest, noInterest, Call.retains]
      | false =>
          simp only [callDropping, call, registerBorrowed, kept, unkept,
            validateRegistrationInterest, noInterest, Call.retains,
            Bool.false_eq_true, if_false, Option.toList_some]
  | modify registration interest mode => simp [callDropping, Call.retains]
  | delete registration =>
      simp only [callDropping, call,
        deleteDropping_eq backend session wellFormed]
      rfl
  | registrationState registration =>
      simp [callDropping, Call.retains]

end MutationSession

/-! ## Histories -/

def Exchange.descriptor : Exchange → Fd
  | .register request _ => request.descriptor
  | .modify request _ => request.descriptor
  | .delete request _ => request.descriptor

def Exchange.registration : Exchange → RegistrationId
  | .register request _ => request.registration
  | .modify request _ => request.registration
  | .delete request _ => request.registration

namespace Happening

def exchanges : Happening → List Exchange
  | .called _ exchanges _ => exchanges
  | _ => []

/-- The descriptor that a happening brings in. -/
def offers : Happening → Option Descriptor
  | .called request _ _ => request.retains
  | _ => none

/-- The identity that a happening hands out. -/
def mints : Happening → Option RegistrationId
  | .called _ _ reply => reply.minted.map Registration.id
  | _ => none

/-- The identity that a happening retires. -/
def retires : Happening → Option RegistrationId
  | .called (.delete registration) _ reply =>
      if reply.retired then some registration.id else none
  | _ => none

/-- The descriptor that a happening retains for an identity. -/
def retains (happening : Happening) (id : RegistrationId) :
    Option Descriptor :=
  if happening.mints = some id then happening.offers else none

end Happening

/-- The descriptor that was retained for an identity. -/
def retained (past : List Happening) (id : RegistrationId) :
    Option Descriptor :=
  past.findSome? fun happening => happening.retains id

/-- The numbers that a happening closes: the duplicate that a registration
without a handle could not keep, and what was retained for a registration that
a deletion retires. -/
def closings (past : List Happening) (happening : Happening) : List Fd :=
  match happening.retires with
  | some id => (retained past id).toList.flatMap Descriptor.drop
  | none =>
      if happening.mints = none then
        happening.offers.toList.flatMap Descriptor.drop
      else []

theorem retained_append
    (past : List Happening) (happening : Happening) (id : RegistrationId) :
    retained (past ++ [happening]) id =
      (retained past id).or (happening.retains id) := by
  unfold retained
  rw [List.findSome?_append]
  simp

/-- The descriptor of a live identity. -/
def RegistrationTable.descriptorOf
    (self : RegistrationTable) (id : RegistrationId) :
    Option Descriptor :=
  (self.lookup id).map Entry.descriptor

theorem applyDisarm_descriptorOf
    (table : RegistrationTable) (id : RegistrationId)
    (commit : CommitStatus) (other : RegistrationId) :
    (table.applyDisarm id commit).1.descriptorOf other =
      table.descriptorOf other := by
  rcases RegistrationTable.applyDisarm_cases table id commit with
    ⟨index, slot, entry, located, _, result⟩ | ⟨_, _, _, result⟩ |
      ⟨_, result⟩
  · rw [result, RegistrationTable.descriptorOf,
      RegistrationTable.lookup_writeEntry located]
    split
    · rename_i same
      rw [same, RegistrationTable.descriptorOf, located.lookup]
      rfl
    · rfl
  · rw [result]
  · rw [result]

/-! ## The live identities of a table -/

namespace RegistrationTable

/-- The identities of the occupied slots, in slot order. -/
def liveIds (self : RegistrationTable) : List RegistrationId :=
  self.slots.zipIdx.filterMap fun place =>
    place.1.entry.map fun _ => idAt place.2 place.1

theorem WellFormed.located_place
    {table : RegistrationTable} (wellFormed : table.WellFormed)
    {place : Slot × Nat} (member : place ∈ table.slots.zipIdx)
    {entry : Entry} (present : place.1.entry = some entry) :
    table.Located (idAt place.2 place.1) place.2 place.1 entry :=
  wellFormed.located_idAt (List.mem_zipIdx_iff_getElem?.mp member) present

theorem WellFormed.liveIds_nodup
    {table : RegistrationTable} (wellFormed : table.WellFormed) :
    table.liveIds.Nodup := by
  have apart : table.slots.zipIdx.Pairwise fun first second =>
      first.2 ≠ second.2 := by
    have positions : (List.range' 0 table.slots.length).Nodup :=
      List.nodup_range'
    rw [← List.zipIdx_map_snd 0 table.slots] at positions
    exact List.pairwise_map.mp positions
  unfold liveIds
  refine List.pairwise_filterMap.mpr (apart.imp_of_mem ?_)
  intro first second firstMember secondMember different firstId firstHere
    secondId secondHere same
  obtain ⟨firstEntry, firstPresent, rfl⟩ :=
    Option.map_eq_some_iff.mp firstHere
  obtain ⟨secondEntry, secondPresent, rfl⟩ :=
    Option.map_eq_some_iff.mp secondHere
  obtain ⟨_, firstDecoded, _⟩ :=
    (wellFormed.located_place firstMember firstPresent).decoded
  obtain ⟨_, secondDecoded, _⟩ :=
    (wellFormed.located_place secondMember secondPresent).decoded
  rw [same, secondDecoded] at firstDecoded
  exact different (congrArg Prod.fst (Except.ok.inj firstDecoded)).symm

theorem WellFormed.mem_liveIds
    {table : RegistrationTable} (wellFormed : table.WellFormed)
    (id : RegistrationId) :
    id ∈ table.liveIds ↔ table.lookup id ≠ none := by
  constructor
  · intro member
    obtain ⟨place, placed, here⟩ := List.mem_filterMap.mp member
    obtain ⟨entry, present, rfl⟩ := Option.map_eq_some_iff.mp here
    rw [(wellFormed.located_place placed present).lookup]
    simp
  · intro live
    obtain ⟨entry, held⟩ := Option.ne_none_iff_exists'.mp live
    obtain ⟨index, slot, located⟩ :=
      (lookup_eq_some_iff table id entry).mp held
    refine List.mem_filterMap.mpr
      ⟨(slot, index), List.mem_zipIdx_iff_getElem?.mpr located.found, ?_⟩
    rw [located.occupied, Option.map_some,
      (wellFormed.located_idAt located.found located.occupied).id_unique
        located]

/-- Dropping a table drops the descriptor of every live identity once. -/
theorem WellFormed.drops_eq
    {table : RegistrationTable} (wellFormed : table.WellFormed) :
    table.drops = table.liveIds.filterMap table.descriptorOf := by
  unfold drops liveIds
  nth_rewrite 1 [← List.zipIdx_map_fst 0 table.slots]
  rw [List.filterMap_map, List.filterMap_filterMap]
  refine List.filterMap_congr fun place member => ?_
  cases present : place.1.entry with
  | none => simp [present]
  | some entry =>
      simp [present, descriptorOf,
        (wellFormed.located_place member present).lookup]

end RegistrationTable

namespace MutationSession

variable {σ : Type*}

/-- The descriptors that a happening drops. -/
def drops
    (backend : MutationDriver σ) (self : MutationSession σ) :
    Happening → List Descriptor
  | .called request _ _ =>
      (callDropping backend.logged (self.withDriver (self.driver, []))
        request).2
  | _ => []

/-- One happening with the numbers that it closes. -/
def ClosingStep
    (backend : MutationDriver σ) (before : MutationSession σ)
    (label : Happening × List Fd) (after : MutationSession σ) : Prop :=
  Step backend before label.1 after ∧
    label.2 = (drops backend before label.1).flatMap Descriptor.drop

/-- What one happening does to the retained descriptors. -/
structure Accounts
    (before after : RegistrationTable) (happening : Happening) : Prop where
  after : ∀ id,
    after.descriptorOf id =
      if happening.mints = some id then happening.offers
      else if happening.retires = some id then none
      else before.descriptorOf id
  minted : ∀ id, happening.mints = some id →
    happening.offers ≠ none ∧ happening.retires = none
  retired : ∀ id, happening.retires = some id →
    before.descriptorOf id ≠ none
  asked : ∀ exchange ∈ happening.exchanges, ∃ descriptor,
    exchange.descriptor = descriptor.asFd ∧
      (before.descriptorOf exchange.registration = some descriptor ∨
        happening.offers = some descriptor ∧
          (happening.mints = none ∨
            happening.mints = some exchange.registration))

/-- A call that brings a descriptor in registers it. -/
theorem call_retains
    (backend : MutationDriver σ) (session : MutationSession σ)
    {request : Call} {descriptor : Descriptor}
    (brings : request.retains = some descriptor) :
    ∃ key interest mode,
      call backend session request =
        ((registerDescriptor backend session descriptor key interest
            mode).1,
          .register
            (registerDescriptor backend session descriptor key interest
              mode).2) := by
  cases request with
  | register duplicate key interest mode =>
      cases duplicate with
      | error source => cases brings
      | ok source =>
          simp only [Call.retains] at brings
          split at brings
          · cases brings
          · rename_i interested
            cases brings
            refine ⟨key, interest, mode, ?_⟩
            simp [call, register, validateRegistrationInterest,
              interested]
  | registerBorrowed source key interest mode =>
      simp only [Call.retains] at brings
      split at brings
      · cases brings
      · rename_i interested
        cases brings
        refine ⟨key, interest, mode, ?_⟩
        simp [call, registerBorrowed, validateRegistrationInterest,
          interested]
  | modify | delete | registrationState => cases brings

/-- A call with an accepted intake brings a descriptor in. -/
theorem retains_ne_none
    {request : Call} {intake : Intake} {descriptor : Fd}
    (taken : request.intake = some intake)
    (interested : intake.interest.isEmpty = false)
    (duplicated : intake.duplicate = .ok descriptor) :
    request.retains ≠ none := by
  cases request with
  | register duplicate key interest mode =>
      cases taken
      cases duplicated
      simp only [Call.retains, if_neg (Bool.eq_false_iff.mp interested),
        ne_eq, reduceCtorEq, not_false_eq_true]
  | registerBorrowed source key interest mode =>
      cases taken
      simp only [Call.retains, if_neg (Bool.eq_false_iff.mp interested),
        ne_eq, reduceCtorEq, not_false_eq_true]
  | modify | delete | registrationState => cases taken

/-- A call that brings no descriptor in leaves all others alone, or deletes
one. -/
theorem Accounts.unchanged
    {table : RegistrationTable} {happening : Happening}
    (mintless : happening.mints = none)
    (retireless : happening.retires = none)
    (quiet : happening.exchanges = []) :
    Accounts table table happening := by
  refine ⟨?_, ?_, ?_, ?_⟩
  · intro id
    simp [mintless, retireless]
  · intro id minted
    rw [mintless] at minted
    cases minted
  · intro id retired
    rw [retireless] at retired
    cases retired
  · intro exchange member
    rw [quiet] at member
    cases member

theorem registerReply_minted
    (registration : Registration) (answer : Answer) :
    (Reply.register (registerReply registration answer)).minted =
      if answerCommit answer = .notApplied then none
      else some registration := by
  cases answer with
  | ok done => rfl
  | error failure => rfl

theorem registerSettlement_descriptor
    (entry : Entry) (commit : CommitStatus) :
    ((registerSettlement commit).remaining entry).map Entry.descriptor =
      if commit = .notApplied then none else some entry.descriptor := by
  cases commit <;> rfl

theorem deleteSettlement_descriptor
    (entry : Entry) (commit : CommitStatus) :
    ((deleteSettlement commit).remaining entry).map Entry.descriptor =
      if commit = .applied then none else some entry.descriptor := by
  cases commit <;> rfl

theorem deleteReply_retired
    (registration : Registration) (answer : Answer) :
    (Reply.delete (deleteReply registration answer)).retired =
      decide (answerCommit answer = .applied) := by
  cases answer with
  | ok done => rfl
  | error failure =>
      rcases failure with ⟨commit, source⟩
      cases commit <;> rfl

theorem Registers.accounts
    {backend : MutationDriver σ}
    {session : MutationSession (σ × List Exchange)}
    {descriptor : Descriptor} {key : Key} {interest : Interest}
    {mode : Mode} {request : Call}
    {result : MutationSession (σ × List Exchange) ×
      Except RegisterError Registration}
    (wellFormed : session.registrations.WellFormed)
    (quiet : session.driver.2 = [])
    (brings : request.retains = some descriptor)
    (registers : Registers backend.logged session descriptor key interest
      mode result) :
    Accounts session.registrations result.1.registrations
      (.called request result.1.driver.2 (.register result.2)) := by
  have retireless : ∀ exchanges reply,
      (Happening.called request exchanges (.register reply)).retires =
        none := by
    intro exchanges reply
    cases request with
    | delete => cases brings
    | register | registerBorrowed | modify | registrationState => rfl
  cases registers with
  | full full => exact Accounts.unchanged rfl (retireless _ _) quiet
  | unowned nextPollId room vacant =>
      exact Accounts.unchanged rfl (retireless _ _) quiet
  | answered owner nextPollId registration lease driver answer room
      assigned reserves moves exhausted asked =>
      simp only [MutationDriver.logged, quiet, List.nil_append,
        Prod.mk.injEq] at asked
      obtain ⟨rfl, answered⟩ := asked
      have lookup :=
        RegistrationTable.WellFormed.settle_lookup (wellFormed.moves moves)
          reserves.holds (registerSettlement (answerCommit answer))
      have mints : ∀ exchanges,
          (Happening.called request exchanges
            (.register (registerReply registration answer))).mints =
              if answerCommit answer = .notApplied then none
              else some registration.id := by
        intro exchanges
        simp only [Happening.mints, registerReply_minted]
        split <;> rfl
      refine ⟨?_, ?_, ?_, ?_⟩
      · intro id
        rw [mints, retireless, RegistrationTable.descriptorOf, lookup]
        by_cases same : id = registration.id
        · subst same
          rw [if_pos rfl, registerSettlement_descriptor]
          by_cases refused : answerCommit answer = .notApplied
          · simp [refused, RegistrationTable.descriptorOf,
              reserves.absent]
          · simp [refused, Happening.offers, brings, Entry.registered]
        · rw [if_neg same, reserves.lookup, if_neg same]
          have apart : ¬ registration.id = id := fun other =>
            same other.symm
          by_cases refused : answerCommit answer = .notApplied
          · simp [refused, RegistrationTable.descriptorOf]
          · simp [refused, apart, RegistrationTable.descriptorOf]
      · intro id minted
        exact ⟨by simp [Happening.offers, brings], retireless _ _⟩
      · intro id retired
        rw [retireless] at retired
        cases retired
      · intro exchange member
        rw [List.mem_singleton.mp member]
        refine ⟨descriptor, rfl, Or.inr ⟨brings, ?_⟩⟩
        rw [mints]
        by_cases refused : answerCommit answer = .notApplied
        · exact Or.inl (if_pos refused)
        · exact Or.inr (if_neg refused)

theorem intake_retires
    {request : Call} {intake : Intake}
    (taken : request.intake = some intake) (exchanges : List Exchange)
    (reply : Reply) :
    (Happening.called request exchanges reply).retires = none := by
  cases request with
  | register | registerBorrowed => rfl
  | modify | delete | registrationState => cases taken

theorem deleteRefusal_retired
    {owner : Option PollId} {registration : Registration}
    {state : Option RegistrationState} {error : Error}
    (refused : deleteRefusal owner registration state = some error) :
    (Reply.delete (.error { error, registration })).retired = false := by
  unfold deleteRefusal at refused
  split at refused
  · cases refused
    rfl
  · split at refused
    · cases refused
      rfl
    · cases refused

theorem Effect.accounts
    {backend : MutationDriver σ}
    {session : MutationSession (σ × List Exchange)} {request : Call}
    {result : MutationSession (σ × List Exchange) × Reply}
    (wellFormed : session.registrations.WellFormed)
    (quiet : session.driver.2 = []) (brings : request.retains = none)
    (effect : Effect backend.logged session request result) :
    Accounts session.registrations result.1.registrations
      (.called request result.1.driver.2 result.2) := by
  cases effect with
  | invalidInterest taken _ =>
      exact Accounts.unchanged rfl (intake_retires taken _ _) quiet
  | duplicationFailed taken _ _ =>
      exact Accounts.unchanged rfl (intake_retires taken _ _) quiet
  | registering taken interested duplicated _ =>
      exact (retains_ne_none taken interested duplicated brings).elim
  | modifyRefused _ => exact Accounts.unchanged rfl rfl quiet
  | queried => exact Accounts.unchanged rfl rfl quiet
  | deleteRefused refused =>
      refine Accounts.unchanged rfl ?_ quiet
      simp [Happening.retires, deleteRefusal_retired refused]
  | @modified registration interest mode entry arm driver answer accepted
      present held asked =>
      simp only [MutationDriver.logged, quiet, List.nil_append,
        Prod.mk.injEq] at asked
      obtain ⟨rfl, answered⟩ := asked
      refine ⟨?_, ?_, ?_, ?_⟩
      · intro id
        simp only [Happening.mints, Reply.minted, Option.map_none,
          Happening.retires, reduceCtorEq, if_false,
          RegistrationTable.descriptorOf]
        rw [RegistrationTable.modifySettled_lookup present]
        split
        · rename_i same
          rw [same, present]
          cases answerCommit answer <;> rfl
        · rfl
      · intro id minted
        cases minted
      · intro id retired
        cases retired
      · intro exchange member
        rw [List.mem_singleton.mp member]
        refine ⟨entry.descriptor, rfl, Or.inl ?_⟩
        simp [RegistrationTable.descriptorOf, Exchange.registration,
          present]
  | @deleted registration lease entry driver answer accepted same holds
      asked =>
      simp only [MutationDriver.logged, quiet, List.nil_append,
        Prod.mk.injEq] at asked
      obtain ⟨rfl, answered⟩ := asked
      have present : session.registrations.lookup registration.id =
          some entry := by
        rw [← same]
        exact holds.located.lookup
      have lookup :=
        RegistrationTable.WellFormed.settle_lookup
          (by rw [same]; exact wellFormed) holds
          (deleteSettlement (answerCommit answer))
      have retires : ∀ exchanges,
          (Happening.called (.delete registration) exchanges
            (.delete (deleteReply registration answer))).retires =
              if answerCommit answer = .applied then
                some registration.id
              else none := by
        intro exchanges
        simp [Happening.retires, deleteReply_retired]
      refine ⟨?_, ?_, ?_, ?_⟩
      · intro id
        rw [retires, RegistrationTable.descriptorOf, lookup]
        simp only [Happening.mints, Reply.minted, Option.map_none,
          reduceCtorEq, if_false]
        by_cases here : id = registration.id
        · subst here
          rw [if_pos rfl, deleteSettlement_descriptor]
          by_cases applied : answerCommit answer = .applied
          · simp [applied]
          · simp [applied, RegistrationTable.descriptorOf, present]
        · have apart : ¬ registration.id = id := fun other =>
            here other.symm
          rw [if_neg here, same]
          by_cases applied : answerCommit answer = .applied
          · simp [applied, apart, RegistrationTable.descriptorOf]
          · simp [applied, RegistrationTable.descriptorOf]
      · intro id minted
        cases minted
      · intro id retired
        rw [retires] at retired
        split at retired
        · cases retired
          simp [RegistrationTable.descriptorOf, present]
        · cases retired
      · intro exchange member
        rw [List.mem_singleton.mp member]
        refine ⟨entry.descriptor, rfl, Or.inl ?_⟩
        simp [RegistrationTable.descriptorOf, Exchange.registration,
          present]

theorem Step.accounts
    {backend : MutationDriver σ} {before after : MutationSession σ}
    {happening : Happening}
    (wellFormed : before.registrations.WellFormed)
    (step : Step backend before happening after) :
    Accounts before.registrations after.registrations happening := by
  cases step with
  | @called _ request exchanges reply performed =>
      cases brings : request.retains with
      | some descriptor =>
          obtain ⟨key, interest, mode, shape⟩ :=
            call_retains backend.logged
              (before.withDriver (before.driver, [])) brings
          have registers :=
            registerDescriptor_registers backend.logged
              (before.withDriver (before.driver, [])) wellFormed
              descriptor key interest mode
          have accounts := registers.accounts wellFormed rfl brings
          rw [performed, Prod.mk.injEq] at shape
          rw [← shape.1, ← shape.2] at accounts
          exact accounts
      | none =>
          have effect :=
            call_effect backend.logged
              (before.withDriver (before.driver, [])) wellFormed request
          rw [performed] at effect
          exact effect.accounts wellFormed rfl brings
  | elsewhere nextPollId => exact Accounts.unchanged rfl rfl rfl
  | disarmed id commit =>
      refine ⟨?_, ?_, ?_, ?_⟩
      · intro other
        simp only [Happening.mints, Happening.retires, reduceCtorEq,
          if_false]
        exact applyDisarm_descriptorOf before.registrations id commit other
      · intro other minted
        cases minted
      · intro other retired
        cases retired
      · intro exchange member
        cases member

/-! ## Freshness -/

theorem settleReservation_minted
    {session : MutationSession σ} {registration minted : Registration}
    {reserved :
      Except (RegistrationTable × Error) (SlotLease × σ × Answer)}
    (mints : (Reply.register
      (session.settleReservation registration reserved).2).minted =
        some minted) :
    minted = registration := by
  cases reserved with
  | error failed => cases mints
  | ok granted =>
      rcases granted with ⟨reservation, driver, native⟩
      cases native with
      | ok done => exact (Option.some.inj mints).symm
      | error failure =>
          simp only [settleReservation, settleRegisterFailure] at mints
          cases commit : failure.commit with
          | notApplied =>
              rw [commit] at mints
              rcases retired : reservation.retire with ⟨table, settled⟩
              rw [retired] at mints
              cases settled <;> cases mints
          | applied =>
              rw [commit] at mints
              exact (Option.some.inj mints).symm
          | unknown =>
              rw [commit] at mints
              rcases marked : reservation.markUncertain with
                ⟨table, settled⟩
              rw [marked] at mints
              cases settled with
              | error state => exact (Option.some.inj mints).symm
              | ok done => exact (Option.some.inj mints).symm

theorem registerReused_fresh
    {backend : MutationDriver σ} {session : MutationSession σ}
    {descriptor : Descriptor} {key : Key} {interest : Interest}
    {mode : Mode} {minted : Registration}
    (mints : (Reply.register
      (registerReused backend session descriptor key interest
        mode).2).minted = some minted) :
    ¬ session.registrations.Issued minted.id := by
  unfold registerReused at mints
  cases granted : session.registrations.reusedPermit with
  | error error =>
      rw [granted] at mints
      cases mints
  | ok permit =>
      simp only [granted] at mints
      split at mints
      · cases mints
      · rw [settleReservation_minted mints]
        exact RegistrationTable.reusedPermit_not_issued granted

theorem registerFresh_fresh
    {backend : MutationDriver σ} {session : MutationSession σ}
    {descriptor : Descriptor} {key : Key} {interest : Interest}
    {mode : Mode} {minted : Registration}
    (mints : (Reply.register
      (registerFresh backend session descriptor key interest
        mode).2).minted = some minted) :
    ¬ session.registrations.Issued minted.id := by
  unfold registerFresh at mints
  cases granted : session.registrations.freshPermit with
  | error error =>
      rw [granted] at mints
      cases mints
  | ok permit =>
      simp only [granted] at mints
      split at mints
      · cases mints
      · rw [settleReservation_minted mints]
        exact RegistrationTable.freshPermit_not_issued granted

/-- A registration hands out an identity that was never issued. -/
theorem Step.mints_fresh
    {backend : MutationDriver σ} {before after : MutationSession σ}
    {happening : Happening} {id : RegistrationId}
    (wellFormed : before.registrations.WellFormed)
    (step : Step backend before happening after)
    (mints : happening.mints = some id) :
    ¬ before.registrations.Issued id := by
  have brings := ((step.accounts wellFormed).minted id mints).1
  cases step with
  | @called _ request exchanges reply performed =>
      obtain ⟨descriptor, offered⟩ := Option.ne_none_iff_exists'.mp brings
      obtain ⟨key, interest, mode, shape⟩ :=
        call_retains backend.logged
          (before.withDriver (before.driver, [])) offered
      rw [performed, Prod.mk.injEq] at shape
      simp only [Happening.mints, Option.map_eq_some_iff] at mints
      obtain ⟨minted, replied, rfl⟩ := mints
      rw [shape.2] at replied
      unfold registerDescriptor at replied
      split at replied
      · have unissued := registerReused_fresh replied
        exact unissued
      · have unissued := registerFresh_fresh replied
        exact unissued
  | elsewhere nextPollId => cases mints
  | disarmed other commit => cases mints

/-! ## Whole runs -/

/-- The history agrees with the table: live entries hold what was retained for
them, and every identity that was handed out is live or was retired once. -/
structure Linear (past : List Happening) (table : RegistrationTable) :
    Prop where
  wellFormed : table.WellFormed
  held : ∀ id descriptor, table.descriptorOf id = some descriptor →
    retained past id = some descriptor
  counted : ∀ id,
    (past.filterMap Happening.retires).count id +
        (if table.descriptorOf id = none then 0 else 1) =
      (past.filterMap Happening.mints).count id
  distinct : (past.filterMap Happening.mints).Nodup
  issued : ∀ id ∈ past.filterMap Happening.mints, table.Issued id
  known : ∀ id, retained past id ≠ none ↔
    id ∈ past.filterMap Happening.mints

theorem descriptorOf_issued
    {table : RegistrationTable} {id : RegistrationId}
    (live : table.descriptorOf id ≠ none) :
    table.Issued id := by
  obtain ⟨descriptor, held⟩ := Option.ne_none_iff_exists'.mp live
  obtain ⟨entry, present, _⟩ := Option.map_eq_some_iff.mp held
  obtain ⟨index, slot, located⟩ :=
    (RegistrationTable.lookup_eq_some_iff table id entry).mp present
  exact located.issued

theorem filterMap_append_one
    {α β : Type*} (view : α → Option β) (past : List α) (last : α) :
    (past ++ [last]).filterMap view =
      past.filterMap view ++ (view last).toList := by
  rw [List.filterMap_append]
  cases viewed : view last <;> simp [viewed]

theorem Linear.step
    {backend : MutationDriver σ} {before after : MutationSession σ}
    {past : List Happening} {happening : Happening}
    (linear : Linear past before.registrations)
    (step : Step backend before happening after) :
    Linear (past ++ [happening]) after.registrations := by
  have accounts := step.accounts linear.wellFormed
  have progress :=
    RegistrationTable.Moves.progress (step.moves linear.wellFormed)
  have fresh : ∀ id, happening.mints = some id →
      id ∉ past.filterMap Happening.mints ∧ retained past id = none := by
    intro id mints
    have absent : id ∉ past.filterMap Happening.mints := fun member =>
      step.mints_fresh linear.wellFormed mints (linear.issued id member)
    refine ⟨absent, ?_⟩
    by_contra kept
    exact absent ((linear.known id).mp kept)
  refine ⟨?_, ?_, ?_, ?_, ?_, ?_⟩
  · exact linear.wellFormed.moves (step.moves linear.wellFormed)
  · intro id descriptor live
    rw [accounts.after] at live
    rw [retained_append]
    split at live
    · rename_i mints
      rw [(fresh id mints).2, Option.none_or, Happening.retains,
        if_pos mints]
      exact live
    · split at live
      · cases live
      · rw [linear.held id descriptor live]
        rfl
  · intro id
    have counted := linear.counted id
    rw [filterMap_append_one, filterMap_append_one, List.count_append,
      List.count_append, accounts.after]
    by_cases mints : happening.mints = some id
    · obtain ⟨offered, retireless⟩ := accounts.minted id mints
      have vacant : before.registrations.descriptorOf id = none := by
        by_contra live
        exact step.mints_fresh linear.wellFormed mints
          (descriptorOf_issued live)
      rw [if_pos vacant] at counted
      simp [mints, retireless, offered]
      omega
    · rw [if_neg mints]
      have unminted : happening.mints.toList.count id = 0 := by
        rw [List.count_eq_zero]
        simpa using mints
      by_cases retires : happening.retires = some id
      · rw [if_neg (accounts.retired id retires)] at counted
        simp [retires, unminted]
        omega
      · have unretired : happening.retires.toList.count id = 0 := by
          rw [List.count_eq_zero]
          simpa using retires
        rw [if_neg retires, unminted, unretired]
        omega
  · rw [filterMap_append_one]
    cases mints : happening.mints with
    | none => simpa using linear.distinct
    | some id =>
        rw [Option.toList_some, List.nodup_append]
        refine ⟨linear.distinct, List.nodup_singleton id, ?_⟩
        intro first firstMember second secondMember same
        rw [List.mem_singleton.mp secondMember] at same
        rw [same] at firstMember
        exact (fresh id mints).1 firstMember
  · intro id member
    rw [filterMap_append_one] at member
    rcases List.mem_append.mp member with earlier | last
    · exact (linear.issued id earlier).mono progress
    · have mints : happening.mints = some id := by simpa using last
      apply descriptorOf_issued
      rw [accounts.after, if_pos mints]
      exact (accounts.minted id mints).1
  · intro id
    rw [retained_append, filterMap_append_one, List.mem_append,
      ← linear.known id]
    have last : id ∈ happening.mints.toList ↔
        happening.retains id ≠ none := by
      unfold Happening.retains
      by_cases mints : happening.mints = some id
      · simp [mints, (accounts.minted id mints).1]
      · simp [mints]
    rw [last]
    cases retained past id <;> simp

theorem closings_of_retires
    {past : List Happening} {happening : Happening} {id : RegistrationId}
    (retires : happening.retires = some id) :
    closings past happening =
      (retained past id).toList.flatMap Descriptor.drop := by
  unfold closings
  rw [retires]

theorem closings_of_not_retires
    {past : List Happening} {happening : Happening}
    (retires : happening.retires = none) :
    closings past happening =
      if happening.mints = none then
        happening.offers.toList.flatMap Descriptor.drop
      else [] := by
  unfold closings
  rw [retires]

/-- What a happening drops is what its history says. -/
theorem Linear.closings_eq
    {backend : MutationDriver σ} {before after : MutationSession σ}
    {past : List Happening} {happening : Happening}
    (linear : Linear past before.registrations)
    (step : Step backend before happening after) :
    (drops backend before happening).flatMap Descriptor.drop =
      closings past happening := by
  have accounts := step.accounts linear.wellFormed
  cases step with
  | elsewhere nextPollId => rfl
  | disarmed id commit => rfl
  | @called _ request exchanges reply performed =>
      have dropped :=
        congrArg Prod.snd (callDropping_eq backend.logged
          (before.withDriver (before.driver, [])) linear.wellFormed request)
      rw [performed] at dropped
      simp only [drops, dropped]
      cases request with
      | delete registration =>
          simp only
          by_cases retired : reply.retired = true
          · have retires :
                (Happening.called (.delete registration) exchanges
                  reply).retires = some registration.id := by
              simp [Happening.retires, retired]
            have live := accounts.retired registration.id retires
            obtain ⟨descriptor, held⟩ :=
              Option.ne_none_iff_exists'.mp live
            rw [closings_of_retires retires,
              linear.held registration.id descriptor held, if_pos retired]
            exact congrArg
              (fun found => found.toList.flatMap Descriptor.drop) held
          · have retires :
                (Happening.called (.delete registration) exchanges
                  reply).retires = none := by
              simp [Happening.retires, retired]
            rw [closings_of_not_retires retires, if_neg retired]
            simp [Happening.offers, Call.retains]
      | register | registerBorrowed | modify | registrationState =>
          rw [closings_of_not_retires rfl]
          simp only [Happening.mints, Happening.offers,
            Option.map_eq_none_iff]
          split <;> rfl

theorem Linear.new
    {limit : NonZeroUsize} {allocated : Bool} {table : RegistrationTable}
    (created : RegistrationTable.new limit allocated = .ok table) :
    Linear [] table := by
  have vacant : ∀ id, table.descriptorOf id = none := by
    intro id
    rw [RegistrationTable.descriptorOf,
      RegistrationTable.new_lookup created]
    rfl
  refine ⟨RegistrationTable.new_wellFormed created, ?_, ?_,
    List.nodup_nil, ?_, ?_⟩
  · intro id descriptor live
    rw [vacant] at live
    cases live
  · intro id
    rw [if_pos (vacant id)]
    rfl
  · intro id member
    cases member
  · intro id
    simp [retained]

/-- The history of a run agrees with the table that it reaches. -/
theorem Linear.run
    {backend : MutationDriver σ} {start finish : MutationSession σ}
    {past : List Happening} {labels : List (Happening × List Fd)}
    (linear : Linear past start.registrations)
    (execution : Execution (ClosingStep backend) start labels finish) :
    Linear (past ++ labels.map Prod.fst) finish.registrations := by
  induction execution generalizing past with
  | refl state => simpa using linear
  | cons first _ inductionHypothesis =>
      have next := inductionHypothesis (linear.step first.1)
      simpa using next

/-- Along every run of a poller, each happening closes what its history says
and asks its driver about the retained number; a handle is retired at most
once, and until then its entry holds the descriptor that was retained for it;
dropping the poller closes what is left.  An owned duplicate is closed by its
drop and a borrowed descriptor never is, and both keep their number. -/
theorem descriptors_linear
    {limit : NonZeroUsize} {allocated : Bool}
    {backend : MutationDriver σ} {start finish : MutationSession σ}
    {labels : List (Happening × List Fd)}
    (created :
      RegistrationTable.new limit allocated = .ok start.registrations)
    (run : Execution (ClosingStep backend) start labels finish) :
    (∀ earlier happening closed later,
        labels = earlier ++ (happening, closed) :: later →
          closed = closings (earlier.map Prod.fst) happening ∧
            ∀ exchange ∈ happening.exchanges, ∃ descriptor,
              exchange.descriptor = descriptor.asFd ∧
                (retained (earlier.map Prod.fst ++ [happening])
                    exchange.registration = some descriptor ∨
                  happening.mints = none ∧
                    happening.offers = some descriptor)) ∧
      ((labels.map Prod.fst).filterMap Happening.mints).Nodup ∧
      (∀ id ∈ (labels.map Prod.fst).filterMap Happening.mints,
        ∃ descriptor,
          retained (labels.map Prod.fst) id = some descriptor ∧
            ((finish.registrations.descriptorOf id = some descriptor ∧
                ((labels.map Prod.fst).filterMap
                  Happening.retires).count id = 0) ∨
              (finish.registrations.descriptorOf id = none ∧
                ((labels.map Prod.fst).filterMap
                  Happening.retires).count id = 1))) ∧
      finish.registrations.liveIds.Nodup ∧
      (∀ id, id ∈ finish.registrations.liveIds ↔
        finish.registrations.descriptorOf id ≠ none) ∧
      finish.registrations.drops.flatMap Descriptor.drop =
        (finish.registrations.liveIds.filterMap
          (retained (labels.map Prod.fst))).flatMap Descriptor.drop ∧
      ∀ descriptor : Fd,
        (Descriptor.owned descriptor).drop = [descriptor] ∧
          (Descriptor.borrowed descriptor).drop = [] ∧
          (Descriptor.owned descriptor).asFd = descriptor ∧
          (Descriptor.borrowed descriptor).asFd = descriptor := by
  have initial := Linear.new created
  have linear := initial.run run
  rw [List.nil_append] at linear
  refine ⟨?_, linear.distinct, ?_, linear.wellFormed.liveIds_nodup, ?_, ?_,
    ?_⟩
  · rintro earlier happening closed later rfl
    obtain ⟨middle, before, after⟩ := run.split
    cases after with
    | cons first rest =>
        have past := initial.run before
        rw [List.nil_append] at past
        have closes := past.closings_eq first.1
        refine ⟨first.2.trans closes, ?_⟩
        intro exchange member
        have accounts := first.1.accounts past.wellFormed
        obtain ⟨descriptor, same, source⟩ :=
          accounts.asked exchange member
        refine ⟨descriptor, same, ?_⟩
        rcases source with live | ⟨offered, unminted | minted⟩
        · rw [retained_append, past.held _ descriptor live]
          exact Or.inl rfl
        · exact Or.inr ⟨unminted, offered⟩
        · refine Or.inl ((past.step first.1).held _ descriptor ?_)
          rw [accounts.after, if_pos minted]
          exact offered
  · intro id minted
    obtain ⟨descriptor, kept⟩ :=
      Option.ne_none_iff_exists'.mp ((linear.known id).mpr minted)
    refine ⟨descriptor, kept, ?_⟩
    have counted := linear.counted id
    rw [List.count_eq_one_of_mem linear.distinct minted] at counted
    cases live : finish.registrations.descriptorOf id with
    | none =>
        rw [if_pos live] at counted
        exact Or.inr ⟨rfl, by omega⟩
    | some held =>
        rw [if_neg (by simp [live])] at counted
        have same := linear.held id held live
        rw [kept] at same
        cases same
        exact Or.inl ⟨rfl, by omega⟩
  · intro id
    rw [linear.wellFormed.mem_liveIds, RegistrationTable.descriptorOf,
      ne_eq, ne_eq, Option.map_eq_none_iff]
  · rw [linear.wellFormed.drops_eq]
    congr 1
    refine List.filterMap_congr fun id member => ?_
    have live : finish.registrations.descriptorOf id ≠ none := by
      rw [RegistrationTable.descriptorOf, ne_eq, Option.map_eq_none_iff]
      exact (linear.wellFormed.mem_liveIds id).mp member
    obtain ⟨descriptor, held⟩ := Option.ne_none_iff_exists'.mp live
    rw [held, linear.held id descriptor held]
  · intro descriptor
    exact ⟨Descriptor.drop_owned descriptor,
      Descriptor.drop_borrowed descriptor,
      Descriptor.asFd_owned descriptor,
      Descriptor.asFd_borrowed descriptor⟩

/-- The poller whose deletion got lost still owns the duplicate, and drops
it. -/
theorem firstCalls_linear :
    ∃ finish,
      Execution (ClosingStep forgetfulDriver) smallPoller
          (firstCalls.map fun happening => (happening, [])) finish ∧
        finish.registrations.drops.flatMap Descriptor.drop =
          [firstDescriptor] := by
  let table : RegistrationState → RegistrationTable := fun state =>
    { smallPoller.registrations with
      slots :=
        [{ generation := 1
           entry :=
            some
              { Entry.registered (Descriptor.owned firstDescriptor) ⟨7⟩
                  Interest.readable .oneShot with
                state }
           nextFree := freeEnd }] }
  let session : RegistrationState → MutationSession Unit := fun state =>
    { nextPollId := 2
      owner := ⟨1⟩
      registrations := table state
      driver := () }
  have run :
      Execution (ClosingStep forgetfulDriver) smallPoller
        (firstCalls.map fun happening => (happening, []))
        (session .uncertain) :=
    Execution.cons
      (show ClosingStep forgetfulDriver smallPoller _
          (session (.registered .armed)) from ⟨Step.called rfl, rfl⟩)
      (Execution.cons ⟨Step.called rfl, rfl⟩ (Execution.refl _))
  have created :
      RegistrationTable.new ⟨1, Nat.one_pos⟩ true =
        .ok smallPoller.registrations := rfl
  obtain ⟨_, _, _, _, _, dropped, _⟩ := descriptors_linear created run
  exact ⟨session .uncertain, run, dropped.trans (by decide)⟩

end MutationSession

end Zio
