import Mathlib.Logic.Function.Basic
import Zio.Mutation.Registry

/-!
# Pollers that share one counter

Any number of pollers run concurrently.  They share nothing but the counter
that hands out their identities, and the counter is touched by one atomic
update in the middle of a first registration.  So a call is cut there: it
starts, it may draw from the counter, and it returns, with the steps of other
pollers anywhere in between.
-/

namespace Zio

open Transition

/-! ## Calls that draw an identity -/

/-- Whether the admitting path of the table grants a slot. -/
def RegistrationTable.grants (self : RegistrationTable) : Bool :=
  if self.hasReusableSlot then self.reusedPermit.isOk
  else self.freshPermit.isOk

/-- The shared counter after one `fetch_update`. -/
def nextDrawn (next : UInt64) : UInt64 :=
  if next = u64Max then next else next + 1

theorem u64_lt_succ {value : UInt64} (notMax : value ≠ u64Max) :
    value.toNat < (value + 1).toNat := by
  have bound : value.toNat < 2 ^ 64 := value.toNat_lt
  have different : value.toNat ≠ u64Max.toNat := fun same =>
    notMax (UInt64.toNat_inj.mp same)
  have size : u64Max.toNat = 2 ^ 64 - 1 := rfl
  rw [UInt64.toNat_add, UInt64.toNat_one]
  omega

namespace PollOwner

theorem assignFrom_counter (owner : PollOwner) (next : UInt64) :
    (owner.assignFrom next).2.1 = nextDrawn next := by
  unfold assignFrom nextDrawn
  split
  · rfl
  · split <;> rfl

/-- An assignment takes the drawn value, unless none could be drawn. -/
theorem assignFrom_owner (owner : PollOwner) (next : UInt64) :
    (owner.assignFrom next).1 =
      if next = u64Max ∨ next = 0 then owner else ⟨next⟩ := by
  unfold assignFrom
  by_cases full : next = u64Max
  · rw [if_pos full, if_pos (Or.inl full)]
  · rw [if_neg full]
    by_cases zero : next = 0
    · rw [if_pos zero, if_pos (Or.inr zero)]
    · rw [if_neg zero, if_neg (by simp [full, zero])]

theorem getOrAssign_assigned
    {owner : PollOwner} {held : PollId}
    (current : owner.current = some held) (next : UInt64) :
    owner.getOrAssign next = (owner, next, .ok held) := by
  unfold getOrAssign
  rw [current]

theorem getOrAssign_vacant
    {owner : PollOwner} (vacant : owner.current = none) (next : UInt64) :
    owner.getOrAssign next = owner.assignFrom next := by
  unfold getOrAssign
  rw [vacant]

theorem assignFrom_full (owner : PollOwner) :
    owner.assignFrom u64Max = (owner, u64Max, .error .invariant) := by
  unfold assignFrom
  rw [if_pos rfl]

end PollOwner

namespace MutationSession

variable {σ : Type*}

/-- Whether a call reaches the shared counter: a registration that is admitted
by a poller without an identity. -/
def draws (self : MutationSession σ) (request : Call) : Bool :=
  match request.intake with
  | none => false
  | some intake =>
      !intake.interest.isEmpty && intake.duplicate.isOk &&
        self.registrations.grants && self.owner.current.isNone

theorem draws_vacant
    {session : MutationSession σ} {request : Call}
    (draws : session.draws request = true) :
    session.owner.current = none := by
  unfold MutationSession.draws at draws
  split at draws
  · cases draws
  · simp only [Bool.and_eq_true, Option.isNone_iff_eq_none] at draws
    exact draws.2

/-- The part of a session that only authority decides. -/
def authority (self : MutationSession σ) : PollOwner × UInt64 :=
  (self.owner, self.nextPollId)

theorem settleRegisterFailure_authority
    (session : MutationSession σ) (reservation : SlotLease)
    (registration : Registration) (failure : MutationFailure) :
    (session.settleRegisterFailure reservation registration
      failure).1.authority = session.authority := by
  unfold settleRegisterFailure
  cases failure.commit with
  | notApplied =>
      rcases reservation.retire with ⟨table, settled⟩
      cases settled <;> rfl
  | applied => rfl
  | unknown =>
      rcases reservation.markUncertain with ⟨table, settled⟩
      cases settled <;> rfl

theorem settleReservation_authority
    (session : MutationSession σ) (registration : Registration)
    (reserved :
      Except (RegistrationTable × Error) (SlotLease × σ × Answer)) :
    (session.settleReservation registration reserved).1.authority =
      session.authority := by
  cases reserved with
  | error failed => rfl
  | ok granted =>
      rcases granted with ⟨reservation, driver, native⟩
      cases native with
      | ok done => rfl
      | error failure =>
          exact settleRegisterFailure_authority _ reservation registration
            failure

/-- What a registration does to the authority of its poller. -/
def drawnAuthority (self : MutationSession σ) : PollOwner × UInt64 :=
  ((self.owner.assignFrom self.nextPollId).1, nextDrawn self.nextPollId)

theorem assigned_authority
    (session : MutationSession σ) {owner : PollOwner}
    {nextPollId : UInt64} {outcome : Except Error PollId}
    (assigned : session.owner.getOrAssign session.nextPollId =
      (owner, nextPollId, outcome)) :
    (owner, nextPollId) =
      if session.owner.current.isNone then session.drawnAuthority
      else session.authority := by
  cases held : session.owner.current with
  | none =>
      rw [PollOwner.getOrAssign_vacant held] at assigned
      have counter := session.owner.assignFrom_counter session.nextPollId
      rw [assigned] at counter
      simp only [drawnAuthority, Option.isNone_none, if_true, assigned,
        ← counter]
  | some current =>
      rw [PollOwner.getOrAssign_assigned held] at assigned
      cases assigned
      rfl

theorem registerReused_authority
    (backend : MutationDriver σ) (session : MutationSession σ)
    (descriptor : Descriptor) (key : Key) (interest : Interest)
    (mode : Mode) :
    (registerReused backend session descriptor key interest
      mode).1.authority =
        if session.registrations.reusedPermit.isOk &&
            session.owner.current.isNone then
          session.drawnAuthority
        else session.authority := by
  unfold registerReused
  cases session.registrations.reusedPermit with
  | error error => rfl
  | ok permit =>
      rcases assigned : session.owner.getOrAssign session.nextPollId with
        ⟨owner, nextPollId, outcome⟩
      have decided := session.assigned_authority assigned
      simp only [Except.isOk, Except.toBool, Bool.true_and]
      rw [← decided]
      cases outcome with
      | error error => rfl
      | ok poll => exact settleReservation_authority _ _ _

theorem registerFresh_authority
    (backend : MutationDriver σ) (session : MutationSession σ)
    (descriptor : Descriptor) (key : Key) (interest : Interest)
    (mode : Mode) :
    (registerFresh backend session descriptor key interest
      mode).1.authority =
        if session.registrations.freshPermit.isOk &&
            session.owner.current.isNone then
          session.drawnAuthority
        else session.authority := by
  unfold registerFresh
  cases session.registrations.freshPermit with
  | error error => rfl
  | ok permit =>
      rcases assigned : session.owner.getOrAssign session.nextPollId with
        ⟨owner, nextPollId, outcome⟩
      have decided := session.assigned_authority assigned
      simp only [Except.isOk, Except.toBool, Bool.true_and]
      rw [← decided]
      cases outcome with
      | error error => rfl
      | ok poll => exact settleReservation_authority _ _ _

theorem registerDescriptor_authority
    (backend : MutationDriver σ) (session : MutationSession σ)
    (descriptor : Descriptor) (key : Key) (interest : Interest)
    (mode : Mode) :
    (registerDescriptor backend session descriptor key interest
      mode).1.authority =
        if session.registrations.grants &&
            session.owner.current.isNone then
          session.drawnAuthority
        else session.authority := by
  unfold registerDescriptor RegistrationTable.grants
  split
  · exact registerReused_authority backend session descriptor key interest
      mode
  · exact registerFresh_authority backend session descriptor key interest
      mode

theorem delete_authority
    (backend : MutationDriver σ) (session : MutationSession σ)
    (registration : Registration) :
    (delete backend session registration).1.authority =
      session.authority := by
  unfold delete
  cases requireOwner session.owner.current registration with
  | error error => rfl
  | ok own =>
      cases session.registrations.prepareRegistrationRetire
          registration.encodedId true with
      | error error => rfl
      | ok prepared =>
          cases bound : prepared.binding with
          | error error => simp only [bound]
          | ok binding =>
              simp only [bound]
              split
              · split <;> rfl
              · split <;> rfl

/-- A call moves the counter and the authority exactly when it draws. -/
theorem call_authority
    (backend : MutationDriver σ) (session : MutationSession σ)
    (request : Call) :
    (call backend session request).1.authority =
      if session.draws request then session.drawnAuthority
      else session.authority := by
  cases request with
  | register duplicate key interest mode =>
      cases noInterest : interest.isEmpty with
      | true =>
          simp [call, register, validateRegistrationInterest, draws,
            Call.intake, noInterest]
      | false =>
          cases duplicate with
          | error source =>
              simp [call, register, validateRegistrationInterest, draws,
                Call.intake, noInterest, Except.isOk, Except.toBool]
          | ok descriptor =>
              simp only [call, register, validateRegistrationInterest,
                draws, Call.intake, noInterest, Bool.false_eq_true,
                if_false, Except.isOk, Except.toBool, Bool.not_false,
                Bool.true_and]
              exact registerDescriptor_authority backend session _ key
                interest mode
  | registerBorrowed source key interest mode =>
      cases noInterest : interest.isEmpty with
      | true =>
          simp [call, registerBorrowed, validateRegistrationInterest,
            draws, Call.intake, noInterest]
      | false =>
          simp only [call, registerBorrowed,
            validateRegistrationInterest, draws, Call.intake, noInterest,
            Bool.false_eq_true, if_false, Except.isOk, Except.toBool,
            Bool.not_false, Bool.true_and]
          exact registerDescriptor_authority backend session _ key
            interest mode
  | modify registration interest mode =>
      simp only [call]
      rcases modify_cases backend session registration interest mode with
        ⟨_, _, result⟩ | ⟨_, _, _, _, _, _, _, _, result⟩
      · rw [result]
        rfl
      · rw [result]
        rfl
  | delete registration =>
      exact delete_authority backend session registration
  | registrationState registration => rfl

end MutationSession

/-! ## Refusals -/

/-- The handle that a call names. -/
def Call.handle : Call → Option Registration
  | .modify registration _ _ => some registration
  | .delete registration => some registration
  | .registrationState registration => some registration
  | _ => none

/-- A call that fails with `error` before anything happened. -/
def Call.refused (error : Error) : Call → Reply
  | .modify _ _ _ => .modify (.error error)
  | .delete registration => .delete (.error { error, registration })
  | .registrationState _ => .registrationState (.error error)
  | _ => .register (.error { error, registration := none })

/-- The failures of a registration before a slot is reserved. -/
def Error.beforeReservation : Error → Bool
  | .invalidInterest => true
  | .io .register _ => true
  | .capacity _ => true
  | .registrationSpaceExhausted => true
  | _ => false

theorem RegistrationTable.WellFormed.grants_iff
    {table : RegistrationTable} (wellFormed : table.WellFormed) :
    table.grants = true ↔
      table.live + table.exhausted < table.limit.val := by
  have admission := wellFormed.admission
  unfold RegistrationTable.grants
  split at admission
  · rename_i room
    refine iff_of_true ?_ room
    cases reusable : table.hasReusableSlot with
    | true =>
        simp only [reusable, if_true] at admission
        obtain ⟨permit, granted⟩ := admission
        simp [granted, Except.isOk, Except.toBool]
    | false =>
        simp only [reusable, Bool.false_eq_true, if_false] at admission
        obtain ⟨permit, granted⟩ := admission
        simp [granted, Except.isOk, Except.toBool]
  · rename_i full
    refine iff_of_false ?_ full
    obtain ⟨nothing, _, refused⟩ := admission
    simp [nothing, refused, Except.isOk, Except.toBool]

namespace MutationSession

variable {σ : Type*}

/-- A handle of another poller is refused by every call. -/
theorem call_foreign
    (backend : MutationDriver σ) (session : MutationSession σ)
    {request : Call} {registration : Registration}
    (named : request.handle = some registration)
    (foreign : session.owner.current ≠ some registration.owner) :
    call backend session request =
      (session, request.refused (.wrongPoller registration.id)) := by
  cases request with
  | register => cases named
  | registerBorrowed => cases named
  | modify | delete | registrationState =>
      cases named
      simp only [call, modify, delete, registrationState, requireOwner,
        if_neg foreign]
      rfl

/-- A call that finds the counter used up changes nothing. -/
theorem call_exhausted
    (backend : MutationDriver σ) {session : MutationSession σ}
    {request : Call} (draws : session.draws request = true)
    (full : session.nextPollId = u64Max) :
    call backend session request =
      (session,
        .register (.error { error := .invariant, registration := none })) := by
  have vacant := draws_vacant draws
  have assigned : session.owner.getOrAssign session.nextPollId =
      (session.owner, session.nextPollId, .error .invariant) := by
    rw [PollOwner.getOrAssign_vacant vacant, full,
      PollOwner.assignFrom_full]
  have refused : ∀ descriptor key interest mode,
      session.registrations.grants = true →
        registerDescriptor backend session descriptor key interest mode =
          (session, registerStateFailure .invariant) := by
    intro descriptor key interest mode grants
    unfold registerDescriptor
    unfold RegistrationTable.grants at grants
    split
    · rename_i reusable
      rw [if_pos reusable] at grants
      unfold registerReused
      cases granted : session.registrations.reusedPermit with
      | error error => simp [granted, Except.isOk, Except.toBool] at grants
      | ok permit => simp only [assigned]
    · rename_i nothing
      rw [if_neg nothing] at grants
      unfold registerFresh
      cases granted : session.registrations.freshPermit with
      | error error => simp [granted, Except.isOk, Except.toBool] at grants
      | ok permit => simp only [assigned]
  unfold MutationSession.draws at draws
  cases request with
  | register duplicate key interest mode =>
      simp only [Call.intake, Bool.and_eq_true, Bool.not_eq_true'] at draws
      obtain ⟨⟨⟨interested, duplicated⟩, grants⟩, _⟩ := draws
      cases duplicate with
      | error source => cases duplicated
      | ok descriptor =>
          simp only [call, register, validateRegistrationInterest,
            interested, Bool.false_eq_true, if_false,
            refused _ key interest mode grants]
          rfl
  | registerBorrowed source key interest mode =>
      simp only [Call.intake, Bool.and_eq_true, Bool.not_eq_true'] at draws
      obtain ⟨⟨⟨interested, _⟩, grants⟩, _⟩ := draws
      simp only [call, registerBorrowed, validateRegistrationInterest,
        interested, Bool.false_eq_true, if_false,
        refused _ key interest mode grants]
      rfl
  | modify | delete | registrationState => cases draws

/-- A registration that fails before a slot is reserved does not reach the
counter and leaves the session alone. -/
theorem Effect.preflight
    {backend : MutationDriver σ} {session : MutationSession σ}
    {request : Call} {result : MutationSession σ × Reply}
    {failed : RegisterError}
    (wellFormed : session.registrations.WellFormed)
    (effect : Effect backend session request result)
    (replied : result.2 = .register (.error failed))
    (early : failed.error.beforeReservation = true) :
    session.draws request = false ∧ result.1 = session := by
  cases effect with
  | invalidInterest taken noInterest =>
      simp [draws, taken, noInterest]
  | duplicationFailed taken interested failure =>
      simp [draws, taken, failure, Except.isOk, Except.toBool]
  | registering taken interested duplicated registers =>
      cases registers with
      | full full =>
          have notGranted : session.registrations.grants = false := by
            rw [Bool.eq_false_iff]
            intro grants
            have room := wellFormed.grants_iff.mp grants
            omega
          simp [draws, taken, notGranted]
      | unowned nextPollId room vacant =>
          cases replied
          cases early
      | answered owner nextPollId registration lease driver answer =>
          cases answer with
          | ok done => cases replied
          | error failure =>
              cases replied
              cases early
  | modifyRefused _ => cases replied
  | modified _ _ _ _ => cases replied
  | deleteRefused _ => cases replied
  | deleted _ _ _ _ => cases replied
  | queried => cases replied

end MutationSession

/-! ## Recorded calls -/

/-- The handle that a reply hands out. -/
def Reply.minted : Reply → Option Registration
  | .register (.ok registration) => some registration
  | .register (.error failed) => failed.registration
  | _ => none

namespace MutationSession

variable {σ : Type*}

theorem Step.authority
    {backend : MutationDriver σ} {before after : MutationSession σ}
    {request : Call} {exchanges : List Exchange} {reply : Reply}
    (step : Step backend before (.called request exchanges reply) after) :
    after.authority =
      if before.draws request then before.drawnAuthority
      else before.authority := by
  cases step with
  | called performed =>
      have decided :=
        call_authority backend.logged
          (before.withDriver (before.driver, [])) request
      rw [performed] at decided
      exact decided

/-- A call that changes nothing records no exchange. -/
theorem Step.unchanged_iff
    {backend : MutationDriver σ} {before after : MutationSession σ}
    {request : Call} {exchanges : List Exchange} {reply answered : Reply}
    (same : call backend.logged (before.withDriver (before.driver, []))
        request =
      (before.withDriver (before.driver, []), answered)) :
    Step backend before (.called request exchanges reply) after ↔
      after = before ∧ exchanges = [] ∧ reply = answered := by
  constructor
  · intro step
    cases step with
    | called performed =>
        rw [same] at performed
        simp only [withDriver, Prod.mk.injEq, MutationSession.mk.injEq]
          at performed
        obtain ⟨⟨counter, owner, table, driver, quiet⟩, replied⟩ :=
          performed
        refine ⟨?_, quiet.symm, replied.symm⟩
        rcases after with ⟨_, _, _, _⟩
        rcases before with ⟨_, _, _, _⟩
        simp only at counter owner table driver
        subst counter owner table driver
        rfl
  · rintro ⟨rfl, rfl, rfl⟩
    exact Step.called same

/-- What a recorded call does, as an effect of the recording driver. -/
theorem Step.effect
    {backend : MutationDriver σ} {before after : MutationSession σ}
    {request : Call} {exchanges : List Exchange} {reply : Reply}
    (wellFormed : before.registrations.WellFormed)
    (step : Step backend before (.called request exchanges reply) after) :
    Effect backend.logged (before.withDriver (before.driver, [])) request
      (after.withDriver (after.driver, exchanges), reply) := by
  cases step with
  | called performed =>
      rw [← performed]
      exact call_effect backend.logged _ wellFormed request

theorem Step.preflight
    {backend : MutationDriver σ} {before after : MutationSession σ}
    {request : Call} {exchanges : List Exchange} {failed : RegisterError}
    (wellFormed : before.registrations.WellFormed)
    (step : Step backend before
      (.called request exchanges (.register (.error failed))) after)
    (early : failed.error.beforeReservation = true) :
    before.draws request = false ∧ after = before ∧ exchanges = [] := by
  have effect := step.effect wellFormed
  have recorded :
      (before.withDriver (before.driver,
        ([] : List Exchange))).registrations.WellFormed := wellFormed
  obtain ⟨passes, same⟩ := Effect.preflight recorded effect rfl early
  refine ⟨passes, ?_⟩
  have performed :
      call backend.logged (before.withDriver (before.driver, []))
          request =
        (before.withDriver (before.driver, []),
          .register (.error failed)) := by
    cases step with
    | called performed =>
        rw [performed]
        exact congrArg
          (fun session => (session, Reply.register (.error failed))) same
  obtain ⟨unchanged, quiet, _⟩ := (Step.unchanged_iff performed).mp step
  exact ⟨unchanged, quiet⟩

/-- A handle carries the identity of the poller that minted it. -/
theorem Step.minted
    {backend : MutationDriver σ} {before after : MutationSession σ}
    {request : Call} {exchanges : List Exchange} {reply : Reply}
    {registration : Registration}
    (wellFormed : before.registrations.WellFormed)
    (step : Step backend before (.called request exchanges reply) after)
    (minted : reply.minted = some registration) :
    after.owner.current = some registration.owner := by
  have effect := step.effect wellFormed
  generalize shape :
    (after.withDriver (after.driver, exchanges), reply) = result at effect
  have replied : result.2 = reply := by rw [← shape]
  have kept : result.1.owner = after.owner := by
    rw [← shape]
    rfl
  rw [← replied] at minted
  rw [← kept]
  cases effect with
  | invalidInterest _ _ => cases minted
  | duplicationFailed _ _ _ => cases minted
  | registering _ _ _ registers =>
      cases registers with
      | full _ => cases minted
      | unowned _ _ _ _ => cases minted
      | answered owner nextPollId issued lease driver answer room
          assigned reserves moves exhausted asked =>
          have held := (PollOwner.getOrAssign_ok assigned).1
          have same : issued = registration := by
            cases answer with
            | ok done => exact Option.some.inj minted
            | error failure =>
                simp only [Reply.minted, registerReply] at minted
                split at minted
                · cases minted
                · exact Option.some.inj minted
          rw [← same]
          exact held
  | modifyRefused _ => cases minted
  | modified _ _ _ _ => cases minted
  | deleteRefused _ => cases minted
  | deleted _ _ _ _ => cases minted
  | queried => cases minted

end MutationSession

/-! ## Concurrent pollers -/

/-- One poller without the counter that it shares. -/
structure Poller (σ : Type*) where
  owner : PollOwner
  registrations : RegistrationTable
  driver : σ

/-- The session of a poller that finds `nextPollId` in the counter. -/
def Poller.session {σ : Type*} (self : Poller σ) (nextPollId : UInt64) :
    MutationSession σ :=
  { nextPollId
    owner := self.owner
    registrations := self.registrations
    driver := self.driver }

def MutationSession.poller {σ : Type*} (self : MutationSession σ) :
    Poller σ :=
  { owner := self.owner
    registrations := self.registrations
    driver := self.driver }

/-- What a poller is doing: nothing, a call before it drew from the counter, or
a call after it drew `raw`. -/
inductive Activity where
  | idle
  | calling (request : Call)
  | drew (request : Call) (raw : UInt64)

/-- Any number of pollers over one counter. -/
structure Pollers (ι : Type*) (σ : ι → Type*) where
  nextPollId : UInt64
  poller : (place : ι) → Poller (σ place)
  activity : ι → Activity

/-- What one step of one poller does. -/
inductive Occurrence (ι : Type*) where
  | started (place : ι) (request : Call)
  | drew (place : ι) (raw : UInt64)
  | returned (place : ι) (request : Call) (exchanges : List Exchange)
      (reply : Reply)
  | disarmed (place : ι) (id : RegistrationId) (commit : CommitStatus)

namespace Pollers

variable {ι : Type*} {σ : ι → Type*}

/-- The session that a poller would call through now. -/
def session (self : Pollers ι σ) (place : ι) : MutationSession (σ place) :=
  (self.poller place).session self.nextPollId

/-- New pollers over the counter of a new process. -/
structure New (world : Pollers ι σ) : Prop where
  counter : world.nextPollId = 1
  owner : ∀ place, (world.poller place).owner = PollOwner.unassigned
  table : ∀ place, ∃ limit allocated,
    RegistrationTable.new limit allocated =
      .ok (world.poller place).registrations
  activity : ∀ place, world.activity place = .idle

/-! ## The invariant -/

/-- The identity that a poller holds or has drawn. -/
def claimed (world : Pollers ι σ) (place : ι) : Option UInt64 :=
  match world.activity place with
  | .drew _ raw => if raw = u64Max then none else some raw
  | _ => (world.poller place).owner.current.map PollId.raw

/-- Claimed identities are distinct, nonzero and below the counter, and every
handle carries the identity of the poller that minted it. -/
structure Apart (past : List (Occurrence ι)) (world : Pollers ι σ) :
    Prop where
  positive : world.nextPollId ≠ 0
  below : ∀ place raw, world.claimed place = some raw →
    raw ≠ 0 ∧ raw.toNat < world.nextPollId.toNat
  apart : ∀ first second raw,
    world.claimed first = some raw → world.claimed second = some raw →
      first = second
  drawing : ∀ place request raw,
    world.activity place = .drew request raw →
      raw ≠ 0 ∧ (world.session place).draws request = true
  wellFormed : ∀ place, (world.poller place).registrations.WellFormed
  minted : ∀ place request exchanges reply registration,
    .returned place request exchanges reply ∈ past →
    reply.minted = some registration →
      (world.poller place).owner.current = some registration.owner

theorem claimed_congr
    {world next : Pollers ι σ} {place : ι}
    (poller : next.poller place = world.poller place)
    (activity : next.activity place = world.activity place) :
    next.claimed place = world.claimed place := by
  unfold claimed
  rw [poller, activity]

/-- A step at one place keeps the invariant when its claim is kept, given up
or drawn from the counter. -/
theorem Apart.advance
    {past : List (Occurrence ι)} {label : Occurrence ι}
    {world next : Pollers ι σ} (good : Apart past world) (place : ι)
    (counter : world.nextPollId.toNat ≤ next.nextPollId.toNat)
    (frame : ∀ other, other ≠ place →
      next.poller other = world.poller other ∧
        next.activity other = world.activity other)
    (claim : ∀ raw, next.claimed place = some raw →
      world.claimed place = some raw ∨
        raw = world.nextPollId ∧
          world.nextPollId.toNat < next.nextPollId.toNat)
    (drawing : ∀ request raw,
      next.activity place = .drew request raw →
        raw ≠ 0 ∧ (next.session place).draws request = true)
    (wellFormed : (next.poller place).registrations.WellFormed)
    (kept : ∀ held, (world.poller place).owner.current = some held →
      (next.poller place).owner.current = some held)
    (minted : ∀ other request exchanges reply registration,
      label = .returned other request exchanges reply →
      reply.minted = some registration →
        (next.poller other).owner.current = some registration.owner) :
    Apart (past ++ [label]) next := by
  have positiveCounter : 0 < world.nextPollId.toNat := by
    have nonzero := good.positive
    rcases Nat.eq_zero_or_pos world.nextPollId.toNat with zero | positive
    · exact (nonzero (UInt64.toNat_inj.mp zero)).elim
    · exact positive
  have elsewhere : ∀ other, other ≠ place →
      next.claimed other = world.claimed other := fun other different =>
    claimed_congr (frame other different).1 (frame other different).2
  have fresh : ∀ other, other ≠ place →
      world.claimed other ≠ some world.nextPollId := by
    intro other _ claims
    exact Nat.lt_irrefl _ (good.below other _ claims).2
  refine ⟨?_, ?_, ?_, ?_, ?_, ?_⟩
  · intro zero
    rw [zero] at counter
    exact Nat.lt_irrefl _ (Nat.lt_of_lt_of_le positiveCounter counter)
  · intro other raw claims
    by_cases same : other = place
    · subst same
      rcases claim raw claims with held | ⟨rfl, grown⟩
      · obtain ⟨nonzero, smaller⟩ := good.below other raw held
        exact ⟨nonzero, Nat.lt_of_lt_of_le smaller counter⟩
      · exact ⟨good.positive, grown⟩
    · rw [elsewhere other same] at claims
      obtain ⟨nonzero, smaller⟩ := good.below other raw claims
      exact ⟨nonzero, Nat.lt_of_lt_of_le smaller counter⟩
  · intro first second raw firstClaims secondClaims
    by_cases firstHere : first = place
    · by_cases secondHere : second = place
      · rw [firstHere, secondHere]
      · subst firstHere
        rw [elsewhere second secondHere] at secondClaims
        rcases claim raw firstClaims with held | ⟨rfl, _⟩
        · exact good.apart first second raw held secondClaims
        · exact (fresh second secondHere secondClaims).elim
    · rw [elsewhere first firstHere] at firstClaims
      by_cases secondHere : second = place
      · subst secondHere
        rcases claim raw secondClaims with held | ⟨rfl, _⟩
        · exact good.apart first second raw firstClaims held
        · exact (fresh first firstHere firstClaims).elim
      · rw [elsewhere second secondHere] at secondClaims
        exact good.apart first second raw firstClaims secondClaims
  · intro other request raw active
    by_cases same : other = place
    · subst same
      exact drawing request raw active
    · obtain ⟨samePoller, sameActivity⟩ := frame other same
      rw [sameActivity] at active
      obtain ⟨nonzero, draws⟩ := good.drawing other request raw active
      refine ⟨nonzero, ?_⟩
      unfold session at draws ⊢
      rw [samePoller]
      exact draws
  · intro other
    by_cases same : other = place
    · subst same
      exact wellFormed
    · rw [(frame other same).1]
      exact good.wellFormed other
  · intro other request exchanges reply registration member mints
    rcases List.mem_append.mp member with earlier | last
    · have held :=
        good.minted other request exchanges reply registration earlier
          mints
      by_cases same : other = place
      · subst same
        exact kept _ held
      · rw [(frame other same).1]
        exact held
    · exact minted other request exchanges reply registration
        (List.mem_singleton.mp last).symm mints

theorem Apart.claimed_of_current
    {past : List (Occurrence ι)} {world : Pollers ι σ}
    (good : Apart past world) {place : ι} {held : PollId}
    (current : (world.poller place).owner.current = some held) :
    world.claimed place = some held.raw := by
  unfold claimed
  split
  · rename_i request raw active
    obtain ⟨_, draws⟩ := good.drawing place request raw active
    have vacant : (world.poller place).owner.current = none :=
      MutationSession.draws_vacant draws
    rw [vacant] at current
    cases current
  · rw [current]
    rfl

theorem New.apart
    {world : Pollers ι σ} (new : New world) : Apart [] world := by
  have unclaimed : ∀ place, world.claimed place = none := by
    intro place
    unfold claimed
    rw [new.activity place, new.owner place]
    rfl
  refine ⟨?_, ?_, ?_, ?_, ?_, ?_⟩
  · rw [new.counter]
    decide
  · intro place raw claims
    rw [unclaimed place] at claims
    cases claims
  · intro first _ raw claims
    rw [unclaimed first] at claims
    cases claims
  · intro place request raw active
    rw [new.activity place] at active
    cases active
  · intro place
    obtain ⟨limit, allocated, created⟩ := new.table place
    exact RegistrationTable.new_wellFormed created
  · intro _ _ _ _ _ member
    cases member

/-! ## Steps -/

variable [DecidableEq ι]

/-- A poller returns from its call with what the call left of its session. -/
def finish
    (self : Pollers ι σ) (place : ι) (after : MutationSession (σ place)) :
    Pollers ι σ :=
  { self with
    poller := Function.update self.poller place after.poller
    activity := Function.update self.activity place .idle }

/-- One step of one poller. -/
inductive Step (backend : (place : ι) → MutationDriver (σ place)) :
    Pollers ι σ → Occurrence ι → Pollers ι σ → Prop
  | started {world : Pollers ι σ} {place : ι} (request : Call) :
      world.activity place = .idle →
      Step backend world (.started place request)
        { world with
          activity :=
            Function.update world.activity place (.calling request) }
  | drew {world : Pollers ι σ} {place : ι} {request : Call} :
      world.activity place = .calling request →
      (world.session place).draws request = true →
      Step backend world (.drew place world.nextPollId)
        { world with
          nextPollId := nextDrawn world.nextPollId
          activity :=
            Function.update world.activity place
              (.drew request world.nextPollId) }
  | returned {world : Pollers ι σ} {place : ι} {request : Call}
      {exchanges : List Exchange} {reply : Reply}
      {after : MutationSession (σ place)} :
      world.activity place = .calling request →
      (world.session place).draws request = false →
      MutationSession.Step (backend place) (world.session place)
        (.called request exchanges reply) after →
      Step backend world (.returned place request exchanges reply)
        (world.finish place after)
  | returnedDrawn {world : Pollers ι σ} {place : ι} {request : Call}
      {raw : UInt64} {exchanges : List Exchange} {reply : Reply}
      {after : MutationSession (σ place)} :
      world.activity place = .drew request raw →
      MutationSession.Step (backend place)
        ((world.poller place).session raw)
        (.called request exchanges reply) after →
      Step backend world (.returned place request exchanges reply)
        (world.finish place after)
  | disarmed {world : Pollers ι σ} {place : ι} (id : RegistrationId)
      (commit : CommitStatus) :
      world.activity place = .idle →
      Step backend world (.disarmed place id commit)
        { world with
          poller :=
            Function.update world.poller place
              { world.poller place with
                registrations :=
                  ((world.poller place).registrations.applyDisarm id
                    commit).1 } }

variable {backend : (place : ι) → MutationDriver (σ place)}

/-- Only the place of a returning poller changes. -/
theorem finish_frame
    (world : Pollers ι σ) {place other : ι}
    (after : MutationSession (σ place)) (different : other ≠ place) :
    (world.finish place after).poller other = world.poller other ∧
      (world.finish place after).activity other = world.activity other :=
  ⟨Function.update_of_ne different _ _, Function.update_of_ne different _ _⟩

theorem finish_poller
    (world : Pollers ι σ) (place : ι) (after : MutationSession (σ place)) :
    (world.finish place after).poller place = after.poller :=
  Function.update_self _ _ _

theorem finish_activity
    (world : Pollers ι σ) (place : ι) (after : MutationSession (σ place)) :
    (world.finish place after).activity place = .idle :=
  Function.update_self _ _ _

theorem finish_claimed
    (world : Pollers ι σ) (place : ι) (after : MutationSession (σ place)) :
    (world.finish place after).claimed place =
      after.owner.current.map PollId.raw := by
  unfold claimed
  rw [finish_activity, finish_poller]
  rfl

/-- An identity that a poller holds is never taken away. -/
theorem Apart.keeps
    {past : List (Occurrence ι)} {world next : Pollers ι σ}
    {label : Occurrence ι} (good : Apart past world)
    (step : Step backend world label next) {place : ι} {held : PollId}
    (current : (world.poller place).owner.current = some held) :
    (next.poller place).owner.current = some held := by
  cases step with
  | started _ _ => exact current
  | drew _ _ => exact current
  | @returned other request exchanges reply after active passes called =>
      by_cases same : place = other
      · subst same
        have decided := called.authority
        rw [passes, if_neg (by simp)] at decided
        have sameOwner : after.owner = (world.poller place).owner :=
          congrArg Prod.fst decided
        rw [finish_poller]
        rw [← sameOwner] at current
        exact current
      · rw [(world.finish_frame after same).1]
        exact current
  | @returnedDrawn other request raw exchanges reply after active called =>
      by_cases same : place = other
      · subst same
        obtain ⟨_, draws⟩ := good.drawing place request raw active
        have vacant : (world.poller place).owner.current = none :=
          MutationSession.draws_vacant draws
        rw [vacant] at current
        cases current
      · rw [(world.finish_frame after same).1]
        exact current
  | @disarmed other id commit idle =>
      by_cases same : place = other
      · subst same
        simp only [Function.update_self]
        exact current
      · simp only [Function.update_of_ne same]
        exact current

/-- A returning call keeps the invariant when its authority does. -/
theorem Apart.finish
    {past : List (Occurrence ι)} {world : Pollers ι σ}
    (good : Apart past world) {place : ι} {raw : UInt64}
    {request : Call} {exchanges : List Exchange} {reply : Reply}
    {after : MutationSession (σ place)}
    (called : MutationSession.Step (backend place)
      ((world.poller place).session raw)
      (.called request exchanges reply) after)
    (claim : ∀ value, after.owner.current.map PollId.raw = some value →
      world.claimed place = some value)
    (kept : ∀ held, (world.poller place).owner.current = some held →
      ((world.finish place after).poller place).owner.current =
        some held) :
    Apart (past ++ [.returned place request exchanges reply])
      (world.finish place after) := by
  have wellFormed := good.wellFormed place
  refine good.advance place (Nat.le_refl _)
    (fun other different => world.finish_frame after different)
    ?_ ?_ ?_ kept ?_
  · intro value claims
    rw [finish_claimed] at claims
    exact Or.inl (claim value claims)
  · intro other value active
    rw [finish_activity] at active
    cases active
  · rw [finish_poller]
    exact wellFormed.moves (called.moves wellFormed)
  · intro other otherRequest otherExchanges otherReply registration same
      mints
    cases same
    rw [finish_poller]
    exact called.minted wellFormed mints

theorem Apart.step
    {past : List (Occurrence ι)} {world next : Pollers ι σ}
    {label : Occurrence ι} (good : Apart past world)
    (step : Step backend world label next) :
    Apart (past ++ [label]) next := by
  have kept : ∀ place held,
      (world.poller place).owner.current = some held →
        (next.poller place).owner.current = some held :=
    fun place held current => good.keeps step current
  cases step with
  | @started place request idle =>
      refine good.advance place (Nat.le_refl _) ?_ ?_ ?_
        (good.wellFormed place) (kept place) ?_
      · intro other different
        exact ⟨rfl, Function.update_of_ne different _ _⟩
      · intro raw claims
        refine Or.inl ?_
        unfold claimed at claims ⊢
        rw [idle]
        simp only [Function.update_self] at claims
        exact claims
      · intro other raw active
        simp only [Function.update_self, reduceCtorEq] at active
      · intro other _ _ _ _ same
        cases same
  | @drew place request active draws =>
      have grown : world.nextPollId ≠ u64Max →
          world.nextPollId.toNat < (nextDrawn world.nextPollId).toNat := by
        intro notFull
        unfold nextDrawn
        rw [if_neg notFull]
        exact u64_lt_succ notFull
      refine good.advance place ?_ ?_ ?_ ?_ (good.wellFormed place)
        (kept place) ?_
      · by_cases full : world.nextPollId = u64Max
        · unfold nextDrawn
          rw [if_pos full]
        · exact Nat.le_of_lt (grown full)
      · intro other different
        exact ⟨rfl, Function.update_of_ne different _ _⟩
      · intro raw claims
        unfold claimed at claims
        simp only [Function.update_self] at claims
        split at claims
        · cases claims
        · rename_i notFull
          cases claims
          exact Or.inr ⟨rfl, grown notFull⟩
      · intro other raw drawing
        simp only [Function.update_self, Activity.drew.injEq] at drawing
        obtain ⟨rfl, rfl⟩ := drawing
        exact ⟨good.positive, draws⟩
      · intro other _ _ _ _ same
        cases same
  | @returned place request exchanges reply after active passes called =>
      have decided := called.authority
      rw [passes, if_neg (by simp)] at decided
      have sameOwner : after.owner = (world.poller place).owner :=
        congrArg Prod.fst decided
      refine good.finish called ?_ (kept place)
      intro value claims
      unfold claimed
      rw [active]
      rw [sameOwner] at claims
      exact claims
  | @returnedDrawn place request raw exchanges reply after active called =>
      obtain ⟨nonzero, draws⟩ := good.drawing place request raw active
      have vacant : (world.poller place).owner.current = none :=
        MutationSession.draws_vacant draws
      have decided := called.authority
      rw [if_pos (show ((world.poller place).session raw).draws request =
        true from draws)] at decided
      have newOwner : after.owner =
          ((world.poller place).owner.assignFrom raw).1 :=
        congrArg Prod.fst decided
      rw [PollOwner.assignFrom_owner] at newOwner
      refine good.finish called ?_ (kept place)
      intro value claims
      unfold claimed
      rw [active]
      rw [newOwner] at claims
      by_cases full : raw = u64Max
      · rw [if_pos (Or.inl full), vacant] at claims
        cases claims
      · rw [if_neg (by simp [full, nonzero])] at claims
        simp only [PollOwner.current, if_neg nonzero, Option.map_some]
          at claims
        simp only [if_neg full]
        exact claims
  | @disarmed place id commit idle =>
      refine good.advance place (Nat.le_refl _) ?_ ?_ ?_ ?_ (kept place) ?_
      · intro other different
        exact ⟨Function.update_of_ne different _ _, rfl⟩
      · intro raw claims
        refine Or.inl ?_
        unfold claimed at claims ⊢
        rw [idle] at claims ⊢
        simp only [Function.update_self] at claims
        exact claims
      · intro other raw active
        rw [show world.activity place = .idle from idle] at active
        cases active
      · simp only [Function.update_self]
        exact (good.wellFormed place).moves
          (RegistrationTable.applyDisarm_moves _ id commit)
      · intro other _ _ _ _ same
        cases same

/-! ## Whole runs -/

theorem New.reached
    {start finish : Pollers ι σ} {labels : List (Occurrence ι)}
    (new : New start)
    (run : Execution (Step backend) start labels finish) :
    Apart labels finish :=
  run.history Apart (fun _ _ _ _ good step => good.step step) new.apart

/-- A poller keeps its identity along every run. -/
theorem Apart.keeps_run
    {past labels : List (Occurrence ι)} {world last : Pollers ι σ}
    (good : Apart past world)
    (run : Execution (Step backend) world labels last) {place : ι}
    {held : PollId}
    (current : (world.poller place).owner.current = some held) :
    (last.poller place).owner.current = some held := by
  induction run generalizing past with
  | refl state => exact current
  | cons first _ inductionHypothesis =>
      exact inductionHypothesis (good.step first)
        (good.keeps first current)

/-- In every interleaving of any number of pollers over one counter, no two
pollers hold one identity, an identity is nonzero and stays, a used-up counter
refuses an assignment without a trace, a handle is refused by every other
poller without a trace, and a registration that fails before a slot is reserved
assigns no identity. -/
theorem pollers_isolated
    {start finish : Pollers ι σ} {labels : List (Occurrence ι)}
    (new : New start)
    (run : Execution (Step backend) start labels finish) :
    (∀ first second held,
        (finish.poller first).owner.current = some held →
        (finish.poller second).owner.current = some held →
          first = second) ∧
      (∀ place held, (finish.poller place).owner.current = some held →
        held.raw ≠ 0 ∧
          ∀ later last, Execution (Step backend) finish later last →
            (last.poller place).owner.current = some held) ∧
      (∀ place raw next, finish.nextPollId = u64Max →
        Step backend finish (.drew place raw) next →
          raw = u64Max ∧ next.nextPollId = u64Max ∧
            next.poller = finish.poller) ∧
      (∀ place request exchanges reply after,
        finish.activity place = .drew request u64Max →
          (MutationSession.Step (backend place)
              ((finish.poller place).session u64Max)
              (.called request exchanges reply) after ↔
            after = (finish.poller place).session u64Max ∧
              exchanges = [] ∧
              reply =
                .register
                  (.error
                    { error := .invariant, registration := none }))) ∧
      (∀ minter minting asked answered registration,
        .returned minter minting asked answered ∈ labels →
        answered.minted = some registration →
        ∀ other, other ≠ minter →
          ∀ request, request.handle = some registration →
          ∀ nextPollId exchanges reply after,
            MutationSession.Step (backend other)
                ((finish.poller other).session nextPollId)
                (.called request exchanges reply) after ↔
              after = (finish.poller other).session nextPollId ∧
                exchanges = [] ∧
                reply =
                  request.refused (.wrongPoller registration.id)) ∧
      ∀ place request exchanges failed next,
        Step backend finish
          (.returned place request exchanges (.register (.error failed)))
          next →
        failed.error.beforeReservation = true →
          exchanges = [] ∧ finish.activity place = .calling request ∧
            next.poller = finish.poller ∧
            next.nextPollId = finish.nextPollId := by
  have good := new.reached run
  have distinct : ∀ first second held,
      (finish.poller first).owner.current = some held →
      (finish.poller second).owner.current = some held →
        first = second := by
    intro first second held firstHolds secondHolds
    exact good.apart first second held.raw
      (good.claimed_of_current firstHolds)
      (good.claimed_of_current secondHolds)
  refine ⟨distinct, ?_, ?_, ?_, ?_, ?_⟩
  · intro place held current
    exact ⟨(good.below place held.raw (good.claimed_of_current current)).1,
      fun later last continued => good.keeps_run continued current⟩
  · intro place raw next full step
    cases step with
    | drew active draws =>
        refine ⟨full, ?_, rfl⟩
        simp only [nextDrawn, full, if_true]
  · intro place request exchanges reply after active
    obtain ⟨_, draws⟩ := good.drawing place request u64Max active
    exact MutationSession.Step.unchanged_iff
      (MutationSession.call_exhausted _ draws rfl)
  · intro minter minting asked answered registration member mints other
      different request named nextPollId exchanges reply after
    have own :=
      good.minted minter minting asked answered registration member mints
    have foreign : (finish.poller other).owner.current ≠
        some registration.owner := fun same =>
      different (distinct other minter _ same own)
    exact MutationSession.Step.unchanged_iff
      (MutationSession.call_foreign _ _ named foreign)
  · intro place request exchanges failed next step early
    cases step with
    | returned active passes called =>
        obtain ⟨_, rfl, quiet⟩ :=
          called.preflight (good.wellFormed place) early
        refine ⟨quiet, active, ?_, rfl⟩
        exact Function.update_eq_self place finish.poller
    | returnedDrawn active called =>
        obtain ⟨_, draws⟩ := good.drawing place request _ active
        obtain ⟨passes, _⟩ :=
          called.preflight (good.wellFormed place) early
        have reaches := draws.symm.trans passes
        cases reaches

/-! ## Two pollers with the same first identity -/

/-- Two new pollers, each with room for one registration. -/
def pair : Pollers Bool fun _ => Unit :=
  { nextPollId := 1
    poller := fun _ =>
      { owner := PollOwner.unassigned
        registrations := RegistrationTable.oneSlotTable
        driver := () }
    activity := fun _ => .idle }

/-- The registration that each of them makes. -/
def pairRequest : Call :=
  .register (.ok firstDescriptor) ⟨7⟩ Interest.readable .level

/-- The handle that the poller of identity `raw` gets. -/
def pairHandle (raw : UInt64) : Registration :=
  { owner := ⟨raw⟩, encodedId := RegistrationTable.oneSlotId }

/-- What the driver is asked for it. -/
def pairExchange : Exchange :=
  .register
    { descriptor := firstDescriptor
      registration := RegistrationTable.oneSlotId.id
      key := ⟨7⟩
      interest := Interest.readable
      mode := .level }
    (.ok ())

/-- Both registrations are under way before either draws. -/
def pairLabels : List (Occurrence Bool) :=
  [.started false pairRequest, .started true pairRequest,
    .drew true 1, .drew false 2,
    .returned true pairRequest [pairExchange]
      (.register (.ok (pairHandle 1))),
    .returned false pairRequest [pairExchange]
      (.register (.ok (pairHandle 2)))]

/-- A poller after its registration. -/
def pairPoller (raw : UInt64) : Poller Unit :=
  { owner := ⟨raw⟩
    registrations := RegistrationTable.oneSlotFilled
    driver := () }

theorem pair_run :
    ∃ finish,
      Execution (Step fun _ => MutationSession.forgetfulDriver) pair
          pairLabels finish ∧
        finish.poller true = pairPoller 1 ∧
        finish.poller false = pairPoller 2 := by
  refine ⟨_, Execution.cons (Step.started pairRequest rfl)
    (Execution.cons (Step.started pairRequest rfl)
      (Execution.cons (Step.drew rfl rfl)
        (Execution.cons (Step.drew rfl rfl)
          (Execution.cons
            (Step.returnedDrawn rfl
              (show MutationSession.Step _ _ _
                ((pairPoller 1).session 2) from
                  MutationSession.Step.called rfl))
            (Execution.cons
              (Step.returnedDrawn rfl
                (show MutationSession.Step _ _ _
                  ((pairPoller 2).session 3) from
                    MutationSession.Step.called rfl))
              (Execution.refl _)))))), rfl, rfl⟩

theorem pair_isolated :
    ∃ finish,
      Execution (Step fun _ => MutationSession.forgetfulDriver) pair
          pairLabels finish ∧
        ((finish.poller true).registrations.state
            (pairHandle 2).id).isOk = true ∧
        MutationSession.Step MutationSession.forgetfulDriver
          ((finish.poller true).session 3)
          (.called (.delete (pairHandle 2)) []
            (.delete
              (.error
                { error := .wrongPoller (pairHandle 2).id
                  registration := pairHandle 2 })))
          ((finish.poller true).session 3) := by
  obtain ⟨finish, run, first, second⟩ := pair_run
  have new : New pair :=
    ⟨rfl, fun _ => rfl, fun _ => ⟨⟨1, Nat.one_pos⟩, true, rfl⟩,
      fun _ => rfl⟩
  obtain ⟨_, _, _, _, isolated, _⟩ := pollers_isolated new run
  refine ⟨finish, run, ?_, ?_⟩
  · rw [first]
    rfl
  · exact (isolated false pairRequest [pairExchange]
      (.register (.ok (pairHandle 2))) (pairHandle 2)
      (by simp [pairLabels]) rfl true (by decide)
      (.delete (pairHandle 2)) rfl 3 [] _ _).mpr ⟨rfl, rfl, rfl⟩

end Pollers

end Zio
