import Zio.Mutation.Authority
import Zio.Testkit.Reference

/-!
# Replaying a model sequence

One program of actions is executed on a scripted poller of capacity one, and
after every action the results, the call log, the portable and the backend
states and a second poller are compared with the reference model.  What the
operating system, the allocator and the process-wide counter answer is given
by a fixture.  A divergence keeps the values that the test kit formats.
-/

namespace Zio.Testkit

/-! ## Diagnostics -/

/-- Model-sequence checkpoint that rejected an observation. -/
inductive ModelSequenceCheck where
  | setup
  | precondition
  | result
  | commit
  | handle
  | generation
  | state
  | backend
  | calls
  | coverage
deriving DecidableEq, Repr

/-- A value that a divergence formats. -/
inductive Shown where
  | text (text : String)
  | counted (count : Nat) (label : String)
  | error (error : Error)
  | ioError (error : IoError)
  | registerError (error : RegisterError)
  | deleteError (error : DeleteError)
  | scriptError (error : ScriptError)
  | id (id : RegistrationId)
  | registration (registration : Registration)
  | handle (handle : Option Registration)
  | handles (borrowed returned : Registration)
  | state (state : RegistrationState)
  | stateResult (result : Except Error RegistrationState)
  | result (result : Except Error Unit)
  | stale (id : RegistrationId)
  | wrongPoller (id : RegistrationId)
  | backend (id : RegistrationId) (state : ScriptedBackendState)
  | backendState (state : ScriptedBackendState)
  | calls (calls : List MutationCall)
  | lastCall (call : Option MutationCall)
  | registerCall (key : Key) (interest : Interest) (mode : Mode)
  | commit (operation : Operation) (commit : CommitStatus)
      (kind : IoErrorKind)

structure Divergence where
  check : ModelSequenceCheck
  expected : Shown
  actual : Shown

/-- Stage at which a model sequence first diverged. -/
inductive ModelSequencePhase where
  | setup
  | action (index : Nat)
  | finalize
  | coverage
deriving DecidableEq, Repr

/-- First divergence for one replayable deterministic sequence. -/
structure ModelSequenceFailure where
  seed : UInt64
  phase : ModelSequencePhase
  trace : List String
  check : ModelSequenceCheck
  expected : Shown
  actual : Shown

def setupDivergence (expected : String) (actual : Shown) : Divergence :=
  { check := .setup, expected := .text expected, actual }

def precondition (expected actual : String) : Divergence :=
  { check := .precondition, expected := .text expected
    actual := .text actual }

def resultMismatch (expected : String) (actual : Shown) : Divergence :=
  { check := .result, expected := .text expected, actual }

def handleDivergence (expected actual : Shown) : Divergence :=
  { check := .handle, expected, actual }

def generationDivergence (expected actual : String) : Divergence :=
  { check := .generation, expected := .text expected
    actual := .text actual }

/-! ## Fixture -/

/-- The answers from outside the test kit.  A storage flag is the allocator's
answer, a source is the failure of `UnixStream::pair`, a duplicate the answer
to `try_clone_to_owned`, and a counter the value that a call finds in the
process-wide counter; the last three are indexed by the action that asks. -/
structure Fixture where
  actionStorage : Bool
  traceStorage : Bool
  scriptStorage : Bool
  pollStorage : Bool
  strangerStorage : Bool
  retiredStorage : Bool
  issuedStorage : Bool
  callStorage : Bool
  strangerSource : Option IoError
  strangerDuplicate : Except IoError Fd
  strangerCounter : UInt64
  source : Nat → Option IoError
  duplicate : Nat → Except IoError Fd
  counter : Nat → UInt64
  osKind : Int32 → IoErrorKind

/-- `io::Error::kind`. -/
def Fixture.kind (self : Fixture) : IoError → IoErrorKind
  | .os code => self.osKind code
  | .simple kind => kind
  | .custom kind _ => kind

/-- `STRANGER_KEY`. -/
def strangerKey : Key := ⟨0x5a10ffffffffffff⟩

/-- `STRANGER_INTEREST`. -/
def strangerInterest : Interest := .readable

/-- `STRANGER_MODE`. -/
def strangerMode : Mode := .level

structure SequenceContext where
  poll : Poller ScriptedDriver
  stranger : Poller ScriptedDriver
  strangerRegistration : Registration
  model : ReferenceModel

/-- The state of a poller, which needs no counter. -/
def pollState
    (poll : Poller ScriptedDriver) (registration : Registration) :
    Except Error RegistrationState :=
  registrationState poll.owner.current poll.registrations registration

/-- A context after one call on its poller. -/
def SequenceContext.withPoll
    (self : SequenceContext) (poll : ScriptedPoll) : SequenceContext :=
  { self with poll := poll.poller }

/-! ## Expectations -/

def successfulRegister
    (result : Except RegisterError Registration)
    (expected : RegistrationId) : Except Divergence Registration :=
  match result with
  | .error error =>
      .error (resultMismatch "successful register" (.registerError error))
  | .ok registration =>
      if registration.id = expected then
        .ok registration
      else
        .error (handleDivergence (.id expected) (.id registration.id))

def expectMutationError
    (fixture : Fixture) (error : Error) (outcome : Outcome)
    (operation : Operation) (kind : IoErrorKind) :
    Except Divergence Unit :=
  match outcome.commit with
  | none =>
      .error (resultMismatch "failed mutation outcome" (.text "success"))
  | some expectedCommit =>
      let diverged : Divergence :=
        { check := .commit
          expected := .commit operation expectedCommit kind
          actual := .error error }
      match error with
      | .mutation mutation =>
          if mutation.operation = operation ∧
              mutation.commit = expectedCommit ∧
              fixture.kind mutation.source = kind then
            .ok ()
          else
            .error diverged
      | _ => .error diverged

def failedRegister
    (fixture : Fixture) (result : Except RegisterError Registration)
    (outcome : Outcome) (expected : RegistrationId) :
    Except Divergence (Option Registration) :=
  match result with
  | .ok _ => .error (resultMismatch "register failure" (.text "success"))
  | .error error =>
      let borrowed := error.registration
      let (cause, returned) := (error.error, error.registration)
      match expectMutationError fixture cause outcome .register
          .permissionDenied with
      | .error divergence => .error divergence
      | .ok () =>
          if borrowed ≠ returned then
            .error (handleDivergence (.handle borrowed) (.handle returned))
          else
            match outcome, returned with
            | .notApplied, none => .ok none
            | .applied, none =>
                .error (handleDivergence (.id expected) (.text "no handle"))
            | .unknown, none =>
                .error (handleDivergence (.id expected) (.text "no handle"))
            | .applied, some registration =>
                if registration.id = expected then
                  .ok (some registration)
                else
                  .error
                    (handleDivergence (.id expected) (.id registration.id))
            | .unknown, some registration =>
                if registration.id = expected then
                  .ok (some registration)
                else
                  .error
                    (handleDivergence (.id expected) (.id registration.id))
            | _, returned =>
                .error
                  (handleDivergence
                    (.text "no handle for not-applied register")
                    (.handle returned))

def expectMutationResult
    (fixture : Fixture) (result : Except Error Unit) (outcome : Outcome)
    (operation : Operation) (kind : IoErrorKind) :
    Except Divergence Unit :=
  match outcome, result with
  | .success, .ok () => .ok ()
  | .success, .error error =>
      .error (resultMismatch "successful mutation" (.error error))
  | _, .ok () =>
      .error (resultMismatch "mutation failure" (.text "success"))
  | _, .error error =>
      expectMutationError fixture error outcome operation kind

def expectDeleteError
    (fixture : Fixture) (result : Except DeleteError Unit)
    (outcome : Outcome) (expected : Registration) :
    Except Divergence Unit :=
  match result with
  | .ok () => .error (resultMismatch "delete failure" (.text "success"))
  | .error error =>
      let borrowed := error.registration
      let (cause, returned) := (error.error, error.registration)
      if borrowed ≠ expected ∨ returned ≠ expected then
        .error
          (handleDivergence (.registration expected)
            (.handles borrowed returned))
      else
        expectMutationError fixture cause outcome .delete .brokenPipe

def expectInvalidInterest (error : Error) : Except Divergence Unit :=
  match error with
  | .invalidInterest => .ok ()
  | other => .error (resultMismatch "InvalidInterest" (.error other))

/-- `expect_call_count`, and `unchanged_calls` of the probes. -/
def expectCallCount (expected actual : Nat) (action : String) :
    Except Divergence Unit :=
  if actual = expected then
    .ok ()
  else
    .error
      { check := .calls
        expected := .counted expected ("calls before " ++ action)
        actual := .counted actual ("calls after " ++ action) }

def lastRegisterId
    (context : SequenceContext) (key : Key) (interest : Interest)
    (mode : Mode) : Except Divergence RegistrationId :=
  let last := context.poll.driver.calls.getLast?
  let diverged : Divergence :=
    { check := .calls
      expected := .registerCall key interest mode
      actual := .lastCall last }
  match last with
  | some (.register registration actualKey actualInterest actualMode) =>
      if (actualKey, actualInterest, actualMode) = (key, interest, mode) then
        .ok registration
      else
        .error diverged
  | _ => .error diverged

/-- The rejection that a probe expects. -/
inductive Rejection where
  | stale
  | wrongPoller
deriving DecidableEq, Repr

def Rejection.shown (id : RegistrationId) : Rejection → Shown
  | .stale => .stale id
  | .wrongPoller => .wrongPoller id

def Rejection.error (id : RegistrationId) : Rejection → Error
  | .stale => .stale id
  | .wrongPoller => .wrongPoller id

def Rejection.stateText : Rejection → String
  | .stale => "Stale state error"
  | .wrongPoller => "WrongPoller state error"

/-- `expect_stale` and `expect_wrong`. -/
def Rejection.expect
    (self : Rejection) (result : Except Error Unit)
    (expected : RegistrationId) : Except Divergence Unit :=
  if result = .error (self.error expected) then
    .ok ()
  else
    .error
      { check := .result
        expected := self.shown expected
        actual := .result result }

/-- `expect_stale_state` and `expect_wrong_state`. -/
def Rejection.expectState
    (self : Rejection) (result : Except Error RegistrationState)
    (expected : RegistrationId) : Except Divergence Unit :=
  match result with
  | .error error => self.expect (.error error) expected
  | .ok actual =>
      .error (resultMismatch self.stateText (.state actual))

/-! ## Actions -/

/-- A failed action leaves no context behind. -/
abbrev Executed := Except Divergence SequenceContext

def registerInvalid
    (fixture : Fixture) (index : Nat) (context : SequenceContext)
    (key : Key) (mode : Mode) : Executed :=
  if context.model.active.isSome then
    .error (precondition "vacant registration slot" "active handle")
  else
    match fixture.source index with
    | some error =>
        .error (setupDivergence "Unix stream source" (.ioError error))
    | none =>
        let calls := context.poll.driver.calls.length
        let (poll, result) :=
          MutationSession.register scriptedBackend
            (context.poll.session (fixture.counter index))
            (fixture.duplicate index) key .empty mode
        let context := context.withPoll poll
        match result with
        | .ok _ =>
            .error
              (resultMismatch "InvalidInterest register error"
                (.text "success"))
        | .error error =>
            if error.registration.isSome then
              .error
                (handleDivergence (.text "no registration capability")
                  (.handle error.registration))
            else
              match expectInvalidInterest error.error with
              | .error divergence => .error divergence
              | .ok () =>
                  (expectCallCount calls context.poll.driver.calls.length
                    "invalid register").map fun _ => context

def register
    (fixture : Fixture) (index : Nat) (context : SequenceContext)
    (outcome : Outcome) (key : Key) (interest : Interest) (mode : Mode) :
    Executed :=
  if context.model.active.isSome then
    .error (precondition "vacant registration slot" "active handle")
  else
    match fixture.source index with
    | some error =>
        .error (setupDivergence "Unix stream source" (.ioError error))
    | none =>
        let (poll, result) :=
          MutationSession.register scriptedBackend
            (context.poll.session (fixture.counter index))
            (fixture.duplicate index) key interest mode
        let context := context.withPoll poll
        match lastRegisterId context key interest mode with
        | .error divergence => .error divergence
        | .ok id =>
            match context.model.recordRegister id key interest mode with
            | .error actual =>
                .error
                  (generationDivergence "fresh registration generation"
                    actual)
            | .ok recorded =>
                let registration :=
                  if outcome = .success then
                    (successfulRegister result id).map some
                  else
                    failedRegister fixture result outcome id
                match registration with
                | .error divergence => .error divergence
                | .ok registration =>
                    match recorded.completeRegister outcome registration
                        interest mode with
                    | .error actual =>
                        .error
                          (precondition "valid register transition" actual)
                    | .ok model => .ok { context with model }

def disarm (fixture : Fixture) (index : Nat) (context : SequenceContext) :
    Executed :=
  match context.model.active with
  | none =>
      .error (precondition "armed one-shot handle" "vacant slot")
  | some entry =>
      match context.model.disarm with
      | .error actual =>
          .error (precondition "armed one-shot handle" actual)
      | .ok (model, _) =>
          let (poll, result) :=
            ScriptedPoll.establishDisarmed
              (context.poll.session (fixture.counter index))
              entry.registration
          match result with
          | .error error =>
              .error
                (resultMismatch "successful delivered one-shot disarm"
                  (.error error))
          | .ok () =>
              .ok
                (({ context with model } : SequenceContext).withPoll
                  poll)

def modify
    (fixture : Fixture) (index : Nat) (context : SequenceContext)
    (outcome : Outcome) (interest : Interest) (mode : Mode) : Executed :=
  match context.model.recordModify interest mode with
  | .error actual =>
      .error (precondition "proven registered handle" actual)
  | .ok (recorded, entry) =>
      let (poll, result) :=
        MutationSession.modify scriptedBackend
          (context.poll.session (fixture.counter index))
          entry.registration interest mode
      let context := context.withPoll poll
      match expectMutationResult fixture result outcome .modify
          .timedOut with
      | .error divergence => .error divergence
      | .ok () =>
          match recorded.completeModify outcome interest mode with
          | .error actual =>
              .error (precondition "valid modify transition" actual)
          | .ok model => .ok { context with model }

def modifyInvalid
    (fixture : Fixture) (index : Nat) (context : SequenceContext)
    (mode : Mode) : Executed :=
  match context.model.active with
  | none => .error (precondition "active handle" "vacant slot")
  | some entry =>
      let calls := context.poll.driver.calls.length
      let (poll, result) :=
        MutationSession.modify scriptedBackend
          (context.poll.session (fixture.counter index))
          entry.registration .empty mode
      let context := context.withPoll poll
      match result with
      | .ok () =>
          .error
            (resultMismatch "InvalidInterest modify error"
              (.text "success"))
      | .error error =>
          match expectInvalidInterest error with
          | .error divergence => .error divergence
          | .ok () =>
              (expectCallCount calls context.poll.driver.calls.length
                "invalid modify").map fun _ => context

def delete
    (fixture : Fixture) (index : Nat) (context : SequenceContext)
    (outcome : Outcome) : Executed :=
  match context.model.recordDelete with
  | .error actual => .error (precondition "active handle" actual)
  | .ok (recorded, entry) =>
      let (poll, result) :=
        MutationSession.delete scriptedBackend
          (context.poll.session (fixture.counter index))
          entry.registration
      let context := context.withPoll poll
      let checked :=
        if outcome = .success then
          match result with
          | .error error =>
              .error
                (resultMismatch "successful delete" (.deleteError error))
          | .ok () => .ok ()
        else
          expectDeleteError fixture result outcome entry.registration
      match checked with
      | .error divergence => .error divergence
      | .ok () =>
          match recorded.completeDelete outcome with
          | .error actual =>
              .error (precondition "valid delete transition" actual)
          | .ok model => .ok { context with model }

/-- The rejected deletion at the end of both probes: the error of the
rejection and the unchanged handle. -/
def expectRejectedDelete
    (rejection : Rejection) (text : String) (registration : Registration)
    (result : Except DeleteError Unit) : Except Divergence Unit :=
  match result with
  | .ok () => .error (resultMismatch text (.text "success"))
  | .error error =>
      if error.registration ≠ registration then
        .error
          (handleDivergence (.registration registration)
            (.registration error.registration))
      else
        rejection.expect (.error error.error) registration.id

/-- The queries and mutations that both probes make on a poller, with the
poller that is left. -/
def probe
    (rejection : Rejection) (poll : ScriptedPoll)
    (registration : Registration) (interest : Interest) (mode : Mode)
    (deleteText probeText : String) :
    Except Divergence (Poller ScriptedDriver) :=
  let calls := poll.driver.calls.length
  match rejection.expectState (pollState poll.poller registration)
      registration.id with
  | .error divergence => .error divergence
  | .ok () =>
      let (poll, modified) :=
        MutationSession.modify scriptedBackend poll registration interest
          mode
      match rejection.expect modified registration.id with
      | .error divergence => .error divergence
      | .ok () =>
          let (poll, deleted) :=
            MutationSession.delete scriptedBackend poll registration
          match expectRejectedDelete rejection deleteText registration
              deleted with
          | .error divergence => .error divergence
          | .ok () =>
              (expectCallCount calls poll.driver.calls.length
                probeText).map fun _ => poll.poller

def probeStale
    (fixture : Fixture) (index : Nat) (context : SequenceContext) :
    Executed :=
  match context.model.stale with
  | none => .error (precondition "retired handle" "no retired handle")
  | some registration =>
      (probe .stale (context.poll.session (fixture.counter index))
        registration .readable .oneShot "stale delete rejection"
        "stale probe").map fun poll => { context with poll }

def probeWrongPoller
    (fixture : Fixture) (index : Nat) (context : SequenceContext) :
    Executed :=
  match context.model.active with
  | none => .error (precondition "active handle" "vacant slot")
  | some entry =>
      (probe .wrongPoller
        (context.stranger.session (fixture.counter index))
        entry.registration .writable .level
        "wrong-poller delete rejection" "wrong-poller probe").map
          fun stranger => { context with stranger }

def stateDivergence (expected : RegistrationState) (actual : Shown) :
    Divergence :=
  { check := .state, expected := .state expected, actual }

def verifyStranger (context : SequenceContext) : Except Divergence Unit :=
  match pollState context.stranger context.strangerRegistration with
  | .error error =>
      .error (resultMismatch "registered stranger handle" (.error error))
  | .ok state =>
      if state ≠ .registered .armed then
        .error (stateDivergence (.registered .armed) (.state state))
      else
        let expectedBackend : ScriptedBackendState :=
          .registered strangerInterest strangerMode .armed
        let actualBackend :=
          context.stranger.driver.state context.strangerRegistration.id
        if actualBackend ≠ expectedBackend then
          .error
            { check := .backend
              expected := .backendState expectedBackend
              actual := .backendState actualBackend }
        else if context.stranger.driver.calls.length = 1 then
          .ok ()
        else
          .error
            { check := .calls
              expected := .text "one stranger setup call"
              actual :=
                .counted context.stranger.driver.calls.length "calls" }

def mutationStep : Action → Option MutationStep
  | .register outcome _ _ _ =>
      some (.register (outcome.mutation .permissionDenied))
  | .modify outcome _ _ => some (.modify (outcome.mutation .timedOut))
  | .delete outcome => some (.delete (outcome.mutation .brokenPipe))
  | _ => none

def setup (fixture : Fixture) (actions : List Action) :
    Except Divergence SequenceContext :=
  if !fixture.scriptStorage then
    .error (setupDivergence "script storage" (.text "allocation failure"))
  else
    let steps := actions.filterMap mutationStep
    match ScriptedPoll.withCapacity fixture.strangerCounter 1
        fixture.pollStorage steps with
    | .error error =>
        .error (setupDivergence "scripted poll" (.error error))
    | .ok poll =>
        match ScriptedPoll.withCapacity fixture.strangerCounter 1
            fixture.strangerStorage [.register .success] with
        | .error error =>
            .error (setupDivergence "stranger poll" (.error error))
        | .ok stranger =>
            match fixture.strangerSource with
            | some error =>
                .error (setupDivergence "stranger source" (.ioError error))
            | none =>
                let (stranger, result) :=
                  MutationSession.register scriptedBackend stranger
                    fixture.strangerDuplicate strangerKey
                    strangerInterest strangerMode
                match result with
                | .error error =>
                    .error
                      (setupDivergence "stranger registration"
                        (.registerError error))
                | .ok strangerRegistration =>
                    match ReferenceModel.new fixture.retiredStorage
                        fixture.issuedStorage fixture.callStorage with
                    | .error () =>
                        .error
                          (setupDivergence "reference model storage"
                            (.text "allocation failure"))
                    | .ok model =>
                        .ok
                          { poll := poll.poller
                            stranger := stranger.poller
                            strangerRegistration
                            model }

def failure
    (seed : UInt64) (phase : ModelSequencePhase) (trace : List String)
    (divergence : Divergence) : ModelSequenceFailure :=
  { seed
    phase
    trace
    check := divergence.check
    expected := divergence.expected
    actual := divergence.actual }

end Zio.Testkit
