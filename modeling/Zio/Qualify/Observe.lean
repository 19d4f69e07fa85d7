import Zio.Qualify.Contract

/-!
# Observing a candidate

The waits of the harness: a quiet window in which nothing may be delivered, and
a readiness wait that takes the first delivery before its deadline.  The
candidate, the fixture and the clock are stateful oracles.  The two loops run
until the clock has passed a deadline, so they take fuel; a clock that advances
with every wait bounds it.
-/

namespace Zio.Qualify

open Benchmark (Implementation)

/-! ## Failures -/

/-- Harness phase associated with a qualification failure. -/
inductive QualificationPhase where
  | capability
  | setup
  | quiescence
  | activation
  | wait
  | cardinality
  | contract
  | levelDelivery
  | disarm
  | rearm
  | operation
  | cleanup
deriving DecidableEq, Repr

/-- One structured candidate/scenario failure. -/
structure QualificationFailure where
  implementation : Implementation
  scenario : Scenario
  phase : QualificationPhase
  expected : String
  actual : String
deriving DecidableEq, Repr

/-! ## Candidates and their surroundings -/

structure EventBatch where
  matchedEvents : Nat
  observation : Observation
deriving DecidableEq, Repr

/-- A candidate.  The one session that it has open is part of the world. -/
structure Candidate (World : Type*) where
  support : DeliveryProfile → World → World × Except String ProfileSupport
  configuredDelivery : DeliveryProfile → ConfiguredDelivery
  register : RegistrationSpec → World → World × Except String Unit
  wait : Nat → World → World × Except String EventBatch
  rearm : World → World × Except String Unit
  delete : World → World × Except String Unit

/-- The clock, in nanoseconds, and the fixture. -/
structure Host (World : Type*) where
  now : World → World × Nat
  fixture : Scenario → World → World × Except String Unit
  activate : World → World × Except String Unit
  verifyOperation : World → World × Except String Unit

/-- `WAIT_LIMIT`. -/
def waitLimit : Nat := 1000000000

/-- `QUIET_WINDOW`. -/
def quietWindow : Nat := 20000000

def batchDescription (batch : EventBatch) : String :=
  toString batch.matchedEvents ++ " matching events with " ++
    batch.observation.text

def contractExpected : ContractViolation → String
  | .missingRequired required _ => "required flags " ++ required.text
  | .missingOneOf requiredAny _ =>
      "at least one flag from " ++ requiredAny.text
  | .undocumented allowed _ => "no flags outside " ++ allowed.text

section Waits

variable {World : Type*} (candidate : Candidate World) (host : Host World)
  (implementation : Implementation) (scenario : Scenario)

def verifyQuietFrom
    (phase : QualificationPhase) (expected : String) (deadline : Nat) :
    Nat → World → Option (World × Except QualificationFailure Unit)
  | 0, _ => none
  | fuel + 1, world =>
      let (world, instant) := host.now world
      let remaining := deadline - instant
      match candidate.wait remaining world with
      | (world, .error actual) =>
          some (world, .error
            { implementation, scenario, phase
              expected := "successful quiet-window wait: " ++ expected
              actual })
      | (world, .ok batch) =>
          if batch.matchedEvents ≠ 0 then
            some (world, .error
              { implementation, scenario, phase, expected
                actual := batchDescription batch })
          else
            let (world, instant) := host.now world
            if instant ≥ deadline then some (world, .ok ())
            else verifyQuietFrom phase expected deadline fuel world

def verifyQuiet
    (fuel : Nat) (phase : QualificationPhase) (expected : String)
    (world : World) :
    Option (World × Except QualificationFailure Unit) :=
  let (world, instant) := host.now world
  verifyQuietFrom candidate host implementation scenario phase expected
    (instant + quietWindow) fuel world

def verifyInitialQuiet (fuel : Nat) (world : World) :
    Option (World × Except QualificationFailure Unit) :=
  verifyQuiet candidate host implementation scenario fuel .quiescence
    "no readiness before fixture activation" world

def verifyDisarmed (fuel : Nat) (position : String) (world : World) :
    Option (World × Except QualificationFailure Unit) :=
  verifyQuiet candidate host implementation scenario fuel .disarm
    ("no delivery " ++ position) world

def awaitEventFrom (deadline : Nat) :
    Nat → World → Option (World × Except String EventBatch)
  | 0, _ => none
  | fuel + 1, world =>
      let (world, instant) := host.now world
      let remaining := deadline - instant
      match candidate.wait remaining world with
      | (world, .error actual) => some (world, .error actual)
      | (world, .ok batch) =>
          if batch.matchedEvents ≠ 0 then some (world, .ok batch)
          else
            let (world, instant) := host.now world
            if instant ≥ deadline then some (world, .ok batch)
            else awaitEventFrom deadline fuel world

def awaitEvent (fuel : Nat) (limit : Nat) (world : World) :
    Option (World × Except String EventBatch) :=
  let (world, instant) := host.now world
  awaitEventFrom candidate host (instant + limit) fuel world

/-- The judgement of one observed batch, with the observations it adds to. -/
def judge
    (phase : QualificationPhase) (observations : List Observation)
    (awaited : Except String EventBatch) :
    List Observation × Except QualificationFailure Unit :=
  match awaited with
  | .error actual =>
      (observations, .error
        { implementation, scenario, phase
          expected := "successful readiness wait"
          actual })
  | .ok batch =>
      if batch.matchedEvents = 0 then
        (observations, .error
          { implementation, scenario, phase
            expected := "one readiness observation before deadline"
            actual := "deadline elapsed" })
      else
        let actual := batch.observation
        let observations := observations ++ [actual]
        if batch.matchedEvents ≠ 1 then
          (observations, .error
            { implementation, scenario
              phase := .cardinality
              expected := "exactly one matching readiness event"
              actual := batchDescription batch })
        else
          match (expectationFor scenario).validate actual with
          | .ok () => (observations, .ok ())
          | .error cause =>
              (observations, .error
                { implementation, scenario
                  phase := .contract
                  expected := contractExpected cause
                  actual := actual.text })

/-- What an observing function leaves: the world, the observations so far and
its result. -/
abbrev Observing (World : Type*) :=
  Option (World × List Observation × Except QualificationFailure Unit)

def observeOne
    (fuel : Nat) (phase : QualificationPhase)
    (observations : List Observation) (world : World) : Observing World :=
  match awaitEvent candidate host fuel waitLimit world with
  | none => none
  | some (world, awaited) =>
      some (world, judge implementation scenario phase observations awaited)

/-- The one-shot part of `observe_profile`, after its first observation. -/
def observeRearmed
    (fuel : Nat) (observations : List Observation) (world : World) :
    Observing World :=
  match verifyDisarmed candidate host implementation scenario fuel
      "before explicit rearm" world with
  | none => none
  | some (world, .error cause) => some (world, observations, .error cause)
  | some (world, .ok ()) =>
      match candidate.rearm world with
      | (world, .error actual) =>
          some (world, observations, .error
            { implementation, scenario
              phase := .rearm
              expected := "explicit native rearm"
              actual })
      | (world, .ok ()) =>
          match observeOne candidate host implementation scenario fuel
              .rearm observations world with
          | none => none
          | some (world, observations, .error cause) =>
              some (world, observations, .error cause)
          | some (world, observations, .ok ()) =>
              match verifyDisarmed candidate host implementation scenario
                  fuel "after rearmed delivery" world with
              | none => none
              | some (world, verified) =>
                  some (world, observations, verified)

def observeProfile
    (fuel : Nat) (observations : List Observation) (world : World) :
    Observing World :=
  match observeOne candidate host implementation scenario fuel .wait
      observations world with
  | none => none
  | some (world, observations, .error cause) =>
      some (world, observations, .error cause)
  | some (world, observations, .ok ()) =>
      match scenario.profile with
      | .initialObservation => some (world, observations, .ok ())
      | .level =>
          observeOne candidate host implementation scenario fuel
            .levelDelivery observations world
      | .oneShot =>
          observeRearmed candidate host implementation scenario fuel
            observations world

end Waits

end Zio.Qualify
