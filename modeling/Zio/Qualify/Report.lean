import Zio.Qualify.Observe

/-!
# Qualification receipts

The receipt of one candidate in one scenario, and the execution that produces
it.
-/

namespace Zio.Qualify

open Benchmark (Implementation)

/-! ## Receipts -/

/-- Outcome for one candidate/scenario pair. -/
inductive CaseOutcome where
  | passed
  | notRun (support : ProfileSupport)
  | failed (failures : List QualificationFailure)
deriving DecidableEq, Repr

/-- One candidate/scenario receipt. -/
structure CaseResult where
  implementation : Implementation
  scenario : Scenario
  configuredDelivery : Option ConfiguredDelivery
  observations : List Observation
  outcome : CaseOutcome
deriving DecidableEq, Repr

/-- Every retained failure in execution order. -/
def CaseResult.failures (self : CaseResult) : List QualificationFailure :=
  match self.outcome with
  | .failed failures => failures
  | .passed | .notRun _ => []

/-! ## Execution of one case -/

/-- `KEY`. -/
def registrationKey : Nat := 7001

section Execution

variable {World : Type*} (candidate : Candidate World) (host : Host World)
  (implementation : Implementation) (scenario : Scenario)

/-- A receipt with one failure. -/
def failed
    (configuredDelivery : Option ConfiguredDelivery)
    (phase : QualificationPhase) (expected actual : String) : CaseResult :=
  { implementation, scenario, configuredDelivery
    observations := []
    outcome :=
      .failed [{ implementation, scenario, phase, expected, actual }] }

/-- The failure of one phase, if it failed. -/
def phaseFailure
    (phase : QualificationPhase) (expected : String)
    (result : Except String Unit) : List QualificationFailure :=
  match result with
  | .ok () => []
  | .error actual => [{ implementation, scenario, phase, expected, actual }]

/-- The failure of an observing function, if it failed. -/
def observedFailure (result : Except QualificationFailure Unit) :
    List QualificationFailure :=
  match result with
  | .ok () => []
  | .error cause => [cause]

/-- The observations of a fixture that was activated. -/
def observeActivated (fuel : Nat) (activated : Bool) (world : World) :
    Observing World :=
  if activated then
    observeProfile candidate host implementation scenario fuel [] world
  else
    some (world, [], .ok ())

/-- The execution of a registered session to its end. -/
def runSession (fuel : Nat) (world : World) :
    Option (World × List Observation × List QualificationFailure) :=
  match verifyInitialQuiet candidate host implementation scenario fuel
      world with
  | none => none
  | some (world, quiet) =>
      let (world, activated) := host.activate world
      match observeActivated candidate host implementation scenario fuel
          activated.isOk world with
      | none => none
      | some (world, observations, observed) =>
          let (world, deleted) := candidate.delete world
          let (world, operated) := host.verifyOperation world
          some (world, observations,
            observedFailure quiet ++
              phaseFailure implementation scenario .activation
                "fixture transitioned from quiet to ready" activated ++
              observedFailure observed ++
              phaseFailure implementation scenario .cleanup
                "deleted registration before fixture drop" deleted ++
              phaseFailure implementation scenario .operation
                "matching nonblocking operation returns fixture bytes"
                operated)

def run (fuel : Nat) (world : World) : Option (World × CaseResult) :=
  match candidate.support scenario.profile world with
  | (world, .error actual) =>
      some (world, failed implementation scenario none .capability
        "candidate capability discovery" actual)
  | (world, .ok support) =>
      if support ≠ .native then
        some (world,
          { implementation, scenario
            configuredDelivery := none
            observations := []
            outcome := .notRun support })
      else
        match host.fixture scenario world with
        | (world, .error actual) =>
            some (world, failed implementation scenario none .setup
              "fresh independent Unix stream fixture" actual)
        | (world, .ok ()) =>
            let configured := candidate.configuredDelivery scenario.profile
            let spec : RegistrationSpec :=
              { key := registrationKey
                interest := scenario.interest
                profile := scenario.profile }
            match candidate.register spec world with
            | (world, .error actual) =>
                some (world, failed implementation scenario
                  (some configured) .setup "registered fixture" actual)
            | (world, .ok ()) =>
                match runSession candidate host implementation scenario
                    fuel world with
                | none => none
                | some (world, observations, failures) =>
                    some (world,
                      { implementation, scenario
                        configuredDelivery := some configured
                        observations
                        outcome :=
                          if failures.isEmpty then .passed
                          else .failed failures })

end Execution

end Zio.Qualify
