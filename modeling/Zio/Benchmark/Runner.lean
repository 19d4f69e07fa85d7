import Zio.Benchmark.Calibration
import Zio.Benchmark.Lines

/-!
# Benchmark runner

Failure-retaining candidate rotation and receipt emission.  The answers of the
candidates and of the descriptor directory come from a driver, over a world
that every call may change.  Beside the lines that are written, a run records
the answers, the calls and the receipts that the lines encode.
-/

namespace Zio.Benchmark

/-! ## Driver -/

structure Driver (World : Type) where
  support : Implementation → Scenario → World →
    Except String Support × World
  run : Implementation → Scenario → Nat → Option Metric → World →
    Except String Captured × World
  /-- `FdProbe::count`. -/
  count : FdProbe → World → Option Nat × World

/-- What a candidate is run for. -/
inductive Stage where
  | calibration
  | warmup
  | measurement (round orderPosition : Nat)
deriving DecidableEq, Repr

structure RunCall where
  implementation : Implementation
  iterations : Nat
  stage : Stage
  failed : Bool
deriving DecidableEq, Repr

/-- A receipt, before it is encoded. -/
inductive Receipt where
  | unsupported (implementation : Implementation) (reason : Unsupported)
  | failed (implementation : Implementation) (metric : Metric)
      (phase error : String) (samples : List Sample)
  | passed (candidate : CandidateSamples)
deriving DecidableEq, Repr

namespace Receipt

def implementation : Receipt → Implementation
  | unsupported implementation _ => implementation
  | failed implementation _ _ _ _ => implementation
  | passed candidate => candidate.implementation

/-- The line of a receipt in a run of a metric. -/
def line
    (metric : Metric) (config : Config) (metadata : Metadata)
    (scenario : Scenario) (fdProbe : FdProbe) :
    Receipt → Except Fault String
  | unsupported implementation reason =>
      .ok
        (Benchmark.unsupported metric metadata config implementation
          scenario reason)
  | failed implementation metric phase error samples =>
      Benchmark.failed
        { metric, metadata, config, implementation, scenario } phase error
        fdProbe samples
  | passed candidate =>
      measurement metric metadata config candidate scenario fdProbe

end Receipt

/-- What a run of a scenario has written and observed. -/
structure Progress (World : Type) where
  world : World
  output : List String
  summary : List String
  answers : List (Implementation × Except String Support)
  calls : List RunCall
  receipts : List Receipt

namespace Progress

variable {World : Type}

def start (world : World) : Progress World :=
  { world
    output := []
    summary := []
    answers := []
    calls := []
    receipts := [] }

def writeSummaryLine (self : Progress World) (line : String) :
    Progress World :=
  { self with summary := self.summary ++ ["zio-perf " ++ line] }

def support
    (self : Progress World) (driver : Driver World)
    (implementation : Implementation) (scenario : Scenario) :
    Except String Support × Progress World :=
  let answered := driver.support implementation scenario self.world
  (answered.1,
    { self with
      world := answered.2
      answers := self.answers ++ [(implementation, answered.1)] })

def run
    (self : Progress World) (driver : Driver World)
    (implementation : Implementation) (scenario : Scenario)
    (iterations : Nat) (metric : Option Metric) (stage : Stage) :
    Except String Captured × Progress World :=
  let ran := driver.run implementation scenario iterations metric self.world
  (ran.1,
    { self with
      world := ran.2
      calls := self.calls ++
        [{ implementation, iterations, stage
           failed := (resultErr ran.1).isSome }] })

def count
    (self : Progress World) (driver : Driver World) (fdProbe : FdProbe) :
    Option Nat × Progress World :=
  let counted := driver.count fdProbe self.world
  (counted.1, { self with world := counted.2 })

end Progress

/-! ## Selection -/

def selectedScenarios (config : Config) : List Scenario :=
  match config.scenario with
  | some scenario => [scenario]
  | none =>
      Scenario.all.filter fun scenario =>
        !config.smoke ||
          !(scenario == .readyBatch1024 || scenario == .persistentBatch1024)

def selectedImplementations (config : Config) (scenario : Scenario) :
    List Implementation :=
  match config.implementation with
  | some implementation => [implementation]
  | none => Implementation.all.filter scenario.supports

/-- `usize::saturating_add`. -/
def usizeSaturatingAdd (left right : Nat) : Nat :=
  min (left + right) usizeMax

theorem maxCalibratedIterations_le (scenario : Scenario) :
    scenario.maxCalibratedIterations ≤ 1000000 := by
  cases scenario <;> decide

section Runner

variable {World : Type} (driver : Driver World) (metric : Metric)
  (config : Config) (metadata : Metadata) (scenario : Scenario)
  (fdProbe : FdProbe)

/-! ## Receipts -/

def writeReceipt (receipt : Receipt) (self : Progress World) :
    Except Fault (Progress World) := do
  let line ← receipt.line metric config metadata scenario fdProbe
  return { self with
    output := self.output ++ [line]
    receipts := self.receipts ++ [receipt] }

def emitFailure
    (implementation : Implementation) (phase error : String)
    (samples : List Sample) (self : Progress World) :
    Except Fault (Progress World) := do
  let self ← writeReceipt metric config metadata scenario fdProbe
    (.failed implementation metric phase error samples) self
  return self.writeSummaryLine
    (implementation.name ++ " " ++ scenario.name ++ ": failed in " ++
      phase ++ " (" ++ error ++ ")")

/-! ## Preparation -/

/-- What the answer of one candidate does. -/
def preflightOne
    (implementation : Implementation) (active : List CandidateSamples)
    (failures : Nat) (self : Progress World) :
    Except Fault (List CandidateSamples × Nat × Progress World) :=
  match self.support driver implementation scenario with
  | (.ok .available, self) =>
      .ok
        (active ++
            [CandidateSamples.new implementation none
              (config.iterationsFor scenario)],
          failures, self)
  | (.ok (.unavailable reason), self) => do
      let self ← writeReceipt metric config metadata scenario fdProbe
        (.unsupported implementation reason) self
      return (active, failures,
        self.writeSummaryLine
          (implementation.name ++ " " ++ scenario.name ++
            ": unsupported (" ++ reason.reason ++ ")"))
  | (.error error, self) => do
      let self ← emitFailure metric config metadata scenario fdProbe
        implementation "preflight" error [] self
      return (active, usizeSaturatingAdd failures 1, self)

/-- The loop of the preflight, over the implementations that are left. -/
def preflight :
    List Implementation → List CandidateSamples → Nat → Progress World →
      Except Fault (List CandidateSamples × Nat × Progress World)
  | [], active, failures, self => .ok (active, failures, self)
  | implementation :: rest, active, failures, self => do
      let (active, failures, self) ←
        preflightOne driver metric config metadata scenario fdProbe
          implementation active failures self
      preflight rest active failures self

/-- A loop over the candidates, each of which it may change. -/
def eachCandidate
    (step : CandidateSamples → Nat → Progress World →
      Except Fault (CandidateSamples × Nat × Progress World)) :
    List CandidateSamples → List CandidateSamples → Nat →
      Progress World →
      Except Fault (List CandidateSamples × Nat × Progress World)
  | visited, [], failures, self => .ok (visited, failures, self)
  | visited, candidate :: rest, failures, self => do
      let (candidate, failures, self) ← step candidate failures self
      eachCandidate step (visited ++ [candidate]) rest failures self

/-- `calibrate_candidates`, for one candidate. -/
def calibrateCandidate
    (candidate : CandidateSamples) (failures : Nat)
    (self : Progress World) :
    Except Fault (CandidateSamples × Nat × Progress World) :=
  match calibrate
      (fun iterations self =>
        self.run driver candidate.implementation scenario iterations
          (some .timing) .calibration)
      scenario.defaultIterations (targetSampleNs config)
      scenario.maxCalibratedIterations
      ((maxCalibratedIterations_le scenario).trans (by decide)) self with
  | (.ok calibration, self) =>
      .ok
        ({ candidate with
            iterations := calibration.requiredIterations
            calibration := some calibration }, failures, self)
  | (.error error, self) => do
      let self ← emitFailure .timing config metadata scenario fdProbe
        candidate.implementation "calibration" error [] self
      return ({ candidate with failed := true },
        usizeSaturatingAdd failures 1, self)

/-- `warm`, for one candidate. -/
def warmCandidate
    (candidate : CandidateSamples) (failures : Nat)
    (self : Progress World) :
    Except Fault (CandidateSamples × Nat × Progress World) :=
  if candidate.failed then
    .ok (candidate, failures, self)
  else
    let iterations := config.warmupFor metric candidate.iterations
    match self.run driver candidate.implementation scenario iterations none
        .warmup with
    | (.ok _, self) =>
        .ok ({ candidate with warmupIterations := iterations }, failures,
          self)
    | (.error error, self) => do
        let self ← emitFailure metric config metadata scenario fdProbe
          candidate.implementation "warmup" error [] self
        return ({ candidate with
            failed := true
            warmupIterations := iterations },
          usizeSaturatingAdd failures 1, self)

/-- The largest iterations of the candidates that have not failed. -/
def sharedIterations (active : List CandidateSamples) : Nat :=
  (((active.filter fun candidate => !candidate.failed).map
      CandidateSamples.iterations).max?).getD
    (config.iterationsFor scenario)

def candidates (self : Progress World) :
    Except Fault (List CandidateSamples × Nat × Progress World) := do
  let (active, failures, self) ←
    preflight driver metric config metadata scenario fdProbe
      (selectedImplementations config scenario) [] 0 self
  let (active, calibrationFailures, self) ←
    if config.calibrates metric then
      eachCandidate
        (calibrateCandidate driver config metadata scenario fdProbe) []
        active 0 self
    else
      .ok (active, 0, self)
  let shared := sharedIterations config scenario active
  let (active, warmupFailures, self) ←
    eachCandidate
      (warmCandidate driver metric config metadata scenario fdProbe) []
      (active.map fun candidate => { candidate with iterations := shared })
      0 self
  return (active,
    usizeSaturatingAdd (usizeSaturatingAdd failures calibrationFailures)
      warmupFailures, self)

/-! ## Rounds -/

/-- The candidate at an order position of a round. -/
def rotated (round orderPosition count : Nat) : Nat :=
  (round + orderPosition) % count

def measureOne
    (round orderPosition : Nat) (active : List CandidateSamples)
    (failures : Nat) (self : Progress World) :
    Except Fault (List CandidateSamples × Nat × Progress World) :=
  let index := rotated round orderPosition active.length
  match active[index]? with
  | none => .error (.error "index out of bounds")
  | some candidate =>
      if candidate.failed then
        .ok (active, failures, self)
      else
        let before := self.count driver fdProbe
        match before.2.run driver candidate.implementation scenario
            candidate.iterations (some metric)
            (.measurement round orderPosition) with
        | (.ok captured, self) =>
            let after := self.count driver fdProbe
            .ok
              (active.set index
                { candidate with
                  samples := candidate.samples ++
                    [{ round, orderPosition, captured
                       retainedFdDelta := fdDelta before.1 after.1 }] },
                failures, after.2)
        | (.error error, self) => do
            let self ← emitFailure metric config metadata scenario fdProbe
              candidate.implementation "measurement" error
              candidate.samples self
            return (active.set index { candidate with failed := true },
              usizeSaturatingAdd failures 1, self)

/-- The loop over the order positions of a round. -/
def measurePositions (round : Nat) :
    List Nat → List CandidateSamples → Nat → Progress World →
      Except Fault (List CandidateSamples × Nat × Progress World)
  | [], active, failures, self => .ok (active, failures, self)
  | orderPosition :: rest, active, failures, self => do
      let (active, failures, self) ←
        measureOne driver metric config metadata scenario fdProbe round
          orderPosition active failures self
      measurePositions round rest active failures self

/-- The loop over the rounds. -/
def measureRounds :
    List Nat → List CandidateSamples → Nat → Progress World →
      Except Fault (List CandidateSamples × Nat × Progress World)
  | [], active, failures, self => .ok (active, failures, self)
  | round :: rest, active, failures, self => do
      let (active, failures, self) ←
        measurePositions driver metric config metadata scenario fdProbe
          round (List.range active.length) active failures self
      measureRounds rest active failures self

/-! ## Scenario -/

def timingPerOperation (sample : Sample) : Except Fault U128 :=
  match sample.captured.metric with
  | .timing elapsed => .ok (perOperation sample elapsed)
  | _ => .error (.error "timing summary received a non-timing sample")

def writePassedSummary
    (candidate : CandidateSamples) (self : Progress World) :
    Except Fault (Progress World) := do
  let detail ←
    match metric with
    | .timing => do
        let values ← candidate.samples.mapM timingPerOperation
        let value ← distribution values
        .ok
          ("median_sample_mean=" ++ toString value.median.val ++
            " ns/op p95_sample_mean=" ++ toString value.p95.val ++
            " ns/op mad_sample_mean=" ++ toString value.mad.val ++ " ns/op")
    | .allocation =>
        .ok
          ("allocation samples=" ++ toString candidate.samples.length)
  return self.writeSummaryLine
    (candidate.implementation.name ++ " " ++ scenario.name ++ ": " ++
      detail)

/-- The receipts of the candidates that have not failed. -/
def writePassed :
    List CandidateSamples → Progress World →
      Except Fault (Progress World)
  | [], self => .ok self
  | candidate :: rest, self => do
      let self ← writeReceipt metric config metadata scenario fdProbe
        (.passed candidate) self
      let self ← writePassedSummary metric scenario candidate self
      writePassed rest self

def executeScenario (self : Progress World) :
    Except Fault (Nat × Progress World) := do
  let (active, failures, self) ←
    candidates driver metric config metadata scenario fdProbe self
  let (active, measureFailures, self) ←
    measureRounds driver metric config metadata scenario fdProbe
      (List.range config.samples) active 0 self
  let self ← writePassed metric config metadata scenario fdProbe
    (active.filter fun candidate => !candidate.failed) self
  return (usizeSaturatingAdd failures measureFailures, self)

end Runner

end Zio.Benchmark
