import Zio.Benchmark.Runner

/-!
# Recorded drivers

A driver that keeps a record of what it was asked behaves as the driver does,
and its record at the end is the answers and the calls that the run itself has
kept.
-/

namespace Zio.Benchmark

variable {World : Type}

/-! ## Recording -/

/-- A run that a driver was asked for, and whether it failed. -/
structure Asked where
  implementation : Implementation
  scenario : Scenario
  iterations : Nat
  metric : Option Metric
  failed : Bool
deriving DecidableEq, Repr

/-- What a driver was asked. -/
structure Consulted where
  supports : List (Implementation × Scenario × Except String Support)
  runs : List Asked

def Consulted.nothing : Consulted := { supports := [], runs := [] }

/-- The driver, with a record of what it is asked. -/
def Driver.recorded (driver : Driver World) : Driver (World × Consulted) :=
  { support := fun implementation scenario before =>
      let answered := driver.support implementation scenario before.1
      (answered.1, answered.2,
        { before.2 with
          supports := before.2.supports ++
            [(implementation, scenario, answered.1)] })
    run := fun implementation scenario iterations metric before =>
      let ran := driver.run implementation scenario iterations metric
        before.1
      (ran.1, ran.2,
        { before.2 with
          runs := before.2.runs ++
            [{ implementation, scenario, iterations, metric
               failed := (resultErr ran.1).isSome }] })
    count := fun fdProbe before =>
      let counted := driver.count fdProbe before.1
      (counted.1, counted.2, before.2) }

/-- What a run of a metric asks a candidate for. -/
def Stage.asks (metric : Metric) : Stage → Option Metric
  | calibration => some .timing
  | warmup => none
  | measurement _ _ => some metric

def RunCall.asked
    (metric : Metric) (scenario : Scenario) (call : RunCall) : Asked :=
  { implementation := call.implementation
    scenario
    iterations := call.iterations
    metric := call.stage.asks metric
    failed := call.failed }

/-- What a run has kept of its driver. -/
def Progress.consulted
    (metric : Metric) (scenario : Scenario) (self : Progress World) :
    Consulted :=
  { supports := self.answers.map fun answer => (answer.1, scenario, answer.2)
    runs := self.calls.map (RunCall.asked metric scenario) }

/-- A run whose driver has recorded what the run has kept. -/
def Progress.recorded
    (metric : Metric) (scenario : Scenario) (self : Progress World) :
    Progress (World × Consulted) :=
  { world := (self.world, self.consulted metric scenario)
    output := self.output
    summary := self.summary
    answers := self.answers
    calls := self.calls
    receipts := self.receipts }

theorem Progress.start_recorded
    (metric : Metric) (scenario : Scenario) (world : World) :
    (Progress.start world).recorded metric scenario =
      Progress.start (world, Consulted.nothing) := rfl

/-! ## Calibrations -/

section Calibrations

variable {Other : Type} {run : Nat → World → Except String Captured × World}
  {other : Nat → Other → Except String Captured × Other}
  (view : World → Other)
  (commutes : ∀ iterations world,
    other iterations (view world) =
      ((run iterations world).1, view (run iterations world).2))
include commutes

theorem probe_map
    {maximum : Nat} (addressable : maximum ≤ usizeMax) {iterations : Nat}
    (within : iterations ≤ maximum) (world : World) :
    probe other maximum addressable iterations within (view world) =
      ((probe run maximum addressable iterations within world).1,
        view (probe run maximum addressable iterations within world).2) := by
  induction less : maximum - iterations using Nat.strongRecOn
      generalizing iterations world with
  | ind measure inductionHypothesis =>
      rw [probe, probe, commutes]
      rcases run iterations world with ⟨message | captured, next⟩
      · rfl
      · simp only
        cases elapsed captured with
        | error message => rfl
        | ok value =>
            simp only
            split
            · rfl
            · split
              · rfl
              · have bounds := nextProbe_bounds addressable within value
                exact inductionHypothesis _ (by omega) bounds.2 next rfl

theorem calibrate_map
    {seed targetNs maximum : Nat} {addressable : maximum ≤ usizeMax}
    (world : World) :
    calibrate other seed targetNs maximum addressable (view world) =
      ((calibrate run seed targetNs maximum addressable world).1,
        view
          (calibrate run seed targetNs maximum addressable world).2) := by
  unfold calibrate calibrateWithin
  rw [probe_map view commutes]
  rcases probe run (max maximum 1) _ (clamp seed 1 (max maximum 1)) _ world
    with ⟨message | ⟨iterations, elapsedNs⟩, middle⟩
  · rfl
  simp only
  cases scaledIterations iterations elapsedNs targetNs (max maximum 1) with
  | error message => rfl
  | ok required =>
      simp only [commutes]
      rcases run required middle with ⟨message | captured, after⟩
      · rfl
      · simp only
        cases elapsed captured <;> rfl

end Calibrations

/-! ## Consultations -/

section Recorded

variable (driver : Driver World) (metric : Metric) (config : Config)
  (metadata : Metadata) (scenario : Scenario) (fdProbe : FdProbe)

theorem support_recorded
    (implementation : Implementation) (self : Progress World) :
    (self.recorded metric scenario).support driver.recorded implementation
        scenario =
      ((self.support driver implementation scenario).1,
        (self.support driver implementation scenario).2.recorded metric
          scenario) := by
  simp only [Progress.support, Progress.recorded, Progress.consulted,
    Driver.recorded, List.map_append, List.map_cons, List.map_nil]

theorem run_recorded
    (implementation : Implementation) (iterations : Nat) (stage : Stage)
    (self : Progress World) :
    (self.recorded metric scenario).run driver.recorded implementation
        scenario iterations (stage.asks metric) stage =
      ((self.run driver implementation scenario iterations
          (stage.asks metric) stage).1,
        (self.run driver implementation scenario iterations
          (stage.asks metric) stage).2.recorded metric scenario) := by
  simp only [Progress.run, Progress.recorded, Progress.consulted,
    Driver.recorded, RunCall.asked, List.map_append, List.map_cons,
    List.map_nil]

theorem count_recorded (self : Progress World) :
    (self.recorded metric scenario).count driver.recorded fdProbe =
      ((self.count driver fdProbe).1,
        (self.count driver fdProbe).2.recorded metric scenario) := rfl

/-! ## Lines -/

theorem writeReceipt_recorded
    (reported : Metric) (receipt : Receipt) (self : Progress World) :
    writeReceipt reported config metadata scenario fdProbe receipt
        (self.recorded metric scenario) =
      (writeReceipt reported config metadata scenario fdProbe receipt
        self).map (Progress.recorded metric scenario) := by
  unfold writeReceipt
  cases receipt.line reported config metadata scenario fdProbe <;> rfl

theorem emitFailure_recorded
    (reported : Metric) (implementation : Implementation)
    (phase error : String) (samples : List Sample)
    (self : Progress World) :
    emitFailure reported config metadata scenario fdProbe implementation
        phase error samples (self.recorded metric scenario) =
      (emitFailure reported config metadata scenario fdProbe implementation
        phase error samples self).map (Progress.recorded metric scenario) := by
  unfold emitFailure
  rw [writeReceipt_recorded]
  cases writeReceipt reported config metadata scenario fdProbe _ self <;> rfl

/-! ## Preparation -/

/-- A run beside a candidate and a failure count, with a record. -/
def carried {Held : Type} (outcome : Held × Nat × Progress World) :
    Held × Nat × Progress (World × Consulted) :=
  (outcome.1, outcome.2.1, outcome.2.2.recorded metric scenario)

theorem preflightOne_recorded
    (implementation : Implementation) (active : List CandidateSamples)
    (failures : Nat) (self : Progress World) :
    preflightOne driver.recorded metric config metadata scenario fdProbe
        implementation active failures (self.recorded metric scenario) =
      (preflightOne driver metric config metadata scenario fdProbe
        implementation active failures self).map
          (carried metric scenario) := by
  unfold preflightOne
  rw [support_recorded]
  rcases self.support driver implementation scenario with
    ⟨error | present | reason, next⟩
  · simp only [emitFailure_recorded]
    cases emitFailure metric config metadata scenario fdProbe implementation
      "preflight" error [] next <;> rfl
  · rfl
  · simp only [writeReceipt_recorded]
    cases writeReceipt metric config metadata scenario fdProbe
      (.unsupported implementation reason) next <;> rfl

theorem preflight_recorded
    (left : List Implementation) (active : List CandidateSamples)
    (failures : Nat) (self : Progress World) :
    preflight driver.recorded metric config metadata scenario fdProbe left
        active failures (self.recorded metric scenario) =
      (preflight driver metric config metadata scenario fdProbe left active
        failures self).map (carried metric scenario) := by
  induction left generalizing active failures self with
  | nil => rfl
  | cons implementation rest inductionHypothesis =>
      unfold preflight
      rw [preflightOne_recorded]
      rcases preflightOne driver metric config metadata scenario fdProbe
          implementation active failures self with
        fault | ⟨entered, failed, next⟩
      · rfl
      · exact inductionHypothesis entered failed next

theorem eachCandidate_recorded
    {step : CandidateSamples → Nat → Progress World →
      Except Fault (CandidateSamples × Nat × Progress World)}
    {record : CandidateSamples → Nat → Progress (World × Consulted) →
      Except Fault (CandidateSamples × Nat × Progress (World × Consulted))}
    (commutes : ∀ candidate failures self,
      record candidate failures (self.recorded metric scenario) =
        (step candidate failures self).map (carried metric scenario))
    (visited left : List CandidateSamples) (failures : Nat)
    (self : Progress World) :
    eachCandidate record visited left failures
        (self.recorded metric scenario) =
      (eachCandidate step visited left failures self).map
        (carried metric scenario) := by
  induction left generalizing visited failures self with
  | nil => rfl
  | cons candidate rest inductionHypothesis =>
      unfold eachCandidate
      rw [commutes]
      rcases step candidate failures self with
        fault | ⟨changed, failed, next⟩
      · rfl
      · exact inductionHypothesis (visited ++ [changed]) failed next

theorem calibrateCandidate_recorded
    (candidate : CandidateSamples) (failures : Nat)
    (self : Progress World) :
    calibrateCandidate driver.recorded config metadata scenario fdProbe
        candidate failures (self.recorded metric scenario) =
      (calibrateCandidate driver config metadata scenario fdProbe candidate
        failures self).map (carried metric scenario) := by
  have commutes := fun iterations =>
    run_recorded driver metric scenario candidate.implementation iterations
      .calibration
  simp only [Stage.asks] at commutes
  unfold calibrateCandidate
  rw [calibrate_map (Progress.recorded metric scenario) commutes]
  rcases calibrate
      (fun iterations (self : Progress World) =>
        self.run driver candidate.implementation scenario iterations
          (some .timing) .calibration)
      scenario.defaultIterations (targetSampleNs config)
      scenario.maxCalibratedIterations
      ((maxCalibratedIterations_le scenario).trans (by decide)) self with
    ⟨error | calibration, next⟩
  · simp only [emitFailure_recorded]
    cases emitFailure .timing config metadata scenario fdProbe
      candidate.implementation "calibration" error [] next <;> rfl
  · rfl

theorem warmCandidate_recorded
    (candidate : CandidateSamples) (failures : Nat)
    (self : Progress World) :
    warmCandidate driver.recorded metric config metadata scenario fdProbe
        candidate failures (self.recorded metric scenario) =
      (warmCandidate driver metric config metadata scenario fdProbe
        candidate failures self).map (carried metric scenario) := by
  unfold warmCandidate
  split
  · rfl
  · have ran := run_recorded driver metric scenario
      candidate.implementation
      (config.warmupFor metric candidate.iterations) .warmup self
    simp only [Stage.asks] at ran
    simp only [ran]
    rcases self.run driver candidate.implementation scenario
        (config.warmupFor metric candidate.iterations) none .warmup with
      ⟨error | captured, next⟩
    · simp only [emitFailure_recorded]
      cases emitFailure metric config metadata scenario fdProbe
        candidate.implementation "warmup" error [] next <;> rfl
    · rfl

theorem candidates_recorded (self : Progress World) :
    candidates driver.recorded metric config metadata scenario fdProbe
        (self.recorded metric scenario) =
      (candidates driver metric config metadata scenario fdProbe self).map
        (carried metric scenario) := by
  unfold candidates
  rw [preflight_recorded]
  rcases preflight driver metric config metadata scenario fdProbe
      (selectedImplementations config scenario) [] 0 self with
    fault | ⟨entered, failures, first⟩
  · rfl
  -- what follows the calibrations, for any candidates that they leave
  have warms : ∀ (left : List CandidateSamples) (sum : Nat → Nat)
      (middle : Progress World),
      ((eachCandidate
          (warmCandidate driver.recorded metric config metadata scenario
            fdProbe) [] left 0 (middle.recorded metric scenario)).bind
        fun warmed => .ok (warmed.1, sum warmed.2.1, warmed.2.2)) =
      ((eachCandidate
          (warmCandidate driver metric config metadata scenario fdProbe) []
          left 0 middle).bind
        fun warmed => .ok (warmed.1, sum warmed.2.1, warmed.2.2)).map
          (carried metric scenario) := by
    intro left sum middle
    rw [eachCandidate_recorded metric scenario
      (warmCandidate_recorded driver metric config metadata scenario
        fdProbe)]
    cases eachCandidate
      (warmCandidate driver metric config metadata scenario fdProbe) [] left
      0 middle <;> rfl
  by_cases calibrates : config.calibrates metric = true
  · simp only [calibrates, if_true]
    simp only [Except.map, carried, bind, Except.bind]
    rw [eachCandidate_recorded metric scenario
      (calibrateCandidate_recorded driver metric config metadata scenario
        fdProbe)]
    rcases eachCandidate
        (calibrateCandidate driver config metadata scenario fdProbe) []
        entered 0 first with
      fault | ⟨calibrated, calibrationFailures, middle⟩
    · rfl
    · exact warms _
        (usizeSaturatingAdd
          (usizeSaturatingAdd failures calibrationFailures)) middle
  · simp only [if_neg calibrates]
    exact warms _ (usizeSaturatingAdd (usizeSaturatingAdd failures 0)) first

/-! ## Rounds -/

theorem measureOne_recorded
    (round orderPosition : Nat) (active : List CandidateSamples)
    (failures : Nat) (self : Progress World) :
    measureOne driver.recorded metric config metadata scenario fdProbe
        round orderPosition active failures
        (self.recorded metric scenario) =
      (measureOne driver metric config metadata scenario fdProbe round
        orderPosition active failures self).map
          (carried metric scenario) := by
  unfold measureOne
  simp only
  split
  · rfl
  · rename_i candidate found
    split
    · rfl
    · have ran := run_recorded driver metric scenario
        candidate.implementation candidate.iterations
        (.measurement round orderPosition) (self.count driver fdProbe).2
      simp only [Stage.asks] at ran
      simp only [count_recorded, ran]
      rcases (self.count driver fdProbe).2.run driver
          candidate.implementation scenario candidate.iterations
          (some metric) (.measurement round orderPosition) with
        ⟨error | captured, next⟩
      · simp only [emitFailure_recorded]
        cases emitFailure metric config metadata scenario fdProbe
          candidate.implementation "measurement" error candidate.samples
          next <;> rfl
      · rfl

theorem measurePositions_recorded
    (round : Nat) (left : List Nat) (active : List CandidateSamples)
    (failures : Nat) (self : Progress World) :
    measurePositions driver.recorded metric config metadata scenario fdProbe
        round left active failures (self.recorded metric scenario) =
      (measurePositions driver metric config metadata scenario fdProbe round
        left active failures self).map (carried metric scenario) := by
  induction left generalizing active failures self with
  | nil => rfl
  | cons orderPosition rest inductionHypothesis =>
      unfold measurePositions
      rw [measureOne_recorded]
      rcases measureOne driver metric config metadata scenario fdProbe round
          orderPosition active failures self with
        fault | ⟨visited, failed, next⟩
      · rfl
      · exact inductionHypothesis visited failed next

theorem measureRounds_recorded
    (left : List Nat) (active : List CandidateSamples) (failures : Nat)
    (self : Progress World) :
    measureRounds driver.recorded metric config metadata scenario fdProbe
        left active failures (self.recorded metric scenario) =
      (measureRounds driver metric config metadata scenario fdProbe left
        active failures self).map (carried metric scenario) := by
  induction left generalizing active failures self with
  | nil => rfl
  | cons round rest inductionHypothesis =>
      unfold measureRounds
      rw [measurePositions_recorded]
      rcases measurePositions driver metric config metadata scenario fdProbe
          round (List.range active.length) active failures self with
        fault | ⟨visited, failed, next⟩
      · rfl
      · exact inductionHypothesis visited failed next

/-! ## Scenario -/

theorem writePassed_recorded
    (passing : List CandidateSamples) (self : Progress World) :
    writePassed metric config metadata scenario fdProbe passing
        (self.recorded metric scenario) =
      (writePassed metric config metadata scenario fdProbe passing
        self).map (Progress.recorded metric scenario) := by
  induction passing generalizing self with
  | nil => rfl
  | cons candidate rest inductionHypothesis =>
      unfold writePassed
      rw [writeReceipt_recorded]
      cases writeReceipt metric config metadata scenario fdProbe
          (.passed candidate) self with
      | error fault => rfl
      | ok next =>
          have summarized :
              writePassedSummary metric scenario candidate
                  (next.recorded metric scenario) =
                (writePassedSummary metric scenario candidate next).map
                  (Progress.recorded metric scenario) := by
            unfold writePassedSummary
            cases metric with
            | timing =>
                simp only [bind, Except.bind]
                cases candidate.samples.mapM timingPerOperation with
                | error fault => rfl
                | ok values =>
                    simp only
                    cases distribution values <;> rfl
            | allocation => rfl
          simp only [Except.map, bind, Except.bind, summarized]
          cases writePassedSummary metric scenario candidate next with
          | error fault => rfl
          | ok last => exact inductionHypothesis last

/-- A scenario with a recorded driver is the scenario, and what the driver has
recorded is what the scenario has kept. -/
theorem executeScenario_recorded (self : Progress World) :
    executeScenario driver.recorded metric config metadata scenario fdProbe
        (self.recorded metric scenario) =
      (executeScenario driver metric config metadata scenario fdProbe
        self).map fun outcome =>
          (outcome.1, outcome.2.recorded metric scenario) := by
  unfold executeScenario
  rw [candidates_recorded]
  rcases candidates driver metric config metadata scenario fdProbe self with
    fault | ⟨active, failures, first⟩
  · rfl
  simp only [Except.map, carried, bind, Except.bind]
  rw [measureRounds_recorded]
  rcases measureRounds driver metric config metadata scenario fdProbe
      (List.range config.samples) active 0 first with
    fault | ⟨measured, measureFailures, middle⟩
  · rfl
  simp only [Except.map, carried]
  rw [writePassed_recorded]
  cases writePassed metric config metadata scenario fdProbe
    (measured.filter fun candidate => !candidate.failed) middle <;> rfl

end Recorded

end Zio.Benchmark
