import Zio.Benchmark.Json
import Zio.Benchmark.Record

/-!
# Receipt encoding

The passed, unsupported and failed receipts, pushed together from fields with
their commas, as text.
-/

namespace Zio.Benchmark

/-- An opening brace. -/
def opening : List Char := ['\x7b']

/-- A closing brace. -/
def closing : List Char := ['\x7d']

def comma : List Char := [',']

/-! ## Provenance -/

def git (metadata : Metadata) : List Char :=
  jsonKey "git" ++ opening ++
    fieldString "sha" metadata.gitSha true ++
    fieldString "source" metadata.gitShaSource true ++
    jsonKey "dirty" ++ optionalBoolText metadata.gitDirty ++ closing

def host (metadata : Metadata) : List Char :=
  jsonKey "host" ++ opening ++
    fieldString "os" metadata.os true ++
    fieldString "os_version" metadata.osVersion true ++
    fieldString "arch" metadata.arch true ++
    fieldString "cpu" metadata.cpu true ++
    fieldNumber "recorded_unix_ms" metadata.recordedUnixMs.val false ++
    closing

def toolchain (metadata : Metadata) : List Char :=
  jsonKey "toolchain" ++ opening ++
    fieldString "rustc" metadata.rustc true ++
    fieldString "rustflags" metadata.rustflags true ++
    fieldString "build_profile" metadata.buildProfile false ++ closing

/-! ## Candidate and scenario -/

def candidate
    (metric : Metric) (metadata : Metadata)
    (implementation : Implementation) : List Char :=
  jsonKey "candidate" ++ opening ++
    fieldString "name" implementation.name true ++
    fieldString "version" implementation.version false ++
    closing ++ comma ++
    jsonKey "harness" ++ opening ++
    fieldString "crate" "zio-qualify" true ++
    fieldString "version" metadata.qualifyVersion
      (decide (metric = .allocation)) ++
    (if metric = .allocation then
      fieldString "allocation_counter" "0.8.1" false
    else
      []) ++
    closing ++ comma ++
    jsonKey "comparison_set" ++ opening ++
    fieldString "zio" Implementation.zio.version true ++
    fieldString "zio_borrowed" Implementation.zioBorrowed.version true ++
    fieldString "mio" Implementation.mio.version true ++
    fieldString "polling" Implementation.polling.version false ++ closing

def optionalNumber (name : String) (value : Option Int) : List Char :=
  jsonKey name ++ optionalNumberText value ++ comma

def u64Int (value : UInt64) : Int := value.toNat

def scenarioJson (scenario : Scenario) (implementation : Implementation) :
    List Char :=
  jsonKey "scenario" ++ opening ++
    fieldString "name" scenario.name true ++
    fieldString "semantic_scope" scenario.semanticScope true ++
    fieldString "measurement_scope" scenario.measurementScope true ++
    fieldString "delivery" scenario.delivery true ++
    fieldString "candidate_setup"
      (scenario.candidateSetup implementation) true ++
    fieldNumber "batch_size" scenario.batchSize true ++
    fieldNumber "event_capacity" scenario.eventCapacity true ++
    fieldNumber "registration_capacity" scenario.registrationCapacity
      true ++
    optionalNumber "wait_timeout_ms" (scenario.waitTimeoutMs.map u64Int) ++
    optionalNumber "absence_window_ms"
      (scenario.absenceWindowMs.map u64Int) ++
    jsonKey "absence_window_timed" ++
    optionalBoolText scenario.absenceWindowTimed ++ comma ++
    jsonKey "blocked_wake_settle_us" ++
    optionalNumberText (scenario.blockedWakeSettleUs.map u64Int) ++ closing

/-! ## Parameters -/

/-- `u128::saturating_mul`. -/
def u128SaturatingMul (left right : Nat) : Nat :=
  min (left * right) (2 ^ 128 - 1)

def targetSampleNs (config : Config) : Nat :=
  u128SaturatingMul config.targetSampleTimeMs.toNat 1000000

/-- `receipt_calibration::write`. -/
def calibration
    (config : Config) (scenario : Scenario)
    (sampling : Option CandidateSamples) : List Char :=
  let value := sampling.bind CandidateSamples.calibration
  jsonKey "calibration" ++ opening ++
    optionalNumber "target_sample_ns"
      (value.map fun _ => (targetSampleNs config : Int)) ++
    optionalNumber "probe_iterations"
      (value.map fun item => (item.probeIterations : Int)) ++
    optionalNumber "probe_elapsed_ns"
      (value.map fun item => (item.probeElapsedNs.val : Int)) ++
    optionalNumber "candidate_required_iterations"
      (value.map fun item => (item.requiredIterations : Int)) ++
    optionalNumber "pilot_achieved_elapsed_ns"
      (value.map fun item => (item.achievedElapsedNs.val : Int)) ++
    optionalNumber "maximum_iterations"
      (value.map fun _ => (scenario.maxCalibratedIterations : Int)) ++
    fieldNumber "selected_shared_iterations"
      (match sampling with
        | none => config.iterationsFor scenario
        | some item => item.iterations) false ++
    closing

def timingStatistic : Metric → String
  | .timing => "sample_mean_ns_per_operation"
  | .allocation => "not_applicable"

def allocationThreadScope (metric : Metric) (scenario : Scenario) :
    String :=
  match metric with
  | .allocation =>
      if scenario = .wakeBlocked then
        "waiting_thread_only_trigger_worker_excluded"
      else
        "calling_thread"
  | .timing => "not_applicable"

def parameters
    (metric : Metric) (config : Config) (scenario : Scenario)
    (sampling : Option CandidateSamples) : List Char :=
  jsonKey "parameters" ++ opening ++
    fieldNumber "samples" config.samples true ++
    fieldNumber "iterations"
      (match sampling with
        | none => config.iterationsFor scenario
        | some value => value.iterations) true ++
    fieldString "iterations_source" (config.iterationsSource metric)
      true ++
    fieldNumber "warmup_iterations"
      (match sampling with
        | none => config.warmupIterations
        | some value => value.warmupIterations) true ++
    fieldString "warmup_source" (config.warmupSource metric) true ++
    calibration config scenario sampling ++ comma ++
    fieldString "candidate_order" "rotate_left_by_round" true ++
    fieldString "operation_unit" "scenario_operation" true ++
    fieldString "timing_statistic" (timingStatistic metric) true ++
    fieldString "allocation_thread_scope"
      (allocationThreadScope metric scenario) false ++ closing

/-- `receipt_context::common`. -/
def common
    (metric : Metric) (metadata : Metadata) (config : Config)
    (implementation : Implementation) (scenario : Scenario)
    (sampling : Option CandidateSamples) : List Char :=
  git metadata ++ comma ++ host metadata ++ comma ++
    toolchain metadata ++ comma ++
    candidate metric metadata implementation ++ comma ++
    scenarioJson scenario implementation ++ comma ++
    parameters metric config scenario sampling ++ comma

/-! ## Samples -/

def timingValue (sample : Sample) : Except Fault U128 :=
  match sample.captured.metric with
  | .timing elapsed => .ok elapsed
  | _ => .error (.error "timing receipt received a non-timing sample")

def timingValues (samples : List Sample) : Except Fault (List U128) :=
  samples.mapM timingValue

def allocationValue (sample : Sample) : Except Fault Allocations :=
  match sample.captured.metric with
  | .allocation value => .ok value
  | _ =>
      .error (.error "allocation receipt received a non-allocation sample")

def allocationValues (samples : List Sample) :
    Except Fault (List Allocations) :=
  samples.mapM allocationValue

/-- `u128::from` of a `u64`. -/
def u128OfU64 (value : UInt64) : U128 :=
  ⟨value.toNat, by
    have bound := value.toNat_lt
    omega⟩

def eachHasEvents (samples : List Sample) : Bool :=
  samples.all fun sample => decide (0 < sample.captured.counts.events)

/-- The elapsed time of a sample for each operation. -/
def perOperation (sample : Sample) (elapsed : U128) : U128 :=
  elapsed / u128OfU64 (max sample.captured.counts.operations 1)

/-- The elapsed time of a sample for each event, of which there are some. -/
def perEvent (sample : Sample) (elapsed : U128) : U128 :=
  elapsed / u128OfU64 sample.captured.counts.events

def timingRaw (samples : List Sample) : Except Fault (List Char) := do
  let elapsed ← timingValues samples
  let events ←
    if eachHasEvents samples then do
      let elapsed ← timingValues samples
      .ok (arrayU128 (List.zipWith perEvent samples elapsed))
    else
      .ok ['n', 'u', 'l', 'l']
  return comma ++ jsonKey "measured_elapsed_ns" ++ arrayU128 elapsed ++
    comma ++ jsonKey "sample_mean_ns_per_operation" ++
    arrayU128 (List.zipWith perOperation samples elapsed) ++
    comma ++ jsonKey "sample_mean_ns_per_event" ++ events

/-- The unsigned arrays of an allocation receipt, in their order. -/
def unsignedFields : List (String × (Allocations → UInt64)) :=
  [("allocation_count_total", Allocations.countTotal),
    ("allocation_count_peak", Allocations.countPeak),
    ("allocation_bytes_total", Allocations.bytesTotal),
    ("allocation_bytes_peak", Allocations.bytesPeak)]

def allocationRaw (samples : List Sample) : Except Fault (List Char) := do
  let values ← allocationValues samples
  return unsignedFields.flatMap (fun field =>
      comma ++ jsonKey field.1 ++ arrayU64 (values.map field.2)) ++
    comma ++ jsonKey "allocation_count_current" ++
    arrayI64 (values.map Allocations.countCurrent) ++
    comma ++ jsonKey "allocation_bytes_current" ++
    arrayI64 (values.map Allocations.bytesCurrent)

/-- `receipt_data::raw`. -/
def raw (metric : Metric) (samples : List Sample) :
    Except Fault (List Char) := do
  let measured ←
    match metric with
    | .timing => timingRaw samples
    | .allocation => allocationRaw samples
  return jsonKey "raw" ++ opening ++
    jsonKey "round" ++ arrayUsize (samples.map Sample.round) ++ comma ++
    jsonKey "order_position" ++
    arrayUsize (samples.map Sample.orderPosition) ++ comma ++
    jsonKey "operations" ++
    arrayU64 (samples.map fun sample =>
      sample.captured.counts.operations) ++ comma ++
    jsonKey "events" ++
    arrayU64 (samples.map fun sample => sample.captured.counts.events) ++
    measured ++ closing

/-! ## Summary -/

/-- `u64::saturating_add`. -/
def u64SaturatingAdd (left right : UInt64) : UInt64 :=
  UInt64.ofNat (min (left.toNat + right.toNat) (2 ^ 64 - 1))

def sumCounts (samples : List Sample) (operations : Bool) : UInt64 :=
  samples.foldl
    (fun sum sample =>
      u64SaturatingAdd sum
        (if operations then sample.captured.counts.operations
          else sample.captured.counts.events)) 0

def sumAlloc (values : List Allocations) (count : Bool) : UInt64 :=
  values.foldl
    (fun sum value =>
      u64SaturatingAdd sum
        (if count then value.countTotal else value.bytesTotal)) 0

def eventTiming (samples : List Sample) : Except Fault (List Char) :=
  if eachHasEvents samples then do
    let values ← samples.mapM fun sample =>
      (timingValue sample).map (perEvent sample)
    let event ← distribution values
    return opening ++
      fieldNumber "median_sample_mean_ns_per_event" event.median.val
        true ++
      fieldNumber "p95_sample_mean_ns_per_event" event.p95.val true ++
      fieldNumber "mad_sample_mean_ns_per_event" event.mad.val true ++
      fieldNumber "min_sample_mean_ns_per_event" event.minimum.val
        true ++
      fieldNumber "max_sample_mean_ns_per_event" event.maximum.val
        false ++ closing
  else
    .ok ['n', 'u', 'l', 'l']

def timingSummary (samples : List Sample) : Except Fault (List Char) := do
  let elapsed ← timingValues samples
  let summary ← distribution (List.zipWith perOperation samples elapsed)
  let values ← timingValues samples
  let total ← distribution values
  let events ← eventTiming samples
  return fieldNumber "median_sample_mean_ns_per_operation"
      summary.median.val true ++
    fieldNumber "p95_sample_mean_ns_per_operation" summary.p95.val true ++
    fieldNumber "mad_sample_mean_ns_per_operation" summary.mad.val true ++
    fieldNumber "min_sample_mean_ns_per_operation" summary.minimum.val
      true ++
    fieldNumber "max_sample_mean_ns_per_operation" summary.maximum.val
      true ++
    fieldNumber "median_measured_elapsed_ns" total.median.val true ++
    jsonKey "event_timing" ++ events

def allocationSummary (samples : List Sample) :
    Except Fault (List Char) := do
  let values ← allocationValues samples
  let count := u64Int (sumAlloc values true)
  let bytes := u64Int (sumAlloc values false)
  return fieldNumber "allocation_count_total" count true ++
    fieldNumber "allocation_bytes_total" bytes true ++
    jsonKey "allocation_rate" ++ opening ++
    fieldNumber "count_numerator" count true ++
    fieldNumber "bytes_numerator" bytes true ++
    fieldNumber "operations_denominator"
      (u64Int (sumCounts samples true)) true ++
    fieldNumber "events_denominator" (u64Int (sumCounts samples false))
      false ++ closing

/-- `receipt_data::summary`. -/
def summary (metric : Metric) (samples : List Sample) :
    Except Fault (List Char) := do
  let measured ←
    match metric with
    | .timing => timingSummary samples
    | .allocation => allocationSummary samples
  return jsonKey "summary" ++ opening ++
    fieldNumber "operations" (u64Int (sumCounts samples true)) true ++
    fieldNumber "events" (u64Int (sumCounts samples false)) true ++
    measured ++ closing

/-! ## Descriptors -/

/-- The descriptor snapshots of all samples, if none is missing. -/
def completeLiveFds (samples : List Sample) : Option (List LiveFds) :=
  (samples.mapM fun sample : Sample => sample.captured.liveFds).filter
    fun values => !values.isEmpty

def array (name : String) (values : List Nat) : List Char :=
  jsonKey name ++ arrayUsize values ++ comma

def signedArray (name : String) (values : List Int64) : List Char :=
  jsonKey name ++ arrayI64 values ++ comma

def liveFds (samples : List Sample) : List Char :=
  jsonKey "live_fds" ++ opening ++
    (match completeLiveFds samples with
    | none =>
        fieldString "status" "unavailable" true ++
          fieldString "reason" "no complete live descriptor snapshots"
            false
    | some values =>
        fieldString "status" "available" true ++
          array "fixture_baseline" (values.map LiveFds.fixtureBaseline) ++
          array "candidate_setup" (values.map LiveFds.candidateSetup) ++
          array "active" (values.map LiveFds.active) ++
          array "post_cleanup" (values.map LiveFds.postCleanup) ++
          signedArray "setup_delta"
            (values.filterMap LiveFds.setupDelta) ++
          signedArray "active_delta"
            (values.filterMap LiveFds.activeDelta) ++
          jsonKey "post_cleanup_delta" ++
          arrayI64 (values.filterMap LiveFds.cleanupDelta)) ++
    closing

def retainedFds (probe : FdProbe) (samples : List Sample) : List Char :=
  jsonKey "retained_fds" ++ opening ++
    (if samples.isEmpty then
      fieldString "status" "unavailable" true ++
        fieldString "reason" "no completed samples" false
    else if samples.all fun sample => sample.retainedFdDelta.isSome then
      fieldString "status" "available" true ++
        fieldString "path" (probe.path.getD "unavailable") true ++
        jsonKey "raw_delta" ++
        arrayI64 (samples.filterMap Sample.retainedFdDelta)
    else
      fieldString "status" "unavailable" true ++
        fieldString "reason"
          (probe.reason.getD
            "descriptor directory became unreadable during sampling")
          false) ++
    closing

/-! ## Receipts -/

def begin
    (metric : Metric) (status : String) (metadata : Metadata)
    (config : Config) (implementation : Implementation)
    (scenario : Scenario) (sampling : Option CandidateSamples) :
    List Char :=
  opening ++ fieldString "schema" "zio.perf.v2" true ++
    fieldString "kind" "measurement" true ++
    fieldString "metric" metric.name true ++
    fieldString "status" status true ++
    common metric metadata config implementation scenario sampling

def finish (implementation : Implementation) : List Char :=
  comma ++ fieldString "disclosure" implementation.disclosure false ++
    closing

def measurement
    (metric : Metric) (metadata : Metadata) (config : Config)
    (candidate : CandidateSamples) (scenario : Scenario)
    (fdProbe : FdProbe) : Except Fault String := do
  let raw ← raw metric candidate.samples
  let summary ← summary metric candidate.samples
  return String.ofList
    (begin metric "passed" metadata config candidate.implementation
        scenario (some candidate) ++
      raw ++ comma ++ summary ++ comma ++ liveFds candidate.samples ++
      comma ++ retainedFds fdProbe candidate.samples ++
      finish candidate.implementation)

def unsupportedResources (reason : Unsupported) : List Char :=
  jsonKey "resource_requirement" ++ opening ++
    optionalNumber "required_additional_fds"
      (reason.requiredAdditionalFds.map u64Int) ++
    optionalNumber "observed_open_fds"
      (reason.observedOpenFds.map u64Int) ++
    optionalNumber "observed_soft_fd_limit"
      (reason.observedSoftFdLimit.map u64Int) ++
    fieldString "fd_limit_source"
      (reason.fdLimitSource.getD "unavailable") false ++ closing

def unsupported
    (metric : Metric) (metadata : Metadata) (config : Config)
    (implementation : Implementation) (scenario : Scenario)
    (reason : Unsupported) : String :=
  String.ofList
    (begin metric "unsupported" metadata config implementation scenario
        none ++
      fieldString "reason_code" reason.code true ++
      fieldString "reason" reason.reason true ++
      unsupportedResources reason ++ finish implementation)

structure FailureContext where
  metric : Metric
  metadata : Metadata
  config : Config
  implementation : Implementation
  scenario : Scenario

def failed
    (context : FailureContext) (phase error : String) (fdProbe : FdProbe)
    (samples : List Sample) : Except Fault String := do
  let raw ← raw context.metric samples
  return String.ofList
    (begin context.metric "failed" context.metadata context.config
        context.implementation context.scenario none ++
      jsonKey "failure" ++ opening ++
      fieldString "phase" phase true ++
      fieldString "message" error true ++
      fieldNumber "completed_samples" samples.length false ++
      closing ++ comma ++ raw ++ comma ++ liveFds samples ++ comma ++
      retainedFds fdProbe samples ++ finish context.implementation)

end Zio.Benchmark
