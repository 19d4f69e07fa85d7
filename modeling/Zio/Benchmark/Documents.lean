import Zio.Benchmark.Receipt

/-!
# Documents of receipts

The JSON value that each receipt stands for, written down without a comma.  The
emitters of the receipts, which place their commas by hand, write exactly these
values.
-/

namespace Zio.Benchmark

open Json

/-! ## Provenance -/

def gitDocument (metadata : Metadata) : Json :=
  .object
    [("sha", .string metadata.gitSha),
      ("source", .string metadata.gitShaSource),
      ("dirty", optionalBool metadata.gitDirty)]

def hostDocument (metadata : Metadata) : Json :=
  .object
    [("os", .string metadata.os),
      ("os_version", .string metadata.osVersion),
      ("arch", .string metadata.arch),
      ("cpu", .string metadata.cpu),
      ("recorded_unix_ms", int metadata.recordedUnixMs.val)]

def toolchainDocument (metadata : Metadata) : Json :=
  .object
    [("rustc", .string metadata.rustc),
      ("rustflags", .string metadata.rustflags),
      ("build_profile", .string metadata.buildProfile)]

/-! ## Candidate and scenario -/

def candidateDocument (implementation : Implementation) : Json :=
  .object
    [("name", .string implementation.name),
      ("version", .string implementation.version)]

/-- Only an allocation receipt names its counter. -/
def counterMembers : Metric → List (String × Json)
  | .timing => []
  | .allocation => [("allocation_counter", .string "0.8.1")]

def harnessDocument (metric : Metric) (metadata : Metadata) : Json :=
  .object
    ([("crate", .string "zio-qualify"),
      ("version", .string metadata.qualifyVersion)] ++
      counterMembers metric)

def comparisonDocument : Json :=
  .object
    [("zio", .string Implementation.zio.version),
      ("zio_borrowed", .string Implementation.zioBorrowed.version),
      ("mio", .string Implementation.mio.version),
      ("polling", .string Implementation.polling.version)]

def scenarioDocument
    (scenario : Scenario) (implementation : Implementation) : Json :=
  .object
    [("name", .string scenario.name),
      ("semantic_scope", .string scenario.semanticScope),
      ("measurement_scope", .string scenario.measurementScope),
      ("delivery", .string scenario.delivery),
      ("candidate_setup",
        .string (scenario.candidateSetup implementation)),
      ("batch_size", int scenario.batchSize),
      ("event_capacity", int scenario.eventCapacity),
      ("registration_capacity", int scenario.registrationCapacity),
      ("wait_timeout_ms", optionalInt (scenario.waitTimeoutMs.map u64Int)),
      ("absence_window_ms",
        optionalInt (scenario.absenceWindowMs.map u64Int)),
      ("absence_window_timed", optionalBool scenario.absenceWindowTimed),
      ("blocked_wake_settle_us",
        optionalInt (scenario.blockedWakeSettleUs.map u64Int))]

/-! ## Parameters -/

/-- The iterations of a receipt: those of its samples, if there are some. -/
def documentedIterations
    (config : Config) (scenario : Scenario) :
    Option CandidateSamples → Int
  | none => config.iterationsFor scenario
  | some value => value.iterations

def documentedWarmup (config : Config) : Option CandidateSamples → Int
  | none => config.warmupIterations
  | some value => value.warmupIterations

def calibrationDocument
    (config : Config) (scenario : Scenario)
    (sampling : Option CandidateSamples) : Json :=
  let value := sampling.bind CandidateSamples.calibration
  .object
    [("target_sample_ns",
        optionalInt (value.map fun _ => (targetSampleNs config : Int))),
      ("probe_iterations",
        optionalInt (value.map fun item => (item.probeIterations : Int))),
      ("probe_elapsed_ns",
        optionalInt (value.map fun item => (item.probeElapsedNs.val : Int))),
      ("candidate_required_iterations",
        optionalInt
          (value.map fun item => (item.requiredIterations : Int))),
      ("pilot_achieved_elapsed_ns",
        optionalInt
          (value.map fun item => (item.achievedElapsedNs.val : Int))),
      ("maximum_iterations",
        optionalInt
          (value.map fun _ => (scenario.maxCalibratedIterations : Int))),
      ("selected_shared_iterations",
        int (documentedIterations config scenario sampling))]

def parametersDocument
    (metric : Metric) (config : Config) (scenario : Scenario)
    (sampling : Option CandidateSamples) : Json :=
  .object
    [("samples", int config.samples),
      ("iterations", int (documentedIterations config scenario sampling)),
      ("iterations_source", .string (config.iterationsSource metric)),
      ("warmup_iterations", int (documentedWarmup config sampling)),
      ("warmup_source", .string (config.warmupSource metric)),
      ("calibration", calibrationDocument config scenario sampling),
      ("candidate_order", .string "rotate_left_by_round"),
      ("operation_unit", .string "scenario_operation"),
      ("timing_statistic", .string (timingStatistic metric)),
      ("allocation_thread_scope",
        .string (allocationThreadScope metric scenario))]

/-- The members that every receipt begins with. -/
def leadingMembers
    (metric : Metric) (status : String) (metadata : Metadata)
    (config : Config) (implementation : Implementation)
    (scenario : Scenario) (sampling : Option CandidateSamples) :
    List (String × Json) :=
  [("schema", .string "zio.perf.v2"),
    ("kind", .string "measurement"),
    ("metric", .string metric.name),
    ("status", .string status),
    ("git", gitDocument metadata),
    ("host", hostDocument metadata),
    ("toolchain", toolchainDocument metadata),
    ("candidate", candidateDocument implementation),
    ("harness", harnessDocument metric metadata),
    ("comparison_set", comparisonDocument),
    ("scenario", scenarioDocument scenario implementation),
    ("parameters", parametersDocument metric config scenario sampling)]

/-! ## Samples -/

def unsigned128 (values : List U128) : Json :=
  integers (values.map fun value => (value.val : Int))

def unsigned64 (values : List UInt64) : Json :=
  integers (values.map fun value => (value.toNat : Int))

def signed64 (values : List Int64) : Json :=
  integers (values.map Int64.toInt)

def sizes (values : List Nat) : Json :=
  integers (values.map fun value => (value : Int))

def timingMembers
    (samples : List Sample) : Except Fault (List (String × Json)) := do
  let elapsed ← timingValues samples
  return [("measured_elapsed_ns", unsigned128 elapsed),
    ("sample_mean_ns_per_operation",
      unsigned128 (List.zipWith perOperation samples elapsed)),
    ("sample_mean_ns_per_event",
      if eachHasEvents samples then
        unsigned128 (List.zipWith perEvent samples elapsed)
      else
        .null)]

def allocationMembers
    (samples : List Sample) : Except Fault (List (String × Json)) := do
  let values ← allocationValues samples
  return unsignedFields.map (fun field =>
      (field.1, unsigned64 (values.map field.2))) ++
    [("allocation_count_current",
        signed64 (values.map Allocations.countCurrent)),
      ("allocation_bytes_current",
        signed64 (values.map Allocations.bytesCurrent))]

/-- The members of each metric. -/
def measuredMembers :
    Metric → List Sample → Except Fault (List (String × Json))
  | .timing => timingMembers
  | .allocation => allocationMembers

def rawDocument
    (metric : Metric) (samples : List Sample) : Except Fault Json := do
  let measured ← measuredMembers metric samples
  return .object
    ([("round", sizes (samples.map Sample.round)),
      ("order_position", sizes (samples.map Sample.orderPosition)),
      ("operations",
        unsigned64 (samples.map fun sample =>
          sample.captured.counts.operations)),
      ("events",
        unsigned64 (samples.map fun sample =>
          sample.captured.counts.events))] ++ measured)

/-! ## Summary -/

def eventTimingDocument
    (samples : List Sample) : Except Fault Json :=
  if eachHasEvents samples then do
    let values ← samples.mapM fun sample =>
      (timingValue sample).map (perEvent sample)
    let event ← distribution values
    return .object
      [("median_sample_mean_ns_per_event", int event.median.val),
        ("p95_sample_mean_ns_per_event", int event.p95.val),
        ("mad_sample_mean_ns_per_event", int event.mad.val),
        ("min_sample_mean_ns_per_event", int event.minimum.val),
        ("max_sample_mean_ns_per_event", int event.maximum.val)]
  else
    .ok .null

def timingSummaryMembers
    (samples : List Sample) : Except Fault (List (String × Json)) := do
  let elapsed ← timingValues samples
  let operation ← distribution (List.zipWith perOperation samples elapsed)
  let total ← distribution elapsed
  let events ← eventTimingDocument samples
  return [("median_sample_mean_ns_per_operation",
      int operation.median.val),
    ("p95_sample_mean_ns_per_operation", int operation.p95.val),
    ("mad_sample_mean_ns_per_operation", int operation.mad.val),
    ("min_sample_mean_ns_per_operation", int operation.minimum.val),
    ("max_sample_mean_ns_per_operation", int operation.maximum.val),
    ("median_measured_elapsed_ns", int total.median.val),
    ("event_timing", events)]

def rateDocument
    (samples : List Sample) (values : List Allocations) : Json :=
  .object
    [("count_numerator", int (u64Int (sumAlloc values true))),
      ("bytes_numerator", int (u64Int (sumAlloc values false))),
      ("operations_denominator", int (u64Int (sumCounts samples true))),
      ("events_denominator", int (u64Int (sumCounts samples false)))]

def allocationSummaryMembers
    (samples : List Sample) : Except Fault (List (String × Json)) := do
  let values ← allocationValues samples
  return [("allocation_count_total", int (u64Int (sumAlloc values true))),
    ("allocation_bytes_total", int (u64Int (sumAlloc values false))),
    ("allocation_rate", rateDocument samples values)]

/-- The summary members of each metric. -/
def summaryMembers :
    Metric → List Sample → Except Fault (List (String × Json))
  | .timing => timingSummaryMembers
  | .allocation => allocationSummaryMembers

def summaryDocument
    (metric : Metric) (samples : List Sample) : Except Fault Json := do
  let measured ← summaryMembers metric samples
  return .object
    ([("operations", int (u64Int (sumCounts samples true))),
      ("events", int (u64Int (sumCounts samples false)))] ++ measured)

/-! ## Descriptors -/

/-- The members of a resource that could not be observed. -/
def unavailableMembers (reason : String) : List (String × Json) :=
  [("status", .string "unavailable"), ("reason", .string reason)]

def liveFdsMembers (samples : List Sample) : List (String × Json) :=
  match completeLiveFds samples with
  | none => unavailableMembers "no complete live descriptor snapshots"
  | some values =>
      [("status", .string "available"),
        ("fixture_baseline", sizes (values.map LiveFds.fixtureBaseline)),
        ("candidate_setup", sizes (values.map LiveFds.candidateSetup)),
        ("active", sizes (values.map LiveFds.active)),
        ("post_cleanup", sizes (values.map LiveFds.postCleanup)),
        ("setup_delta", signed64 (values.filterMap LiveFds.setupDelta)),
        ("active_delta", signed64 (values.filterMap LiveFds.activeDelta)),
        ("post_cleanup_delta",
          signed64 (values.filterMap LiveFds.cleanupDelta))]

def retainedFdsMembers
    (probe : FdProbe) (samples : List Sample) : List (String × Json) :=
  if samples.isEmpty then
    unavailableMembers "no completed samples"
  else if samples.all fun sample => sample.retainedFdDelta.isSome then
    [("status", .string "available"),
      ("path", .string (probe.path.getD "unavailable")),
      ("raw_delta", signed64 (samples.filterMap Sample.retainedFdDelta))]
  else
    unavailableMembers
      (probe.reason.getD
        "descriptor directory became unreadable during sampling")

/-! ## Receipts -/

def measurementDocument
    (metric : Metric) (metadata : Metadata) (config : Config)
    (candidate : CandidateSamples) (scenario : Scenario)
    (fdProbe : FdProbe) : Except Fault Json := do
  let raw ← rawDocument metric candidate.samples
  let summary ← summaryDocument metric candidate.samples
  return .object
    (leadingMembers metric "passed" metadata config
        candidate.implementation scenario (some candidate) ++
      [("raw", raw),
        ("summary", summary),
        ("live_fds", .object (liveFdsMembers candidate.samples)),
        ("retained_fds",
          .object (retainedFdsMembers fdProbe candidate.samples)),
        ("disclosure", .string candidate.implementation.disclosure)])

def resourcesDocument (reason : Unsupported) : Json :=
  .object
    [("required_additional_fds",
        optionalInt (reason.requiredAdditionalFds.map u64Int)),
      ("observed_open_fds",
        optionalInt (reason.observedOpenFds.map u64Int)),
      ("observed_soft_fd_limit",
        optionalInt (reason.observedSoftFdLimit.map u64Int)),
      ("fd_limit_source",
        .string (reason.fdLimitSource.getD "unavailable"))]

def unsupportedDocument
    (metric : Metric) (metadata : Metadata) (config : Config)
    (implementation : Implementation) (scenario : Scenario)
    (reason : Unsupported) : Json :=
  .object
    (leadingMembers metric "unsupported" metadata config implementation
        scenario none ++
      [("reason_code", .string reason.code),
        ("reason", .string reason.reason),
        ("resource_requirement", resourcesDocument reason),
        ("disclosure", .string implementation.disclosure)])

def failureDocument
    (phase error : String) (samples : List Sample) : Json :=
  .object
    [("phase", .string phase),
      ("message", .string error),
      ("completed_samples", int samples.length)]

def failedDocument
    (context : FailureContext) (phase error : String) (fdProbe : FdProbe)
    (samples : List Sample) : Except Fault Json := do
  let raw ← rawDocument context.metric samples
  return .object
    (leadingMembers context.metric "failed" context.metadata
        context.config context.implementation context.scenario none ++
      [("failure", failureDocument phase error samples),
        ("raw", raw),
        ("live_fds", .object (liveFdsMembers samples)),
        ("retained_fds", .object (retainedFdsMembers fdProbe samples)),
        ("disclosure", .string context.implementation.disclosure)])

/-! ## Keys -/

theorem uniqueKeys_int (value : Int) : UniqueKeys (int value) :=
  .number value 0

attribute [local simp] UniqueKeys.null UniqueKeys.string
  UniqueKeys.optionalInt UniqueKeys.optionalBool UniqueKeys.integers
  uniqueKeys_int unsigned128 unsigned64 signed64 sizes

/-- Members whose keys differ, and whose values have unique keys. -/
structure Keyed (members : List (String × Json)) : Prop where
  nodup : (members.map Prod.fst).Nodup
  inner : ∀ member ∈ members, UniqueKeys member.2

theorem Keyed.object
    {members : List (String × Json)} (keyed : Keyed members) :
    UniqueKeys (.object members) :=
  .object keyed.nodup keyed.inner

theorem uniqueKeys_git (metadata : Metadata) :
    UniqueKeys (gitDocument metadata) :=
  Keyed.object ⟨by simp, by simp⟩

theorem uniqueKeys_host (metadata : Metadata) :
    UniqueKeys (hostDocument metadata) :=
  Keyed.object ⟨by simp, by simp⟩

theorem uniqueKeys_toolchain (metadata : Metadata) :
    UniqueKeys (toolchainDocument metadata) :=
  Keyed.object ⟨by simp, by simp⟩

theorem uniqueKeys_candidate (implementation : Implementation) :
    UniqueKeys (candidateDocument implementation) :=
  Keyed.object ⟨by simp, by simp⟩

theorem uniqueKeys_harness (metric : Metric) (metadata : Metadata) :
    UniqueKeys (harnessDocument metric metadata) := by
  cases metric with
  | timing =>
      exact Keyed.object ⟨by simp [counterMembers],
        by simp [counterMembers]⟩
  | allocation =>
      exact Keyed.object ⟨by simp [counterMembers],
        by simp [counterMembers]⟩

theorem uniqueKeys_comparison : UniqueKeys comparisonDocument :=
  Keyed.object ⟨by simp, by simp⟩

theorem uniqueKeys_scenario
    (scenario : Scenario) (implementation : Implementation) :
    UniqueKeys (scenarioDocument scenario implementation) :=
  Keyed.object ⟨by simp, by simp⟩

theorem uniqueKeys_calibration
    (config : Config) (scenario : Scenario)
    (sampling : Option CandidateSamples) :
    UniqueKeys (calibrationDocument config scenario sampling) :=
  Keyed.object ⟨by simp, by simp⟩

theorem uniqueKeys_parameters
    (metric : Metric) (config : Config) (scenario : Scenario)
    (sampling : Option CandidateSamples) :
    UniqueKeys (parametersDocument metric config scenario sampling) :=
  Keyed.object ⟨by simp, by simp [uniqueKeys_calibration]⟩

/-- A receipt is keyed if its own members do not repeat a leading one. -/
theorem uniqueKeys_receipt
    (metric : Metric) (status : String) (metadata : Metadata)
    (config : Config) (implementation : Implementation)
    (scenario : Scenario) (sampling : Option CandidateSamples)
    {members : List (String × Json)} (keyed : Keyed members)
    (apart : ∀ member ∈ members, member.1 ∉
      ["schema", "kind", "metric", "status", "git", "host", "toolchain",
        "candidate", "harness", "comparison_set", "scenario",
        "parameters"]) :
    UniqueKeys
      (.object
        (leadingMembers metric status metadata config implementation
          scenario sampling ++ members)) := by
  refine Keyed.object ⟨?_, fun member found => ?_⟩
  · rw [List.map_append, List.nodup_append]
    refine ⟨by simp [leadingMembers], keyed.nodup, ?_⟩
    intro leading first name second same
    obtain ⟨member, found, rfl⟩ := List.mem_map.mp second
    exact apart member found (same ▸ first)
  · rcases List.mem_append.mp found with leading | own
    · have each : ∀ member ∈ leadingMembers metric status metadata
          config implementation scenario sampling,
            UniqueKeys member.2 := by
        simp [leadingMembers, uniqueKeys_git, uniqueKeys_host,
          uniqueKeys_toolchain, uniqueKeys_candidate, uniqueKeys_harness,
          uniqueKeys_comparison, uniqueKeys_scenario,
          uniqueKeys_parameters]
      exact each member leading
    · exact keyed.inner member own

/-! ## Keys of samples -/

theorem uniqueKeys_raw
    {metric : Metric} {samples : List Sample} {document : Json}
    (found : rawDocument metric samples = .ok document) :
    UniqueKeys document := by
  obtain ⟨members, measured, run⟩ := bind_ok found
  cases run
  cases metric with
  | timing =>
      obtain ⟨elapsed, _, run⟩ := bind_ok measured
      cases run
      refine Keyed.object ⟨by simp, ?_⟩
      cases eachHasEvents samples <;> simp
  | allocation =>
      obtain ⟨values, _, run⟩ := bind_ok measured
      cases run
      exact Keyed.object
        ⟨by simp [unsignedFields], by simp [unsignedFields]⟩

theorem uniqueKeys_eventTiming
    {samples : List Sample} {document : Json}
    (found : eventTimingDocument samples = .ok document) :
    UniqueKeys document := by
  unfold eventTimingDocument at found
  split at found
  · obtain ⟨values, _, run⟩ := bind_ok found
    obtain ⟨event, _, run⟩ := bind_ok run
    cases run
    exact Keyed.object ⟨by simp, by simp⟩
  · cases found
    exact .null

theorem uniqueKeys_rate
    (samples : List Sample) (values : List Allocations) :
    UniqueKeys (rateDocument samples values) :=
  Keyed.object ⟨by simp, by simp⟩

theorem uniqueKeys_summary
    {metric : Metric} {samples : List Sample} {document : Json}
    (found : summaryDocument metric samples = .ok document) :
    UniqueKeys document := by
  obtain ⟨members, measured, run⟩ := bind_ok found
  cases run
  cases metric with
  | timing =>
      obtain ⟨elapsed, _, run⟩ := bind_ok measured
      obtain ⟨operation, _, run⟩ := bind_ok run
      obtain ⟨total, _, run⟩ := bind_ok run
      obtain ⟨events, timed, run⟩ := bind_ok run
      cases run
      exact Keyed.object
        ⟨by simp, by simp [uniqueKeys_eventTiming timed]⟩
  | allocation =>
      obtain ⟨values, _, run⟩ := bind_ok measured
      cases run
      exact Keyed.object ⟨by simp, by simp [uniqueKeys_rate]⟩

/-! ## Keys of receipts -/

theorem uniqueKeys_unavailable (reason : String) :
    UniqueKeys (.object (unavailableMembers reason)) :=
  Keyed.object ⟨by simp [unavailableMembers], by simp [unavailableMembers]⟩

theorem uniqueKeys_liveFds (samples : List Sample) :
    UniqueKeys (.object (liveFdsMembers samples)) := by
  unfold liveFdsMembers
  split
  · exact uniqueKeys_unavailable _
  · exact Keyed.object ⟨by simp, by simp⟩

theorem uniqueKeys_retainedFds (probe : FdProbe) (samples : List Sample) :
    UniqueKeys (.object (retainedFdsMembers probe samples)) := by
  unfold retainedFdsMembers
  split
  · exact uniqueKeys_unavailable _
  · split
    · exact Keyed.object ⟨by simp, by simp⟩
    · exact uniqueKeys_unavailable _

theorem uniqueKeys_measurement
    {metric : Metric} {metadata : Metadata} {config : Config}
    {candidate : CandidateSamples} {scenario : Scenario}
    {fdProbe : FdProbe} {document : Json}
    (found : measurementDocument metric metadata config candidate scenario
      fdProbe = .ok document) :
    UniqueKeys document := by
  obtain ⟨raw, rawFound, run⟩ := bind_ok found
  obtain ⟨summary, summaryFound, run⟩ := bind_ok run
  cases run
  refine uniqueKeys_receipt _ _ _ _ _ _ _ ⟨by simp, ?_⟩ (by simp)
  simp [uniqueKeys_raw rawFound, uniqueKeys_summary summaryFound,
    uniqueKeys_liveFds, uniqueKeys_retainedFds]

theorem uniqueKeys_resources (reason : Unsupported) :
    UniqueKeys (resourcesDocument reason) :=
  Keyed.object ⟨by simp, by simp⟩

theorem uniqueKeys_unsupported
    (metric : Metric) (metadata : Metadata) (config : Config)
    (implementation : Implementation) (scenario : Scenario)
    (reason : Unsupported) :
    UniqueKeys
      (unsupportedDocument metric metadata config implementation scenario
        reason) := by
  refine uniqueKeys_receipt _ _ _ _ _ _ _ ⟨by simp, ?_⟩ (by simp)
  simp [uniqueKeys_resources]

theorem uniqueKeys_failure
    (phase error : String) (samples : List Sample) :
    UniqueKeys (failureDocument phase error samples) :=
  Keyed.object ⟨by simp, by simp⟩

theorem uniqueKeys_failed
    {context : FailureContext} {phase error : String} {fdProbe : FdProbe}
    {samples : List Sample} {document : Json}
    (found : failedDocument context phase error fdProbe samples =
      .ok document) :
    UniqueKeys document := by
  obtain ⟨raw, rawFound, run⟩ := bind_ok found
  cases run
  refine uniqueKeys_receipt _ _ _ _ _ _ _ ⟨by simp, ?_⟩ (by simp)
  simp [uniqueKeys_failure, uniqueKeys_raw rawFound, uniqueKeys_liveFds,
    uniqueKeys_retainedFds]

end Zio.Benchmark
