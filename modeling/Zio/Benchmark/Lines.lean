import Zio.Benchmark.Documents

/-!
# Receipts as JSON lines

Every emitter writes the compact text of its document.
-/

namespace Zio.Benchmark

open Json

/-! ## Pieces -/

theorem jsonKey_append (name : String) (text : List Char) :
    jsonKey name ++ text = escaping.renderString name ++ ':' :: text :=
  List.append_assoc _ _ _

theorem decimal_eq (value : Int) : decimal value = renderInt value := by
  cases value with
  | ofNat magnitude =>
      have positive : ¬Int.ofNat magnitude < 0 :=
        Int.not_lt.mpr (Int.natCast_nonneg magnitude)
      rw [renderInt, if_neg positive]
      exact Nat.toList_repr
  | negSucc magnitude =>
      rw [renderInt, if_pos (Int.negSucc_lt_zero magnitude)]
      have digits : (Nat.repr (magnitude + 1)).toList =
          Nat.toDigits 10 (magnitude + 1) :=
        Nat.toList_repr
      have sign := @String.toList_append "-" (Nat.repr (magnitude + 1))
      exact sign.trans (congrArg (List.cons '-') digits)

theorem jsonArray_eq (values : List Int) :
    jsonArray values = escaping.render (integers values) := by
  have later : ∀ values : List Int, ∀ first,
      separated first values =
        (if first || values.isEmpty then [] else [',']) ++
          escaping.renderItems (values.map int) := by
    intro values
    induction values with
    | nil =>
        intro first
        cases first <;> rfl
    | cons value rest inductionHypothesis =>
        intro first
        rw [separated, decimal_eq, inductionHypothesis]
        cases first <;> cases rest <;>
          simp [commaIf, Escaping.renderItems, Escaping.render_int]
  rw [jsonArray, later, integers, Escaping.render]
  rfl

theorem optionalNumberText_eq (value : Option Int) :
    optionalNumberText value = escaping.render (optionalInt value) := by
  cases value with
  | none => rfl
  | some value =>
      rw [optionalNumberText, optionalInt, Escaping.render_int, decimal_eq]

theorem optionalBoolText_eq (value : Option Bool) :
    optionalBoolText value = escaping.render (optionalBool value) := by
  cases value with
  | none => rfl
  | some value => cases value <;> rfl

/-! ## Members -/

theorem fieldString_eq (name value : String) (comma : Bool) :
    fieldString name value comma =
      escaping.renderMember (name, .string value) ++ commaIf comma := by
  rw [fieldString, Escaping.renderMember, Escaping.render, jsonKey]
  simp only [List.append_assoc, List.singleton_append]
  rfl

theorem fieldNumber_eq (name : String) (value : Int) (comma : Bool) :
    fieldNumber name value comma =
      escaping.renderMember (name, int value) ++ commaIf comma := by
  rw [fieldNumber, Escaping.renderMember, Escaping.render_int, jsonKey,
    decimal_eq]
  simp only [List.append_assoc, List.singleton_append]
  rfl

theorem jsonKey_render (name : String) (value : Json) :
    jsonKey name ++ escaping.render value =
      escaping.renderMember (name, value) :=
  jsonKey_append name _

theorem optionalNumber_eq (name : String) (value : Option Int) :
    optionalNumber name value =
      escaping.renderMember (name, optionalInt value) ++ [','] := by
  rw [optionalNumber, optionalNumberText_eq, jsonKey_render]
  rfl

theorem object_eq
    (name : String) (members : List (String × Json)) :
    jsonKey name ++ opening ++ escaping.renderMembers members ++ closing =
      escaping.renderMember (name, .object members) := by
  rw [List.append_assoc, List.append_assoc, jsonKey_append,
    Escaping.renderMember, Escaping.render]
  rfl

theorem jsonKey_render_append
    (name : String) (value : Json) (rest : List Char) :
    jsonKey name ++ (escaping.render value ++ rest) =
      escaping.renderMember (name, value) ++ rest := by
  rw [← List.append_assoc, jsonKey_render]

theorem renderMembers_many
    (first second : String × Json) (rest : List (String × Json)) :
    escaping.renderMembers (first :: second :: rest) =
      escaping.renderMember first ++
        ',' :: escaping.renderMembers (second :: rest) :=
  escaping.renderMembers_cons first (List.cons_ne_nil second rest)

theorem commaIf_true : commaIf true = [','] := rfl

theorem commaIf_false : commaIf false = [] := rfl

attribute [local simp] fieldString_eq fieldNumber_eq optionalNumber_eq
  optionalBoolText_eq optionalNumberText_eq jsonKey_render
  jsonKey_render_append renderMembers_many Escaping.renderMembers_one
  commaIf_true commaIf_false comma Except.map pure Except.pure bind
  Except.bind

/-! ## Provenance -/

theorem git_eq (metadata : Metadata) :
    git metadata =
      escaping.renderMember ("git", gitDocument metadata) := by
  rw [gitDocument, ← object_eq]
  simp [git]

theorem host_eq (metadata : Metadata) :
    host metadata =
      escaping.renderMember ("host", hostDocument metadata) := by
  rw [hostDocument, ← object_eq]
  simp [host]

theorem toolchain_eq (metadata : Metadata) :
    toolchain metadata =
      escaping.renderMember ("toolchain", toolchainDocument metadata) := by
  rw [toolchainDocument, ← object_eq]
  simp [toolchain]

/-! ## Candidate and scenario -/

theorem candidate_eq
    (metric : Metric) (metadata : Metadata)
    (implementation : Implementation) :
    candidate metric metadata implementation =
      escaping.renderMember
          ("candidate", candidateDocument implementation) ++
        ',' :: (escaping.renderMember
          ("harness", harnessDocument metric metadata) ++
        ',' :: escaping.renderMember
          ("comparison_set", comparisonDocument)) := by
  rw [candidateDocument, harnessDocument, comparisonDocument,
    ← object_eq, ← object_eq, ← object_eq]
  unfold candidate
  cases metric with
  | timing => simp [counterMembers]
  | allocation => simp [counterMembers]

theorem scenario_eq
    (scenario : Scenario) (implementation : Implementation) :
    scenarioJson scenario implementation =
      escaping.renderMember
        ("scenario", scenarioDocument scenario implementation) := by
  rw [scenarioDocument, ← object_eq]
  simp [scenarioJson]

/-! ## Parameters -/

theorem calibration_eq
    (config : Config) (scenario : Scenario)
    (sampling : Option CandidateSamples) :
    calibration config scenario sampling =
      escaping.renderMember
        ("calibration", calibrationDocument config scenario sampling) := by
  rw [calibrationDocument, ← object_eq]
  cases sampling with
  | none => simp [calibration, documentedIterations]
  | some value => simp [calibration, documentedIterations]

theorem parameters_eq
    (metric : Metric) (config : Config) (scenario : Scenario)
    (sampling : Option CandidateSamples) :
    parameters metric config scenario sampling =
      escaping.renderMember
        ("parameters",
          parametersDocument metric config scenario sampling) := by
  rw [parametersDocument, ← object_eq]
  cases sampling with
  | none =>
      simp [parameters, documentedIterations, documentedWarmup,
        calibration_eq]
  | some value =>
      simp [parameters, documentedIterations, documentedWarmup,
        calibration_eq]

theorem begin_eq
    (metric : Metric) (status : String) (metadata : Metadata)
    (config : Config) (implementation : Implementation)
    (scenario : Scenario) (sampling : Option CandidateSamples) :
    begin metric status metadata config implementation scenario sampling =
      opening ++
        escaping.renderFields
          (leadingMembers metric status metadata config implementation
            scenario sampling) := by
  simp [begin, common, git_eq, host_eq, toolchain_eq, candidate_eq,
    scenario_eq, parameters_eq, leadingMembers, Escaping.renderFields]

/-! ## Samples -/

theorem arrayU128_eq (values : List U128) :
    arrayU128 values = escaping.render (unsigned128 values) :=
  jsonArray_eq _

theorem arrayU64_eq (values : List UInt64) :
    arrayU64 values = escaping.render (unsigned64 values) :=
  jsonArray_eq _

theorem arrayI64_eq (values : List Int64) :
    arrayI64 values = escaping.render (signed64 values) :=
  jsonArray_eq _

theorem arrayUsize_eq (values : List Nat) :
    arrayUsize values = escaping.render (sizes values) :=
  jsonArray_eq _

attribute [local simp] arrayU128_eq arrayU64_eq arrayI64_eq arrayUsize_eq

theorem null_eq : ['n', 'u', 'l', 'l'] = escaping.render .null := by
  rw [Escaping.render]

theorem timingRaw_eq (samples : List Sample) :
    timingRaw samples =
      (timingMembers samples).map escaping.renderLater := by
  unfold timingRaw timingMembers
  cases timingValues samples with
  | error fault => rfl
  | ok elapsed =>
      cases eachHasEvents samples with
      | false =>
          simp [null_eq, Escaping.renderLater]
      | true =>
          simp [Escaping.renderLater]

theorem allocationRaw_eq (samples : List Sample) :
    allocationRaw samples =
      (allocationMembers samples).map escaping.renderLater := by
  unfold allocationRaw allocationMembers
  cases allocationValues samples with
  | error fault => rfl
  | ok values =>
          simp [Escaping.renderLater, unsignedFields]

theorem raw_eq (metric : Metric) (samples : List Sample) :
    raw metric samples =
      (rawDocument metric samples).map fun value =>
        escaping.renderMember ("raw", value) := by
  cases metric with
  | timing =>
      simp only [raw, rawDocument, measuredMembers, timingRaw_eq]
      cases timingMembers samples with
      | error fault => rfl
      | ok members =>
          simp [← object_eq, Escaping.renderMembers_later,
            Escaping.renderLater]
  | allocation =>
      simp only [raw, rawDocument, measuredMembers, allocationRaw_eq]
      cases allocationMembers samples with
      | error fault => rfl
      | ok members =>
          simp [← object_eq, Escaping.renderMembers_later,
            Escaping.renderLater]

/-! ## Summary -/

theorem eventTiming_eq (samples : List Sample) :
    eventTiming samples =
      (eventTimingDocument samples).map escaping.render := by
  unfold eventTiming eventTimingDocument
  split
  · cases samples.mapM fun sample =>
      (timingValue sample).map (perEvent sample) with
    | error fault => rfl
    | ok values =>
        cases summarized : distribution values with
        | error fault =>
            simp [summarized]
        | ok event =>
            simp [summarized, Escaping.render, opening, closing]
  · rw [null_eq]
    rfl

theorem timingSummary_eq (samples : List Sample) :
    timingSummary samples =
      (timingSummaryMembers samples).map escaping.renderMembers := by
  unfold timingSummary timingSummaryMembers
  rw [eventTiming_eq]
  cases timingValues samples with
  | error fault => rfl
  | ok elapsed =>
      cases operation :
          distribution (List.zipWith perOperation samples elapsed) with
      | error fault => simp [operation]
      | ok operation' =>
          cases total : distribution elapsed with
          | error fault =>
              simp [operation, total]
          | ok total' =>
              cases eventTimingDocument samples with
              | error fault =>
                  simp [operation, total]
              | ok events =>
                  simp [operation, total]

theorem allocationSummary_eq (samples : List Sample) :
    allocationSummary samples =
      (allocationSummaryMembers samples).map escaping.renderMembers := by
  unfold allocationSummary allocationSummaryMembers
  cases allocationValues samples with
  | error fault => rfl
  | ok values =>
      simp [rateDocument, ← object_eq]

theorem summaryMembers_ne_nil
    {metric : Metric} {samples : List Sample}
    {members : List (String × Json)}
    (found : summaryMembers metric samples = .ok members) :
    members ≠ [] := by
  cases metric with
  | timing =>
      obtain ⟨elapsed, _, run⟩ := bind_ok found
      obtain ⟨operation, _, run⟩ := bind_ok run
      obtain ⟨total, _, run⟩ := bind_ok run
      obtain ⟨events, _, run⟩ := bind_ok run
      cases run
      exact List.cons_ne_nil _ _
  | allocation =>
      obtain ⟨values, _, run⟩ := bind_ok found
      cases run
      exact List.cons_ne_nil _ _

theorem summary_eq (metric : Metric) (samples : List Sample) :
    summary metric samples =
      (summaryDocument metric samples).map fun value =>
        escaping.renderMember ("summary", value) := by
  cases metric with
  | timing =>
      simp only [summary, summaryDocument, summaryMembers,
        timingSummary_eq]
      cases found : timingSummaryMembers samples with
      | error fault => rfl
      | ok members =>
          have more := @summaryMembers_ne_nil .timing samples members found
          simp [← object_eq, escaping.renderMembers_cons _ more]
  | allocation =>
      simp only [summary, summaryDocument, summaryMembers,
        allocationSummary_eq]
      cases found : allocationSummaryMembers samples with
      | error fault => rfl
      | ok members =>
          have more :=
            @summaryMembers_ne_nil .allocation samples members found
          simp [← object_eq, escaping.renderMembers_cons _ more]

/-! ## Descriptors -/

theorem liveFds_eq (samples : List Sample) :
    liveFds samples =
      escaping.renderMember
        ("live_fds", .object (liveFdsMembers samples)) := by
  rw [← object_eq]
  unfold liveFds liveFdsMembers
  cases completeLiveFds samples with
  | none => simp [unavailableMembers]
  | some values => simp [array, signedArray]

theorem retainedFds_eq (probe : FdProbe) (samples : List Sample) :
    retainedFds probe samples =
      escaping.renderMember
        ("retained_fds", .object (retainedFdsMembers probe samples)) := by
  rw [← object_eq]
  unfold retainedFds retainedFdsMembers
  split
  · simp [unavailableMembers]
  · split
    · simp
    · simp [unavailableMembers]

/-! ## Receipts -/

theorem finish_eq (implementation : Implementation) :
    finish implementation =
      ',' :: (escaping.renderMember
        ("disclosure", .string implementation.disclosure) ++ closing) := by
  simp [finish]

theorem unsupportedResources_eq (reason : Unsupported) :
    unsupportedResources reason =
      escaping.renderMember
        ("resource_requirement", resourcesDocument reason) := by
  rw [resourcesDocument, ← object_eq]
  simp [unsupportedResources]

theorem receipt_eq
    (metric : Metric) (status : String) (metadata : Metadata)
    (config : Config) (implementation : Implementation)
    (scenario : Scenario) (sampling : Option CandidateSamples)
    {members : List (String × Json)} (more : members ≠ []) :
    begin metric status metadata config implementation scenario
        sampling ++ (escaping.renderMembers members ++ closing) =
      escaping.render
        (.object
          (leadingMembers metric status metadata config implementation
            scenario sampling ++ members)) := by
  rw [Escaping.render, escaping.renderMembers_append _ more, begin_eq,
    List.append_assoc, List.append_assoc]
  rfl

theorem measurement_eq
    (metric : Metric) (metadata : Metadata) (config : Config)
    (candidate : CandidateSamples) (scenario : Scenario)
    (fdProbe : FdProbe) :
    measurement metric metadata config candidate scenario fdProbe =
      (measurementDocument metric metadata config candidate scenario
        fdProbe).map fun value =>
          String.ofList (escaping.render value) := by
  unfold measurement measurementDocument
  rw [raw_eq, summary_eq]
  cases rawDocument metric candidate.samples with
  | error fault => rfl
  | ok raw =>
      cases summaryDocument metric candidate.samples with
      | error fault => rfl
      | ok summary =>
          simp [← receipt_eq, liveFds_eq, retainedFds_eq, finish_eq]

theorem unsupported_eq
    (metric : Metric) (metadata : Metadata) (config : Config)
    (implementation : Implementation) (scenario : Scenario)
    (reason : Unsupported) :
    unsupported metric metadata config implementation scenario reason =
      String.ofList
        (escaping.render
          (unsupportedDocument metric metadata config implementation
            scenario reason)) := by
  unfold unsupported unsupportedDocument
  rw [← receipt_eq _ _ _ _ _ _ _ (List.cons_ne_nil _ _)]
  simp [unsupportedResources_eq, finish_eq]

theorem failed_eq
    (context : FailureContext) (phase error : String) (fdProbe : FdProbe)
    (samples : List Sample) :
    failed context phase error fdProbe samples =
      (failedDocument context phase error fdProbe samples).map
        fun value => String.ofList (escaping.render value) := by
  unfold failed failedDocument
  rw [raw_eq]
  cases rawDocument context.metric samples with
  | error fault => rfl
  | ok raw =>
      simp [← receipt_eq, liveFds_eq, retainedFds_eq, finish_eq,
        failureDocument, ← object_eq]

/-! ## Samples of the metric -/

/-- Every sample holds a measurement of the metric. -/
def OfMetric (metric : Metric) (samples : List Sample) : Prop :=
  ∀ sample ∈ samples, sample.captured.metric.Carries metric

theorem timingValues_ok
    {samples : List Sample} (captured : OfMetric .timing samples) :
    ∃ values, timingValues samples = .ok values ∧
      values.length = samples.length := by
  refine mapM_ok fun sample member => ?_
  obtain ⟨elapsed, shape⟩ := captured sample member
  exact ⟨elapsed, by rw [timingValue, shape]⟩

theorem allocationValues_ok
    {samples : List Sample} (captured : OfMetric .allocation samples) :
    ∃ values, allocationValues samples = .ok values ∧
      values.length = samples.length := by
  refine mapM_ok fun sample member => ?_
  obtain ⟨value, shape⟩ := captured sample member
  exact ⟨value, by rw [allocationValue, shape]⟩

theorem rawDocument_ok
    {metric : Metric} {samples : List Sample}
    (captured : OfMetric metric samples) :
    ∃ document, rawDocument metric samples = .ok document := by
  cases metric with
  | timing =>
      obtain ⟨values, found, _⟩ := timingValues_ok captured
      simp [rawDocument, measuredMembers, timingMembers, found]
  | allocation =>
      obtain ⟨values, found, _⟩ := allocationValues_ok captured
      simp [rawDocument, measuredMembers, allocationMembers, found]

theorem perEvent_ok
    {samples : List Sample} (captured : OfMetric .timing samples) :
    ∃ values, (samples.mapM fun sample =>
        (timingValue sample).map (perEvent sample)) = .ok values ∧
      values.length = samples.length := by
  refine mapM_ok fun sample member => ?_
  obtain ⟨elapsed, shape⟩ := captured sample member
  refine ⟨perEvent sample elapsed, ?_⟩
  rw [timingValue, shape]
  rfl

/-- As many values as there are samples have a distribution. -/
theorem distribution_ok
    {samples : List Sample} {values : List U128}
    (length : values.length = samples.length) (sampled : samples ≠ []) :
    ∃ summary, distribution values = .ok summary := by
  have filled : values ≠ [] := by
    have positive := List.length_pos_iff.mpr sampled
    exact List.length_pos_iff.mp (length ▸ positive)
  obtain ⟨summary, found, _⟩ := distribution_summarizes filled
  exact ⟨summary, found⟩

theorem eventTimingDocument_ok
    {samples : List Sample} (captured : OfMetric .timing samples)
    (sampled : samples ≠ []) :
    ∃ document, eventTimingDocument samples = .ok document := by
  obtain ⟨values, found, length⟩ := perEvent_ok captured
  obtain ⟨event, summarized⟩ := distribution_ok length sampled
  unfold eventTimingDocument
  rw [found]
  split
  · simp [summarized]
  · exact ⟨.null, rfl⟩

theorem summaryDocument_ok
    {metric : Metric} {samples : List Sample}
    (captured : OfMetric metric samples) (sampled : samples ≠ []) :
    ∃ document, summaryDocument metric samples = .ok document := by
  cases metric with
  | timing =>
      obtain ⟨values, found, length⟩ := timingValues_ok captured
      have means :
          (List.zipWith perOperation samples values).length =
            samples.length := by
        rw [List.length_zipWith, length, Nat.min_self]
      obtain ⟨operation, ofMeans⟩ := distribution_ok means sampled
      obtain ⟨total, ofTotal⟩ := distribution_ok length sampled
      obtain ⟨events, timed⟩ := eventTimingDocument_ok captured sampled
      simp [summaryDocument, summaryMembers, timingSummaryMembers, found,
        ofMeans, ofTotal, timed]
  | allocation =>
      obtain ⟨values, found, _⟩ := allocationValues_ok captured
      simp [summaryDocument, summaryMembers, allocationSummaryMembers, found]

theorem failed_ok
    {context : FailureContext} {samples : List Sample}
    (captured : OfMetric context.metric samples) (phase error : String)
    (fdProbe : FdProbe) :
    ∃ text, failed context phase error fdProbe samples = .ok text := by
  obtain ⟨raw, found⟩ := rawDocument_ok captured
  rw [failed_eq]
  unfold failedDocument
  rw [found]
  exact ⟨_, rfl⟩

theorem measurement_ok
    {metric : Metric} {candidate : CandidateSamples}
    (captured : OfMetric metric candidate.samples)
    (sampled : candidate.samples ≠ []) (metadata : Metadata)
    (config : Config) (scenario : Scenario) (fdProbe : FdProbe) :
    ∃ text, measurement metric metadata config candidate scenario
      fdProbe = .ok text := by
  obtain ⟨raw, rawFound⟩ := rawDocument_ok captured
  obtain ⟨summary, summaryFound⟩ := summaryDocument_ok captured sampled
  rw [measurement_eq]
  unfold measurementDocument
  rw [rawFound, summaryFound]
  exact ⟨_, rfl⟩

/-! ## Lines -/

/-- A text that is one JSON line, of this object. -/
structure JsonLine (text : String) (document : Json) : Prop where
  object : ∃ members, document = .object members
  grammar : Grammar.Text text.toList document
  parsed : Json.parse text.toList = some document
  keys : UniqueKeys document
  visible : Escaping.Visible text.toList

theorem jsonLine_render
    {members : List (String × Json)}
    (keys : UniqueKeys (.object members)) :
    JsonLine (String.ofList (escaping.render (.object members)))
      (.object members) := by
  have parsed := escaping.parse_render (.object members)
  refine
    { object := ⟨members, rfl⟩
      grammar := ?_
      parsed := ?_
      keys
      visible := ?_ }
  · rw [String.toList_ofList]
    exact parse_sound parsed
  · rw [String.toList_ofList]
    exact parsed
  · rw [String.toList_ofList]
    exact escaping.visible_render (.object members)

/-- The literal of a string, which stands for that string. -/
theorem jsonString_grammar (value : String) :
    Grammar.StringText (jsonString value) value := by
  obtain ⟨text, shape, found⟩ :=
    Parser.stringText_spec (escaping.stringText_render value [])
  rw [List.append_nil, List.append_nil] at shape
  rw [← shape] at found
  exact found

theorem measurement_jsonLine
    {metric : Metric} {metadata : Metadata} {config : Config}
    {candidate : CandidateSamples} {scenario : Scenario}
    {fdProbe : FdProbe} {text : String}
    (returned : measurement metric metadata config candidate scenario
      fdProbe = .ok text) :
    ∃ document,
      measurementDocument metric metadata config candidate scenario
        fdProbe = .ok document ∧ JsonLine text document := by
  rw [measurement_eq] at returned
  cases found : measurementDocument metric metadata config candidate
      scenario fdProbe with
  | error fault =>
      rw [found] at returned
      cases returned
  | ok document =>
      rw [found] at returned
      cases returned
      have keys := uniqueKeys_measurement found
      obtain ⟨raw, _, run⟩ := bind_ok found
      obtain ⟨summary, _, run⟩ := bind_ok run
      cases run
      exact ⟨_, rfl, jsonLine_render keys⟩

theorem unsupported_jsonLine
    (metric : Metric) (metadata : Metadata) (config : Config)
    (implementation : Implementation) (scenario : Scenario)
    (reason : Unsupported) :
    JsonLine
      (unsupported metric metadata config implementation scenario reason)
      (unsupportedDocument metric metadata config implementation scenario
        reason) := by
  rw [unsupported_eq]
  exact jsonLine_render
    (uniqueKeys_unsupported metric metadata config implementation
      scenario reason)

theorem failed_jsonLine
    {context : FailureContext} {phase error : String} {fdProbe : FdProbe}
    {samples : List Sample} {text : String}
    (returned : failed context phase error fdProbe samples = .ok text) :
    ∃ document,
      failedDocument context phase error fdProbe samples = .ok document ∧
        JsonLine text document := by
  rw [failed_eq] at returned
  cases found : failedDocument context phase error fdProbe samples with
  | error fault =>
      rw [found] at returned
      cases returned
  | ok document =>
      rw [found] at returned
      cases returned
      have keys := uniqueKeys_failed found
      obtain ⟨raw, _, run⟩ := bind_ok found
      cases run
      exact ⟨_, rfl, jsonLine_render keys⟩

/-- Every receipt is one JSON line, of its document.  Samples of the metric
always have a failed receipt, and a measured one if there are some. -/
theorem receipts_jsonLines
    (metric : Metric) (metadata : Metadata) (config : Config)
    (implementation : Implementation) (scenario : Scenario)
    (candidate : CandidateSamples) (fdProbe : FdProbe)
    (phase error : String) (reason : Unsupported) :
    (∀ text,
      measurement metric metadata config candidate scenario fdProbe =
          .ok text →
        ∃ document,
          measurementDocument metric metadata config candidate scenario
            fdProbe = .ok document ∧ JsonLine text document) ∧
    JsonLine
      (unsupported metric metadata config implementation scenario reason)
      (unsupportedDocument metric metadata config implementation scenario
        reason) ∧
    (∀ samples text,
      failed { metric, metadata, config, implementation, scenario } phase
          error fdProbe samples = .ok text →
        ∃ document,
          failedDocument
              { metric, metadata, config, implementation, scenario } phase
              error fdProbe samples = .ok document ∧
            JsonLine text document) ∧
    (∀ samples, OfMetric metric samples →
      ∃ text,
        failed { metric, metadata, config, implementation, scenario }
          phase error fdProbe samples = .ok text) ∧
    (OfMetric metric candidate.samples → candidate.samples ≠ [] →
      ∃ text,
        measurement metric metadata config candidate scenario fdProbe =
          .ok text) ∧
    ∀ value : String,
      Grammar.StringText (jsonString value) value ∧
        ∀ rest, Parser.stringText (jsonString value ++ rest) =
          some (value, rest) := by
  exact ⟨fun text => measurement_jsonLine,
    unsupported_jsonLine metric metadata config implementation scenario
      reason,
    fun samples text => failed_jsonLine,
    fun samples captured => failed_ok captured phase error fdProbe,
    fun captured sampled =>
      measurement_ok captured sampled metadata config scenario fdProbe,
    fun value => ⟨jsonString_grammar value,
      escaping.stringText_render value⟩⟩

end Zio.Benchmark
