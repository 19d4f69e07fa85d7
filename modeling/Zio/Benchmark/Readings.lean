import Zio.Benchmark.Campaign
import Zio.Library.Json.Access

/-!
# Reading receipts back

What a reader of the lines recovers: of which candidate and scenario a receipt
is, what became of the candidate, and the columns of its samples.
-/

namespace Zio.Benchmark

variable {World : Type}

/-! ## Readings -/

inductive Status where
  | unsupported
  | failed
  | passed
deriving DecidableEq, Repr

def Status.name : Status → String
  | unsupported => "unsupported"
  | failed => "failed"
  | passed => "passed"

def Status.all : List Status := [unsupported, failed, passed]

def Metric.all : List Metric := [.timing, .allocation]

/-- The columns of the samples of a metric, by their names. -/
def Metric.columns : Metric → List (String × (CapturedMetric → Int))
  | .timing =>
      [("measured_elapsed_ns", fun captured =>
        match captured with
        | .timing elapsed => elapsed.val
        | _ => 0)]
  | .allocation =>
      (unsignedFields.map fun field =>
        (field.1, fun captured =>
          match captured with
          | .allocation value => ((field.2 value).toNat : Int)
          | _ => 0)) ++
        [("allocation_count_current", fun captured =>
            match captured with
            | .allocation value => value.countCurrent.toInt
            | _ => 0),
          ("allocation_bytes_current", fun captured =>
            match captured with
            | .allocation value => value.bytesCurrent.toInt
            | _ => 0)]

structure Columns where
  rounds : List Int
  orderPositions : List Int
  operations : List Int
  events : List Int
  measured : List (List Int)
deriving DecidableEq, Repr

def Columns.of (metric : Metric) (samples : List Sample) : Columns :=
  { rounds := samples.map fun sample => (sample.round : Int)
    orderPositions := samples.map fun sample => (sample.orderPosition : Int)
    operations := samples.map fun sample =>
      (sample.captured.counts.operations.toNat : Int)
    events := samples.map fun sample =>
      (sample.captured.counts.events.toNat : Int)
    measured := metric.columns.map fun column =>
      samples.map fun sample => column.2 sample.captured.metric }

structure Reading where
  metric : Metric
  status : Status
  implementation : Implementation
  scenario : Scenario
  columns : Option Columns
deriving DecidableEq, Repr

/-- What there is to read of a receipt in a run of a metric. -/
def Receipt.reading (metric : Metric) (scenario : Scenario) :
    Receipt → Reading
  | unsupported implementation _ =>
      { metric, status := .unsupported, implementation, scenario
        columns := none }
  | failed implementation reported _ _ samples =>
      { metric := reported, status := .failed, implementation, scenario
        columns := some (Columns.of reported samples) }
  | passed candidate =>
      { metric, status := .passed
        implementation := candidate.implementation, scenario
        columns := some (Columns.of metric candidate.samples) }

/-! ## Reader -/

def readMember (document : Json) (name : String) : Option String :=
  (document.member name).bind Json.asString

def readColumn (raw : Json) (name : String) : Option (List Int) :=
  (raw.member name).bind Json.asIntegers

def readColumns (metric : Metric) (raw : Json) : Option Columns := do
  let rounds ← readColumn raw "round"
  let orderPositions ← readColumn raw "order_position"
  let operations ← readColumn raw "operations"
  let events ← readColumn raw "events"
  let measured ← metric.columns.mapM fun column => readColumn raw column.1
  return { rounds, orderPositions, operations, events, measured }

/-- A receipt without samples has no columns. -/
def readRaw (metric : Metric) : Option Json → Option (Option Columns)
  | none => some none
  | some raw => (readColumns metric raw).map some

def readDocument (document : Json) : Option Reading := do
  let metricName ← readMember document "metric"
  let metric ← Metric.all.find? fun metric => metric.name = metricName
  let statusName ← readMember document "status"
  let status ← Status.all.find? fun status => status.name = statusName
  let candidate ← document.member "candidate"
  let candidateName ← readMember candidate "name"
  let implementation ← (parseImplementation candidateName).toOption
  let scenarioDocument ← document.member "scenario"
  let scenarioName ← readMember scenarioDocument "name"
  let scenario ← Scenario.parse scenarioName
  let columns ← readRaw metric (document.member "raw")
  return { metric, status, implementation, scenario, columns }

def readLine (text : String) : Option Reading :=
  (Json.parse text.toList).bind readDocument

/-! ## Recovery -/

theorem mapM_found
    {α β : Type} {step : α → Option β} {result : α → β} {items : List α}
    (each : ∀ item ∈ items, step item = some (result item)) :
    items.mapM step = some (items.map result) := by
  induction items with
  | nil => rfl
  | cons item rest inductionHypothesis =>
      rw [List.mapM_cons, each item List.mem_cons_self,
        inductionHypothesis fun other member =>
          each other (List.mem_cons_of_mem item member)]
      rfl

theorem lookup_columns
    {α β : Type} {columns : List (String × α)}
    (distinct : (columns.map Prod.fst).Nodup) (value : α → β)
    {column : String × α} (member : column ∈ columns) :
    (columns.map fun other => (other.1, value other.2)).lookup column.1 =
      some (value column.2) := by
  induction columns with
  | nil => cases member
  | cons first rest inductionHypothesis =>
      rw [List.map_cons, List.nodup_cons] at distinct
      rw [List.map_cons, List.lookup_cons]
      rcases List.mem_cons.mp member with rfl | later
      · rw [beq_self_eq_true]
      · have apart : (column.1 == first.1) = false := by
          rw [beq_eq_false_iff_ne]
          exact fun same => distinct.1
            (same ▸ List.mem_map_of_mem later)
        rw [apart]
        exact inductionHypothesis distinct.2 later

theorem Metric.found (metric : Metric) :
    (Metric.all.find? fun other => other.name = metric.name) =
      some metric := by
  cases metric <;> decide

theorem Status.found (status : Status) :
    (Status.all.find? fun other => other.name = status.name) =
      some status := by
  cases status <;> decide

theorem Implementation.parsed (implementation : Implementation) :
    (parseImplementation implementation.name).toOption =
      some implementation := by
  cases implementation <;> rfl

theorem Scenario.parsed (scenario : Scenario) :
    Scenario.parse scenario.name = some scenario := by
  cases scenario <;> decide

/-- A leading member is found before the own members of a receipt. -/
theorem leading_lookup
    (metric : Metric) (status : Status) (metadata : Metadata)
    (config : Config) (implementation : Implementation)
    (scenario : Scenario) (sampling : Option CandidateSamples)
    (members : List (String × Json)) :
    let document := Json.object
      (leadingMembers metric status.name metadata config implementation
        scenario sampling ++ members)
    document.member "metric" = some (.string metric.name) ∧
      document.member "status" = some (.string status.name) ∧
      document.member "candidate" =
        some (candidateDocument implementation) ∧
      document.member "scenario" =
        some (scenarioDocument scenario implementation) ∧
      document.member "raw" = members.lookup "raw" := by
  simp [leadingMembers, List.lookup_cons]

theorem readDocument_receipt
    (metric : Metric) (status : Status) (metadata : Metadata)
    (config : Config) (implementation : Implementation)
    (scenario : Scenario) (sampling : Option CandidateSamples)
    {members : List (String × Json)} {columns : Option Columns}
    (recovered : readRaw metric (members.lookup "raw") = some columns) :
    readDocument
        (.object
          (leadingMembers metric status.name metadata config implementation
            scenario sampling ++ members)) =
      some { metric, status, implementation, scenario, columns } := by
  obtain ⟨metricFound, statusFound, candidateFound, scenarioFound,
    rawFound⟩ := leading_lookup metric status metadata config
      implementation scenario sampling members
  have candidateName : readMember (candidateDocument implementation) "name" =
      some implementation.name := rfl
  have scenarioName :
      readMember (scenarioDocument scenario implementation) "name" =
        some scenario.name := rfl
  unfold readDocument
  unfold readMember at candidateName scenarioName ⊢
  simp only [metricFound, statusFound, candidateFound, scenarioFound,
    rawFound, candidateName, scenarioName, Option.bind_some,
    Json.asString_string, Metric.found, Status.found,
    Implementation.parsed, Scenario.parsed, bind, recovered, pure]

theorem timingValue_metric
    {sample : Sample} {value : U128}
    (found : timingValue sample = .ok value) :
    sample.captured.metric = .timing value := by
  unfold timingValue at found
  split at found
  · rename_i elapsed shape
    cases found
    exact shape
  · cases found

/-- The values of a metric are the columns of its samples. -/
theorem timingValues_column
    {samples : List Sample} {values : List U128}
    (found : timingValues samples = .ok values) :
    (values.map fun value => (value.val : Int)) =
      samples.map fun sample =>
        match sample.captured.metric with
        | .timing elapsed => (elapsed.val : Int)
        | _ => 0 := by
  induction samples generalizing values with
  | nil =>
      cases found
      rfl
  | cons sample rest inductionHypothesis =>
      unfold timingValues at found
      rw [List.mapM_cons] at found
      obtain ⟨value, first, found⟩ := bind_ok found
      obtain ⟨others, later, found⟩ := bind_ok found
      cases found
      rw [List.map_cons, List.map_cons, inductionHypothesis later]
      rw [timingValue_metric first]

theorem allocationValue_metric
    {sample : Sample} {value : Allocations}
    (found : allocationValue sample = .ok value) :
    sample.captured.metric = .allocation value := by
  unfold allocationValue at found
  split at found
  · rename_i counted shape
    cases found
    exact shape
  · cases found

theorem allocationValues_column
    {samples : List Sample} {values : List Allocations}
    (found : allocationValues samples = .ok values)
    (field : Allocations → Int) :
    values.map field =
      samples.map fun sample =>
        match sample.captured.metric with
        | .allocation value => field value
        | _ => 0 := by
  induction samples generalizing values with
  | nil =>
      cases found
      rfl
  | cons sample rest inductionHypothesis =>
      unfold allocationValues at found
      rw [List.mapM_cons] at found
      obtain ⟨value, first, found⟩ := bind_ok found
      obtain ⟨others, later, found⟩ := bind_ok found
      cases found
      rw [List.map_cons, List.map_cons, inductionHypothesis later]
      rw [allocationValue_metric first]

theorem asIntegers_sizes (values : List Nat) :
    (sizes values).asIntegers =
      some (List.map (fun value : Nat => (value : Int)) values) := by
  unfold sizes
  rw [Json.asIntegers_integers, List.map_id', List.map_eq_flatMap]
  rfl

/-- The members that hold the columns of a metric. -/
def columnMembers (metric : Metric) (samples : List Sample) :
    List (String × Json) :=
  metric.columns.map fun column =>
    (column.1,
      Json.integers
        (samples.map fun sample => column.2 sample.captured.metric))

theorem Metric.columns_distinct (metric : Metric) :
    ((["round", "order_position", "operations", "events"] ++
      metric.columns.map Prod.fst)).Nodup := by
  cases metric <;> decide

theorem readColumns_object
    (metric : Metric) (samples : List Sample)
    (others : List (String × Json)) :
    readColumns metric
        (.object
          ([("round", sizes (samples.map Sample.round)),
            ("order_position", sizes (samples.map Sample.orderPosition)),
            ("operations",
              unsigned64 (samples.map fun sample =>
                sample.captured.counts.operations)),
            ("events",
              unsigned64 (samples.map fun sample =>
                sample.captured.counts.events))] ++
            (columnMembers metric samples ++ others))) =
      some (Columns.of metric samples) := by
  have distinct := List.nodup_append.mp metric.columns_distinct
  have measured : ∀ column ∈ metric.columns,
      readColumn
          (.object
            ([("round", sizes (samples.map Sample.round)),
              ("order_position", sizes (samples.map Sample.orderPosition)),
              ("operations",
                unsigned64 (samples.map fun sample =>
                  sample.captured.counts.operations)),
              ("events",
                unsigned64 (samples.map fun sample =>
                  sample.captured.counts.events))] ++
              (columnMembers metric samples ++ others))) column.1 =
        some (samples.map fun sample =>
          column.2 sample.captured.metric) := by
    intro column member
    have hidden : ∀ name ∈ ["round", "order_position", "operations",
        "events"], (column.1 == name) = false := by
      intro name leading
      rw [beq_eq_false_iff_ne]
      exact fun same => distinct.2.2 name leading column.1
        (List.mem_map_of_mem member) same.symm
    have found := lookup_columns distinct.2.1
      (fun column => Json.integers
        (samples.map fun sample => column sample.captured.metric)) member
    unfold readColumn columnMembers
    simp only [List.mem_cons, List.not_mem_nil, or_false, forall_eq_or_imp,
      forall_eq] at hidden
    simp only [Json.member_object, List.cons_append, List.nil_append,
      List.lookup_cons, hidden, List.lookup_append, found, Option.some_or,
      Option.bind_some, Json.asIntegers_integers]
  unfold readColumns
  rw [mapM_found measured]
  simp only [readColumn, Columns.of, unsigned64, List.lookup_cons,
    List.cons_append, Json.member_object, beq_self_eq_true, String.reduceBEq,
    Option.bind_some, asIntegers_sizes, Json.asIntegers_integers,
    List.map_map, Function.comp_def, bind, pure]

theorem readColumns_raw
    {metric : Metric} {samples : List Sample} {document : Json}
    (found : rawDocument metric samples = .ok document) :
    readColumns metric document = some (Columns.of metric samples) := by
  obtain ⟨members, measured, found⟩ := bind_ok found
  cases found
  cases metric with
  | timing =>
      obtain ⟨values, elapsed, measured⟩ := bind_ok measured
      cases measured
      have column := timingValues_column elapsed
      refine Eq.trans (congrArg (readColumns .timing) ?_)
        (readColumns_object .timing samples
          [("sample_mean_ns_per_operation",
              unsigned128 (List.zipWith perOperation samples values)),
            ("sample_mean_ns_per_event",
              if eachHasEvents samples then
                unsigned128 (List.zipWith perEvent samples values)
              else
                .null)])
      unfold columnMembers Metric.columns unsigned128
      rw [column]
      rfl
  | allocation =>
      obtain ⟨values, allocated, measured⟩ := bind_ok measured
      cases measured
      have column := fun field => allocationValues_column allocated field
      refine Eq.trans (congrArg (readColumns .allocation) ?_)
        (readColumns_object .allocation samples [])
      unfold columnMembers Metric.columns
      simp only [List.append_nil, List.map_append, List.map_map,
        unsigned64, signed64, List.map_cons, List.map_nil,
        Function.comp_def, column]

section Lines

variable {metric : Metric} {config : Config} {metadata : Metadata}
  {scenario : Scenario} {fdProbe : FdProbe}

theorem readLine_document
    {text : String} {document : Json} {reading : Reading}
    (line : JsonLine text document)
    (recovered : readDocument document = some reading) :
    readLine text = some reading := by
  unfold readLine
  rw [line.parsed]
  exact recovered

/-- The line of a receipt says what the receipt does. -/
theorem Encodes.read
    {receipt : Receipt} {text : String}
    (encodes : Encodes metric config metadata scenario fdProbe receipt
      text) :
    readLine text = some (receipt.reading metric scenario) := by
  cases receipt with
  | unsupported implementation reason =>
      have shape := Except.ok.inj encodes
      rw [← shape]
      refine readLine_document (unsupported_jsonLine metric metadata config
        implementation scenario reason) ?_
      unfold unsupportedDocument
      refine readDocument_receipt metric .unsupported metadata config
        implementation scenario none ?_
      simp only [List.lookup_cons, String.reduceBEq, List.lookup_nil]
      rfl
  | failed implementation reported phase error samples =>
      obtain ⟨document, found, line⟩ := failed_jsonLine encodes
      refine readLine_document line ?_
      obtain ⟨raw, documented, found⟩ := bind_ok found
      cases found
      refine readDocument_receipt reported .failed metadata config
        implementation scenario none ?_
      exact congrArg (Option.map some) (readColumns_raw documented)
  | passed candidate =>
      obtain ⟨document, found, line⟩ := measurement_jsonLine encodes
      refine readLine_document line ?_
      obtain ⟨raw, documented, found⟩ := bind_ok found
      obtain ⟨summary, _, found⟩ := bind_ok found
      cases found
      refine readDocument_receipt metric .passed metadata config
        candidate.implementation scenario (some candidate) ?_
      exact congrArg (Option.map some) (readColumns_raw documented)

theorem readLines_encoded
    {receipts : List Receipt} {texts : List String}
    (written : List.Forall₂
      (Encodes metric config metadata scenario fdProbe) receipts texts) :
    texts.mapM readLine =
      some (receipts.map (Receipt.reading metric scenario)) := by
  induction written with
  | nil => rfl
  | cons encodes _ inductionHypothesis =>
      rw [List.mapM_cons, encodes.read, inductionHypothesis]
      rfl

/-- What there is to read of the books of a run. -/
def readings (metric : Metric) (books : List (Scenario × Progress World)) :
    List Reading :=
  books.flatMap fun book =>
    book.2.receipts.map (Receipt.reading metric book.1)

theorem Receipt.reading_failed (receipt : Receipt) :
    (receipt.reading metric scenario).status = .failed ↔
      receipt.failure.isSome = true := by
  cases receipt with
  | unsupported implementation reason =>
      exact iff_of_false (fun same => by cases same)
        (fun same => by cases same)
  | failed implementation reported phase error samples =>
      exact iff_of_true rfl rfl
  | passed candidate =>
      exact iff_of_false (fun same => by cases same)
        (fun same => by cases same)

theorem readings_answered (books : List (Scenario × Progress World)) :
    (readings metric books).map
        (fun reading => (reading.scenario, reading.implementation)) =
      answered books := by
  unfold readings answered
  rw [List.map_flatMap]
  congr 1
  funext book
  rw [List.map_map]
  congr 1
  funext receipt
  cases receipt <;> rfl

theorem failedReceipts_zero_iff
    (books : List (Scenario × Progress World)) :
    failedReceipts books = 0 ↔
      ∀ reading ∈ readings metric books, reading.status ≠ .failed := by
  unfold failedReceipts readings
  rw [List.sum_eq_zero_iff_forall_eq_nat]
  constructor
  · intro unfailed reading member
    obtain ⟨book, inside, found⟩ := List.mem_flatMap.mp member
    obtain ⟨receipt, held, rfl⟩ := List.mem_map.mp found
    have quiet := unfailed _ (List.mem_map_of_mem inside)
    rw [List.countP_eq_zero] at quiet
    rw [ne_eq, receipt.reading_failed]
    exact quiet receipt held
  · intro quiet count member
    obtain ⟨book, inside, rfl⟩ := List.mem_map.mp member
    rw [List.countP_eq_zero]
    intro receipt held
    rw [← receipt.reading_failed]
    exact quiet _ (List.mem_flatMap.mpr
      ⟨book, inside, List.mem_map_of_mem held⟩)

theorem Passage.read
    {driver : Driver World} {world after : World}
    {books : List (Scenario × Progress World)}
    (passage : Passage driver metric config metadata fdProbe world books
      after) :
    (books.flatMap fun book => book.2.output).mapM readLine =
      some (readings metric books) := by
  induction passage with
  | done world => rfl
  | scenario _ accounted _ inductionHypothesis =>
      rw [List.flatMap_cons, List.mapM_append,
        readLines_encoded accounted.written, inductionHypothesis]
      rfl

end Lines

/-! ## Commands -/

section Commands

variable {driver : Driver World} {metric : Metric} {config : Config}
  {args : List OsString} {instrumented : Bool}
  {create : OsString → Except String Unit}

/-- The lines of a command, read back in their order, are what its books
say. -/
theorem run_readable
    (parsed : Config.parse args metric = .ok config)
    (running : config.help = false)
    (opened : openOutput create config.output = .ok ())
    (honest : driver.Honest)
    (plain : metric = .timing → instrumented = false)
    (metadata : Metadata) (fdProbe : FdProbe) (world : World) :
    ∃ execution result,
      run driver metadata fdProbe instrumented create args metric world =
          .ok (some execution, result) ∧
        execution.output.mapM readLine =
          some (readings metric execution.books) ∧
        ((readings metric execution.books).map fun reading =>
          (reading.scenario, reading.implementation)).Perm
            (requested config (selectedScenarios config)) ∧
        (result = .ok () ↔
          ∀ reading ∈ readings metric execution.books,
            reading.status ≠ .failed) := by
  obtain ⟨execution, result, executed, booked⟩ :=
    @executeWith_booked World driver metric config metadata fdProbe
      (Config.parse_bounded parsed) honest instrumented plain world
  refine ⟨execution, result, ?_, ?_, ?_, ?_⟩
  · rw [run_executeWith parsed running opened, executed]
    rfl
  · rw [booked.output]
    exact booked.passage.read
  · rw [readings_answered]
    exact booked.once
  · rw [← failedReceipts_zero_iff, booked.result]
    by_cases unfailed : failedReceipts execution.books = 0
    · rw [if_pos unfailed]
      exact iff_of_true rfl unfailed
    · rw [if_neg unfailed]
      exact iff_of_false (fun same => by cases same) unfailed

end Commands

theorem mixedRun_readable :
    ∃ execution result,
      run mixedDriver plainMetadata (.unavailable "no directory") false
          (fun _ => .ok ()) [] .timing () = .ok (some execution, result) ∧
        execution.output.mapM readLine =
          some (readings .timing execution.books) ∧
        ((readings .timing execution.books).map fun reading =>
          (reading.scenario, reading.implementation)).Perm
            (requested timingConfig (selectedScenarios timingConfig)) ∧
        (result = .ok () ↔
          ∀ reading ∈ readings .timing execution.books,
            reading.status ≠ .failed) :=
  @run_readable Unit mixedDriver .timing timingConfig [] false
    (fun _ => .ok ()) rfl rfl rfl mixedDriver_honest (fun _ => rfl)
    plainMetadata (.unavailable "no directory") ()

end Zio.Benchmark
