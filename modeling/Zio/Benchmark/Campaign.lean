import Zio.Benchmark.Execution

/-!
# Whole benchmark runs

A run takes its scenarios one after the other, each in the world that the last
one left, and goes on when a candidate fails.  It ends in an error if one has,
and what it has written says which.
-/

namespace Zio.Benchmark

variable {World : Type}

/-- What a run has written, and the books of its scenarios. -/
structure Execution (World : Type) where
  world : World
  output : List String
  summary : List String
  books : List (Scenario × Progress World)

namespace Execution

def start (world : World) : Execution World :=
  { world, output := [], summary := [], books := [] }

def record
    (self : Execution World) (scenario : Scenario)
    (progress : Progress World) : Execution World :=
  { world := progress.world
    output := self.output ++ progress.output
    summary := self.summary ++ progress.summary
    books := self.books ++ [(scenario, progress)] }

end Execution

def failureMessage (failures : Nat) : String :=
  toString failures ++ " benchmark candidate failure(s); " ++
    "retained receipts contain the evidence"

section Run

variable (driver : Driver World) (metric : Metric) (config : Config)
  (metadata : Metadata) (fdProbe : FdProbe)

/-- The loop over the scenarios. -/
def executeScenarios :
    List Scenario → Nat → Execution World →
      Except Fault (Nat × Execution World)
  | [], failures, self => .ok (failures, self)
  | scenario :: rest, failures, self => do
      let (more, progress) ←
        executeScenario driver metric config metadata scenario fdProbe
          (Progress.start self.world)
      executeScenarios rest (usizeSaturatingAdd failures more)
        (self.record scenario progress)

/-- `instrumented` is the feature that counts allocations. -/
def executeWith (instrumented : Bool) (world : World) :
    Except Fault (Execution World × Except String Unit) :=
  if metric = .timing ∧ instrumented then
    .ok
      (Execution.start world,
        .error "instrumented builds cannot emit timing receipts")
  else do
    let (failures, self) ←
      executeScenarios driver metric config metadata fdProbe
        (selectedScenarios config) 0 (Execution.start world)
    return (self,
      if failures = 0 then .ok () else .error (failureMessage failures))

end Run

/-! ## Commands -/

/-- `Path::components`: an empty name in front is the root, and a `.` is a name
in front only. -/
def components (path : String) : List (List Char) :=
  match path.toList.splitOn '/' with
  | [] | [[]] => []
  | first :: rest =>
      first :: rest.filter fun name => name ≠ [] && name ≠ ['.']

/-- Whether a path is that of standard output; one that is not text has another
name in it. -/
def OsString.isStdout : OsString → Bool
  | text path => components path = components "-"
  | bytes _ => false

example :
    (OsString.text "-/.//").isStdout = true ∧
      (OsString.text "./-").isStdout = false := by
  decide

section Command

variable (driver : Driver World) (metadata : Metadata) (fdProbe : FdProbe)
  (instrumented : Bool) (create : OsString → Except String Unit)

/-- The file that a run writes to; standard output needs none. -/
def openOutput (output : Option OsString) : Except String Unit :=
  match output with
  | none => .ok ()
  | some path => if path.isStdout then .ok () else create path

/-- A command without an execution prints its help, or has failed. -/
def run (args : List OsString) (metric : Metric) (world : World) :
    Except Fault (Option (Execution World) × Except String Unit) :=
  match Config.parse args metric with
  | .error message => .ok (none, .error message)
  | .ok config =>
      if config.help then
        .ok (none, .ok ())
      else
        match openOutput create config.output with
        | .error message => .ok (none, .error message)
        | .ok () => do
            let (execution, result) ←
              executeWith driver metric config metadata fdProbe
                instrumented world
            return (some execution, result)

def runPerf (args : List OsString) (world : World) :
    Except Fault (Option (Execution World) × Except String Unit) :=
  if instrumented then
    .ok
      (none,
        .error
          ("timing receipts require a build without the " ++
            "`allocation-metrics` feature"))
  else
    run driver metadata fdProbe instrumented create args .timing world

end Command

/-! ## Books -/

section Books

variable {driver : Driver World} {metric : Metric} {config : Config}
  {metadata : Metadata} {fdProbe : FdProbe}

/-- Scenarios that are executed in turn, with a fresh book each. -/
inductive Passage
    (driver : Driver World) (metric : Metric) (config : Config)
    (metadata : Metadata) (fdProbe : FdProbe) :
    World → List (Scenario × Progress World) → World → Prop
  | done (world : World) :
      Passage driver metric config metadata fdProbe world [] world
  | scenario {world after : World} {scenario : Scenario} {failures : Nat}
      {progress : Progress World} {rest : List (Scenario × Progress World)} :
      executeScenario driver metric config metadata scenario fdProbe
          (Progress.start world) = .ok (failures, progress) →
        Accounted metric config metadata scenario fdProbe failures
            progress →
          Passage driver metric config metadata fdProbe progress.world rest
              after →
            Passage driver metric config metadata fdProbe world
              ((scenario, progress) :: rest) after

/-- The failed receipts of a list of books. -/
def failedReceipts (books : List (Scenario × Progress World)) : Nat :=
  (books.map fun book =>
    book.2.receipts.countP fun receipt => receipt.failure.isSome).sum

/-- What a list of books answers for. -/
def answered (books : List (Scenario × Progress World)) :
    List (Scenario × Implementation) :=
  books.flatMap fun book =>
    book.2.receipts.map fun receipt => (book.1, receipt.implementation)

/-- What a run is asked for. -/
def requested (config : Config) (scenarios : List Scenario) :
    List (Scenario × Implementation) :=
  scenarios.flatMap fun scenario =>
    (selectedImplementations config scenario).map fun implementation =>
      (scenario, implementation)

namespace Passage

variable {world after : World} {books : List (Scenario × Progress World)}

theorem once
    (passage : Passage driver metric config metadata fdProbe world books
      after) :
    (answered books).Perm (requested config (books.map Prod.fst)) := by
  induction passage with
  | done world => exact List.Perm.nil
  | @scenario _ _ scenario _ progress _ _ accounted _ inductionHypothesis =>
      have own := accounted.once.map fun implementation =>
        (scenario, implementation)
      rw [List.map_map] at own
      exact own.append inductionHypothesis

theorem failedReceipts_le
    (passage : Passage driver metric config metadata fdProbe world books
      after) :
    failedReceipts books ≤ 4 * books.length := by
  induction passage with
  | done world => exact Nat.le_refl 0
  | @scenario _ _ scenario _ progress rest _ accounted _
      inductionHypothesis =>
      have few := @selectedImplementations_few config scenario
      have length := accounted.once.length_eq
      have counted := @List.countP_le_length _
        (fun receipt : Receipt => receipt.failure.isSome) progress.receipts
      rw [List.length_map] at length
      have split : failedReceipts ((scenario, progress) :: rest) =
          (progress.receipts.countP fun receipt =>
            receipt.failure.isSome) + failedReceipts rest := rfl
      rw [split, List.length_cons]
      omega

/-- Every book says of the driver what the driver was asked. -/
theorem recorded
    (passage : Passage driver metric config metadata fdProbe world books
      after) :
    ∀ book ∈ books, ∃ failures start,
      executeScenario driver.recorded metric config metadata book.1 fdProbe
          (Progress.start (start, Consulted.nothing)) =
        .ok (failures, book.2.recorded metric book.1) := by
  induction passage with
  | done world =>
      intro book member
      cases member
  | @scenario world _ scenario failures progress rest executed _ _
      inductionHypothesis =>
      intro book member
      rcases List.mem_cons.mp member with rfl | later
      · refine ⟨failures, world, ?_⟩
        rw [← Progress.start_recorded metric scenario,
          executeScenario_recorded, executed]
        rfl
      · exact inductionHypothesis book later

end Passage

theorem selectedScenarios_nodup (config : Config) :
    (selectedScenarios config).Nodup := by
  unfold selectedScenarios
  cases config.scenario with
  | none =>
      have all : Scenario.all.Nodup := by decide
      exact all.filter _
  | some scenario => exact List.nodup_singleton scenario

theorem selectedScenarios_few (config : Config) :
    4 * (selectedScenarios config).length ≤ usizeMax := by
  have few : (selectedScenarios config).length ≤ Scenario.all.length := by
    unfold selectedScenarios
    cases config.scenario with
    | none => exact List.length_filter_le _ _
    | some scenario => exact Nat.succ_le_of_lt (by decide)
  exact (Nat.mul_le_mul_left 4 few).trans (by decide)

/-- No pair is asked for twice. -/
theorem requested_nodup
    {scenarios : List Scenario} (distinct : scenarios.Nodup) :
    (requested config scenarios).Nodup := by
  refine List.nodup_flatMap.mpr ⟨fun scenario _ => ?_, ?_⟩
  · exact selectedImplementations_nodup.map fun first second same =>
      (Prod.mk.inj same).2
  · refine distinct.imp fun apart pair first second => apart ?_
    obtain ⟨_, _, rfl⟩ := List.mem_map.mp first
    obtain ⟨_, _, same⟩ := List.mem_map.mp second
    exact (Prod.mk.inj same).1.symm

/-- The scenarios that are left go on from what has been written. -/
theorem executeScenarios_books
    (bounded : config.Bounded) (honest : driver.Honest)
    {scenarios : List Scenario} {failures : Nat} {self : Execution World}
    (fits : failures + 4 * scenarios.length ≤ usizeMax) :
    ∃ books after,
      Passage driver metric config metadata fdProbe self.world books
          after ∧
        books.map Prod.fst = scenarios ∧
        executeScenarios driver metric config metadata fdProbe scenarios
            failures self =
          .ok
            (failures + failedReceipts books,
              { world := after
                output := self.output ++
                  books.flatMap fun book => book.2.output
                summary := self.summary ++
                  books.flatMap fun book => book.2.summary
                books := self.books ++ books }) := by
  induction scenarios generalizing failures self with
  | nil =>
      refine ⟨[], self.world, .done self.world, rfl, ?_⟩
      rw [List.flatMap_nil, List.flatMap_nil, List.append_nil,
        List.append_nil, List.append_nil]
      rfl
  | cons scenario rest inductionHypothesis =>
      obtain ⟨more, progress, executed, accounted⟩ :=
        @executeScenario_books World metric config bounded driver honest
          metadata scenario fdProbe self.world
      have few : more ≤ 4 := by
        have alone := (Passage.scenario executed accounted
          (.done progress.world)).failedReceipts_le
        have single : failedReceipts [(scenario, progress)] = more :=
          (Nat.add_zero _).trans accounted.counted.symm
        rw [single] at alone
        exact alone
      rw [List.length_cons] at fits
      have sum : usizeSaturatingAdd failures more = failures + more :=
        min_eq_left (by omega)
      obtain ⟨books, after, passage, names, ran⟩ :=
        @inductionHypothesis (failures + more)
          (self.record scenario progress) (by omega)
      refine ⟨(scenario, progress) :: books, after,
        .scenario executed accounted passage,
        congrArg (List.cons scenario) names, ?_⟩
      have counted : failedReceipts ((scenario, progress) :: books) =
          more + failedReceipts books :=
        congrArg (fun count => count + failedReceipts books)
          accounted.counted.symm
      unfold executeScenarios
      simp only [executed, bind, Except.bind, sum]
      rw [ran, counted]
      simp only [Execution.record, List.flatMap_cons, List.append_assoc,
        List.singleton_append, Nat.add_assoc]

/-- The books of a whole run, and how it ends. -/
structure Booked
    (driver : Driver World) (metric : Metric) (config : Config)
    (metadata : Metadata) (fdProbe : FdProbe) (world : World)
    (execution : Execution World) (result : Except String Unit) : Prop where
  passage : Passage driver metric config metadata fdProbe world
    execution.books execution.world
  scenarios : execution.books.map Prod.fst = selectedScenarios config
  once : (answered execution.books).Perm
    (requested config (selectedScenarios config))
  sole : (answered execution.books).Nodup
  recorded : ∀ book ∈ execution.books, ∃ failures start,
    executeScenario driver.recorded metric config metadata book.1 fdProbe
        (Progress.start (start, Consulted.nothing)) =
      .ok (failures, book.2.recorded metric book.1)
  output : execution.output =
    execution.books.flatMap fun book => book.2.output
  result : result =
    if failedReceipts execution.books = 0 then .ok ()
    else .error (failureMessage (failedReceipts execution.books))

theorem executeWith_booked
    (bounded : config.Bounded) (honest : driver.Honest)
    {instrumented : Bool} (plain : metric = .timing → instrumented = false)
    (world : World) :
    ∃ execution result,
      executeWith driver metric config metadata fdProbe instrumented world =
          .ok (execution, result) ∧
        Booked driver metric config metadata fdProbe world execution
          result := by
  have uninstrumented : ¬ (metric = .timing ∧ instrumented = true) := by
    rintro ⟨timing, counting⟩
    rw [plain timing] at counting
    cases counting
  have fits := selectedScenarios_few config
  obtain ⟨books, after, passage, names, ran⟩ :=
    @executeScenarios_books World driver metric config metadata fdProbe
      bounded honest (selectedScenarios config) 0 (Execution.start world)
      (by omega)
  have once := passage.once
  rw [names] at once
  have executed :
      executeWith driver metric config metadata fdProbe instrumented
          world =
        .ok
          ({ world := after
             output := books.flatMap fun book => book.2.output
             summary := books.flatMap fun book => book.2.summary
             books },
            if failedReceipts books = 0 then .ok ()
            else .error (failureMessage (failedReceipts books))) := by
    unfold executeWith
    rw [if_neg uninstrumented, ran, Nat.zero_add]
    rfl
  exact ⟨_, _, executed,
    { passage
      scenarios := names
      once
      sole := once.nodup_iff.mpr
        (requested_nodup (selectedScenarios_nodup config))
      recorded := passage.recorded
      output := rfl
      result := rfl }⟩

section Commands

variable {args : List OsString} {instrumented : Bool}
  {create : OsString → Except String Unit}

/-- A command with an output is the execution of its configuration. -/
theorem run_executeWith
    (parsed : Config.parse args metric = .ok config)
    (running : config.help = false)
    (opened : openOutput create config.output = .ok ())
    (world : World) :
    run driver metadata fdProbe instrumented create args metric world =
      (executeWith driver metric config metadata fdProbe instrumented
        world).map fun ended => (some ended.1, ended.2) := by
  unfold run
  simp only [parsed, running, Bool.false_eq_true, if_false, opened]
  cases executeWith driver metric config metadata fdProbe instrumented
    world <;> rfl

/-- A command that runs keeps exactly one receipt of every selected pair, in
the order of the scenarios, and fails exactly when some receipt has. -/
theorem run_booked
    (parsed : Config.parse args metric = .ok config)
    (running : config.help = false)
    (opened : openOutput create config.output = .ok ())
    (honest : driver.Honest)
    (plain : metric = .timing → instrumented = false)
    (metadata : Metadata) (fdProbe : FdProbe) (world : World) :
    ∃ execution result,
      run driver metadata fdProbe instrumented create args metric world =
          .ok (some execution, result) ∧
        Booked driver metric config metadata fdProbe world execution
          result := by
  obtain ⟨execution, result, executed, booked⟩ :=
    @executeWith_booked World driver metric config metadata fdProbe
      (Config.parse_bounded parsed) honest instrumented plain world
  refine ⟨execution, result, ?_, booked⟩
  rw [run_executeWith parsed running opened, executed]
  rfl

/-- A timing command ends whatever its arguments are.  A build that counts
allocations runs nothing, and what another build ran is in the books. -/
theorem runPerf_ends
    (honest : driver.Honest) (metadata : Metadata) (fdProbe : FdProbe)
    (world : World) :
    ∃ execution result,
      runPerf driver metadata fdProbe instrumented create args world =
          .ok (execution, result) ∧
        (instrumented = true → execution = none ∧ result ≠ .ok ()) ∧
        ∀ ran, execution = some ran →
          ∃ config, Config.parse args .timing = .ok config ∧
            Booked driver .timing config metadata fdProbe world ran
              result := by
  unfold runPerf
  cases instrumented with
  | true => exact ⟨none, _, rfl, fun _ => ⟨rfl, nofun⟩, nofun⟩
  | false =>
      rw [if_neg Bool.false_ne_true]
      cases parsed : Config.parse args .timing with
      | error message =>
          refine ⟨none, .error message, ?_, nofun, nofun⟩
          simp only [run, parsed]
      | ok config =>
          cases running : config.help with
          | true =>
              refine ⟨none, .ok (), ?_, nofun, nofun⟩
              simp only [run, parsed, running, if_true]
          | false =>
              cases opened : openOutput create config.output with
              | error message =>
                  refine ⟨none, .error message, ?_, nofun, nofun⟩
                  simp only [run, parsed, running, Bool.false_eq_true,
                    if_false, opened]
              | ok created =>
                  obtain ⟨execution, result, executed, booked⟩ :=
                    @executeWith_booked World driver .timing config metadata
                      fdProbe (Config.parse_bounded parsed) honest false
                      (fun _ => rfl) world
                  refine ⟨some execution, result, ?_, nofun, ?_⟩
                  · rw [run_executeWith parsed running opened, executed]
                    rfl
                  · rintro ran ⟨⟩
                    exact ⟨config, rfl, booked⟩

end Commands

end Books

theorem mixedRun_booked :
    ∃ execution result,
      run mixedDriver plainMetadata (.unavailable "no directory") false
          (fun _ => .ok ()) [] .timing () = .ok (some execution, result) ∧
        Booked mixedDriver .timing timingConfig plainMetadata
          (.unavailable "no directory") () execution result :=
  @run_booked Unit mixedDriver .timing timingConfig [] false
    (fun _ => .ok ()) rfl rfl rfl mixedDriver_honest (fun _ => rfl)
    plainMetadata (.unavailable "no directory") ()

end Zio.Benchmark
