import Zio.Benchmark.Measure
import Zio.Benchmark.Scenario

/-!
# Benchmark configuration

Strict command-line parsing and the defaults of a benchmark run.  Every accepted
configuration asks for at least one sample and stays within the stated bounds.
-/

namespace Zio.Benchmark

inductive Metric where
  | timing
  | allocation
deriving DecidableEq, Repr

def Metric.name : Metric → String
  | timing => "timing"
  | allocation => "allocation"

/-- An argument, which need not be text. -/
inductive OsString where
  | text (value : String)
  | bytes (value : List UInt8)
deriving DecidableEq, Repr

def maxSamples : Nat := 1000
def maxIterations : Nat := 1000000
def maxWarmup : Nat := 100000
def maxSampleTimeMs : Nat := 10000
def defaultSampleTimeMs : UInt64 := 100

structure Config where
  samples : Nat
  iterations : Option Nat
  warmupIterations : Nat
  warmupExplicit : Bool
  targetSampleTimeMs : UInt64
  implementation : Option Implementation
  scenario : Option Scenario
  output : Option OsString
  help : Bool
  smoke : Bool
deriving DecidableEq, Repr

/-! ## Values -/

/-- `str::parse` for an unsigned integer below a limit. -/
def parseUnsigned (limit : Nat) (value : String) : Option Nat :=
  let digits :=
    match value.toList with
    | '+' :: rest => rest
    | characters => characters
  if digits ≠ [] ∧ digits.all Char.isDigit then
    let parsed :=
      digits.foldl (fun number digit => 10 * number + (digit.toNat - 48)) 0
    if parsed < limit then some parsed else none
  else
    none

def text (value : OsString) (flag : String) : Except String String :=
  match value with
  | .text value => .ok value
  | .bytes _ => .error (flag ++ " requires a valid UTF-8 value")

/-- `number` and `number_u64`, whose types have the same limit. -/
def number (value : OsString) (flag : String) (maximum : Nat) :
    Except String Nat :=
  match text value flag with
  | .error message => .error message
  | .ok value =>
      match parseUnsigned (2 ^ 64) value with
      | none =>
          .error
            (flag ++ " requires an integer from 1 through " ++
              toString maximum)
      | some parsed =>
          if parsed = 0 ∨ parsed > maximum then
            .error
              (flag ++ " must be between 1 and " ++ toString maximum ++
                "; received " ++ toString parsed)
          else
            .ok parsed

def parseImplementation (value : String) : Except String Implementation :=
  if value = "zio" then .ok .zio
  else if value = "zio-borrowed" then .ok .zioBorrowed
  else if value = "mio" then .ok .mio
  else if value = "polling" then .ok .polling
  else
    .error
      ("unknown implementation `" ++ value ++
        "`; expected zio, zio-borrowed, mio, or polling")

def parseScenario (value : String) : Except String Scenario :=
  match Scenario.parse value with
  | some scenario => .ok scenario
  | none =>
      .error
        ("unknown scenario `" ++ value ++
          "`; use --help for stable names")

def setFlag (slot : Bool) (flag : String) : Except String Bool :=
  if slot then .error ("duplicate " ++ flag) else .ok true

def setValue {α : Type} (slot : Option α) (value : α) (flag : String) :
    Except String (Option α) :=
  if slot.isSome then .error ("duplicate " ++ flag) else .ok (some value)

/-! ## Arguments -/

structure Builder where
  samples : Option Nat := none
  iterations : Option Nat := none
  warmup : Option Nat := none
  sampleTimeMs : Option Nat := none
  implementation : Option Implementation := none
  scenario : Option Scenario := none
  output : Option OsString := none
  smoke : Bool := false
  help : Bool := false

namespace Builder

/-- An option with a number, and the field that holds it. -/
def setNumber
    (slot : Option Nat) (update : Option Nat → Builder) (flag : String)
    (maximum : Nat) (value : OsString) : Except String Builder := do
  let parsed ← number value flag maximum
  let slot ← setValue slot parsed flag
  return update slot

/-- What an argument does with the one that follows it. -/
def takesValue (self : Builder) (argument : String) :
    Option (OsString → Except String Builder) :=
  if argument = "--samples" then
    some (setNumber self.samples
      (fun samples => { self with samples }) "--samples" maxSamples)
  else if argument = "--iterations" then
    some (setNumber self.iterations
      (fun iterations => { self with iterations }) "--iterations"
      maxIterations)
  else if argument = "--warmup" then
    some (setNumber self.warmup (fun warmup => { self with warmup })
      "--warmup" maxWarmup)
  else if argument = "--sample-time-ms" then
    some (setNumber self.sampleTimeMs
      (fun sampleTimeMs => { self with sampleTimeMs }) "--sample-time-ms"
      maxSampleTimeMs)
  else if argument = "--implementation" then
    some fun value => do
      let value ← text value "--implementation"
      let parsed ← parseImplementation value
      let implementation ←
        setValue self.implementation parsed "--implementation"
      return { self with implementation }
  else if argument = "--scenario" then
    some fun value => do
      let value ← text value "--scenario"
      let parsed ← parseScenario value
      let scenario ← setValue self.scenario parsed "--scenario"
      return { self with scenario }
  else if argument = "--output" then
    some fun value => do
      let output ← setValue self.output value "--output"
      return { self with output }
  else
    none

/-- What an argument without a value does. -/
def switch (self : Builder) (argument : String) :
    Option (Except String Builder) :=
  if argument = "--smoke" then
    some do
      let smoke ← setFlag self.smoke "--smoke"
      return { self with smoke }
  else if argument = "--help" ∨ argument = "-h" then
    some do
      let help ← setFlag self.help "--help"
      return { self with help }
  else
    none

def missingValue (argument : String) : String :=
  if argument = "--output" then "--output requires a path"
  else argument ++ " requires a value"

/-- The loop over the arguments. -/
def parse : List OsString → Builder → Except String Builder
  | [], self => .ok self
  | .bytes _ :: _, _ =>
      .error "arguments other than --output must be valid UTF-8"
  | .text argument :: args, self =>
      match self.switch argument with
      | some (.error message) => .error message
      | some (.ok self) => parse args self
      | none =>
          match self.takesValue argument with
          | none =>
              .error ("unknown argument `" ++ argument ++ "`; use --help")
          | some take =>
              match args with
              | [] => .error (missingValue argument)
              | value :: args =>
                  match take value with
                  | .error message => .error message
                  | .ok self => parse args self

def finish (self : Builder) (metric : Metric) : Except String Config :=
  if metric = .allocation ∧ self.sampleTimeMs.isSome then
    .error "--sample-time-ms is available only for timing receipts"
  else if self.smoke ∧ (self.samples.isSome ∨ self.iterations.isSome ∨
      self.warmup.isSome ∨ self.sampleTimeMs.isSome) then
    .error "--smoke cannot be combined with sampling or warmup tuning"
  else
    let defaultSamples :=
      match metric with
      | .timing => 96
      | .allocation => 12
    let config : Config :=
      { samples := if self.smoke then 2 else self.samples.getD defaultSamples
        iterations := if self.smoke then none else self.iterations
        warmupIterations := if self.smoke then 1 else self.warmup.getD 10
        warmupExplicit := self.warmup.isSome
        targetSampleTimeMs :=
          match self.sampleTimeMs with
          | none => defaultSampleTimeMs
          | some millis => UInt64.ofNat millis
        implementation := self.implementation
        scenario := self.scenario
        output := self.output
        help := self.help
        smoke := self.smoke }
    match self.implementation, self.scenario with
    | some implementation, some scenario =>
        if scenario.supports implementation then .ok config
        else
          .error
            ("scenario `" ++ scenario.name ++ "` is not exposed by `" ++
              implementation.name ++ "`")
    | _, _ => .ok config

end Builder

namespace Config

def parse (args : List OsString) (metric : Metric) :
    Except String Config :=
  match Builder.parse args {} with
  | .error message => .error message
  | .ok builder => builder.finish metric

def iterationsFor (self : Config) (scenario : Scenario) : Nat :=
  if self.smoke then 1
  else
    match self.iterations with
    | some iterations => iterations
    | none => scenario.defaultIterations

def iterationsSource (self : Config) (metric : Metric) : String :=
  if self.smoke then "smoke"
  else if self.iterations.isSome then "explicit"
  else if metric = .timing then "calibrated_shared"
  else "scenario_default"

def calibrates (self : Config) (metric : Metric) : Bool :=
  metric = .timing && !self.smoke && self.iterations.isNone

def warmupFor (self : Config) (metric : Metric) (sharedIterations : Nat) :
    Nat :=
  if self.smoke || self.warmupExplicit || !self.calibrates metric then
    self.warmupIterations
  else
    usizeSaturatingMul sharedIterations 3

def warmupSource (self : Config) (metric : Metric) : String :=
  if self.smoke then "smoke"
  else if self.warmupExplicit then "explicit"
  else if self.calibrates metric then "three_shared_iteration_batches"
  else "scenario_default"

end Config

/-! ## Accepted configurations -/

theorem number_bounds
    {value : OsString} {flag : String} {maximum parsed : Nat}
    (accepted : number value flag maximum = .ok parsed) :
    1 ≤ parsed ∧ parsed ≤ maximum := by
  unfold number at accepted
  split at accepted
  · cases accepted
  · split at accepted
    · cases accepted
    · split at accepted
      · cases accepted
      · rename_i inside
        cases accepted
        omega

/-- The numbers that the arguments so far have set are within their
bounds. -/
structure Builder.Bounded (builder : Builder) : Prop where
  samples : ∀ count ∈ builder.samples, 1 ≤ count ∧ count ≤ maxSamples
  iterations : ∀ count ∈ builder.iterations,
    1 ≤ count ∧ count ≤ maxIterations
  warmup : ∀ count ∈ builder.warmup, 1 ≤ count ∧ count ≤ maxWarmup
  sampleTimeMs : ∀ millis ∈ builder.sampleTimeMs,
    1 ≤ millis ∧ millis ≤ maxSampleTimeMs

theorem setValue_ok
    {α : Type} {slot after : Option α} {value : α} {flag : String}
    (accepted : setValue slot value flag = .ok after) :
    slot = none ∧ after = some value := by
  unfold setValue at accepted
  split at accepted
  · cases accepted
  · rename_i empty
    cases accepted
    exact ⟨Option.not_isSome_iff_eq_none.mp empty, rfl⟩

namespace Builder

theorem setNumber_ok
    {slot : Option Nat} {update : Option Nat → Builder} {flag : String}
    {maximum : Nat} {value : OsString} {after : Builder}
    (accepted : setNumber slot update flag maximum value = .ok after) :
    ∃ parsed, 1 ≤ parsed ∧ parsed ≤ maximum ∧
      after = update (some parsed) := by
  obtain ⟨parsed, read, run⟩ := bind_ok accepted
  obtain ⟨set, stored, run⟩ := bind_ok run
  obtain ⟨_, rfl⟩ := setValue_ok stored
  cases run
  have bounds := number_bounds read
  exact ⟨parsed, bounds.1, bounds.2, rfl⟩

theorem Bounded.takesValue
    {self after : Builder} {argument : String} {value : OsString}
    {take : OsString → Except String Builder} (bounded : self.Bounded)
    (taken : self.takesValue argument = some take)
    (accepted : take value = .ok after) : after.Bounded := by
  unfold Builder.takesValue at taken
  split at taken
  · cases taken
    obtain ⟨parsed, least, most, rfl⟩ := setNumber_ok accepted
    exact { bounded with
      samples := fun count member => by cases member; exact ⟨least, most⟩ }
  split at taken
  · cases taken
    obtain ⟨parsed, least, most, rfl⟩ := setNumber_ok accepted
    exact { bounded with
      iterations := fun count member => by
        cases member; exact ⟨least, most⟩ }
  split at taken
  · cases taken
    obtain ⟨parsed, least, most, rfl⟩ := setNumber_ok accepted
    exact { bounded with
      warmup := fun count member => by cases member; exact ⟨least, most⟩ }
  split at taken
  · cases taken
    obtain ⟨parsed, least, most, rfl⟩ := setNumber_ok accepted
    exact { bounded with
      sampleTimeMs := fun count member => by
        cases member; exact ⟨least, most⟩ }
  split at taken
  · cases taken
    obtain ⟨text, _, run⟩ := bind_ok accepted
    obtain ⟨parsed, _, run⟩ := bind_ok run
    obtain ⟨set, _, run⟩ := bind_ok run
    cases run
    exact { bounded with }
  split at taken
  · cases taken
    obtain ⟨text, _, run⟩ := bind_ok accepted
    obtain ⟨parsed, _, run⟩ := bind_ok run
    obtain ⟨set, _, run⟩ := bind_ok run
    cases run
    exact { bounded with }
  split at taken
  · cases taken
    obtain ⟨set, _, run⟩ := bind_ok accepted
    cases run
    exact { bounded with }
  · cases taken

theorem Bounded.switch
    {self after : Builder} {argument : String} (bounded : self.Bounded)
    (switched : self.switch argument = some (.ok after)) :
    after.Bounded := by
  unfold Builder.switch at switched
  split at switched
  · obtain ⟨set, _, run⟩ := bind_ok (Option.some.inj switched)
    cases run
    exact { bounded with }
  split at switched
  · obtain ⟨set, _, run⟩ := bind_ok (Option.some.inj switched)
    cases run
    exact { bounded with }
  · cases switched

/-- The loop over the arguments keeps the bounds. -/
theorem Bounded.parse
    {args : List OsString} {self after : Builder} (bounded : self.Bounded)
    (accepted : Builder.parse args self = .ok after) : after.Bounded := by
  fun_induction Builder.parse args self with
  | case1 self =>
      cases accepted
      exact bounded
  | case2 => cases accepted
  | case3 => cases accepted
  | case4 argument args self next switched inductionHypothesis =>
      exact inductionHypothesis (bounded.switch switched) accepted
  | case5 => cases accepted
  | case6 => cases accepted
  | case7 => cases accepted
  | case8 argument self _ take taken value args next ran
      inductionHypothesis =>
      exact inductionHypothesis (bounded.takesValue taken ran) accepted

theorem bounded_empty : Bounded {} :=
  { samples := fun count member => by cases member
    iterations := fun count member => by cases member
    warmup := fun count member => by cases member
    sampleTimeMs := fun millis member => by cases member }

end Builder

/-- What holds of every configuration that is accepted. -/
structure Config.Bounded (config : Config) : Prop where
  samples : 1 ≤ config.samples ∧ config.samples ≤ maxSamples
  iterations : ∀ count ∈ config.iterations,
    1 ≤ count ∧ count ≤ maxIterations
  warmup : 1 ≤ config.warmupIterations ∧
    config.warmupIterations ≤ maxWarmup
  sampleTime : 1 ≤ config.targetSampleTimeMs.toNat ∧
    config.targetSampleTimeMs.toNat ≤ maxSampleTimeMs
  supported : ∀ implementation ∈ config.implementation,
    ∀ scenario ∈ config.scenario, scenario.supports implementation = true

theorem getD_bounds
    {value : Option Nat} {default least most : Nat}
    (inside : least ≤ default ∧ default ≤ most)
    (bounds : ∀ count ∈ value, least ≤ count ∧ count ≤ most) :
    least ≤ value.getD default ∧ value.getD default ≤ most := by
  cases value with
  | none => exact inside
  | some count => exact bounds count rfl

theorem Builder.Bounded.finish
    {self : Builder} {metric : Metric} {config : Config}
    (bounded : self.Bounded) (accepted : self.finish metric = .ok config) :
    config.Bounded := by
  have samples : ∀ default, 1 ≤ default ∧ default ≤ maxSamples →
      1 ≤ (if self.smoke then 2 else self.samples.getD default) ∧
        (if self.smoke then 2 else self.samples.getD default) ≤
          maxSamples := by
    intro default inside
    split
    · decide
    · exact getD_bounds inside bounded.samples
  have iterations : ∀ count ∈ if self.smoke then none else self.iterations,
      1 ≤ count ∧ count ≤ maxIterations := by
    intro count member
    split at member
    · cases member
    · exact bounded.iterations count member
  have warmup :
      1 ≤ (if self.smoke then 1 else self.warmup.getD 10) ∧
        (if self.smoke then 1 else self.warmup.getD 10) ≤ maxWarmup := by
    split
    · decide
    · exact getD_bounds (by decide) bounded.warmup
  have sampleTime : ∀ millis ∈ self.sampleTimeMs,
      1 ≤ (UInt64.ofNat millis).toNat ∧
        (UInt64.ofNat millis).toNat ≤ maxSampleTimeMs := by
    intro millis member
    have bounds := bounded.sampleTimeMs millis member
    have most : maxSampleTimeMs = 10000 := rfl
    rw [UInt64.toNat_ofNat', Nat.mod_eq_of_lt (by omega)]
    exact bounds
  have time : 1 ≤ (match self.sampleTimeMs with
      | none => defaultSampleTimeMs
      | some millis => UInt64.ofNat millis).toNat ∧
      (match self.sampleTimeMs with
      | none => defaultSampleTimeMs
      | some millis => UInt64.ofNat millis).toNat ≤ maxSampleTimeMs := by
    split
    · decide
    · rename_i millis found
      exact sampleTime millis found
  unfold Builder.finish at accepted
  split at accepted
  · cases accepted
  · split at accepted
    · cases accepted
    · simp only at accepted
      split at accepted
      · rename_i implementation scenario chosen selected
        split at accepted
        · rename_i supported
          cases accepted
          exact
            { samples := samples _ (by cases metric <;> decide)
              iterations
              warmup
              sampleTime := time
              supported := fun other found another picked => by
                rw [chosen] at found
                rw [selected] at picked
                cases found
                cases picked
                exact supported }
        · cases accepted
      · rename_i apart
        cases accepted
        exact
          { samples := samples _ (by cases metric <;> decide)
            iterations
            warmup
            sampleTime := time
            supported := fun implementation found scenario picked =>
              (apart implementation scenario found picked).elim }

/-- Every accepted configuration is within its bounds. -/
theorem Config.parse_bounded
    {args : List OsString} {metric : Metric} {config : Config}
    (accepted : Config.parse args metric = .ok config) :
    config.Bounded := by
  unfold Config.parse at accepted
  split at accepted
  · cases accepted
  · rename_i builder parsed
    exact (Builder.bounded_empty.parse parsed).finish accepted

end Zio.Benchmark
