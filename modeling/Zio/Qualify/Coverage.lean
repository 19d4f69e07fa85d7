import Zio.Qualify.Case

/-!
# Coverage of a qualification report

The report over every candidate and scenario, and the coverage that it demands
before it counts as conformant.  Mio's missing modes are required to be
declared, and a host without native level support is accepted for `polling`;
everything else has to run and to pass.
-/

namespace Zio.Qualify

open Benchmark (Implementation)

/-! ## Reports -/

inductive ExpectedScope where
  | all
  | implementation (implementation : Implementation)
deriving DecidableEq, Repr

def ExpectedScope.caseCount : ExpectedScope → Nat
  | all => Implementation.all.length * Scenario.all.length
  | implementation _ => Scenario.all.length

/-- Independent-candidate qualification receipt. -/
structure QualificationReport where
  results : List CaseResult
  expectedScope : ExpectedScope
deriving DecidableEq, Repr

def requiredCaseIsCovered (result : CaseResult) : Bool :=
  match result.implementation, result.scenario.profile, result.outcome with
  | .mio, .level, .notRun (.notExposed _)
  | .mio, .oneShot, .notRun (.notExposed _) =>
      result.configuredDelivery.isNone
  | .mio, .level, _ | .mio, .oneShot, _ => false
  | .polling, .level, .notRun (.hostUnavailable _) =>
      result.configuredDelivery.isNone
  | _, _, .passed | _, _, .failed _ => result.configuredDelivery.isSome
  | _, _, .notRun _ => false

def implementationIsCovered
    (results : List CaseResult) (implementation : Implementation) : Bool :=
  Scenario.all.all fun scenario =>
    match results.filter fun result =>
        result.implementation = implementation ∧
          result.scenario = scenario with
    | [] => false
    | first :: rest => requiredCaseIsCovered first && rest.isEmpty

namespace QualificationReport

def hasRequiredCoverage (self : QualificationReport) : Bool :=
  if self.results.length ≠ self.expectedScope.caseCount then false
  else
    match self.expectedScope with
    | .all => Implementation.all.all (implementationIsCovered self.results)
    | .implementation implementation =>
        implementationIsCovered self.results implementation

def isConformant (self : QualificationReport) : Bool :=
  self.hasRequiredCoverage &&
    !self.results.any fun result =>
      match result.outcome with
      | .failed _ => true
      | _ => false

end QualificationReport

/-! ## Candidates -/

/-- `MODE_REASON`. -/
def modeReason : String :=
  "Mio exposes its native default, not Level or OneShot selection"

/-- `LEVEL_REASON`. -/
def levelReason : String :=
  "the polling host backend reports no native Level support"

/-- The native sessions of a candidate. -/
structure Sessions (World : Type*) where
  register : RegistrationSpec → World → World × Except String Unit
  wait : Nat → World → World × Except String EventBatch
  rearm : World → World × Except String Unit
  delete : World → World × Except String Unit

section Candidates

variable {World : Type*}

/-- `ZioCandidate` and `ZioBorrowedCandidate`. -/
def zioCandidate (sessions : Sessions World) : Candidate World :=
  { support := fun _ world => (world, .ok .native)
    configuredDelivery := fun profile =>
      match profile with
      | .initialObservation | .level => .level
      | .oneShot => .oneShot
    register := sessions.register
    wait := sessions.wait
    rearm := sessions.rearm
    delete := sessions.delete }

def mioCandidate (sessions : Sessions World) : Candidate World :=
  { support := fun profile world =>
      (world, .ok
        (match profile with
        | .initialObservation => .native
        | .level | .oneShot => .notExposed modeReason))
    configuredDelivery := fun _ => .nativeDefault
    register := sessions.register
    wait := sessions.wait
    rearm := fun world => (world, .error modeReason)
    delete := sessions.delete }

/-- `PollingCandidate`.  `supportsLevel` creates a poller and asks it. -/
def pollingCandidate
    (supportsLevel : World → World × Except String Bool)
    (sessions : Sessions World) : Candidate World :=
  { support := fun profile world =>
      if profile = .level then
        match supportsLevel world with
        | (world, .error actual) => (world, .error actual)
        | (world, .ok true) => (world, .ok .native)
        | (world, .ok false) =>
            (world, .ok (.hostUnavailable levelReason))
      else (world, .ok .native)
    configuredDelivery := fun profile =>
      match profile with
      | .initialObservation | .oneShot => .oneShot
      | .level => .level
    register := sessions.register
    wait := sessions.wait
    rearm := sessions.rearm
    delete := sessions.delete }

variable (supportsLevel : World → World × Except String Bool)
  (sessions : Implementation → Sessions World) (host : Host World)
  (fuel : Nat)

def candidateOf (implementation : Implementation) : Candidate World :=
  match implementation with
  | .zio => zioCandidate (sessions .zio)
  | .zioBorrowed => zioCandidate (sessions .zioBorrowed)
  | .mio => mioCandidate (sessions .mio)
  | .polling => pollingCandidate supportsLevel (sessions .polling)

def qualifyScenario
    (implementation : Implementation) (scenario : Scenario)
    (world : World) : Option (World × CaseResult) :=
  run (candidateOf supportsLevel sessions implementation) host
    implementation scenario fuel world

/-- One case after the other, each in the world that the last one left. -/
def qualifyCases :
    List (Implementation × Scenario) → World →
      Option (World × List CaseResult)
  | [], world => some (world, [])
  | (implementation, scenario) :: rest, world =>
      match qualifyScenario supportsLevel sessions host fuel
          implementation scenario world with
      | none => none
      | some (world, result) =>
          match qualifyCases rest world with
          | none => none
          | some (world, results) => some (world, result :: results)

/-- The cases of every candidate, in stable order. -/
def allCases : List (Implementation × Scenario) :=
  Implementation.all.flatMap fun implementation =>
    Scenario.all.map fun scenario => (implementation, scenario)

def qualifyAll (world : World) : Option (World × QualificationReport) :=
  match qualifyCases supportsLevel sessions host fuel allCases world with
  | none => none
  | some (world, results) =>
      some (world, { results, expectedScope := .all })

def qualifyImplementation
    (implementation : Implementation) (world : World) :
    Option (World × QualificationReport) :=
  match qualifyCases supportsLevel sessions host fuel
      (Scenario.all.map fun scenario => (implementation, scenario))
      world with
  | none => none
  | some (world, results) =>
      some (world,
        { results, expectedScope := .implementation implementation })

end Candidates

/-! ## Which cases may be missing -/

/-- The case passed, or it is one that may be declared missing. -/
def Acceptable (result : CaseResult) : Prop :=
  result.outcome = .passed ∨
    ∃ support, result.outcome = .notRun support ∧
      ((result.implementation = .mio ∧
          result.scenario.profile ≠ .initialObservation) ∨
        (result.implementation = .polling ∧
          result.scenario.profile = .level))

section Acceptable

variable {World : Type*}
  {supportsLevel : World → World × Except String Bool}
  {sessions : Implementation → Sessions World} {host : Host World}
  {fuel : Nat}

/-- What a receipt says about its case. -/
structure Receipted
    (implementation : Implementation) (scenario : Scenario)
    (result : CaseResult) : Prop where
  sameImplementation : result.implementation = implementation
  sameScenario : result.scenario = scenario
  passed : result.outcome = .passed →
    result.configuredDelivery.isSome = true
  notRun : ∀ support, result.outcome = .notRun support →
    result.configuredDelivery = none ∧
      ((implementation = .mio ∧ scenario.profile ≠ .initialObservation ∧
          support = .notExposed modeReason) ∨
        (implementation = .polling ∧ scenario.profile = .level ∧
          support = .hostUnavailable levelReason))
  declared : implementation = .mio →
    scenario.profile ≠ .initialObservation →
    result.outcome = .notRun (.notExposed modeReason)

/-- The support that a candidate may declare. -/
theorem support_cases
    {implementation : Implementation} {profile : DeliveryProfile}
    {world after : World} {support : ProfileSupport}
    (asked : (candidateOf supportsLevel sessions implementation).support
      profile world = (after, .ok support)) :
    (support = .native ∧
        ¬ (implementation = .mio ∧ profile ≠ .initialObservation)) ∨
      (implementation = .mio ∧ profile ≠ .initialObservation ∧
        support = .notExposed modeReason) ∨
      (implementation = .polling ∧ profile = .level ∧
        support = .hostUnavailable levelReason) := by
  cases implementation with
  | zio =>
      cases asked
      exact Or.inl ⟨rfl, fun both => by cases both.1⟩
  | zioBorrowed =>
      cases asked
      exact Or.inl ⟨rfl, fun both => by cases both.1⟩
  | mio =>
      cases profile with
      | initialObservation =>
          cases asked
          exact Or.inl ⟨rfl, fun both => both.2 rfl⟩
      | level =>
          cases asked
          exact Or.inr (Or.inl ⟨rfl, by decide, rfl⟩)
      | oneShot =>
          cases asked
          exact Or.inr (Or.inl ⟨rfl, by decide, rfl⟩)
  | polling =>
      simp only [candidateOf, pollingCandidate] at asked
      by_cases level : profile = .level
      · rw [if_pos level] at asked
        rcases levels : supportsLevel world with
          ⟨answered, actual | supports⟩
        · simp only [levels] at asked
          cases asked
        · cases supports with
          | false =>
              simp only [levels] at asked
              cases asked
              exact Or.inr (Or.inr ⟨rfl, level, rfl⟩)
          | true =>
              simp only [levels] at asked
              cases asked
              exact Or.inl ⟨rfl, fun both => by cases both.1⟩
      · rw [if_neg level] at asked
        cases asked
        exact Or.inl ⟨rfl, fun both => by cases both.1⟩

/-- Discovery never fails for a candidate that declares its modes. -/
theorem support_mio
    {profile : DeliveryProfile} {world after : World}
    {actual : String} :
    (candidateOf supportsLevel sessions .mio).support profile world ≠
      (after, .error actual) := by
  intro failed
  cases failed

theorem qualifyScenario_receipted
    {implementation : Implementation} {scenario : Scenario}
    {world after : World} {result : CaseResult}
    (ran : qualifyScenario supportsLevel sessions host fuel implementation
      scenario world = some (after, result)) :
    Receipted implementation scenario result := by
  unfold qualifyScenario run at ran
  rcases asking :
      (candidateOf supportsLevel sessions implementation).support
        scenario.profile world with ⟨asked, actual | support⟩
  · simp only [asking] at ran
    cases ran
    exact
      { sameImplementation := rfl
        sameScenario := rfl
        passed := fun impossible => by cases impossible
        notRun := fun _ impossible => by cases impossible
        declared := fun mio _ => by
          rw [mio] at asking
          exact (support_mio asking).elim }
  · have declared := support_cases asking
    simp only [asking] at ran
    by_cases foreign : support ≠ .native
    · rw [if_pos foreign] at ran
      cases ran
      have missing := declared.resolve_left fun native =>
        foreign native.1
      exact
        { sameImplementation := rfl
          sameScenario := rfl
          passed := fun impossible => by cases impossible
          notRun := fun other same => by
            cases same
            exact ⟨rfl, missing⟩
          declared := fun mio modes => by
            rcases missing with ⟨_, _, same⟩ | ⟨polling, _⟩
            · rw [same]
            · rw [mio] at polling
              cases polling }
    · rw [if_neg foreign] at ran
      have runs :
          ¬ (implementation = .mio ∧
            scenario.profile ≠ .initialObservation) := by
        rcases declared with ⟨_, runs⟩ | ⟨_, _, same⟩ | ⟨_, _, same⟩
        · exact runs
        · exact (foreign (by rw [same]; simp)).elim
        · exact (foreign (by rw [same]; simp)).elim
      have executed : ∀ {final : CaseResult},
          final.implementation = implementation →
          final.scenario = scenario →
          (∀ support, final.outcome ≠ .notRun support) →
          (final.outcome = .passed →
            final.configuredDelivery.isSome = true) →
          Receipted implementation scenario final :=
        fun sameImplementation sameScenario ran passed =>
          { sameImplementation, sameScenario, passed
            notRun := fun support same => (ran support same).elim
            declared := fun mio modes => (runs ⟨mio, modes⟩).elim }
      split at ran
      · cases ran
        exact executed rfl rfl (fun _ impossible => by cases impossible)
          fun impossible => by cases impossible
      · split at ran
        · cases ran
          exact executed rfl rfl (fun _ impossible => by cases impossible)
            fun impossible => by cases impossible
        · split at ran
          · cases ran
          · rename_i finished observations failures session
            cases ran
            refine executed rfl rfl ?_ fun _ => rfl
            intro support
            cases failures <;> simp

/-! ## Required coverage -/

/-- An executed case has to have its delivery configured. -/
theorem requiredCaseIsCovered_executed
    {result : CaseResult}
    (runs : ¬ (result.implementation = .mio ∧
      result.scenario.profile ≠ .initialObservation))
    (executed : ∀ support, result.outcome ≠ .notRun support) :
    requiredCaseIsCovered result = result.configuredDelivery.isSome := by
  unfold requiredCaseIsCovered
  split
  · rename_i outcome
    exact (executed _ outcome).elim
  · rename_i outcome
    exact (executed _ outcome).elim
  · rename_i mio level _
    exact (runs ⟨mio, by rw [level]; decide⟩).elim
  · rename_i mio oneShot _
    exact (runs ⟨mio, by rw [oneShot]; decide⟩).elim
  · rename_i outcome
    exact (executed _ outcome).elim
  · rfl
  · rfl
  · exact (executed _ (by assumption)).elim

/-- A case that may be missing has to be declared, with nothing configured. -/
theorem requiredCaseIsCovered_missing
    {result : CaseResult} {support : ProfileSupport}
    (outcome : result.outcome = .notRun support)
    (unconfigured : result.configuredDelivery = none)
    (missing :
      (result.implementation = .mio ∧
          result.scenario.profile ≠ .initialObservation ∧
          support = .notExposed modeReason) ∨
        (result.implementation = .polling ∧
          result.scenario.profile = .level ∧
          support = .hostUnavailable levelReason)) :
    requiredCaseIsCovered result = true := by
  unfold requiredCaseIsCovered
  rcases missing with ⟨mio, modes, rfl⟩ | ⟨polling, level, rfl⟩
  · rw [mio, outcome, unconfigured]
    cases profile : result.scenario.profile with
    | initialObservation => exact (modes profile).elim
    | level => rfl
    | oneShot => rfl
  · rw [polling, level, outcome, unconfigured]
    rfl

/-- A receipt is covered and did not fail exactly if it is acceptable. -/
theorem Receipted.acceptable_iff
    {result : CaseResult}
    (receipted :
      Receipted result.implementation result.scenario result) :
    (requiredCaseIsCovered result = true ∧
        ∀ failures, result.outcome ≠ .failed failures) ↔
      Acceptable result := by
  cases outcome : result.outcome with
  | passed =>
      refine iff_of_true ⟨?_, fun failures impossible => by
        cases impossible⟩ (Or.inl outcome)
      rw [requiredCaseIsCovered_executed]
      · exact receipted.passed outcome
      · rintro ⟨mio, modes⟩
        have missing := receipted.declared mio modes
        rw [outcome] at missing
        cases missing
      · intro support impossible
        rw [outcome] at impossible
        cases impossible
  | notRun support =>
      obtain ⟨unconfigured, missing⟩ := receipted.notRun support outcome
      refine iff_of_true
        ⟨requiredCaseIsCovered_missing outcome unconfigured missing,
          fun failures impossible => by cases impossible⟩
        (Or.inr ⟨support, outcome, ?_⟩)
      rcases missing with ⟨mio, modes, _⟩ | ⟨polling, level, _⟩
      · exact Or.inl ⟨mio, modes⟩
      · exact Or.inr ⟨polling, level⟩
  | failed failures =>
      refine iff_of_false (fun both => both.2 failures rfl) ?_
      rintro (passed | ⟨support, notRun, _⟩)
      · rw [outcome] at passed
        cases passed
      · rw [outcome] at notRun
        cases notRun

/-- Of items with distinct keys, one has a given key. -/
theorem filter_key
    {Item Key : Type*} [DecidableEq Key] (key : Item → Key)
    {items : List Item} (distinct : (items.map key).Nodup) {item : Item}
    (member : item ∈ items) :
    (items.filter fun other => decide (key other = key item)) = [item] := by
  induction items with
  | nil => cases member
  | cons head tail inductionHypothesis =>
      rw [List.map_cons, List.nodup_cons] at distinct
      obtain ⟨absent, tailDistinct⟩ := distinct
      rcases List.mem_cons.mp member with rfl | tailMember
      · rw [List.filter_cons_of_pos (by simp)]
        congr 1
        apply List.filter_eq_nil_iff.mpr
        intro other otherMember same
        have sameKey : key other = key item := of_decide_eq_true same
        exact absent (sameKey ▸ List.mem_map_of_mem otherMember)
      · have different : key head ≠ key item := fun same =>
          absent (same ▸ List.mem_map_of_mem tailMember)
        rw [List.filter_cons_of_neg (by simpa using different)]
        exact inductionHypothesis tailDistinct tailMember

def CaseResult.key (self : CaseResult) : Implementation × Scenario :=
  (self.implementation, self.scenario)

theorem implementationIsCovered_iff
    {results : List CaseResult} {implementation : Implementation}
    (distinct : (results.map CaseResult.key).Nodup)
    (complete : ∀ scenario,
      (implementation, scenario) ∈ results.map CaseResult.key) :
    implementationIsCovered results implementation = true ↔
      ∀ result ∈ results, result.implementation = implementation →
        requiredCaseIsCovered result = true := by
  have single : ∀ result ∈ results,
      (results.filter fun other =>
        decide (other.implementation = result.implementation ∧
          other.scenario = result.scenario)) = [result] := by
    intro result member
    have once := filter_key CaseResult.key distinct member
    simpa only [CaseResult.key, Prod.mk.injEq] using once
  unfold implementationIsCovered
  rw [List.all_eq_true]
  constructor
  · intro covered result member same
    subst same
    have once := covered result.scenario (Scenario.mem_all _)
    rw [single result member] at once
    simpa using once
  · intro covered scenario _
    obtain ⟨result, member, same⟩ := List.mem_map.mp (complete scenario)
    cases same
    rw [single result member]
    simpa using covered result member rfl

/-- The cases of a scope. -/
def ExpectedScope.cases : ExpectedScope → List (Implementation × Scenario)
  | all => allCases
  | implementation candidate =>
      Scenario.all.map fun scenario => (candidate, scenario)

theorem ExpectedScope.length_cases (scope : ExpectedScope) :
    scope.cases.length = scope.caseCount := by
  cases scope with
  | all => rfl
  | implementation implementation => exact List.length_map _

theorem mem_allCases (implementation : Implementation)
    (scenario : Scenario) : (implementation, scenario) ∈ allCases := by
  apply List.mem_flatMap.mpr
  refine ⟨implementation, ?_, List.mem_map_of_mem (Scenario.mem_all _)⟩
  cases implementation <;> decide

theorem ExpectedScope.cases_nodup (scope : ExpectedScope) :
    scope.cases.Nodup := by
  cases scope with
  | all =>
      have implementations : Implementation.all.Nodup := by decide
      exact implementations.product Scenario.all_nodup
  | implementation implementation =>
      exact Scenario.all_nodup.map fun _ _ same => (Prod.mk.inj same).2

namespace QualificationReport

variable {self : QualificationReport}
  (keys : self.results.map CaseResult.key = self.expectedScope.cases)

include keys

/-- A report with one receipt for each case of its scope covers the scope if
it covers each receipt. -/
theorem hasRequiredCoverage_iff :
    self.hasRequiredCoverage = true ↔
      ∀ result ∈ self.results, requiredCaseIsCovered result = true := by
  have distinct : (self.results.map CaseResult.key).Nodup := by
    rw [keys]
    exact self.expectedScope.cases_nodup
  have counted : self.results.length = self.expectedScope.caseCount := by
    rw [← ExpectedScope.length_cases, ← keys, List.length_map]
  unfold hasRequiredCoverage
  rw [if_neg (not_not.mpr counted)]
  cases scope : self.expectedScope with
  | all =>
      rw [scope] at keys
      simp only [List.all_eq_true]
      constructor
      · intro covered result member
        have own := covered result.implementation (by
          cases result.implementation <;> decide)
        rw [implementationIsCovered_iff distinct fun scenario => by
          rw [keys]; exact mem_allCases _ scenario] at own
        exact own result member rfl
      · intro covered implementation _
        rw [implementationIsCovered_iff distinct fun scenario => by
          rw [keys]; exact mem_allCases _ scenario]
        exact fun result member _ => covered result member
  | implementation implementation =>
      rw [scope] at keys
      simp only
      rw [implementationIsCovered_iff distinct fun scenario => by
        rw [keys]; exact List.mem_map_of_mem (Scenario.mem_all scenario)]
      refine ⟨fun covered result member => covered result member ?_,
        fun covered result member _ => covered result member⟩
      have listed : result.key ∈ self.results.map CaseResult.key :=
        List.mem_map_of_mem member
      rw [keys] at listed
      obtain ⟨scenario, _, same⟩ := List.mem_map.mp listed
      exact (Prod.mk.inj same).1.symm

theorem isConformant_iff
    (receipted : ∀ result ∈ self.results,
      Receipted result.implementation result.scenario result) :
    self.isConformant = true ↔
      ∀ result ∈ self.results, Acceptable result := by
  unfold isConformant
  rw [Bool.and_eq_true, hasRequiredCoverage_iff keys]
  have failed_iff :
      (!self.results.any fun result =>
          match result.outcome with
          | .failed _ => true
          | _ => false) = true ↔
        ∀ result ∈ self.results, ∀ failures,
          result.outcome ≠ .failed failures := by
    rw [Bool.not_eq_true', List.any_eq_false]
    refine forall₂_congr fun result _ => ?_
    cases result.outcome <;> simp
  rw [failed_iff, ← forall₂_and]
  exact forall₂_congr fun result member =>
    (receipted result member).acceptable_iff

end QualificationReport

/-! ## Whole qualifications -/

/-- The receipt is what the record of an execution of its case says. -/
def Evidenced
    (supportsLevel : World → World × Except String Bool)
    (sessions : Implementation → Sessions World) (host : Host World)
    (fuel : Nat) (result : CaseResult) : Prop :=
  ∃ before after log,
    run (candidateOf supportsLevel sessions result.implementation).recorded
        host.recorded result.implementation result.scenario fuel
        (before, []) = some ((after, log), result) ∧
      Audited result.scenario log result

theorem qualifyScenario_evidenced
    {implementation : Implementation} {scenario : Scenario}
    {world after : World} {result : CaseResult}
    (ran : qualifyScenario supportsLevel sessions host fuel implementation
      scenario world = some (after, result))
    (receipted : Receipted implementation scenario result) :
    Evidenced supportsLevel sessions host fuel result := by
  have erased := run_erase (candidateOf supportsLevel sessions implementation)
    host implementation scenario fuel (world, [])
  unfold qualifyScenario at ran
  rw [ran] at erased
  obtain ⟨⟨⟨finished, log⟩, same⟩, recorded, pair⟩ :=
    Option.map_eq_some_iff.mp erased
  cases pair
  obtain ⟨rfl, rfl, _⟩ := receipted
  exact ⟨world, finished, log, recorded, run_audited recorded⟩

theorem qualifyCases_receipted
    {cases : List (Implementation × Scenario)} {world after : World}
    {results : List CaseResult}
    (ran : qualifyCases supportsLevel sessions host fuel cases world =
      some (after, results)) :
    results.map CaseResult.key = cases ∧
      ∀ result ∈ results,
        Receipted result.implementation result.scenario result ∧
          Evidenced supportsLevel sessions host fuel result := by
  induction cases generalizing world results with
  | nil =>
      cases ran
      exact ⟨rfl, List.forall_mem_nil _⟩
  | cons first rest inductionHypothesis =>
      unfold qualifyCases at ran
      split at ran
      · cases ran
      · rename_i middle result qualified
        split at ran
        · cases ran
        · rename_i finished others ranRest
          cases ran
          have receipted := qualifyScenario_receipted qualified
          obtain ⟨keys, rests⟩ := inductionHypothesis ranRest
          obtain ⟨sameImplementation, sameScenario, _⟩ := id receipted
          constructor
          · rw [List.map_cons, keys, CaseResult.key, sameImplementation,
              sameScenario]
          · intro one member
            rcases List.mem_cons.mp member with rfl | member
            · refine ⟨?_, qualifyScenario_evidenced qualified receipted⟩
              rw [sameImplementation, sameScenario]
              exact receipted
            · exact rests one member

theorem qualifyCases_returns
    {time : World → Nat}
    (clocked : ∀ implementation,
      Clocked (candidateOf supportsLevel sessions implementation) host
        time)
    (enough : waitLimit < fuel)
    (cases : List (Implementation × Scenario)) (world : World) :
    ∃ after results,
      qualifyCases supportsLevel sessions host fuel cases world =
        some (after, results) := by
  induction cases generalizing world with
  | nil => exact ⟨world, [], rfl⟩
  | cons first rest inductionHypothesis =>
      obtain ⟨middle, result, qualified⟩ := run_returns
        (clocked first.1) first.1 first.2 enough world
      obtain ⟨after, results, ran⟩ := inductionHypothesis middle
      refine ⟨after, result :: results, ?_⟩
      simp only [qualifyCases, qualifyScenario, qualified, ran]

/-- A qualification of one candidate returns one receipt for each scenario, in
order and as the executions were recorded, and it is conformant exactly if each
is acceptable. -/
theorem qualifyImplementation_conformant
    {time : World → Nat}
    (clocked : ∀ implementation,
      Clocked (candidateOf supportsLevel sessions implementation) host
        time)
    (enough : waitLimit < fuel) (implementation : Implementation)
    (world : World) :
    ∃ after report,
      qualifyImplementation supportsLevel sessions host fuel implementation
          world = some (after, report) ∧
        report.results.map CaseResult.key =
          Scenario.all.map (fun scenario => (implementation, scenario)) ∧
        (∀ result ∈ report.results,
          Evidenced supportsLevel sessions host fuel result) ∧
        (report.isConformant = true ↔
          ∀ result ∈ report.results, Acceptable result) := by
  obtain ⟨after, results, ran⟩ := qualifyCases_returns clocked enough
    (Scenario.all.map fun scenario => (implementation, scenario)) world
  obtain ⟨keys, receipted⟩ := qualifyCases_receipted ran
  refine ⟨after,
    { results, expectedScope := .implementation implementation }, ?_, keys,
    fun result member => (receipted result member).2,
    QualificationReport.isConformant_iff keys fun result member =>
      (receipted result member).1⟩
  simp only [qualifyImplementation, ran]

/-- A qualification returns one receipt for each candidate and scenario, in
order and as the executions were recorded, and it is conformant exactly if each
is acceptable. -/
theorem qualifyAll_conformant
    {time : World → Nat}
    (clocked : ∀ implementation,
      Clocked (candidateOf supportsLevel sessions implementation) host
        time)
    (enough : waitLimit < fuel) (world : World) :
    ∃ after report,
      qualifyAll supportsLevel sessions host fuel world =
          some (after, report) ∧
        report.results.map CaseResult.key = allCases ∧
        (∀ result ∈ report.results,
          Evidenced supportsLevel sessions host fuel result) ∧
        (report.isConformant = true ↔
          ∀ result ∈ report.results, Acceptable result) := by
  obtain ⟨after, results, ran⟩ :=
    qualifyCases_returns clocked enough allCases world
  obtain ⟨keys, receipted⟩ := qualifyCases_receipted ran
  refine ⟨after, { results, expectedScope := .all }, ?_, keys,
    fun result member => (receipted result member).2,
    QualificationReport.isConformant_iff keys fun result member =>
      (receipted result member).1⟩
  simp only [qualifyAll, ran]

end Acceptable

/-! ## A native host in miniature -/

/-- A clock, whether the fixture is ready and the registration armed, and what
was registered last. -/
structure Bench where
  time : Nat
  ready : Bool
  armed : Bool
  spec : RegistrationSpec

def Bench.initial : Bench :=
  { time := 0, ready := false, armed := false
    spec := registrationSpec .unixReadableInitial }

/-- A session that disarms itself with a one-shot delivery. -/
def benchSessions : Sessions Bench :=
  { register := fun spec world =>
      ({ world with ready := false, armed := true, spec }, .ok ())
    wait := fun timeout world =>
      let later := { world with time := world.time + timeout + 1 }
      if world.ready && world.armed then
        ({ later with armed := world.spec.profile ≠ .oneShot },
          .ok ⟨1, world.spec.interest.flag⟩)
      else (later, .ok ⟨0, .empty⟩)
    rearm := fun world => ({ world with armed := true }, .ok ())
    delete := fun world => ({ world with armed := false }, .ok ()) }

def benchHost : Host Bench :=
  { now := fun world => (world, world.time)
    fixture := fun _ world => (world, .ok ())
    activate := fun world => ({ world with ready := true }, .ok ())
    verifyOperation := fun world => (world, .ok ()) }

theorem bench_conformant :
    ∃ after report,
      qualifyAll (fun world => (world, .ok false))
          (fun _ => benchSessions) benchHost (waitLimit + 1)
          Bench.initial = some (after, report) ∧
        report.results.map CaseResult.key = allCases ∧
        (∀ result ∈ report.results,
          Evidenced (fun world => (world, .ok false))
            (fun _ => benchSessions) benchHost (waitLimit + 1) result) ∧
        (report.isConformant = true ↔
          ∀ result ∈ report.results, Acceptable result) := by
  have clocked : ∀ implementation,
      Clocked
        (candidateOf (fun world => (world, .ok false))
          (fun _ => benchSessions) implementation)
        benchHost Bench.time := by
    intro implementation
    refine
      { now := fun _ => rfl
        forward := fun _ => Nat.le_refl _
        wait := fun timeout world => ?_ }
    have waits : world.time < (benchSessions.wait timeout world).1.time := by
      have advanced : world.time < world.time + timeout + 1 :=
        Nat.lt_succ_of_le (Nat.le_add_right world.time timeout)
      simp only [benchSessions]
      split <;> exact advanced
    cases implementation <;> exact waits
  exact qualifyAll_conformant clocked (Nat.lt_succ_self _) Bench.initial

example :
    (qualifyAll (fun world => (world, .ok false)) (fun _ => benchSessions)
        benchHost (waitLimit + 1) Bench.initial).map
        (fun ran => ran.2.isConformant) =
      some true := by
  decide +kernel

end Zio.Qualify
