import Zio.Benchmark.Accounting

/-!
# Preparation of candidates

The preflight, the calibration and the warmup of a scenario.  Every candidate
that is asked for is accounted for throughout, and the candidates that are left
take the same iterations into the rounds.
-/

namespace Zio.Benchmark

variable {World : Type}

/-- Captures carry the metric that they were asked for. -/
def Driver.Honest (driver : Driver World) : Prop :=
  ∀ implementation scenario iterations metric world captured,
    (driver.run implementation scenario iterations (some metric) world).1 =
        .ok captured →
      captured.metric.Carries metric

def CandidateSamples.standing (self : CandidateSamples) :
    Implementation × Bool :=
  (self.implementation, self.failed)

section Preparation

variable (metric : Metric) (config : Config) (metadata : Metadata)
  (scenario : Scenario) (fdProbe : FdProbe)

/-- The candidates of a run and the failures counted since there were
some. -/
structure Accounts
    (asked : List Implementation) (active : List CandidateSamples)
    (before failures : Nat) (progress : Progress World) : Prop where
  distinct : asked.Nodup
  few : asked.length ≤ 4
  retained : Retained metric config metadata scenario fdProbe asked
    (active.map CandidateSamples.standing) progress
  counted : before + failures = progress.failures

/-- What becomes of a candidate in one attempt. -/
structure Visit
    (stage : Stage) (candidate after : CandidateSamples)
    (failures counted : Nat) (start finish : Progress World) : Prop where
  implementation : after.implementation = candidate.implementation
  attempt : Attempt metric config metadata scenario fdProbe
    candidate.implementation stage after.failed start finish
  counted : counted =
    if after.failed then usizeSaturatingAdd failures 1 else failures

variable {metric config metadata scenario fdProbe}

theorem usizeSaturatingAdd_small {left right : Nat}
    (small : left + right ≤ 4) :
    usizeSaturatingAdd left right = left + right :=
  min_eq_left (small.trans (by decide))

/-! ## One candidate -/

theorem Accounts.visit
    {asked : List Implementation} {before rest : List CandidateSamples}
    {stage : Stage} {candidate after : CandidateSamples}
    {earlier failures counted : Nat} {start finish : Progress World}
    (accounts : Accounts metric config metadata scenario fdProbe asked
      (before ++ candidate :: rest) earlier failures start)
    (running : candidate.failed = false)
    (visit : Visit metric config metadata scenario fdProbe stage candidate
      after failures counted start finish) :
    Accounts metric config metadata scenario fdProbe asked
      (before ++ after :: rest) earlier counted finish := by
  have kept := accounts.retained
  rw [List.map_append, List.map_cons, CandidateSamples.standing,
    running] at kept
  have retained := kept.attempt accounts.distinct visit.attempt
  have total := Progress.failures_attempt visit.attempt
  have most := retained.failures_le.trans accounts.few
  have sum := accounts.counted
  refine
    { distinct := accounts.distinct
      few := accounts.few
      retained := ?_
      counted := ?_ }
  · rw [List.map_append, List.map_cons, CandidateSamples.standing,
      visit.implementation]
    exact retained
  · rw [visit.counted, total]
    cases failed : after.failed with
    | false =>
        rw [if_neg Bool.false_ne_true, if_neg Bool.false_ne_true]
        exact sum
    | true =>
        rw [failed, if_pos rfl] at total
        rw [if_pos rfl, if_pos rfl, usizeSaturatingAdd_small (by omega)]
        omega

theorem Progress.run_cases
    (self : Progress World) (driver : Driver World)
    (implementation : Implementation) (scenario : Scenario)
    (iterations : Nat) (asks : Option Metric) (stage : Stage) :
    (∃ captured,
      self.run driver implementation scenario iterations asks stage =
          (.ok captured, (self.run driver implementation scenario iterations
            asks stage).2) ∧
        (driver.run implementation scenario iterations asks self.world).1 =
          .ok captured ∧
        Ran implementation stage false self
          (self.run driver implementation scenario iterations asks
            stage).2) ∨
    ∃ error,
      self.run driver implementation scenario iterations asks stage =
          (.error error, (self.run driver implementation scenario iterations
            asks stage).2) ∧
        Ran implementation stage true self
          (self.run driver implementation scenario iterations asks
            stage).2 := by
  have ran := Ran.run self driver implementation scenario iterations asks
    stage
  cases answer : (driver.run implementation scenario iterations asks
      self.world).1 with
  | ok captured =>
      refine Or.inl ⟨captured, Prod.ext answer rfl, rfl, ?_⟩
      rw [show (self.run driver implementation scenario iterations asks
        stage).1 = .ok captured from answer] at ran
      exact ran
  | error error =>
      refine Or.inr ⟨error, Prod.ext answer rfl, ?_⟩
      rw [show (self.run driver implementation scenario iterations asks
        stage).1 = .error error from answer] at ran
      exact ran

/-- The calls of a calibration, before and after the first that fails. -/
theorem calibration_runs
    {driver : Driver World} (honest : driver.Honest) (scenario : Scenario)
    (implementation : Implementation) (start : Progress World) :
    Runs
      (fun iterations (self : Progress World) =>
        self.run driver implementation scenario iterations (some .timing)
          .calibration)
      (Ran implementation .calibration false start)
      (Ran implementation .calibration true start) := by
  intro iterations middle quiet
  rcases middle.run_cases driver implementation scenario iterations
      (some .timing) .calibration with
    ⟨captured, shape, answered, ran⟩ | ⟨error, shape, ran⟩
  · exact Or.inl ⟨captured, congrArg Prod.fst shape,
      honest _ _ _ _ _ _ answered, quiet.trans ran⟩
  · exact Or.inr ⟨⟨error, congrArg Prod.fst shape⟩, quiet.trans ran⟩

theorem targetSampleNs_le (bounded : config.targetSampleTimeMs.toNat ≤
    maxSampleTimeMs) : targetSampleNs config ≤ 10000000000 := by
  have scaled := Nat.mul_le_mul_right 1000000 bounded
  exact (min_le_left _ _).trans scaled

variable (metric) in
theorem calibrateCandidate_spec
    {driver : Driver World} (honest : driver.Honest)
    (bounded : config.targetSampleTimeMs.toNat ≤ maxSampleTimeMs)
    {candidate : CandidateSamples} (running : candidate.failed = false)
    (failures : Nat) (start : Progress World) :
    ∃ after counted finish,
      calibrateCandidate driver config metadata scenario fdProbe candidate
          failures start = .ok (after, counted, finish) ∧
        after.samples = candidate.samples ∧
        Visit metric config metadata scenario fdProbe .calibration
          candidate after failures counted start finish := by
  have small := targetSampleNs_le bounded
  have most : max scenario.maxCalibratedIterations 1 ≤ 1000000 :=
    max_le (maxCalibratedIterations_le scenario) (by decide)
  have fits : max scenario.maxCalibratedIterations 1 *
      targetSampleNs config < 2 ^ 128 :=
    (Nat.mul_le_mul most small).trans_lt (by decide)
  have calibrated := calibrate_spec
    (calibration_runs honest scenario candidate.implementation start)
    scenario.defaultIterations
    ((maxCalibratedIterations_le scenario).trans (by decide)) fits
    (Ran.refl candidate.implementation .calibration start)
  unfold calibrateCandidate
  rcases found : calibrate
      (fun iterations (self : Progress World) =>
        self.run driver candidate.implementation scenario iterations
          (some .timing) .calibration)
      scenario.defaultIterations (targetSampleNs config)
      scenario.maxCalibratedIterations
      ((maxCalibratedIterations_le scenario).trans (by decide)) start with
    ⟨result, middle⟩
  rw [found] at calibrated
  rcases calibrated with
    ⟨calibration, succeeded, ran⟩ | ⟨⟨message, stopped⟩, ran⟩
  · cases succeeded
    refine ⟨_, _, _, rfl, rfl, ?_⟩
    exact
      { implementation := rfl
        attempt := by
          simp only [running]
          exact ran.attempt
        counted := by simp only [running, Bool.false_eq_true, if_false] }
  · cases stopped
    have captured : OfMetric .timing [] := fun sample member => by cases member
    obtain ⟨finish, emitted, attempt, _⟩ :=
      ran.reported metric config metadata scenario fdProbe captured
        "calibration" message
    simp only [emitted]
    refine ⟨_, _, _, rfl, rfl, ?_⟩
    exact
      { implementation := rfl
        attempt
        counted := rfl }

theorem warmCandidate_spec
    (driver : Driver World) {candidate : CandidateSamples}
    (running : candidate.failed = false) (failures : Nat)
    (start : Progress World) :
    ∃ after counted finish,
      warmCandidate driver metric config metadata scenario fdProbe
          candidate failures start = .ok (after, counted, finish) ∧
        after.samples = candidate.samples ∧
        after.iterations = candidate.iterations ∧
        Visit metric config metadata scenario fdProbe .warmup candidate
          after failures counted start finish := by
  unfold warmCandidate
  rw [running, if_neg Bool.false_ne_true]
  simp only
  rcases start.run_cases driver candidate.implementation scenario
      (config.warmupFor metric candidate.iterations) none .warmup with
    ⟨captured, shape, _, ran⟩ | ⟨error, shape, ran⟩
  · rw [shape]
    refine ⟨_, _, _, rfl, rfl, rfl, ?_⟩
    exact
      { implementation := rfl
        attempt := ran.attempt
        counted := rfl }
  · rw [shape]
    have captured : OfMetric metric [] := fun sample member => by cases member
    obtain ⟨finish, emitted, attempt, _⟩ :=
      ran.reported metric config metadata scenario fdProbe captured
        "warmup" error
    simp only [emitted]
    refine ⟨_, _, _, rfl, rfl, rfl, ?_⟩
    exact
      { implementation := rfl
        attempt
        counted := rfl }

/-! ## Preflight -/

variable (metric config metadata scenario fdProbe) in
/-- An answer, and the receipt of a candidate that does not take part. -/
structure Answered
    (answer : Answer) (start finish : Progress World) : Prop where
  answers : finish.answers = start.answers ++ [answer]
  calls : finish.calls = start.calls
  receipts : ∃ added texts,
    finish.receipts = start.receipts ++ added ∧
      finish.output = start.output ++ texts ∧
      List.Forall₂ (Encodes metric config metadata scenario fdProbe) added
        texts ∧
      added.filterMap Receipt.refusal =
        [answer].filterMap Answer.refusal ∧
      added.filterMap Receipt.failure =
        [answer].filterMap Answer.errored ∧
      added.filterMap Receipt.passing = []

theorem Retained.answer
    {asked : List Implementation} {standing : List (Implementation × Bool)}
    {start finish : Progress World} {answer : Answer}
    (retained : Retained metric config metadata scenario fdProbe asked
      standing start)
    (quiet : start.calls = [])
    (answered : Answered metric config metadata scenario fdProbe answer
      start finish) :
    Retained metric config metadata scenario fdProbe (asked ++ [answer.1])
      (standing ++
        ([answer].filterMap Answer.available).map fun item => (item, false))
      finish := by
  obtain ⟨added, texts, receipts, output, encoded, refusal, failure,
    passing⟩ := answered.receipts
  have still := answered.calls.trans quiet
  refine
    { answered := by
        rw [answered.answers, List.map_append, retained.answered]
        rfl
      entered := by
        rw [answered.answers, List.filterMap_append, ← retained.entered,
          List.map_append, List.map_map]
        congr 1
        exact List.map_id _
      refused := by
        rw [answered.answers, receipts, List.filterMap_append,
          List.filterMap_append, retained.refused, refusal]
      failed := ?_
      unpassed := by
        rw [receipts, List.filterMap_append, passing, retained.unpassed]
        rfl
      written := by
        rw [receipts, output]
        exact List.rel_append retained.written encoded
      called := fun entry member => ?_
      callers := by
        rw [still]
        exact fun call member => by cases member
      silent := by
        rw [still]
        exact List.Pairwise.nil }
  · have standing : ((([answer].filterMap Answer.available).map fun item =>
        (item, false)).filter Prod.snd) = [] := by
      rw [List.filter_eq_nil_iff]
      intro entry member
      obtain ⟨item, _, rfl⟩ := List.mem_map.mp member
      exact Bool.false_ne_true
    rw [receipts, answered.answers, List.filterMap_append,
      List.filterMap_append, failure, List.filter_append, standing,
      List.append_nil]
    refine (retained.failed.append_right _).trans ?_
    rw [List.append_assoc, List.append_assoc]
    exact List.Perm.append_left _ List.perm_append_comm
  · have unfailed : entry.2 = false := by
      rcases List.mem_append.mp member with old | new
      · have facts := retained.called entry old
        rw [quiet] at facts
        simpa using facts
      · obtain ⟨item, _, rfl⟩ := List.mem_map.mp new
        rfl
    rw [still, unfailed]
    simp

variable (metric config metadata scenario fdProbe) in
/-- The candidates that a preflight has let in. -/
structure Entered
    (asked : List Implementation) (active : List CandidateSamples)
    (failures : Nat) (progress : Progress World) : Prop where
  accounts : Accounts metric config metadata scenario fdProbe asked active
    0 failures progress
  quiet : progress.calls = []
  fresh : ∀ candidate ∈ active,
    candidate.failed = false ∧ candidate.samples = []

/-- What an answer adds to the candidates and to the failures. -/
theorem Entered.answer
    {asked : List Implementation}
    {active added after : List CandidateSamples} {failures counted : Nat}
    {start finish : Progress World} {answer : Answer}
    (entered : Entered metric config metadata scenario fdProbe asked active
      failures start)
    (grown : after = active ++ added)
    (distinct : (asked ++ [answer.1]).Nodup)
    (few : (asked ++ [answer.1]).length ≤ 4)
    (answered : Answered metric config metadata scenario fdProbe answer
      start finish)
    (standing : added.map CandidateSamples.standing =
      ([answer].filterMap Answer.available).map fun item => (item, false))
    (fresh : ∀ candidate ∈ added,
      candidate.failed = false ∧ candidate.samples = [])
    (sum : counted =
      if ([answer].filterMap Answer.errored).length = 1 then
        usizeSaturatingAdd failures 1
      else failures) :
    Entered metric config metadata scenario fdProbe (asked ++ [answer.1])
      after counted finish := by
  rw [grown]
  have retained := entered.accounts.retained.answer entered.quiet answered
  rw [← standing, ← List.map_append] at retained
  have most := retained.failures_le.trans few
  obtain ⟨receipts, _, grown, _, _, _, failure, _⟩ := answered.receipts
  have total : finish.failures =
      start.failures + ([answer].filterMap Answer.errored).length := by
    unfold Progress.failures
    rw [grown, List.filterMap_append, List.length_append, failure]
  have before := entered.accounts.counted
  refine
    { accounts :=
        { distinct
          few
          retained
          counted := ?_ }
      quiet := answered.calls.trans entered.quiet
      fresh := fun candidate member => ?_ }
  · have one : ([answer].filterMap Answer.errored).length ≤ 1 :=
      List.length_filterMap_le _ _
    rw [sum]
    split
    · rw [usizeSaturatingAdd_small (by omega)]
      omega
    · omega
  · rcases List.mem_append.mp member with old | new
    · exact entered.fresh candidate old
    · exact fresh candidate new

theorem preflightOne_spec
    (driver : Driver World) {asked : List Implementation}
    {implementation : Implementation} {active : List CandidateSamples}
    {failures : Nat} {start : Progress World}
    (entered : Entered metric config metadata scenario fdProbe asked active
      failures start)
    (distinct : (asked ++ [implementation]).Nodup)
    (few : (asked ++ [implementation]).length ≤ 4) :
    ∃ after counted finish,
      preflightOne driver metric config metadata scenario fdProbe
          implementation active failures start =
        .ok (after, counted, finish) ∧
      Entered metric config metadata scenario fdProbe
        (asked ++ [implementation]) after counted finish := by
  unfold preflightOne Progress.support
  simp only
  have unentered : ∀ candidate ∈ ([] : List CandidateSamples),
      candidate.failed = false ∧ candidate.samples = [] :=
    fun candidate member => by cases member
  rcases driver.support implementation scenario start.world with
    ⟨error | available | reason, world⟩
  · have captured : OfMetric metric [] := fun sample member => by
      cases member
    obtain ⟨finish, text, emitted, encoded, answers, calls, receipts,
      output⟩ := emitFailure_ok metric config metadata scenario fdProbe
        captured implementation "preflight" error
        { start with
          world
          answers := start.answers ++ [(implementation, .error error)] }
    simp only [emitted]
    refine ⟨_, _, _, rfl, ?_⟩
    have answered : Answered metric config metadata scenario fdProbe
        (implementation, .error error) start finish :=
      { answers
        calls
        receipts := ⟨_, _, receipts, output, .cons encoded .nil, rfl, rfl,
          rfl⟩ }
    exact entered.answer (List.append_nil active).symm distinct few
      answered rfl unentered rfl
  · refine ⟨_, _, _, rfl, ?_⟩
    have answered : Answered metric config metadata scenario fdProbe
        (implementation, .ok .available) start
        { start with
          world
          answers := start.answers ++ [(implementation, .ok .available)] } :=
      { answers := rfl
        calls := rfl
        receipts := ⟨[], [], (List.append_nil _).symm,
          (List.append_nil _).symm, .nil, rfl, rfl, rfl⟩ }
    refine entered.answer rfl distinct few answered rfl ?_ rfl
    intro candidate member
    rw [List.mem_singleton] at member
    rw [member]
    exact ⟨rfl, rfl⟩
  · have encoded : Encodes metric config metadata scenario fdProbe
        (.unsupported implementation reason) _ := rfl
    have wrote := writeReceipt_ok encoded
      { start with
        world
        answers := start.answers ++
          [(implementation, .ok (.unavailable reason))] }
    simp only [wrote]
    refine ⟨_, _, _, rfl, ?_⟩
    refine @Entered.answer World metric config metadata scenario fdProbe
      asked active [] active failures failures start _
      (implementation, .ok (.unavailable reason)) entered
      (List.append_nil active).symm distinct few ?_ rfl unentered rfl
    exact
      { answers := rfl
        calls := rfl
        receipts := ⟨[.unsupported implementation reason], [_], rfl, rfl,
          .cons encoded .nil, rfl, rfl, rfl⟩ }

theorem preflight_spec
    (driver : Driver World) {asked rest : List Implementation}
    {active : List CandidateSamples} {failures : Nat}
    {start : Progress World}
    (entered : Entered metric config metadata scenario fdProbe asked active
      failures start)
    (distinct : (asked ++ rest).Nodup) (few : (asked ++ rest).length ≤ 4) :
    ∃ after counted finish,
      preflight driver metric config metadata scenario fdProbe rest active
          failures start = .ok (after, counted, finish) ∧
        Entered metric config metadata scenario fdProbe (asked ++ rest)
          after counted finish := by
  induction rest generalizing asked active failures start with
  | nil =>
      refine ⟨active, failures, start, rfl, ?_⟩
      rw [List.append_nil]
      exact entered
  | cons implementation rest inductionHypothesis =>
      rw [List.append_cons] at distinct few ⊢
      have shorter := few
      rw [List.length_append] at shorter
      obtain ⟨middle, counted, next, ran, kept⟩ :=
        preflightOne_spec driver entered
          (List.nodup_append.mp distinct).1 (by omega)
      obtain ⟨after, total, finish, ran', finished⟩ :=
        inductionHypothesis kept distinct few
      refine ⟨after, total, finish, ?_, finished⟩
      unfold preflight
      rw [ran]
      exact ran'

/-! ## Loops over candidates -/

/-- What every step keeps, a whole loop keeps. -/
theorem eachCandidate_spec
    {step : CandidateSamples → Nat → Progress World →
      Except Fault (CandidateSamples × Nat × Progress World)}
    (holds : List CandidateSamples → List CandidateSamples → Nat →
      Progress World → Prop)
    (keeps : ∀ visited candidate rest failures start,
      holds visited (candidate :: rest) failures start →
        ∃ after counted finish,
          step candidate failures start = .ok (after, counted, finish) ∧
            holds (visited ++ [after]) rest counted finish)
    {visited rest : List CandidateSamples} {failures : Nat}
    {start : Progress World}
    (initially : holds visited rest failures start) :
    ∃ active counted finish,
      eachCandidate step visited rest failures start =
          .ok (active, counted, finish) ∧
        holds active [] counted finish := by
  induction rest generalizing visited failures start with
  | nil => exact ⟨visited, failures, start, rfl, initially⟩
  | cons candidate rest inductionHypothesis =>
      obtain ⟨after, counted, middle, ran, kept⟩ :=
        keeps visited candidate rest failures start initially
      obtain ⟨active, total, finish, ran', finished⟩ :=
        inductionHypothesis kept
      refine ⟨active, total, finish, ?_, finished⟩
      unfold eachCandidate
      rw [ran]
      exact ran'

/-- The round and the order position of a call. -/
def RunCall.slot (call : RunCall) : Option (Nat × Nat) :=
  match call.stage with
  | .measurement round orderPosition => some (round, orderPosition)
  | _ => none

/-- No measurement was called for yet. -/
def Unmeasured (progress : Progress World) : Prop :=
  ∀ call ∈ progress.calls, call.slot = none

theorem Visit.unmeasured
    {stage : Stage} {candidate after : CandidateSamples}
    {failures counted : Nat} {start finish : Progress World}
    (visit : Visit metric config metadata scenario fdProbe stage candidate
      after failures counted start finish)
    (before : stage = .calibration ∨ stage = .warmup)
    (unmeasured : Unmeasured start) : Unmeasured finish := by
  obtain ⟨calls, shape, called⟩ := visit.attempt.calls
  intro call member
  rw [shape] at member
  rcases List.mem_append.mp member with old | new
  · exact unmeasured call old
  · have own := (called.own call new).2
    unfold RunCall.slot
    rcases before with rfl | rfl <;> rw [own]

variable (metric config metadata scenario fdProbe) in
/-- The candidates before and after the one that a loop is at. -/
structure Prepared
    (asked : List Implementation) (before : Nat)
    (visited rest : List CandidateSamples) (failures : Nat)
    (progress : Progress World) : Prop where
  accounts : Accounts metric config metadata scenario fdProbe asked
    (visited ++ rest) before failures progress
  unmeasured : Unmeasured progress
  empty : ∀ candidate ∈ visited ++ rest, candidate.samples = []

theorem Prepared.visit
    {asked : List Implementation} {before : Nat}
    {visited rest : List CandidateSamples}
    {candidate after : CandidateSamples} {failures counted : Nat}
    {start finish : Progress World} {stage : Stage}
    (prepared : Prepared metric config metadata scenario fdProbe asked
      before visited (candidate :: rest) failures start)
    (running : candidate.failed = false)
    (early : stage = .calibration ∨ stage = .warmup)
    (samples : after.samples = candidate.samples)
    (visit : Visit metric config metadata scenario fdProbe stage candidate
      after failures counted start finish) :
    Prepared metric config metadata scenario fdProbe asked before
      (visited ++ [after]) rest counted finish := by
  refine
    { accounts := ?_
      unmeasured := visit.unmeasured early prepared.unmeasured
      empty := fun other member => ?_ }
  · rw [List.append_assoc]
    exact prepared.accounts.visit running visit
  · rw [List.append_assoc] at member
    simp only [List.mem_append, List.mem_cons, List.not_mem_nil,
      or_false] at member
    rcases member with old | rfl | later
    · exact prepared.empty other (List.mem_append_left _ old)
    · rw [samples]
      exact prepared.empty candidate
        (List.mem_append_right visited List.mem_cons_self)
    · exact prepared.empty other
        (List.mem_append_right visited (List.mem_cons_of_mem _ later))

/-- A loop that leaves a candidate as it is. -/
theorem Prepared.skip
    {asked : List Implementation} {before : Nat}
    {visited rest : List CandidateSamples} {candidate : CandidateSamples}
    {failures : Nat} {progress : Progress World}
    (prepared : Prepared metric config metadata scenario fdProbe asked
      before visited (candidate :: rest) failures progress) :
    Prepared metric config metadata scenario fdProbe asked before
      (visited ++ [candidate]) rest failures progress :=
  { accounts := by
      rw [← List.append_cons]
      exact prepared.accounts
    unmeasured := prepared.unmeasured
    empty := by
      rw [← List.append_cons]
      exact prepared.empty }

theorem calibrateCandidates_spec
    {driver : Driver World} (honest : driver.Honest)
    (bounded : config.targetSampleTimeMs.toNat ≤ maxSampleTimeMs)
    {asked : List Implementation} {active : List CandidateSamples}
    {failures : Nat} {start : Progress World}
    (entered : Entered metric config metadata scenario fdProbe asked active
      failures start) :
    ∃ after counted finish,
      eachCandidate
          (calibrateCandidate driver config metadata scenario fdProbe) []
          active 0 start = .ok (after, counted, finish) ∧
        Prepared metric config metadata scenario fdProbe asked failures
          after [] counted finish := by
  have initially : Prepared metric config metadata scenario fdProbe asked
      failures [] active 0 start ∧
      ∀ candidate ∈ active, candidate.failed = false := by
    refine ⟨?_, fun candidate member => (entered.fresh candidate member).1⟩
    exact
      { accounts :=
          { distinct := entered.accounts.distinct
            few := entered.accounts.few
            retained := entered.accounts.retained
            counted := by have sum := entered.accounts.counted; omega }
        unmeasured := fun call member => by
          rw [entered.quiet] at member
          cases member
        empty := fun candidate member =>
          (entered.fresh candidate member).2 }
  obtain ⟨after, counted, finish, ran, prepared, _⟩ :=
    eachCandidate_spec
      (fun visited rest counted progress =>
        Prepared metric config metadata scenario fdProbe asked failures
            visited rest counted progress ∧
          ∀ candidate ∈ rest, candidate.failed = false)
      (fun visited candidate rest counted middle holds => by
        have running := holds.2 candidate List.mem_cons_self
        obtain ⟨after, counted, finish, ran, samples, visit⟩ :=
          calibrateCandidate_spec metric honest bounded running counted
            middle
        exact ⟨after, counted, finish, ran,
          holds.1.visit running (Or.inl rfl) samples visit,
          fun other member =>
            holds.2 other (List.mem_cons_of_mem candidate member)⟩)
      initially
  exact ⟨after, counted, finish, ran, prepared⟩

theorem warmCandidates_spec
    (driver : Driver World) {asked : List Implementation}
    {active : List CandidateSamples} {before shared : Nat}
    {start : Progress World}
    (prepared : Prepared metric config metadata scenario fdProbe asked
      before [] active 0 start)
    (equal : ∀ candidate ∈ active, candidate.iterations = shared) :
    ∃ after counted finish,
      eachCandidate
          (warmCandidate driver metric config metadata scenario fdProbe) []
          active 0 start = .ok (after, counted, finish) ∧
        Prepared metric config metadata scenario fdProbe asked before
          after [] counted finish ∧
        ∀ candidate ∈ after, candidate.iterations = shared := by
  have loop := @eachCandidate_spec World
    (warmCandidate driver metric config metadata scenario fdProbe)
    (fun visited rest counted progress =>
      Prepared metric config metadata scenario fdProbe asked before
          visited rest counted progress ∧
        ∀ candidate ∈ visited ++ rest, candidate.iterations = shared)
    (fun visited candidate rest counted middle holds => by
      cases failed : candidate.failed with
      | true =>
          refine ⟨candidate, counted, middle, ?_, holds.1.skip, ?_⟩
          · unfold warmCandidate
            rw [failed, if_pos rfl]
          · rw [← List.append_cons]
            exact holds.2
      | false =>
          obtain ⟨after, counted, finish, ran, samples, iterations,
            visit⟩ := warmCandidate_spec driver failed counted middle
          refine ⟨after, counted, finish, ran,
            holds.1.visit failed (Or.inr rfl) samples visit, ?_⟩
          intro other member
          rw [← List.append_cons] at member
          simp only [List.mem_append, List.mem_cons] at member
          rcases member with old | rfl | later
          · exact holds.2 other (List.mem_append_left _ old)
          · rw [iterations]
            exact holds.2 candidate
              (List.mem_append_right visited List.mem_cons_self)
          · exact holds.2 other
              (List.mem_append_right visited
                (List.mem_cons_of_mem _ later)))
    [] active 0 start ⟨prepared, equal⟩
  obtain ⟨after, counted, finish, ran, kept, iterations⟩ := loop
  rw [List.append_nil] at iterations
  exact ⟨after, counted, finish, ran, kept, iterations⟩

/-! ## All candidates -/

theorem selectedImplementations_nodup :
    (selectedImplementations config scenario).Nodup := by
  unfold selectedImplementations
  split
  · exact List.nodup_singleton _
  · exact List.Nodup.filter _ (by decide)

theorem selectedImplementations_few :
    (selectedImplementations config scenario).length ≤ 4 := by
  unfold selectedImplementations
  split
  · exact Nat.le_of_ble_eq_true rfl
  · exact List.length_filter_le _ _

theorem Accounts.start (world : World) :
    Accounts metric config metadata scenario fdProbe [] [] 0 0
      (Progress.start world) :=
  { distinct := List.nodup_nil
    few := by decide
    retained :=
      { answered := rfl
        entered := rfl
        refused := rfl
        failed := List.Perm.nil
        unpassed := rfl
        written := .nil
        called := fun entry member => by cases member
        callers := fun call member => by cases member
        silent := List.Pairwise.nil }
    counted := rfl }

/-- The same candidates, counted from another point. -/
theorem Accounts.recount
    {asked : List Implementation} {active others : List CandidateSamples}
    {before failures earlier counted : Nat} {progress : Progress World}
    (accounts : Accounts metric config metadata scenario fdProbe asked
      active before failures progress)
    (same : others.map CandidateSamples.standing =
      active.map CandidateSamples.standing)
    (sum : earlier + counted = before + failures) :
    Accounts metric config metadata scenario fdProbe asked others earlier
      counted progress :=
  { distinct := accounts.distinct
    few := accounts.few
    retained := by
      rw [same]
      exact accounts.retained
    counted := sum.trans accounts.counted }

theorem Accounts.failures_le
    {asked : List Implementation} {active : List CandidateSamples}
    {before failures : Nat} {progress : Progress World}
    (accounts : Accounts metric config metadata scenario fdProbe asked
      active before failures progress) :
    before + failures ≤ 4 := by
  rw [accounts.counted]
  exact accounts.retained.failures_le.trans accounts.few

/-- Calibrated or not, the candidates are prepared for the warmup. -/
theorem calibrated_spec
    {driver : Driver World} (honest : driver.Honest)
    (bounded : config.targetSampleTimeMs.toNat ≤ maxSampleTimeMs)
    {asked : List Implementation} {active : List CandidateSamples}
    {failures : Nat} {start : Progress World}
    (entered : Entered metric config metadata scenario fdProbe asked active
      failures start) :
    ∃ after counted finish,
      (if config.calibrates metric then
          eachCandidate
            (calibrateCandidate driver config metadata scenario fdProbe) []
            active 0 start
        else .ok (active, 0, start)) = .ok (after, counted, finish) ∧
      Prepared metric config metadata scenario fdProbe asked failures
        after [] counted finish := by
  split
  · exact calibrateCandidates_spec honest bounded entered
  · refine ⟨active, 0, start, rfl, ?_⟩
    have same : active ++ [] = active := List.append_nil active
    exact
      { accounts := by
          rw [same]
          exact entered.accounts.recount rfl (Nat.add_comm failures 0)
        unmeasured := fun call member => by
          rw [entered.quiet] at member
          cases member
        empty := by
          rw [same]
          exact fun candidate member =>
            (entered.fresh candidate member).2 }

/-- The candidates that take part have the same iterations, no sample and no
measurement yet. -/
theorem candidates_spec
    {driver : Driver World} (honest : driver.Honest)
    (bounded : config.targetSampleTimeMs.toNat ≤ maxSampleTimeMs)
    (world : World) :
    ∃ active failures finish shared,
      candidates driver metric config metadata scenario fdProbe
          (Progress.start world) = .ok (active, failures, finish) ∧
        Prepared metric config metadata scenario fdProbe
          (selectedImplementations config scenario) 0 active [] failures
          finish ∧
        ∀ candidate ∈ active, candidate.iterations = shared := by
  obtain ⟨entrants, refused, first, preflighted, entered⟩ :=
    @preflight_spec World metric config metadata scenario fdProbe driver []
      (selectedImplementations config scenario) [] 0 (Progress.start world)
      { accounts := Accounts.start world
        quiet := rfl
        fresh := fun candidate member => by cases member }
      selectedImplementations_nodup selectedImplementations_few
  rw [List.nil_append] at entered
  obtain ⟨middle, uncalibrated, second, calibrated, prepared⟩ :=
    calibrated_spec honest bounded entered
  have standing : ∀ shared : Nat,
      (middle.map fun candidate : CandidateSamples =>
          { candidate with iterations := shared }).map
          CandidateSamples.standing =
        middle.map CandidateSamples.standing := by
    intro shared
    rw [List.map_map]
    rfl
  have empty := prepared.empty
  have accounts := prepared.accounts
  rw [List.append_nil] at empty accounts
  have ready : Prepared metric config metadata scenario fdProbe
      (selectedImplementations config scenario) (refused + uncalibrated) []
      (middle.map fun candidate : CandidateSamples =>
        { candidate with
          iterations := sharedIterations config scenario middle })
      0 second :=
    { accounts := accounts.recount (standing _) (Nat.add_zero _)
      unmeasured := prepared.unmeasured
      empty := fun candidate member => by
        obtain ⟨original, inside, rfl⟩ := List.mem_map.mp member
        exact empty original inside }
  obtain ⟨active, cold, finish, warmed, kept, equal⟩ :=
    warmCandidates_spec driver ready fun candidate member => by
      obtain ⟨original, _, rfl⟩ := List.mem_map.mp member
      rfl
  have few := kept.accounts.failures_le
  have sum : usizeSaturatingAdd
      (usizeSaturatingAdd refused uncalibrated) cold =
        refused + uncalibrated + cold := by
    rw [usizeSaturatingAdd_small (show refused + uncalibrated ≤ 4 by omega),
      usizeSaturatingAdd_small few]
  refine ⟨active, refused + uncalibrated + cold, finish,
    sharedIterations config scenario middle, ?_,
    { accounts := kept.accounts.recount rfl (Nat.zero_add _)
      unmeasured := kept.unmeasured
      empty := kept.empty }, equal⟩
  unfold candidates
  by_cases calibrates : config.calibrates metric = true
  · rw [if_pos calibrates] at calibrated
    simp only [preflighted, if_pos calibrates, calibrated, warmed, bind,
      Except.bind, pure, Except.pure, sum]
  · rw [if_neg calibrates] at calibrated
    cases calibrated
    simp only [preflighted, if_neg calibrates, warmed, bind, Except.bind,
      pure, Except.pure, sum]

end Preparation

end Zio.Benchmark
