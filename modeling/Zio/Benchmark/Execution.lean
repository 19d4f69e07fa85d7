import Zio.Benchmark.Consulted
import Zio.Benchmark.Rounds

/-!
# Execution of a scenario

The passed receipts close the books: every implementation that was selected has
one receipt, and the receipt says what became of it.
-/

namespace Zio.Benchmark

variable {World : Type}

/-! ## Passed receipts -/

section Passed

variable {metric : Metric} {config : Config} {metadata : Metadata}
  {scenario : Scenario} {fdProbe : FdProbe}

theorem timingPerOperation_ok
    {samples : List Sample} (captured : OfMetric .timing samples) :
    ∃ values, samples.mapM timingPerOperation = .ok values ∧
      values.length = samples.length := by
  refine mapM_ok fun sample member => ?_
  obtain ⟨elapsed, shape⟩ := captured sample member
  exact ⟨perOperation sample elapsed, by rw [timingPerOperation, shape]⟩

theorem writePassedSummary_ok
    {candidate : CandidateSamples}
    (captured : OfMetric metric candidate.samples)
    (sampled : candidate.samples ≠ []) (self : Progress World) :
    ∃ line, writePassedSummary metric scenario candidate self =
      .ok (self.writeSummaryLine line) := by
  cases metric with
  | timing =>
      obtain ⟨values, found, length⟩ := timingPerOperation_ok captured
      obtain ⟨value, summarized⟩ := distribution_ok length sampled
      unfold writePassedSummary
      simp only [found, summarized, bind, Except.bind, pure, Except.pure]
      exact ⟨_, rfl⟩
  | allocation => exact ⟨_, rfl⟩

variable (config metadata scenario fdProbe) in
theorem writePassed_spec
    {passing : List CandidateSamples}
    (captured : ∀ candidate ∈ passing,
      OfMetric metric candidate.samples ∧ candidate.samples ≠ [])
    (start : Progress World) :
    ∃ finish texts,
      writePassed metric config metadata scenario fdProbe passing start =
          .ok finish ∧
        finish.answers = start.answers ∧ finish.calls = start.calls ∧
        finish.receipts = start.receipts ++ passing.map Receipt.passed ∧
        finish.output = start.output ++ texts ∧
        List.Forall₂ (Encodes metric config metadata scenario fdProbe)
          (passing.map Receipt.passed) texts := by
  induction passing generalizing start with
  | nil =>
      exact ⟨start, [], rfl, rfl, rfl, (List.append_nil _).symm,
        (List.append_nil _).symm, .nil⟩
  | cons candidate rest inductionHypothesis =>
      obtain ⟨carried, sampled⟩ := captured candidate List.mem_cons_self
      obtain ⟨text, encoded⟩ := measurement_ok carried sampled metadata config
        scenario fdProbe
      have wrote := writeReceipt_ok
        (show Encodes metric config metadata scenario fdProbe
          (.passed candidate) text from encoded) start
      obtain ⟨line, summarized⟩ := @writePassedSummary_ok World metric
        scenario candidate carried sampled
        { start with
          output := start.output ++ [text]
          receipts := start.receipts ++ [.passed candidate] }
      obtain ⟨finish, texts, ran, answers, calls, receipts, output,
        encodings⟩ := inductionHypothesis
          (fun other member =>
            captured other (List.mem_cons_of_mem candidate member))
          (Progress.writeSummaryLine
            { start with
              output := start.output ++ [text]
              receipts := start.receipts ++ [.passed candidate] } line)
      refine ⟨finish, text :: texts, ?_, answers, calls, ?_, ?_,
        .cons encoded encodings⟩
      · unfold writePassed
        rw [wrote]
        simp only [bind, Except.bind, summarized]
        exact ran
      · rw [receipts]
        exact (List.append_cons start.receipts _ _).symm
      · rw [output]
        exact (List.append_cons start.output text texts).symm

end Passed

/-! ## Accounts of a scenario -/

/-- The candidates that take part in a scenario, in the order of the
rotation. -/
def Progress.entrants (self : Progress World) : List Implementation :=
  self.answers.filterMap Answer.available

/-- What the receipts, the calls and the failure count of a scenario say. -/
structure Accounted
    (metric : Metric) (config : Config) (metadata : Metadata)
    (scenario : Scenario) (fdProbe : FdProbe) (failures : Nat)
    (progress : Progress World) : Prop where
  answered : progress.answers.map Prod.fst =
    selectedImplementations config scenario
  once : (progress.receipts.map Receipt.implementation).Perm
    (selectedImplementations config scenario)
  written : List.Forall₂
    (Encodes metric config metadata scenario fdProbe) progress.receipts
    progress.output
  unsupported_iff : ∀ implementation reason,
    .unsupported implementation reason ∈ progress.receipts ↔
      (implementation, .ok (.unavailable reason)) ∈ progress.answers
  failed_iff : ∀ implementation,
    (∃ receipt ∈ progress.receipts,
      receipt.failure = some implementation) ↔
      (∃ error, (implementation, .error error) ∈ progress.answers) ∨
        ∃ call ∈ progress.calls,
          call.implementation = implementation ∧ call.failed = true
  passed_iff : ∀ implementation,
    (∃ candidate, .passed candidate ∈ progress.receipts ∧
      candidate.implementation = implementation) ↔
      (implementation, .ok .available) ∈ progress.answers ∧
        ∀ call ∈ progress.calls,
          call.implementation = implementation → call.failed = false
  counted : failures =
    progress.receipts.countP fun receipt => receipt.failure.isSome
  silent : progress.calls.Pairwise fun earlier later =>
    earlier.failed = true → earlier.implementation ≠ later.implementation
  sampled : ∀ candidate, .passed candidate ∈ progress.receipts →
    candidate.samples.map Sample.round = List.range config.samples ∧
      OfMetric metric candidate.samples ∧
      ∀ sample ∈ candidate.samples,
        sample.orderPosition < progress.entrants.length ∧
          progress.entrants[rotated sample.round sample.orderPosition
            progress.entrants.length]? = some candidate.implementation
  shared : ∃ iterations,
    (∀ candidate, .passed candidate ∈ progress.receipts →
      candidate.iterations = iterations) ∧
    ∀ call ∈ progress.calls, call.slot.isSome →
      call.iterations = iterations
  rotates : ∀ call ∈ progress.calls, ∀ slot, call.slot = some slot →
    slot.1 < config.samples ∧ slot.2 < progress.entrants.length ∧
      progress.entrants[rotated slot.1 slot.2
        progress.entrants.length]? = some call.implementation
  ordered : (progress.calls.filterMap RunCall.slot).Pairwise
    fun earlier later =>
      earlier.1 < later.1 ∨ earlier.1 = later.1 ∧ earlier.2 < later.2
  apart : ∀ first ∈ progress.calls, ∀ second ∈ progress.calls,
    ∀ round one other, first.slot = some (round, one) →
      second.slot = some (round, other) →
        (one = other ↔ first.implementation = second.implementation)

theorem Receipt.mem_refusal
    {receipts : List Receipt} {implementation : Implementation}
    {reason : Unsupported} :
    (implementation, reason) ∈ receipts.filterMap Receipt.refusal ↔
      .unsupported implementation reason ∈ receipts := by
  rw [List.mem_filterMap]
  constructor
  · rintro ⟨receipt, member, shape⟩
    cases receipt with
    | unsupported other cause =>
        cases shape
        exact member
    | failed other metric phase error samples => cases shape
    | passed candidate => cases shape
  · exact fun member => ⟨_, member, rfl⟩

theorem Receipt.mem_passing
    {receipts : List Receipt} {candidate : CandidateSamples} :
    candidate ∈ receipts.filterMap Receipt.passing ↔
      .passed candidate ∈ receipts := by
  rw [List.mem_filterMap]
  constructor
  · rintro ⟨receipt, member, shape⟩
    cases receipt with
    | unsupported other cause => cases shape
    | failed other metric phase error samples => cases shape
    | passed other =>
        cases shape
        exact member
  · exact fun member => ⟨_, member, rfl⟩

namespace Answer

theorem mem_available
    {answers : List Answer} {implementation : Implementation} :
    implementation ∈ answers.filterMap available ↔
      (implementation, .ok .available) ∈ answers := by
  rw [List.mem_filterMap]
  constructor
  · rintro ⟨⟨other, error | present | reason⟩, member, shape⟩
    · cases shape
    · cases shape
      exact member
    · cases shape
  · exact fun member => ⟨_, member, rfl⟩

theorem mem_refusal
    {answers : List Answer} {implementation : Implementation}
    {reason : Unsupported} :
    (implementation, reason) ∈ answers.filterMap refusal ↔
      (implementation, .ok (.unavailable reason)) ∈ answers := by
  rw [List.mem_filterMap]
  constructor
  · rintro ⟨⟨other, error | present | cause⟩, member, shape⟩
    · cases shape
    · cases shape
    · cases shape
      exact member
  · exact fun member => ⟨_, member, rfl⟩

theorem mem_errored
    {answers : List Answer} {implementation : Implementation} :
    implementation ∈ answers.filterMap errored ↔
      ∃ error, (implementation, .error error) ∈ answers := by
  rw [List.mem_filterMap]
  constructor
  · rintro ⟨⟨other, error | present | cause⟩, member, shape⟩
    · cases shape
      exact ⟨error, member⟩
    · cases shape
    · cases shape
  · exact fun ⟨error, member⟩ => ⟨_, member, rfl⟩

end Answer

section Books

variable {metric : Metric} {config : Config} {metadata : Metadata}
  {scenario : Scenario} {fdProbe : FdProbe}
  {asked : List Implementation} {active : List CandidateSamples}
  {before failures : Nat} {middle finish : Progress World}

/-- The candidates whose failure was not reported. -/
def passingCandidates (active : List CandidateSamples) :
    List CandidateSamples :=
  active.filter fun candidate => !candidate.failed

theorem mem_passingCandidates {candidate : CandidateSamples} :
    candidate ∈ passingCandidates active ↔
      candidate ∈ active ∧ candidate.failed = false := by
  rw [passingCandidates, List.mem_filter, Bool.not_eq_true']

/-- The receipts that close a run: those of the failures, then the passed
ones. -/
structure Closed
    (active : List CandidateSamples) (middle finish : Progress World) :
    Prop where
  answers : finish.answers = middle.answers
  calls : finish.calls = middle.calls
  receipts : finish.receipts =
    middle.receipts ++ (passingCandidates active).map Receipt.passed

namespace Closed

variable (closed : Closed active middle finish)
  (retained : Retained metric config metadata scenario fdProbe asked
    (active.map CandidateSamples.standing) middle)
include closed

theorem refusals :
    finish.receipts.filterMap Receipt.refusal =
      middle.receipts.filterMap Receipt.refusal := by
  have granted : ((passingCandidates active).map Receipt.passed).filterMap
      Receipt.refusal = [] := by
    rw [List.filterMap_eq_nil_iff]
    intro receipt member
    obtain ⟨candidate, _, rfl⟩ := List.mem_map.mp member
    rfl
  rw [closed.receipts, List.filterMap_append, granted, List.append_nil]

theorem reported :
    finish.receipts.filterMap Receipt.failure =
      middle.receipts.filterMap Receipt.failure := by
  have unfailed : ((passingCandidates active).map Receipt.passed).filterMap
      Receipt.failure = [] := by
    rw [List.filterMap_eq_nil_iff]
    intro receipt member
    obtain ⟨candidate, _, rfl⟩ := List.mem_map.mp member
    rfl
  rw [closed.receipts, List.filterMap_append, unfailed, List.append_nil]

include retained

theorem passing :
    finish.receipts.filterMap Receipt.passing =
      passingCandidates active := by
  rw [closed.receipts, List.filterMap_append, retained.unpassed,
    List.nil_append, List.filterMap_map]
  exact List.filterMap_some

/-- One receipt for every implementation that was asked for. -/
theorem once :
    (finish.receipts.map Receipt.implementation).Perm asked := by
  have receipts := Receipt.partition finish.receipts
  have answers := Answer.partition middle.answers
  rw [closed.passing retained, closed.refusals, closed.reported,
    retained.refused] at receipts
  rw [retained.answered, ← retained.entered] at answers
  have failed := retained.failed
  have parts : (active.map CandidateSamples.standing).map Prod.fst |>.Perm
      ((passingCandidates active).map CandidateSamples.implementation ++
        ((active.map CandidateSamples.standing).filter Prod.snd).map
          Prod.fst) := by
    have split := (List.filter_append_perm
      (fun candidate : CandidateSamples => !candidate.failed)
      active).map CandidateSamples.implementation
    rw [List.map_append] at split
    rw [List.filter_map, List.map_map, List.map_map]
    refine split.symm.trans ?_
    refine List.Perm.append_left _ (List.Perm.of_eq ?_)
    simp only [Bool.not_not]
    rfl
  refine List.perm_iff_count.mpr fun implementation => ?_
  have one := receipts.count_eq implementation
  have two := answers.count_eq implementation
  have three := failed.count_eq implementation
  have four := parts.count_eq implementation
  simp only [List.count_append] at one two three four
  omega

omit retained in
theorem mem_passed
    (retained : Retained metric config metadata scenario fdProbe asked
      (active.map CandidateSamples.standing) middle)
    {candidate : CandidateSamples} :
    .passed candidate ∈ finish.receipts ↔
      candidate ∈ active ∧ candidate.failed = false := by
  rw [← Receipt.mem_passing, closed.passing retained,
    mem_passingCandidates]

theorem entrants_eq :
    finish.entrants = active.map CandidateSamples.implementation := by
  unfold Progress.entrants
  rw [closed.answers, ← retained.entered, List.map_map]
  rfl

/-- A candidate has failed if and only if one of its calls has. -/
theorem failed_call
    {implementation : Implementation} :
    (∃ candidate ∈ active, candidate.implementation = implementation ∧
      candidate.failed = true) ↔
      ∃ call ∈ finish.calls,
        call.implementation = implementation ∧ call.failed = true := by
  rw [closed.calls]
  constructor
  · rintro ⟨candidate, member, rfl, failed⟩
    have entry : candidate.standing ∈ active.map CandidateSamples.standing :=
      List.mem_map_of_mem member
    exact (retained.called _ entry).mp failed
  · rintro ⟨call, member, rfl, failed⟩
    obtain ⟨entry, inside, same⟩ :=
      List.mem_map.mp (retained.callers call member)
    obtain ⟨candidate, held, rfl⟩ := List.mem_map.mp inside
    exact ⟨candidate, held, same,
      (retained.called _ inside).mpr ⟨call, member, same.symm, failed⟩⟩

theorem failed_iff (implementation : Implementation) :
    (∃ receipt ∈ finish.receipts,
      receipt.failure = some implementation) ↔
      (∃ error, (implementation, .error error) ∈ finish.answers) ∨
        ∃ call ∈ finish.calls,
          call.implementation = implementation ∧ call.failed = true := by
  have listed : (∃ receipt ∈ finish.receipts,
      receipt.failure = some implementation) ↔
        implementation ∈ middle.receipts.filterMap Receipt.failure := by
    rw [← closed.reported, List.mem_filterMap]
  have standing : implementation ∈
      ((active.map CandidateSamples.standing).filter Prod.snd).map
        Prod.fst ↔
      ∃ candidate ∈ active, candidate.implementation = implementation ∧
        candidate.failed = true := by
    rw [List.filter_map, List.map_map, List.mem_map]
    simp only [List.mem_filter, Function.comp_apply,
      CandidateSamples.standing]
    constructor
    · rintro ⟨candidate, ⟨member, failed⟩, same⟩
      exact ⟨candidate, member, same, failed⟩
    · rintro ⟨candidate, member, same, failed⟩
      exact ⟨candidate, ⟨member, failed⟩, same⟩
  rw [listed, retained.failed.mem_iff, List.mem_append,
    Answer.mem_errored, standing, closed.failed_call retained,
    closed.answers]

theorem passed_iff (implementation : Implementation) :
    (∃ candidate, .passed candidate ∈ finish.receipts ∧
      candidate.implementation = implementation) ↔
      (implementation, .ok .available) ∈ finish.answers ∧
        ∀ call ∈ finish.calls,
          call.implementation = implementation → call.failed = false := by
  have entered : (implementation, .ok .available) ∈ finish.answers ↔
      ∃ candidate ∈ active,
        candidate.implementation = implementation := by
    have entrants := closed.entrants_eq retained
    unfold Progress.entrants at entrants
    rw [← Answer.mem_available, entrants, List.mem_map]
  constructor
  · rintro ⟨candidate, passed, rfl⟩
    obtain ⟨member, running⟩ := (closed.mem_passed retained).mp passed
    refine ⟨entered.mpr ⟨candidate, member, rfl⟩, fun call inside same => ?_⟩
    have unfailed := (retained.called candidate.standing
      (List.mem_map_of_mem member)).not.mp (by
        rw [CandidateSamples.standing, running]
        exact Bool.false_ne_true)
    rw [closed.calls] at inside
    cases failed : call.failed with
    | false => rfl
    | true => exact (unfailed ⟨call, inside, same, failed⟩).elim
  · rintro ⟨available, quiet⟩
    obtain ⟨candidate, member, same⟩ := entered.mp available
    cases failed : candidate.failed with
    | false =>
        exact ⟨candidate, (closed.mem_passed retained).mpr
          ⟨member, failed⟩, same⟩
    | true =>
        obtain ⟨call, inside, caller, failing⟩ :=
          (closed.failed_call retained).mp ⟨candidate, member, same, failed⟩
        rw [quiet call inside caller] at failing
        cases failing

end Closed

/-- The books of a scenario, from those of its rounds. -/
theorem Closed.accounted
    {shared : Nat} {entered : List Implementation} {texts : List String}
    (closed : Closed active middle finish)
    (accounts : Accounts metric config metadata scenario fdProbe
      (selectedImplementations config scenario) active before failures
      middle)
    (measured : Measured metric entered shared config.samples 0 active
      middle)
    (output : finish.output = middle.output ++ texts)
    (encoded : List.Forall₂
      (Encodes metric config metadata scenario fdProbe)
      ((passingCandidates active).map Receipt.passed) texts) :
    Accounted metric config metadata scenario fdProbe (before + failures)
      finish := by
  have retained := accounts.retained
  have entrants : finish.entrants = entered :=
    (closed.entrants_eq retained).trans measured.entrants
  have placed : ∀ {index : Nat} {candidate : CandidateSamples},
      active[index]? = some candidate →
        entered[index]? = some candidate.implementation := by
    intro index candidate held
    rw [← measured.entrants, List.getElem?_map, held]
    rfl
  have sole : entered.Nodup := by
    have standing := retained.standing_nodup accounts.distinct
    rw [List.map_map] at standing
    rw [← measured.entrants]
    exact standing
  have slots : ∀ call ∈ finish.calls, ∀ slot, call.slot = some slot →
      slot.1 < config.samples ∧ slot.2 < entered.length ∧
        entered[rotated slot.1 slot.2 entered.length]? =
          some call.implementation ∧ call.iterations = shared := by
    intro call member slot shape
    rw [closed.calls] at member
    obtain ⟨inside, facts⟩ := measured.slots call member slot shape
    exact ⟨by omega, facts⟩
  exact
    { answered := by
        rw [closed.answers]
        exact retained.answered
      once := closed.once retained
      written := by
        rw [closed.receipts, output]
        exact List.rel_append retained.written encoded
      unsupported_iff := fun implementation reason => by
        rw [← Receipt.mem_refusal, closed.refusals, retained.refused,
          Answer.mem_refusal, closed.answers]
      failed_iff := closed.failed_iff retained
      passed_iff := closed.passed_iff retained
      counted := by
        rw [accounts.counted, Progress.failures, ← closed.reported,
          List.length_filterMap_eq_countP]
      silent := by
        rw [closed.calls]
        exact retained.silent
      sampled := fun candidate passed => by
        obtain ⟨member, running⟩ := (closed.mem_passed retained).mp passed
        obtain ⟨index, held⟩ := List.mem_iff_getElem?.mp member
        rw [entrants]
        refine ⟨measured.due index candidate held running ?_,
          measured.captured candidate member, fun sample inside => ?_⟩
        · rintro ⟨earlier, less, _⟩
          cases less
        · obtain ⟨position, same⟩ :=
            measured.placed index candidate held sample inside
          rw [same]
          exact ⟨position, placed held⟩
      shared := ⟨shared, fun candidate passed =>
          measured.equal candidate
            ((closed.mem_passed retained).mp passed).1,
        fun call member used => by
          obtain ⟨slot, shape⟩ := Option.isSome_iff_exists.mp used
          exact (slots call member slot shape).2.2.2⟩
      rotates := fun call member slot shape => by
        rw [entrants]
        obtain ⟨inside, position, found, _⟩ := slots call member slot shape
        exact ⟨inside, position, found⟩
      ordered := by
        rw [closed.calls]
        exact measured.ordered
      apart := fun first one second two round position other shape used => by
        obtain ⟨_, inside, found, _⟩ := slots first one _ shape
        obtain ⟨_, within, held, _⟩ := slots second two _ used
        constructor
        · intro same
          rw [same, held] at found
          exact (Option.some.inj found).symm
        · intro same
          rw [same, ← held] at found
          have bound := Nat.mod_lt (round + position)
            (Nat.zero_lt_of_lt inside)
          exact @Rotation.position_unique round entered.length position
            other inside within
            ((List.getElem?_inj bound sole).mp found) }

end Books

/-! ## A whole scenario -/

theorem executeScenario_books
    {metric : Metric} {config : Config} (bounded : config.Bounded)
    {driver : Driver World} (honest : driver.Honest)
    (metadata : Metadata) (scenario : Scenario) (fdProbe : FdProbe)
    (world : World) :
    ∃ failures progress,
      executeScenario driver metric config metadata scenario fdProbe
          (Progress.start world) = .ok (failures, progress) ∧
        Accounted metric config metadata scenario fdProbe failures
          progress := by
  obtain ⟨active, early, first, shared, prepared, ready, equal⟩ :=
    @candidates_spec World metric config metadata scenario fdProbe driver
      honest bounded.sampleTime.2 world
  have accounts := ready.accounts
  rw [List.append_nil] at accounts
  obtain ⟨after, late, middle, measured, kept, rounds⟩ :=
    @measureRounds_spec World metric config metadata scenario fdProbe
      (selectedImplementations config scenario) _ shared early active 0
      first driver honest 0 config.samples
      (accounts.recount rfl (Nat.add_comm early 0))
      (Measured.begin ready equal)
  rw [Nat.zero_add] at rounds
  have captured : ∀ candidate ∈ passingCandidates after,
      OfMetric metric candidate.samples ∧ candidate.samples ≠ [] := by
    intro candidate member
    obtain ⟨inside, running⟩ := mem_passingCandidates.mp member
    obtain ⟨index, held⟩ := List.mem_iff_getElem?.mp inside
    refine ⟨rounds.captured candidate inside, fun empty => ?_⟩
    have taken := rounds.due index candidate held running fun visited => by
      obtain ⟨earlier, less, _⟩ := visited
      cases less
    have length := congrArg List.length taken
    rw [empty, List.map_nil, List.length_range] at length
    have enough := bounded.samples.1
    rw [← length] at enough
    cases enough
  obtain ⟨finish, texts, passed, answers, calls, receipts, output,
    encoded⟩ := writePassed_spec config metadata scenario fdProbe captured
      middle
  have few := kept.failures_le
  refine ⟨early + late, finish, ?_,
    Closed.accounted ⟨answers, calls, receipts⟩ kept rounds output encoded⟩
  unfold executeScenario
  rw [List.range_eq_range']
  unfold passingCandidates at passed
  simp only [prepared, measured, passed, bind, Except.bind, pure,
    Except.pure, usizeSaturatingAdd_small few]

/-- Every candidate of a scenario is accounted for exactly once, whatever the
candidates do, and what the books say of the driver is what it was asked. -/
theorem executeScenario_accounted
    {args : List OsString} {metric : Metric} {config : Config}
    (parsed : Config.parse args metric = .ok config)
    {driver : Driver World} (honest : driver.Honest)
    (metadata : Metadata) (scenario : Scenario) (fdProbe : FdProbe)
    (world : World) :
    ∃ failures progress,
      executeScenario driver metric config metadata scenario fdProbe
          (Progress.start world) = .ok (failures, progress) ∧
        Accounted metric config metadata scenario fdProbe failures
          progress ∧
        executeScenario driver.recorded metric config metadata scenario
            fdProbe (Progress.start (world, Consulted.nothing)) =
          .ok (failures, progress.recorded metric scenario) := by
  obtain ⟨failures, progress, executed, accounted⟩ :=
    executeScenario_books (Config.parse_bounded parsed) honest metadata
      scenario fdProbe world
  refine ⟨failures, progress, executed, accounted, ?_⟩
  rw [← Progress.start_recorded metric scenario, executeScenario_recorded,
    executed]
  rfl

/-- A candidate that takes part, one whose runs fail, one that is unavailable
and one that does not answer. -/
def mixedDriver : Driver Unit :=
  { support := fun implementation _ _ =>
      (match implementation with
      | .zio | .mio => .ok .available
      | .zioBorrowed =>
          .ok
            (.unavailable
              { code := "fd_limit"
                reason := "too few descriptors"
                requiredAdditionalFds := some 8
                observedOpenFds := none
                observedSoftFdLimit := none
                fdLimitSource := none })
      | .polling => .error "no answer", ())
    run := fun implementation _ _ asks _ =>
      (if implementation = .mio then
        .error "stopped"
      else
        .ok
          { counts := { operations := 1, events := 1 }
            metric :=
              match asks with
              | none => .warmup
              | some .timing => .timing (u128OfU64 1)
              | some .allocation =>
                  .allocation
                    { countTotal := 0
                      countCurrent := 0
                      countPeak := 0
                      bytesTotal := 0
                      bytesCurrent := 0
                      bytesPeak := 0 }
            liveFds := none }, ())
    count := fun _ _ => (none, ()) }

theorem mixedDriver_honest : mixedDriver.Honest := by
  intro implementation scenario iterations metric world captured ran
  unfold mixedDriver at ran
  simp only at ran
  split at ran
  · cases ran
  · cases ran
    cases metric with
    | timing => exact ⟨_, rfl⟩
    | allocation => exact ⟨_, rfl⟩

/-- The configuration of a timing run without arguments. -/
def timingConfig : Config :=
  { samples := 96
    iterations := none
    warmupIterations := 10
    warmupExplicit := false
    targetSampleTimeMs := defaultSampleTimeMs
    implementation := none
    scenario := none
    output := none
    help := false
    smoke := false }

def plainMetadata : Metadata :=
  { gitSha := "unknown"
    gitShaSource := "unavailable"
    gitDirty := none
    os := "linux"
    osVersion := "unknown"
    arch := "x86_64"
    cpu := "unknown"
    rustc := "unknown"
    qualifyVersion := packageVersion
    buildProfile := "release"
    rustflags := ""
    recordedUnixMs := u128OfU64 0 }

theorem mixedScenario_accounted :
    ∃ failures progress,
      executeScenario mixedDriver .timing timingConfig plainMetadata
          .readySingle (.unavailable "no directory") (Progress.start ()) =
        .ok (failures, progress) ∧
      Accounted .timing timingConfig plainMetadata .readySingle
        (.unavailable "no directory") failures progress ∧
      executeScenario mixedDriver.recorded .timing timingConfig
          plainMetadata .readySingle (.unavailable "no directory")
          (Progress.start ((), Consulted.nothing)) =
        .ok (failures, progress.recorded .timing .readySingle) :=
  @executeScenario_accounted Unit [] .timing timingConfig rfl mixedDriver
    mixedDriver_honest plainMetadata .readySingle
    (.unavailable "no directory") ()

end Zio.Benchmark
