import Zio.Qualify.Protocol

/-!
# Qualification cases

A case always returns when the clock advances with every wait.  It passes
exactly on a conforming record, with exactly the observations that its profile
requires, and a session that was registered is deleted, and its fixture
operated, once and at the end, whatever failed in between.
-/

namespace Zio.Qualify

open Benchmark (Implementation)
open Phrase

/-! ## Termination -/

/-- The clock reads the world's time, never runs backwards, and advances with
every wait. -/
structure Clocked
    {World : Type*} (candidate : Candidate World) (host : Host World)
    (time : World → Nat) : Prop where
  now : ∀ world, (host.now world).2 = time (host.now world).1
  forward : ∀ world, time world ≤ time (host.now world).1
  wait : ∀ timeout world,
    time world < time (candidate.wait timeout world).1

section Termination

variable {World : Type*} {candidate : Candidate World} {host : Host World}
  {time : World → Nat}

/-- Keeping a record does not touch the clock. -/
theorem Clocked.recorded (clocked : Clocked candidate host time) :
    Clocked candidate.recorded host.recorded fun recorded =>
      time recorded.1 :=
  { now := fun recorded => clocked.now recorded.1
    forward := fun recorded => clocked.forward recorded.1
    wait := fun timeout recorded => clocked.wait timeout recorded.1 }

variable (clocked : Clocked candidate host time)
  (implementation : Implementation) (scenario : Scenario)

include clocked

/-- A turn of either loop brings the deadline nearer. -/
theorem Clocked.nearer
    {world reading answered closed : World} {start finish deadline : Nat}
    {answer : Except String EventBatch}
    (read : host.now world = (reading, start))
    (asked : candidate.wait (deadline - start) reading =
      (answered, answer))
    (closing : host.now answered = (closed, finish))
    (early : finish < deadline) :
    deadline - time closed < deadline - time world := by
  have reads := clocked.forward world
  have waits := clocked.wait (deadline - start) reading
  have closes := clocked.forward answered
  have clock := clocked.now answered
  rw [read] at reads
  rw [asked] at waits
  rw [closing] at closes clock
  simp only at reads waits closes clock
  omega

theorem awaitEventFrom_returns
    {deadline fuel : Nat} {world : World}
    (enough : deadline - time world < fuel) :
    ∃ after awaited,
      awaitEventFrom candidate host deadline fuel world =
        some (after, awaited) := by
  induction fuel generalizing world with
  | zero => omega
  | succ fuel inductionHypothesis =>
      rcases read : host.now world with ⟨reading, start⟩
      rcases asked : candidate.wait (deadline - start) reading with
        ⟨answered, actual | batch⟩
      · simp only [awaitEventFrom, read, asked]
        exact ⟨answered, _, rfl⟩
      · simp only [awaitEventFrom, read, asked]
        by_cases empty : batch.matchedEvents = 0
        · rw [if_neg (not_not.mpr empty)]
          rcases closing : host.now answered with ⟨closed, finish⟩
          simp only [closing]
          by_cases passed : finish ≥ deadline
          · rw [if_pos passed]
            exact ⟨closed, _, rfl⟩
          · rw [if_neg passed]
            have nearer := clocked.nearer read asked closing
              (Nat.not_le.mp passed)
            exact inductionHypothesis (by omega)
        · rw [if_pos empty]
          exact ⟨answered, _, rfl⟩

variable {fuel : Nat} (enough : waitLimit < fuel)

include enough

theorem verifyQuiet_returns
    (phase : QualificationPhase) (expected : String) (world : World) :
    ∃ after result,
      verifyQuiet candidate host implementation scenario fuel phase
        expected world = some (after, result) := by
  have now := clocked.now world
  rcases read : host.now world with ⟨reading, instant⟩
  rw [read] at now
  simp only at now
  simp only [verifyQuiet, read]
  have short : instant + quietWindow - time reading < fuel := by
    rw [now, Nat.add_sub_cancel_left]
    exact Nat.lt_trans (by decide) enough
  obtain ⟨after, awaited, ran⟩ := awaitEventFrom_returns clocked short
  rw [verifyQuietFrom_eq, ran]
  exact ⟨_, _, rfl⟩

theorem observeOne_returns
    (phase : QualificationPhase) (observations : List Observation)
    (world : World) :
    ∃ after extended result,
      observeOne candidate host implementation scenario fuel phase
        observations world = some (after, extended, result) := by
  have now := clocked.now world
  rcases read : host.now world with ⟨reading, instant⟩
  rw [read] at now
  simp only at now
  obtain ⟨after, awaited, ran⟩ :=
    @awaitEventFrom_returns _ _ _ _ clocked (instant + waitLimit) fuel
      reading (by rw [now, Nat.add_sub_cancel_left]; exact enough)
  simp only [observeOne, awaitEvent, read, ran]
  exact ⟨_, _, _, rfl⟩

theorem observeRearmed_returns
    (observations : List Observation) (world : World) :
    ∃ after extended result,
      observeRearmed candidate host implementation scenario fuel
        observations world = some (after, extended, result) := by
  obtain ⟨calm, quieted, first⟩ := verifyQuiet_returns clocked
    implementation scenario enough .disarm
    ("no delivery " ++ "before explicit rearm") world
  unfold observeRearmed verifyDisarmed
  rw [first]
  rcases quieted with cause | done
  · exact ⟨_, _, _, rfl⟩
  simp only
  rcases candidate.rearm calm with ⟨rearmed, actual | done⟩
  · exact ⟨_, _, _, rfl⟩
  simp only
  obtain ⟨observed, extended, result, second⟩ := observeOne_returns clocked
    implementation scenario enough .rearm observations rearmed
  rw [second]
  rcases result with cause | done
  · exact ⟨_, _, _, rfl⟩
  obtain ⟨settled, verified, last⟩ := verifyQuiet_returns clocked
    implementation scenario enough .disarm
    ("no delivery " ++ "after rearmed delivery") observed
  simp only [last]
  exact ⟨_, _, _, rfl⟩

theorem observeProfile_returns
    (observations : List Observation) (world : World) :
    ∃ after extended result,
      observeProfile candidate host implementation scenario fuel
        observations world = some (after, extended, result) := by
  obtain ⟨observed, extended, result, first⟩ := observeOne_returns clocked
    implementation scenario enough .wait observations world
  unfold observeProfile
  rw [first]
  rcases result with cause | done
  · exact ⟨_, _, _, rfl⟩
  cases scenario.profile with
  | initialObservation => exact ⟨_, _, _, rfl⟩
  | level =>
      exact observeOne_returns clocked implementation scenario enough
        .levelDelivery extended observed
  | oneShot =>
      exact observeRearmed_returns clocked implementation scenario enough
        extended observed

theorem observeActivated_returns (activated : Bool) (world : World) :
    ∃ after extended result,
      observeActivated candidate host implementation scenario fuel
        activated world = some (after, extended, result) := by
  unfold observeActivated
  cases activated with
  | false => exact ⟨world, [], .ok (), rfl⟩
  | true =>
      exact observeProfile_returns clocked implementation scenario enough
        [] world

theorem runSession_returns (world : World) :
    ∃ after observations failures,
      runSession candidate host implementation scenario fuel world =
        some (after, observations, failures) := by
  obtain ⟨calm, quieted, first⟩ := verifyQuiet_returns clocked
    implementation scenario enough .quiescence
    "no readiness before fixture activation" world
  rcases activating : host.activate calm with ⟨active, activated⟩
  obtain ⟨observed, extended, result, second⟩ :=
    observeActivated_returns clocked implementation scenario enough
      activated.isOk active
  simp only [runSession, verifyInitialQuiet, first, activating, second]
  exact ⟨_, _, _, rfl⟩

/-- Every case returns. -/
theorem run_returns (world : World) :
    ∃ after result,
      run candidate host implementation scenario fuel world =
        some (after, result) := by
  unfold run
  rcases candidate.support scenario.profile world with
    ⟨asked, actual | support⟩
  · exact ⟨_, _, rfl⟩
  simp only
  by_cases foreign : support ≠ .native
  · rw [if_pos foreign]
    exact ⟨_, _, rfl⟩
  rw [if_neg foreign]
  rcases host.fixture scenario asked with ⟨fixtured, actual | done⟩
  · exact ⟨_, _, rfl⟩
  simp only
  rcases candidate.register
      { key := registrationKey
        interest := scenario.interest
        profile := scenario.profile } fixtured with
    ⟨registered, actual | done⟩
  · exact ⟨_, _, rfl⟩
  · obtain ⟨after, observations, failures, ran⟩ := runSession_returns
      clocked implementation scenario enough registered
    simp only [ran]
    exact ⟨_, _, rfl⟩

end Termination

/-! ## Erasing the record -/

section Erasure

variable {World : Type*} (candidate : Candidate World) (host : Host World)
  (implementation : Implementation) (scenario : Scenario) (fuel : Nat)

/-- Forget the record of a result. -/
def erase {Result : Type*} (recorded : Recorded World × Result) :
    World × Result :=
  (recorded.1.1, recorded.2)

theorem record_ask
    {Answer : Type*} {exchange : Answer → Exchange}
    {ask : World → World × Answer} {before : Recorded World}
    {after : World} {answer : Answer}
    (asked : ask before.1 = (after, answer)) :
    record exchange ask before =
      ((after, before.2 ++ [exchange answer]), answer) := by
  simp only [record, asked]

variable {candidate host} in
theorem recorded_now
    {world reading : World} {log : List Exchange} {instant : Nat}
    (read : host.now world = (reading, instant)) :
    host.recorded.now (world, log) =
      ((reading, log ++ [.read instant]), instant) :=
  record_ask read

variable {candidate host} in
theorem recorded_wait
    {world answered : World} {log : List Exchange} {timeout : Nat}
    {answer : Except String EventBatch}
    (asked : candidate.wait timeout world = (answered, answer)) :
    candidate.recorded.wait timeout (world, log) =
      ((answered, log ++ [.waited timeout answer]), answer) :=
  record_ask asked

theorem awaitEventFrom_erase (deadline : Nat) (before : Recorded World) :
    (awaitEventFrom candidate.recorded host.recorded deadline fuel
        before).map erase =
      awaitEventFrom candidate host deadline fuel before.1 := by
  induction fuel generalizing before with
  | zero => rfl
  | succ fuel inductionHypothesis =>
      rcases read : host.now before.1 with ⟨reading, start⟩
      rcases asked : candidate.wait (deadline - start) reading with
        ⟨answered, actual | batch⟩
      · simp only [awaitEventFrom, read, recorded_now read, asked,
          recorded_wait asked]
        rfl
      · simp only [awaitEventFrom, read, recorded_now read, asked,
          recorded_wait asked]
        by_cases empty : batch.matchedEvents ≠ 0
        · rw [if_pos empty, if_pos empty]
          rfl
        · rw [if_neg empty, if_neg empty]
          rcases closing : host.now answered with ⟨closed, finish⟩
          simp only [closing, recorded_now closing]
          by_cases passed : finish ≥ deadline
          · rw [if_pos passed, if_pos passed]
            rfl
          · rw [if_neg passed, if_neg passed]
            exact inductionHypothesis _

theorem verifyQuietFrom_erase
    (phase : QualificationPhase) (expected : String) (deadline : Nat)
    (before : Recorded World) :
    (verifyQuietFrom candidate.recorded host.recorded implementation
        scenario phase expected deadline fuel before).map erase =
      verifyQuietFrom candidate host implementation scenario phase
        expected deadline fuel before.1 := by
  rw [verifyQuietFrom_eq, verifyQuietFrom_eq, ← awaitEventFrom_erase]
  rw [Option.map_map, Option.map_map]
  rfl

theorem verifyQuiet_erase
    (phase : QualificationPhase) (expected : String)
    (before : Recorded World) :
    (verifyQuiet candidate.recorded host.recorded implementation scenario
        fuel phase expected before).map erase =
      verifyQuiet candidate host implementation scenario fuel phase
        expected before.1 :=
  verifyQuietFrom_erase candidate host implementation scenario fuel phase
    expected _ _

theorem observeOne_erase
    (phase : QualificationPhase) (observations : List Observation)
    (before : Recorded World) :
    (observeOne candidate.recorded host.recorded implementation scenario
        fuel phase observations before).map erase =
      observeOne candidate host implementation scenario fuel phase
        observations before.1 := by
  have awaited :
      (awaitEvent candidate.recorded host.recorded fuel waitLimit
          before).map erase =
        awaitEvent candidate host fuel waitLimit before.1 :=
    awaitEventFrom_erase candidate host fuel _ _
  unfold observeOne
  rw [← awaited]
  cases awaitEvent candidate.recorded host.recorded fuel waitLimit
    before <;> rfl

theorem observeRearmed_erase
    (observations : List Observation) (before : Recorded World) :
    (observeRearmed candidate.recorded host.recorded implementation
        scenario fuel observations before).map erase =
      observeRearmed candidate host implementation scenario fuel
        observations before.1 := by
  unfold observeRearmed verifyDisarmed
  rw [← verifyQuiet_erase]
  rcases verifyQuiet candidate.recorded host.recorded implementation
      scenario fuel .disarm ("no delivery " ++ "before explicit rearm")
      before with _ | ⟨calm, cause | done⟩
  · rfl
  · rfl
  rcases asked : candidate.rearm calm.1 with ⟨rearmed, answer⟩
  have recorded : candidate.recorded.rearm calm =
      ((rearmed, calm.2 ++ [.rearmed answer]), answer) :=
    record_ask asked
  simp only [Option.map_some, erase, asked, recorded]
  rcases answer with actual | done
  · rfl
  simp only
  have observed := observeOne_erase candidate host implementation scenario
    fuel .rearm observations
    (rearmed, calm.2 ++ [Exchange.rearmed (.ok done)])
  rw [← observed]
  rcases observeOne candidate.recorded host.recorded implementation
      scenario fuel .rearm observations
      (rearmed, calm.2 ++ [Exchange.rearmed (.ok done)]) with
    _ | ⟨delivered, extended, cause | done⟩
  · rfl
  · rfl
  simp only [Option.map_some, erase]
  rw [← verifyQuiet_erase]
  cases verifyQuiet candidate.recorded host.recorded implementation scenario
    fuel .disarm ("no delivery " ++ "after rearmed delivery") delivered <;>
      rfl

theorem observeProfile_erase
    (observations : List Observation) (before : Recorded World) :
    (observeProfile candidate.recorded host.recorded implementation
        scenario fuel observations before).map erase =
      observeProfile candidate host implementation scenario fuel
        observations before.1 := by
  unfold observeProfile
  rw [← observeOne_erase]
  rcases observeOne candidate.recorded host.recorded implementation
      scenario fuel .wait observations before with
    _ | ⟨observed, extended, cause | done⟩
  · rfl
  · rfl
  simp only [Option.map_some, erase]
  cases scenario.profile with
  | initialObservation => rfl
  | level =>
      exact observeOne_erase candidate host implementation scenario fuel
        .levelDelivery extended observed
  | oneShot =>
      exact observeRearmed_erase candidate host implementation scenario
        fuel extended observed

theorem observeActivated_erase
    (activated : Bool) (before : Recorded World) :
    (observeActivated candidate.recorded host.recorded implementation
        scenario fuel activated before).map erase =
      observeActivated candidate host implementation scenario fuel
        activated before.1 := by
  cases activated with
  | false => rfl
  | true =>
      exact observeProfile_erase candidate host implementation scenario
        fuel [] before

theorem runSession_erase (before : Recorded World) :
    (runSession candidate.recorded host.recorded implementation scenario
        fuel before).map erase =
      runSession candidate host implementation scenario fuel before.1 := by
  unfold runSession verifyInitialQuiet
  rw [← verifyQuiet_erase]
  rcases verifyQuiet candidate.recorded host.recorded implementation
      scenario fuel .quiescence "no readiness before fixture activation"
      before with _ | ⟨calm, quieted⟩
  · rfl
  rcases activating : host.activate calm.1 with ⟨active, activated⟩
  have recorded : host.recorded.activate calm =
      ((active, calm.2 ++ [.activated activated]), activated) :=
    record_ask activating
  simp only [Option.map_some, erase, activating, recorded]
  have observed := observeActivated_erase candidate host implementation
    scenario fuel activated.isOk
    (active, calm.2 ++ [Exchange.activated activated])
  rw [← observed]
  rcases observeActivated candidate.recorded host.recorded implementation
      scenario fuel activated.isOk
      (active, calm.2 ++ [Exchange.activated activated]) with
    _ | ⟨extension, extended, result⟩
  · rfl
  · rfl

/-- Keeping a record changes nothing but the record. -/
theorem run_erase (before : Recorded World) :
    (run candidate.recorded host.recorded implementation scenario fuel
        before).map erase =
      run candidate host implementation scenario fuel before.1 := by
  rcases asking : candidate.support scenario.profile before.1 with
    ⟨asked, support⟩
  have asks : candidate.recorded.support scenario.profile before =
      ((asked, before.2 ++ [.supported support]), support) :=
    record_ask asking
  simp only [run, asking, asks]
  rcases support with actual | support
  · rfl
  simp only
  by_cases foreign : support ≠ .native
  · rw [if_pos foreign, if_pos foreign]
    rfl
  rw [if_neg foreign, if_neg foreign]
  generalize before.2 ++ [Exchange.supported (.ok support)] = log
  rcases fixing : host.fixture scenario asked with ⟨fixtured, fixture⟩
  have fixes : host.recorded.fixture scenario (asked, log) =
      ((fixtured, log ++ [.fixtured fixture]), fixture) :=
    record_ask fixing
  simp only [fixes]
  rcases fixture with actual | done
  · rfl
  simp only
  generalize log ++ [Exchange.fixtured (.ok done)] = log
  rcases registering : candidate.register
      { key := registrationKey
        interest := scenario.interest
        profile := scenario.profile } fixtured with
    ⟨registered, registration⟩
  have registers : candidate.recorded.register
        { key := registrationKey
          interest := scenario.interest
          profile := scenario.profile } (fixtured, log) =
      ((registered,
        log ++ [.registered
          { key := registrationKey
            interest := scenario.interest
            profile := scenario.profile } registration]),
        registration) :=
    record_ask registering
  simp only [registers]
  rcases registration with actual | done
  · rfl
  simp only
  generalize log ++ _ = log
  have session := runSession_erase candidate host implementation scenario
    fuel (registered, log)
  rw [← session]
  rcases runSession candidate.recorded host.recorded implementation
      scenario fuel (registered, log) with
    _ | ⟨finished, observations, failures⟩
  · rfl
  · rfl

end Erasure

/-! ## Observations -/

/-- How many deliveries a profile requires. -/
def DeliveryProfile.deliveries : DeliveryProfile → Nat
  | initialObservation => 1
  | level | oneShot => 2

section Observations

variable {World : Type*} {candidate : Candidate World} {host : Host World}
  {implementation : Implementation} {scenario : Scenario} {fuel : Nat}
  {before after : World} {observations extended : List Observation}

/-- An accepted observation is the flag of the scenario's direction. -/
theorem observeOne_extends
    {phase : QualificationPhase}
    (ran : observeOne candidate host implementation scenario fuel phase
      observations before = some (after, extended, .ok ())) :
    extended = observations ++ [scenario.interest.flag] := by
  unfold observeOne at ran
  split at ran
  · cases ran
  · rename_i world awaited waited
    injection ran with ran
    injection ran with _ judged
    have accepted :=
      (judge_ok_iff implementation scenario phase observations awaited).mp
        (by rw [judged])
    have contract :=
      (expectation_exact scenario scenario.interest.flag).mpr rfl
    rw [accepted] at judged
    simp only [judge, contract] at judged
    exact (Prod.ext_iff.mp judged).1.symm

theorem observeRearmed_extends
    (ran : observeRearmed candidate host implementation scenario fuel
      observations before = some (after, extended, .ok ())) :
    extended = observations ++ [scenario.interest.flag] := by
  unfold observeRearmed at ran
  split at ran
  · cases ran
  · cases ran
  · split at ran
    · cases ran
    · split at ran
      · cases ran
      · cases ran
      · rename_i world middle observed
        split at ran
        · cases ran
        · cases ran
          exact observeOne_extends observed

theorem observeProfile_extends
    (ran : observeProfile candidate host implementation scenario fuel
      observations before = some (after, extended, .ok ())) :
    extended =
      observations ++
        List.replicate scenario.profile.deliveries
          scenario.interest.flag := by
  unfold observeProfile at ran
  split at ran
  · cases ran
  · cases ran
  · rename_i world middle observed
    have first := observeOne_extends observed
    split at ran
    · rename_i profile
      cases ran
      rw [profile]
      exact first
    · rename_i profile
      rw [profile, observeOne_extends ran, first, List.append_assoc]
      rfl
    · rename_i profile
      rw [profile, observeRearmed_extends ran, first, List.append_assoc]
      rfl

/-- A session without a failure made exactly the required observations. -/
theorem runSession_observations
    (ran : runSession candidate host implementation scenario fuel before =
      some (after, observations, [])) :
    observations =
      List.replicate scenario.profile.deliveries
        scenario.interest.flag := by
  unfold runSession at ran
  split at ran
  · cases ran
  · rename_i calm quieted _
    rcases activating : host.activate calm with ⟨active, activated⟩
    simp only [activating] at ran
    split at ran
    · cases ran
    · rename_i observed made result observes
      rcases deleting : candidate.delete observed with ⟨gone, deleted⟩
      rcases operating : host.verifyOperation gone with
        ⟨finished, operated⟩
      simp only [deleting, operating, Option.some.injEq, Prod.mk.injEq,
        List.append_eq_nil_iff, observedFailure_nil, phaseFailure_nil]
        at ran
      obtain ⟨_, rfl, ⟨⟨⟨_, succeeded⟩, rfl⟩, _⟩, _⟩ := ran
      rw [succeeded] at observes
      exact observeProfile_extends observes

end Observations

/-! ## Cases -/

section Cases

variable {World : Type*} {candidate : Candidate World} {host : Host World}
  {implementation : Implementation} {scenario : Scenario} {fuel : Nat}

/-- What the record of a case says about its receipt. -/
structure Audited
    (scenario : Scenario) (log : List Exchange) (result : CaseResult) :
    Prop where
  passed : result.outcome = .passed ↔ log ∈ conforming scenario
  observed : result.outcome = .passed →
    result.observations =
      List.replicate scenario.profile.deliveries scenario.interest.flag
  notRun : ∀ support, result.outcome = .notRun support →
    support ≠ .native ∧ log = [.supported (.ok support)]
  failed : result.outcome ≠ .failed []
  ended : ∀ spec, .registered spec (.ok ()) ∈ log →
    ∃ earlier deleted operated,
      log = earlier ++ [.deleted deleted, .operated operated] ∧
        ∀ exchange ∈ earlier, ¬ exchange.Ends

/-- A case that failed before its session began. -/
theorem Audited.early
    {log : List Exchange} {result : CaseResult}
    {failure : QualificationFailure}
    (outcome : result.outcome = .failed [failure])
    (verdict : Verdict (conforming scenario) False log)
    (unregistered : ∀ spec, .registered spec (.ok ()) ∉ log) :
    Audited scenario log result :=
  { passed := by
      rw [outcome]
      exact iff_of_false (fun impossible => by cases impossible)
        (verdict.iff.not.mp id)
    observed := fun passed => by
      rw [outcome] at passed
      cases passed
    notRun := fun support notRun => by
      rw [outcome] at notRun
      cases notRun
    failed := by
      rw [outcome]
      intro empty
      cases empty
    ended := fun spec member => (unregistered spec member).elim }

/-- The record of every case decides its receipt. -/
theorem run_audited
    {world after : World} {log : List Exchange} {result : CaseResult}
    (ran : run candidate.recorded host.recorded implementation scenario
      fuel (world, []) = some ((after, log), result)) :
    Audited scenario log result := by
  rcases asking : candidate.recorded.support scenario.profile (world, [])
    with ⟨asked, support⟩
  have supports :
      Verdict {[Exchange.supported (.ok .native)]}
        (support = .ok .native) [Exchange.supported support] :=
    Verdict.letter (fun _ _ same => by injection same) _ _
  have first := record_grew asking
  simp only [run, asking] at ran
  rcases support with actual | support
  · cases ran
    rw [first.whole]
    refine .early rfl (supports.cut (fun impossible => by
      cases impossible) []) ?_
    simp
  simp only at ran
  by_cases foreign : support ≠ .native
  · rw [if_pos foreign] at ran
    cases ran
    rw [first.whole]
    have verdict : Verdict (conforming scenario) False
        ([Exchange.supported (.ok support)] ++ []) :=
      supports.cut (fun held => foreign (by injection held)) []
    exact
      { passed := iff_of_false (fun impossible => by cases impossible)
          (verdict.iff.not.mp id)
        observed := fun impossible => by cases impossible
        notRun := fun other same => by
          cases same
          exact ⟨foreign, rfl⟩
        failed := fun impossible => by cases impossible
        ended := fun spec member => by simp at member }
  rw [if_neg foreign] at ran
  rcases fixing : host.recorded.fixture scenario asked with
    ⟨fixtured, fixture⟩
  have fixtures :
      Verdict {[Exchange.fixtured (.ok ())]} (fixture = .ok ())
        [Exchange.fixtured fixture] :=
    Verdict.letter (fun _ _ same => by injection same) _ _
  have second := first.trans (record_grew fixing)
  rw [fixing] at ran
  rcases fixture with actual | done
  · cases ran
    rw [second.whole]
    refine .early rfl ((supports.mul (.single _) fun _ =>
      fixtures.cut (fun impossible => by cases impossible) []).congr
        (iff_of_false And.right id)) ?_
    simp
  simp only at ran
  rcases registering :
      candidate.recorded.register (registrationSpec scenario) fixtured with
    ⟨registered, registration⟩
  have registers :
      Verdict
        {[Exchange.registered (registrationSpec scenario) (.ok ())]}
        (registration = .ok ())
        [Exchange.registered (registrationSpec scenario) registration] :=
    Verdict.letter (fun _ _ same => by injection same) _ _
  have third := second.trans (record_grew registering)
  unfold registrationSpec at registering
  rw [registering] at ran
  rcases registration with actual | done
  · cases ran
    rw [third.whole]
    refine .early rfl ((supports.mul (.single _) fun _ =>
      fixtures.mul (.single _) fun _ =>
        registers.cut (fun impossible => by cases impossible) []).congr
          (iff_of_false (fun held => held.2.2) id)) ?_
    simp
  simp only at ran
  split at ran
  · cases ran
  · rename_i finished observations failures session
    obtain ⟨added, deleted, operated, grew, unended, judged⟩ :=
      runSession_judged session
    cases ran
    rw [(third.trans grew).whole]
    have native : support = .native := not_not.mp foreign
    have verdict : Verdict (conforming scenario) (failures = [])
        ([.supported (.ok support)] ++ ([.fixtured (.ok done)] ++
          ([.registered (registrationSpec scenario) (.ok ())] ++
            (added ++ [.deleted deleted, .operated operated])))) :=
      (supports.mul (.single _) fun _ => fixtures.mul (.single _) fun _ =>
        registers.mul (.single _) fun _ => judged).congr
          ⟨fun held => held.2.2.2,
            fun held => ⟨by rw [native], rfl, rfl, held⟩⟩
    have outcome :
        (if failures.isEmpty then CaseOutcome.passed
          else .failed failures) = .passed ↔ failures = [] := by
      cases failures <;> simp
    exact
      { passed := by
          rw [outcome, verdict.iff]
          simp only [List.append_assoc]
        observed := fun passed => by
          rw [outcome] at passed
          rw [passed] at session
          exact runSession_observations session
        notRun := fun other same => by
          cases failures <;> simp at same
        failed := by cases failures <;> simp
        ended := fun spec _ =>
          ⟨[.supported (.ok support)] ++ [.fixtured (.ok done)] ++
            [.registered (registrationSpec scenario) (.ok ())] ++ added,
            deleted, operated, by simp only [List.append_assoc], by
              intro exchange member
              simp only [List.mem_append, List.mem_singleton] at member
              rcases member with ((rfl | rfl) | rfl) | member
              · exact id
              · exact id
              · exact id
              · exact unended exchange member⟩ }

/-- Every case returns, and its receipt is what the record of its exchanges
says. -/
theorem run_sound
    {time : World → Nat} (clocked : Clocked candidate host time)
    (implementation : Implementation) (scenario : Scenario) {fuel : Nat}
    (enough : waitLimit < fuel) (world : World) :
    ∃ after log result,
      run candidate host implementation scenario fuel world =
          some (after, result) ∧
        run candidate.recorded host.recorded implementation scenario fuel
            (world, []) = some ((after, log), result) ∧
        Audited scenario log result := by
  obtain ⟨⟨after, log⟩, result, ran⟩ := run_returns clocked.recorded
    implementation scenario enough (world, [])
  have plain :=
    run_erase candidate host implementation scenario fuel (world, [])
  rw [ran] at plain
  exact ⟨after, log, result, plain.symm, ran, run_audited ran⟩

end Cases

/-- A candidate that reports the readable flag once its fixture is ready. -/
def steadyCandidate : Candidate (Nat × Bool) :=
  { support := fun _ world => (world, .ok .native)
    configuredDelivery := fun _ => .level
    register := fun _ world => (world, .ok ())
    wait := fun timeout world =>
      ((world.1 + timeout + 1, world.2),
        .ok (if world.2 then ⟨1, .readable⟩ else ⟨0, .empty⟩))
    rearm := fun world => (world, .ok ())
    delete := fun world => (world, .ok ()) }

/-- A fixture that is ready once it is activated. -/
def steadyHost : Host (Nat × Bool) :=
  { now := fun world => (world, world.1)
    fixture := fun _ world => (world, .ok ())
    activate := fun world => ((world.1, true), .ok ())
    verifyOperation := fun world => (world, .ok ()) }

theorem steady_sound :
    ∃ after log result,
      run steadyCandidate steadyHost .zio .unixReadableLevel
          (waitLimit + 1) (0, false) = some (after, result) ∧
        run steadyCandidate.recorded steadyHost.recorded .zio
            .unixReadableLevel (waitLimit + 1) ((0, false), []) =
          some ((after, log), result) ∧
        Audited .unixReadableLevel log result := by
  have clocked : Clocked steadyCandidate steadyHost Prod.fst :=
    { now := fun _ => rfl
      forward := fun _ => Nat.le_refl _
      wait := fun timeout world =>
        Nat.lt_succ_of_le (Nat.le_add_right world.1 timeout) }
  exact run_sound clocked .zio .unixReadableLevel (Nat.lt_succ_self _)
    (0, false)

example :
    (run steadyCandidate steadyHost .zio .unixReadableLevel
        (waitLimit + 1) (0, false)).map (fun ran => ran.2.outcome) =
      some .passed := by
  decide

end Zio.Qualify
