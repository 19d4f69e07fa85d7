import Zio.Library.Phrase
import Zio.Qualify.Report

/-!
# What a passed case has seen

A recorded execution keeps every exchange between the harness, the candidate,
the fixture and the clock.  A case passes exactly when its record is a
conforming one: quiet for the whole window before activation, one delivery of
exactly the expected flag for each observation that the profile requires, quiet
again around an explicit rearm, then a deletion and the fixture's operation.
-/

namespace Zio.Qualify

open Benchmark (Implementation)
open Phrase

/-! ## Records -/

/-- One question of the harness, with its answer. -/
inductive Exchange where
  | supported (answer : Except String ProfileSupport)
  | fixtured (answer : Except String Unit)
  | registered (spec : RegistrationSpec) (answer : Except String Unit)
  | read (instant : Nat)
  | waited (timeout : Nat) (answer : Except String EventBatch)
  | activated (answer : Except String Unit)
  | rearmed (answer : Except String Unit)
  | deleted (answer : Except String Unit)
  | operated (answer : Except String Unit)

/-- The exchange ends the session or the fixture. -/
def Exchange.Ends : Exchange → Prop
  | .deleted _ | .operated _ => True
  | _ => False

/-- A world that keeps the record of its exchanges. -/
abbrev Recorded (World : Type*) := World × List Exchange

section Recording

variable {World Answer : Type*}

/-- Ask, and add the exchange to the record. -/
def record
    (exchange : Answer → Exchange) (ask : World → World × Answer)
    (recorded : Recorded World) : Recorded World × Answer :=
  let (world, answer) := ask recorded.1
  ((world, recorded.2 ++ [exchange answer]), answer)

def Candidate.recorded (candidate : Candidate World) :
    Candidate (Recorded World) :=
  { support := fun profile =>
      record .supported (candidate.support profile)
    configuredDelivery := candidate.configuredDelivery
    register := fun spec =>
      record (.registered spec) (candidate.register spec)
    wait := fun timeout =>
      record (.waited timeout) (candidate.wait timeout)
    rearm := record .rearmed candidate.rearm
    delete := record .deleted candidate.delete }

def Host.recorded (host : Host World) : Host (Recorded World) :=
  { now := record .read host.now
    fixture := fun scenario => record .fixtured (host.fixture scenario)
    activate := record .activated host.activate
    verifyOperation := record .operated host.verifyOperation }

/-- Between two moments the record grew by the given exchanges. -/
def Grew
    (before after : Recorded World) (added : List Exchange) : Prop :=
  after.2 = before.2 ++ added

theorem Grew.refl (recorded : Recorded World) :
    Grew recorded recorded [] :=
  (List.append_nil _).symm

theorem Grew.trans
    {first second third : Recorded World} {added more : List Exchange}
    (grew : Grew first second added) (next : Grew second third more) :
    Grew first third (added ++ more) := by
  unfold Grew at *
  rw [next, grew, List.append_assoc]

/-- A record that began empty holds what it grew by. -/
theorem Grew.whole
    {world after : World} {log added : List Exchange}
    (grew : Grew (world, []) (after, log) added) : log = added :=
  grew

theorem record_grew
    {exchange : Answer → Exchange} {ask : World → World × Answer}
    {before after : Recorded World} {answer : Answer}
    (asked : record exchange ask before = (after, answer)) :
    Grew before after [exchange answer] := by
  cases asked
  rfl

end Recording

/-! ## Conforming records -/

/-- Empty waits until the clock has passed the deadline. -/
inductive Quiet (deadline : Nat) : List Exchange → Prop
  | last {start finish : Nat} {batch : EventBatch} :
      batch.matchedEvents = 0 → deadline ≤ finish →
      Quiet deadline
        [.read start, .waited (deadline - start) (.ok batch), .read finish]
  | again {start middle : Nat} {batch : EventBatch}
      {rest : List Exchange} :
      batch.matchedEvents = 0 → middle < deadline →
      Quiet deadline rest →
      Quiet deadline
        ([.read start, .waited (deadline - start) (.ok batch),
          .read middle] ++ rest)

/-- Empty waits before the deadline, then one delivery of the flag. -/
inductive Delivery (flag : Observation) (deadline : Nat) :
    List Exchange → Prop
  | now {start : Nat} :
      Delivery flag deadline
        [.read start, .waited (deadline - start) (.ok ⟨1, flag⟩)]
  | later {start middle : Nat} {batch : EventBatch}
      {rest : List Exchange} :
      batch.matchedEvents = 0 → middle < deadline →
      Delivery flag deadline rest →
      Delivery flag deadline
        ([.read start, .waited (deadline - start) (.ok batch),
          .read middle] ++ rest)

/-- A deadline is a limit after a reading of the clock. -/
def within (limit : Nat) (body : Nat → List Exchange → Prop) :
    Language Exchange :=
  {log | ∃ instant rest,
    log = .read instant :: rest ∧ body (instant + limit) rest}

/-- Nothing is delivered for the quiet window. -/
def quiet : Language Exchange := within quietWindow Quiet

/-- One delivery of the flag within the wait limit. -/
def delivery (flag : Observation) : Language Exchange :=
  within waitLimit (Delivery flag)

/-- The deliveries that a profile requires. -/
def delivered (scenario : Scenario) : Language Exchange :=
  match scenario.profile with
  | .initialObservation => 1
  | .level => delivery scenario.interest.flag
  | .oneShot =>
      quiet *
        ({[.rearmed (.ok ())]} * (delivery scenario.interest.flag * quiet))

def registrationSpec (scenario : Scenario) : RegistrationSpec :=
  { key := registrationKey
    interest := scenario.interest
    profile := scenario.profile }

/-- The record of a session without any failure, before its end. -/
def observing (scenario : Scenario) : Language Exchange :=
  quiet *
    ({[.activated (.ok ())]} *
      (delivery scenario.interest.flag * delivered scenario))

/-- The end of a session without any failure. -/
def ending : Language Exchange :=
  {[.deleted (.ok ())]} * {[.operated (.ok ())]}

/-- The record of a case without any failure. -/
def conforming (scenario : Scenario) : Language Exchange :=
  {[.supported (.ok .native)]} *
    ({[.fixtured (.ok ())]} *
      ({[.registered (registrationSpec scenario) (.ok ())]} *
        (observing scenario * ending)))

/-! ### No conforming record continues another one -/

theorem Quiet.free
    {deadline : Nat} {word other : List Exchange}
    (quiet : Quiet deadline word) (again : Quiet deadline other)
    {rest tail : List Exchange} (same : word ++ rest = other ++ tail) :
    word = other := by
  induction quiet generalizing other with
  | last empty passed =>
      cases again with
      | last _ _ =>
          simp only [List.cons_append, List.nil_append, List.cons.injEq]
            at same
          obtain ⟨reads, waits, finishes, _⟩ := same
          rw [reads, waits, finishes]
      | again _ early _ =>
          simp only [List.cons_append, List.nil_append, List.cons.injEq]
            at same
          obtain ⟨_, _, finishes, _⟩ := same
          cases finishes
          omega
  | again empty early _ inductionHypothesis =>
      cases again with
      | last _ passed =>
          simp only [List.cons_append, List.nil_append, List.cons.injEq]
            at same
          obtain ⟨_, _, finishes, _⟩ := same
          cases finishes
          omega
      | again _ _ further =>
          simp only [List.cons_append, List.nil_append, List.cons.injEq]
            at same
          obtain ⟨reads, waits, middles, later⟩ := same
          rw [reads, waits, middles, inductionHypothesis further later]

/-- A delivery is no empty wait. -/
theorem waited_nonempty
    {flag : Observation} {batch : EventBatch} {timeout other : Nat}
    (same : Exchange.waited timeout (.ok ⟨1, flag⟩) =
      .waited other (.ok batch)) :
    batch.matchedEvents ≠ 0 := by
  injection same with _ batches
  injection batches with batches
  rw [← batches]
  exact Nat.one_ne_zero

theorem Delivery.free
    {flag : Observation} {deadline : Nat} {word other : List Exchange}
    (delivery : Delivery flag deadline word)
    (again : Delivery flag deadline other) {rest tail : List Exchange}
    (same : word ++ rest = other ++ tail) : word = other := by
  induction delivery generalizing other with
  | now =>
      cases again with
      | now =>
          simp only [List.cons_append, List.nil_append, List.cons.injEq]
            at same
          obtain ⟨reads, _⟩ := same
          cases reads
          rfl
      | later empty _ _ =>
          simp only [List.cons_append, List.nil_append, List.cons.injEq]
            at same
          obtain ⟨_, waits, _⟩ := same
          exact (waited_nonempty waits empty).elim
  | later empty _ _ inductionHypothesis =>
      cases again with
      | now =>
          simp only [List.cons_append, List.nil_append, List.cons.injEq]
            at same
          obtain ⟨_, waits, _⟩ := same
          exact (waited_nonempty waits.symm empty).elim
      | later _ _ further =>
          simp only [List.cons_append, List.nil_append, List.cons.injEq]
            at same
          obtain ⟨reads, waits, middles, later⟩ := same
          rw [reads, waits, middles, inductionHypothesis further later]

theorem within_free
    {limit : Nat} {body : Nat → List Exchange → Prop}
    (free : ∀ deadline, PrefixFree {log | body deadline log}) :
    PrefixFree (within limit body) := by
  rintro _ ⟨instant, word, rfl, member⟩ _ ⟨other, otherWord, rfl,
    otherMember⟩ rest tail same
  simp only [List.cons_append, List.cons.injEq] at same
  obtain ⟨reads, same⟩ := same
  cases reads
  rw [free _ word member otherWord otherMember rest tail same]

theorem quiet_free : PrefixFree quiet :=
  within_free fun _ _ member _ otherMember _ _ same =>
    Quiet.free member otherMember same

theorem delivery_free (flag : Observation) :
    PrefixFree (delivery flag) :=
  within_free fun _ _ member _ otherMember _ _ same =>
    Delivery.free member otherMember same

theorem delivered_free (scenario : Scenario) :
    PrefixFree (delivered scenario) := by
  unfold delivered
  cases scenario.profile with
  | initialObservation => exact .one
  | level => exact delivery_free _
  | oneShot =>
      exact quiet_free.mul
        ((PrefixFree.single _).mul ((delivery_free _).mul quiet_free))

theorem observing_free (scenario : Scenario) :
    PrefixFree (observing scenario) :=
  quiet_free.mul ((PrefixFree.single _).mul
    ((delivery_free _).mul (delivered_free scenario)))

/-! ## The two loops -/

section Loops

variable {World : Type*} (candidate : Candidate World) (host : Host World)
  (implementation : Implementation) (scenario : Scenario)

/-- The judgement of a quiet window by the wait that ended it. -/
def judgeQuiet
    (phase : QualificationPhase) (expected : String)
    (awaited : Except String EventBatch) :
    Except QualificationFailure Unit :=
  match awaited with
  | .error actual => .error
      { implementation, scenario, phase
        expected := "successful quiet-window wait: " ++ expected
        actual }
  | .ok batch =>
      if batch.matchedEvents ≠ 0 then .error
        { implementation, scenario, phase, expected
          actual := batchDescription batch }
      else .ok ()

/-- Both loops wait alike: a quiet window is an awaited event that is judged
otherwise. -/
theorem verifyQuietFrom_eq
    (phase : QualificationPhase) (expected : String) (deadline fuel : Nat)
    (world : World) :
    verifyQuietFrom candidate host implementation scenario phase expected
        deadline fuel world =
      (awaitEventFrom candidate host deadline fuel world).map
        fun (after, awaited) =>
          (after,
            judgeQuiet implementation scenario phase expected awaited) := by
  induction fuel generalizing world with
  | zero => rfl
  | succ fuel inductionHypothesis =>
      rcases read : host.now world with ⟨reading, start⟩
      rcases asked : candidate.wait (deadline - start) reading with
        ⟨answered, actual | batch⟩
      · simp only [verifyQuietFrom, awaitEventFrom, read, asked]
        rfl
      · simp only [verifyQuietFrom, awaitEventFrom, read, asked]
        by_cases empty : batch.matchedEvents = 0
        · rw [if_neg (not_not.mpr empty), if_neg (not_not.mpr empty)]
          rcases closing : host.now answered with ⟨closed, finish⟩
          simp only [closing]
          by_cases passed : finish ≥ deadline
          · simp only [if_pos passed, Option.map_some, judgeQuiet]
            rw [if_neg (not_not.mpr empty)]
          · simp only [if_neg passed]
            exact inductionHypothesis closed
        · simp only [if_pos (show batch.matchedEvents ≠ 0 from empty),
            Option.map_some, judgeQuiet]

end Loops

/-! ## Judged executions -/

section Judged

variable {World : Type*} {candidate : Candidate World} {host : Host World}
  {implementation : Implementation} {scenario : Scenario} {fuel : Nat}
  {before after : Recorded World}

/-- A part of an execution ended neither the session nor the fixture, and it
added a phrase of the language if it was accepted, and otherwise something that
no phrase agrees with. -/
def Judged
    (language : Language Exchange) (accepted : Prop)
    (before after : Recorded World) : Prop :=
  ∃ added, Grew before after added ∧
    (∀ exchange ∈ added, ¬ exchange.Ends) ∧
    Verdict language accepted added

theorem Judged.then
    {first second : Language Exchange} {accepted next : Prop}
    {middle : Recorded World}
    (judged : Judged first accepted before middle)
    (free : PrefixFree first)
    (later : Judged second next middle after) :
    Judged (first * second) (accepted ∧ next) before after := by
  obtain ⟨added, grew, unended, verdict⟩ := judged
  obtain ⟨more, grewMore, openMore, nextVerdict⟩ := later
  exact ⟨added ++ more, grew.trans grewMore,
    List.forall_mem_append.mpr ⟨unended, openMore⟩,
    verdict.mul free fun _ => nextVerdict⟩

theorem Judged.stop
    {first second : Language Exchange} {accepted : Prop}
    (judged : Judged first accepted before after)
    (rejected : ¬ accepted) :
    Judged (first * second) False before after := by
  obtain ⟨added, grew, unended, verdict⟩ := judged
  have cut : Verdict (first * second) False (added ++ []) :=
    verdict.cut rejected []
  rw [List.append_nil] at cut
  exact ⟨added, grew, unended, cut⟩

theorem Judged.congr
    {language : Language Exchange} {accepted other : Prop}
    (judged : Judged language accepted before after)
    (same : accepted ↔ other) : Judged language other before after := by
  obtain ⟨added, grew, unended, verdict⟩ := judged
  exact ⟨added, grew, unended, verdict.congr same⟩

/-- A question that is expected to succeed. -/
theorem record_judged
    {exchange : Except String Unit → Exchange}
    (injective : Function.Injective exchange)
    (unended : ∀ answer, ¬ (exchange answer).Ends)
    {ask : World → World × Except String Unit}
    {answer : Except String Unit}
    (asked : record exchange ask before = (after, answer)) :
    Judged {[exchange (.ok ())]} (answer = .ok ()) before after :=
  ⟨[exchange answer], record_grew asked,
    List.forall_mem_singleton.mpr (unended answer),
    Verdict.letter injective _ _⟩

/-- What a loop adds to the record, for one turn of each kind: a failed wait,
an event, the deadline, and an empty wait before it. -/
theorem awaitEventFrom_induction
    {deadline : Nat}
    {motive : List Exchange → Except String EventBatch → Prop}
    (failed : ∀ start actual,
      motive [.read start, .waited (deadline - start) (.error actual)]
        (.error actual))
    (arrived : ∀ start batch, batch.matchedEvents ≠ 0 →
      motive [.read start, .waited (deadline - start) (.ok batch)]
        (.ok batch))
    (elapsed : ∀ start finish batch,
      batch.matchedEvents = 0 → deadline ≤ finish →
      motive [.read start, .waited (deadline - start) (.ok batch),
        .read finish] (.ok batch))
    (again : ∀ start middle batch rest awaited,
      batch.matchedEvents = 0 → middle < deadline → motive rest awaited →
      motive ([.read start, .waited (deadline - start) (.ok batch),
        .read middle] ++ rest) awaited)
    {awaited : Except String EventBatch}
    (ran : awaitEventFrom candidate.recorded host.recorded deadline fuel
      before = some (after, awaited)) :
    ∃ added, Grew before after added ∧
      (∀ exchange ∈ added, ¬ exchange.Ends) ∧ motive added awaited := by
  induction fuel generalizing before with
  | zero => cases ran
  | succ fuel inductionHypothesis =>
      rcases read : host.recorded.now before with ⟨reading, start⟩
      rcases asked : candidate.recorded.wait (deadline - start) reading with
        ⟨answered, actual | batch⟩
      · simp only [awaitEventFrom, read, asked] at ran
        cases ran
        exact ⟨_, (record_grew read).trans (record_grew asked),
          by simp [Exchange.Ends], failed start actual⟩
      · simp only [awaitEventFrom, read, asked] at ran
        have waited := (record_grew read).trans (record_grew asked)
        by_cases empty : batch.matchedEvents = 0
        · rw [if_neg (not_not.mpr empty)] at ran
          rcases closing : host.recorded.now answered with
            ⟨closed, finish⟩
          simp only [closing] at ran
          have closedAfter := waited.trans (record_grew closing)
          by_cases passed : finish ≥ deadline
          · simp only [if_pos passed] at ran
            cases ran
            exact ⟨_, closedAfter, by simp [Exchange.Ends],
              elapsed start finish batch empty passed⟩
          · simp only [if_neg passed] at ran
            obtain ⟨rest, grew, unended, held⟩ := inductionHypothesis ran
            exact ⟨_, closedAfter.trans grew,
              List.forall_mem_append.mpr ⟨by simp [Exchange.Ends], unended⟩,
              again start finish batch rest awaited empty
                (Nat.not_le.mp passed) held⟩
        · rw [if_pos empty] at ran
          cases ran
          exact ⟨_, waited, by simp [Exchange.Ends],
            arrived start batch empty⟩

/-! ### Quiet windows -/

theorem Quiet.clash
    {deadline start timeout : Nat} {answer : Except String EventBatch}
    (eventful : ∀ batch, answer = .ok batch → batch.matchedEvents ≠ 0) :
    Clashes {log | Quiet deadline log}
      [.read start, .waited timeout answer] := by
  intro word member rest tail same
  cases member with
  | last empty _ =>
      simp only [List.cons_append, List.nil_append, List.cons.injEq]
        at same
      obtain ⟨_, waits, _⟩ := same
      injection waits with _ answers
      exact eventful _ answers.symm empty
  | again empty _ _ =>
      simp only [List.cons_append, List.nil_append, List.cons.injEq]
        at same
      obtain ⟨_, waits, _⟩ := same
      injection waits with _ answers
      exact eventful _ answers.symm empty

/-- An empty wait before the deadline leaves the rest to be judged. -/
theorem Quiet.verdict_again
    {deadline start middle : Nat} {batch : EventBatch} {accepted : Prop}
    {rest : List Exchange} (empty : batch.matchedEvents = 0)
    (early : middle < deadline)
    (verdict : Verdict {log | Quiet deadline log} accepted rest) :
    Verdict {log | Quiet deadline log} accepted
      ([.read start, .waited (deadline - start) (.ok batch),
        .read middle] ++ rest) := by
  constructor
  · intro held
    exact Quiet.again empty early (verdict.member held)
  · intro rejected word member tail more same
    cases member with
    | last _ passed =>
        simp only [List.cons_append, List.nil_append, List.cons.injEq]
          at same
        obtain ⟨_, _, finishes, _⟩ := same
        cases finishes
        omega
    | again _ _ further =>
        simp only [List.cons_append, List.nil_append, List.cons.injEq]
          at same
        obtain ⟨_, _, _, later⟩ := same
        exact verdict.clash rejected _ further _ _ later

theorem verifyQuietFrom_judged
    {phase : QualificationPhase} {expected : String} {deadline : Nat}
    {result : Except QualificationFailure Unit}
    (ran : verifyQuietFrom candidate.recorded host.recorded implementation
      scenario phase expected deadline fuel before =
        some (after, result)) :
    Judged {log | Quiet deadline log} (result = .ok ()) before after := by
  rw [verifyQuietFrom_eq] at ran
  obtain ⟨⟨ended, awaited⟩, waited, same⟩ := Option.map_eq_some_iff.mp ran
  cases same
  -- A window is accepted if the wait that ended it was an empty one.
  refine awaitEventFrom_induction
    (motive := fun added awaited => Verdict {log | Quiet deadline log}
      (judgeQuiet implementation scenario phase expected awaited = .ok ())
      added)
    ?failed ?arrived ?elapsed ?again waited
  case failed =>
    intro start actual
    exact
      { member := fun impossible => by cases impossible
        clash := fun _ => Quiet.clash fun _ impossible => by
          cases impossible }
  case arrived =>
    intro start batch eventful
    simp only [judgeQuiet, if_pos eventful]
    exact
      { member := fun impossible => by cases impossible
        clash := fun _ => Quiet.clash fun other same => by
          cases same
          exact eventful }
  case elapsed =>
    intro start finish batch empty passed
    simp only [judgeQuiet, if_neg (not_not.mpr empty)]
    exact
      { member := fun _ => Quiet.last empty passed
        clash := fun rejected => (rejected trivial).elim }
  case again =>
    intro start middle batch rest awaited empty early verdict
    exact Quiet.verdict_again empty early verdict

/-- A window judged from its first reading of the clock. -/
theorem within_judged
    {limit instant : Nat} {body : Nat → List Exchange → Prop}
    {accepted : Prop} {reading : Recorded World}
    (read : host.recorded.now before = (reading, instant))
    (judged : Judged {log | body (instant + limit) log} accepted reading
      after) :
    Judged (within limit body) accepted before after := by
  obtain ⟨added, grew, unended, verdict⟩ := judged
  refine ⟨_, (record_grew read).trans grew,
    List.forall_mem_append.mpr ⟨by simp [Exchange.Ends], unended⟩, ?_⟩
  constructor
  · intro held
    exact ⟨instant, added, rfl, verdict.member held⟩
  · rintro rejected _ ⟨other, word, rfl, member⟩ rest tail same
    simp only [List.cons_append, List.nil_append, List.cons.injEq] at same
    obtain ⟨reads, later⟩ := same
    cases reads
    exact verdict.clash rejected word member rest tail later

theorem verifyQuiet_judged
    {phase : QualificationPhase} {expected : String}
    {result : Except QualificationFailure Unit}
    (ran : verifyQuiet candidate.recorded host.recorded implementation
      scenario fuel phase expected before = some (after, result)) :
    Judged quiet (result = .ok ()) before after := by
  rcases read : host.recorded.now before with ⟨reading, instant⟩
  simp only [verifyQuiet, read] at ran
  exact within_judged read (verifyQuietFrom_judged ran)

/-! ### Deliveries -/

/-- A wait that is neither empty nor the expected delivery. -/
theorem Delivery.clash
    {flag : Observation} {deadline start timeout : Nat}
    {answer : Except String EventBatch}
    (eventful : ∀ batch, answer = .ok batch → batch.matchedEvents ≠ 0)
    (unexpected : answer ≠ .ok ⟨1, flag⟩) :
    Clashes {log | Delivery flag deadline log}
      [.read start, .waited timeout answer] := by
  intro word member rest tail same
  cases member with
  | now =>
      simp only [List.cons_append, List.nil_append, List.cons.injEq]
        at same
      obtain ⟨_, waits, _⟩ := same
      injection waits with _ answers
      exact unexpected answers.symm
  | later empty _ _ =>
      simp only [List.cons_append, List.nil_append, List.cons.injEq]
        at same
      obtain ⟨_, waits, _⟩ := same
      injection waits with _ answers
      exact eventful _ answers.symm empty

/-- The deadline elapsed without a delivery. -/
theorem Delivery.clash_late
    {flag : Observation} {deadline start timeout finish : Nat}
    {batch : EventBatch} (empty : batch.matchedEvents = 0)
    (passed : deadline ≤ finish) :
    Clashes {log | Delivery flag deadline log}
      [.read start, .waited timeout (.ok batch), .read finish] := by
  intro word member rest tail same
  cases member with
  | now =>
      simp only [List.cons_append, List.nil_append, List.cons.injEq]
        at same
      obtain ⟨_, waits, _⟩ := same
      exact waited_nonempty waits empty
  | later _ early _ =>
      simp only [List.cons_append, List.nil_append, List.cons.injEq]
        at same
      obtain ⟨_, _, finishes, _⟩ := same
      cases finishes
      omega

theorem Delivery.verdict_later
    {flag : Observation} {deadline start middle : Nat}
    {batch : EventBatch} {accepted : Prop} {rest : List Exchange}
    (empty : batch.matchedEvents = 0) (early : middle < deadline)
    (verdict : Verdict {log | Delivery flag deadline log} accepted rest) :
    Verdict {log | Delivery flag deadline log} accepted
      ([.read start, .waited (deadline - start) (.ok batch),
        .read middle] ++ rest) := by
  constructor
  · intro held
    exact Delivery.later empty early (verdict.member held)
  · intro rejected word member tail more same
    cases member with
    | now =>
        simp only [List.cons_append, List.nil_append, List.cons.injEq]
          at same
        obtain ⟨_, waits, _⟩ := same
        exact waited_nonempty waits empty
    | later _ _ further =>
        simp only [List.cons_append, List.nil_append, List.cons.injEq]
          at same
        obtain ⟨_, _, _, later⟩ := same
        exact verdict.clash rejected _ further _ _ later

theorem awaitEventFrom_judged
    {deadline : Nat} {awaited : Except String EventBatch}
    (ran : awaitEventFrom candidate.recorded host.recorded deadline fuel
      before = some (after, awaited)) (flag : Observation) :
    Judged {log | Delivery flag deadline log} (awaited = .ok ⟨1, flag⟩)
      before after := by
  refine awaitEventFrom_induction
    (motive := fun added awaited =>
      Verdict {log | Delivery flag deadline log} (awaited = .ok ⟨1, flag⟩)
        added)
    ?failed ?arrived ?elapsed ?again ran
  case failed =>
    intro start actual
    exact
      { member := fun impossible => by cases impossible
        clash := Delivery.clash fun _ impossible => by
          cases impossible }
  case arrived =>
    intro start batch eventful
    constructor
    · intro held
      injection held with same
      rw [same]
      exact Delivery.now
    · apply Delivery.clash
      intro other same
      cases same
      exact eventful
  case elapsed =>
    intro start finish batch empty passed
    refine ⟨fun held => ?_, fun _ => Delivery.clash_late empty passed⟩
    injection held with same
    rw [same] at empty
    cases empty
  case again =>
    intro start middle batch rest awaited empty early verdict
    exact Delivery.verdict_later empty early verdict

/-- A batch is accepted exactly if it is one delivery of the flag. -/
theorem judge_ok_iff
    (implementation : Implementation) (scenario : Scenario)
    (phase : QualificationPhase) (observations : List Observation)
    (awaited : Except String EventBatch) :
    (judge implementation scenario phase observations awaited).2 = .ok () ↔
      awaited = .ok ⟨1, scenario.interest.flag⟩ := by
  cases awaited with
  | error actual =>
      exact iff_of_false (fun impossible => by cases impossible)
        fun impossible => by cases impossible
  | ok batch =>
      have contract := expectation_exact scenario batch.observation
      unfold judge
      by_cases empty : batch.matchedEvents = 0
      · simp only [if_pos empty]
        refine iff_of_false (fun impossible => by cases impossible) ?_
        intro same
        injection same with same
        rw [same] at empty
        cases empty
      · by_cases several : batch.matchedEvents ≠ 1
        · simp only [if_neg empty, if_pos several]
          refine iff_of_false (fun impossible => by cases impossible) ?_
          intro same
          injection same with same
          rw [same] at several
          exact several rfl
        · simp only [if_neg empty, if_neg several]
          have single : batch.matchedEvents = 1 := not_not.mp several
          have shape : (Except.ok batch : Except String EventBatch) =
              .ok ⟨1, scenario.interest.flag⟩ ↔
                batch.observation = scenario.interest.flag := by
            rcases batch with ⟨count, observation⟩
            cases single
            simp
          rw [shape, ← contract]
          cases (expectationFor scenario).validate batch.observation with
          | ok done => exact iff_of_true rfl rfl
          | error cause =>
              exact iff_of_false (fun impossible => by cases impossible)
                fun impossible => by cases impossible

theorem observeOne_judged
    {phase : QualificationPhase}
    {observations extended : List Observation}
    {result : Except QualificationFailure Unit}
    (ran : observeOne candidate.recorded host.recorded implementation
      scenario fuel phase observations before =
        some (after, extended, result)) :
    Judged (delivery scenario.interest.flag) (result = .ok ()) before
      after := by
  unfold observeOne at ran
  split at ran
  · cases ran
  · rename_i world awaited waited
    injection ran with ran
    injection ran with sameWorld judged
    subst sameWorld
    have verdict :=
      judge_ok_iff implementation scenario phase observations awaited
    rw [judged] at verdict
    simp only at verdict
    rw [verdict]
    rcases read : host.recorded.now before with ⟨reading, instant⟩
    simp only [awaitEvent, read] at waited
    exact within_judged read (awaitEventFrom_judged waited _)

theorem observeRearmed_judged
    {observations extended : List Observation}
    {result : Except QualificationFailure Unit}
    (ran : observeRearmed candidate.recorded host.recorded implementation
      scenario fuel observations before = some (after, extended, result)) :
    Judged
      (quiet *
        ({[.rearmed (.ok ())]} *
          (delivery scenario.interest.flag * quiet)))
      (result = .ok ()) before after := by
  unfold observeRearmed at ran
  split at ran
  · cases ran
  · rename_i world cause disarmed
    cases ran
    exact ((verifyQuiet_judged disarmed).stop fun impossible => by
      cases impossible).congr (iff_of_false id fun impossible => by
        cases impossible)
  · rename_i world disarmed
    have first := verifyQuiet_judged disarmed
    split at ran
    · rename_i rearmed actual asked
      cases ran
      have second := record_judged (fun _ _ same => by injection same)
        (fun _ => id) asked
      refine (first.then quiet_free (second.stop fun impossible => by
        cases impossible)).congr ?_
      exact iff_of_false And.right fun impossible => by cases impossible
    · rename_i rearmed asked
      have second := record_judged (fun _ _ same => by injection same)
        (fun _ => id) asked
      split at ran
      · cases ran
      · rename_i observed observations cause delivered
        cases ran
        have third := observeOne_judged delivered
        refine (first.then quiet_free (second.then (PrefixFree.single _)
          (third.stop fun impossible => by cases impossible))).congr ?_
        exact iff_of_false (fun held => held.2.2)
          fun impossible => by cases impossible
      · rename_i observed observations delivered
        have third := observeOne_judged delivered
        split at ran
        · cases ran
        · rename_i settled verified again
          cases ran
          have last := verifyQuiet_judged again
          refine (first.then quiet_free (second.then (PrefixFree.single _)
            (third.then (delivery_free _) last))).congr ?_
          exact ⟨fun held => held.2.2.2,
            fun held => ⟨rfl, rfl, rfl, held⟩⟩

theorem observeProfile_judged
    {observations extended : List Observation}
    {result : Except QualificationFailure Unit}
    (ran : observeProfile candidate.recorded host.recorded implementation
      scenario fuel observations before = some (after, extended, result)) :
    Judged (delivery scenario.interest.flag * delivered scenario)
      (result = .ok ()) before after := by
  unfold observeProfile at ran
  split at ran
  · cases ran
  · rename_i world observations cause observed
    cases ran
    exact ((observeOne_judged observed).stop fun impossible => by
      cases impossible).congr (iff_of_false id fun impossible => by
        cases impossible)
  · rename_i world observations observed
    have first := observeOne_judged observed
    split at ran
    · rename_i profile
      cases ran
      unfold delivered
      rw [profile]
      have rest : Judged (1 : Language Exchange) True after after :=
        ⟨[], Grew.refl after, List.forall_mem_nil _, Verdict.one⟩
      exact (first.then (delivery_free _) rest).congr
        (iff_of_true ⟨rfl, trivial⟩ rfl)
    · rename_i profile
      unfold delivered
      rw [profile]
      exact (first.then (delivery_free _) (observeOne_judged ran)).congr
        ⟨And.right, fun held => ⟨rfl, held⟩⟩
    · rename_i profile
      unfold delivered
      rw [profile]
      exact (first.then (delivery_free _)
        (observeRearmed_judged ran)).congr
          ⟨And.right, fun held => ⟨rfl, held⟩⟩

/-! ### Sessions and cases -/

theorem observedFailure_nil (result : Except QualificationFailure Unit) :
    observedFailure result = [] ↔ result = .ok () := by
  cases result with
  | ok done => exact iff_of_true rfl rfl
  | error cause =>
      exact iff_of_false (fun impossible => by cases impossible)
        fun impossible => by cases impossible

theorem phaseFailure_nil
    (phase : QualificationPhase) (expected : String)
    (result : Except String Unit) :
    phaseFailure implementation scenario phase expected result = [] ↔
      result = .ok () := by
  cases result with
  | ok done => exact iff_of_true rfl rfl
  | error cause =>
      exact iff_of_false (fun impossible => by cases impossible)
        fun impossible => by cases impossible

/-- A session is ended once, whatever happened in it, and has no failure
exactly if its record is conforming. -/
theorem runSession_judged
    {observations : List Observation}
    {failures : List QualificationFailure}
    (ran : runSession candidate.recorded host.recorded implementation
      scenario fuel before = some (after, observations, failures)) :
    ∃ added deleted operated,
      Grew before after (added ++ [.deleted deleted, .operated operated]) ∧
        (∀ exchange ∈ added, ¬ exchange.Ends) ∧
        Verdict (observing scenario * ending) (failures = [])
          (added ++ [.deleted deleted, .operated operated]) := by
  unfold runSession at ran
  split at ran
  · cases ran
  · rename_i calm quietResult quieted
    rcases activating : host.recorded.activate calm with
      ⟨active, activated⟩
    simp only [activating] at ran
    split at ran
    · cases ran
    · rename_i extension extended observed observes
      rcases deleting : candidate.recorded.delete extension with
        ⟨gone, deleted⟩
      rcases operating : host.recorded.verifyOperation gone with
        ⟨finished, operated⟩
      simp only [deleting, operating] at ran
      cases ran
      have first := verifyQuiet_judged quieted
      have second := record_judged (fun _ _ same => by injection same)
        (fun _ => id) activating
      have ended :
          Verdict ending (deleted = .ok () ∧ operated = .ok ())
            ([.deleted deleted] ++ [.operated operated]) :=
        (Verdict.letter (fun _ _ same => by injection same) _ _).mul
          (PrefixFree.single _)
          fun _ => Verdict.letter (fun _ _ same => by injection same) _ _
      have front : Judged (observing scenario)
          (quietResult = .ok () ∧ activated = .ok () ∧ observed = .ok ())
          before extension := by
        by_cases succeeded : activated = .ok ()
        · rw [succeeded] at observes
          exact first.then quiet_free (second.then (PrefixFree.single _)
            (observeProfile_judged observes))
        · have skipped : activated.isOk = false := by
            cases activated with
            | ok done => exact (succeeded rfl).elim
            | error cause => rfl
          rw [skipped] at observes
          cases observes
          refine (first.then quiet_free (second.stop succeeded)).congr ?_
          exact iff_of_false And.right fun held => succeeded held.2.1
      obtain ⟨added, grew, unended, verdict⟩ := front
      refine ⟨added, deleted, operated, grew.trans
        ((record_grew deleting).trans (record_grew operating)), unended,
        (verdict.mul (observing_free scenario) fun _ => ended).congr ?_⟩
      simp only [List.append_eq_nil_iff, observedFailure_nil,
        phaseFailure_nil, and_assoc]

end Judged

end Zio.Qualify
