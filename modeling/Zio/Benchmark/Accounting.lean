import Zio.Benchmark.Runner
import Zio.Library.Rotation

/-!
# Accounting of candidates

Every candidate that is asked for is answered for by exactly one receipt, which
says what became of it.  An attempt at a candidate is a sequence of calls of
which at most the last fails; the failure is then reported at once, and the
candidate is not called again.
-/

namespace Zio.Benchmark

variable {World : Type}

/-! ## Answers and receipts -/

abbrev Answer := Implementation × Except String Support

namespace Answer

/-- The candidate takes part. -/
def available : Answer → Option Implementation
  | (implementation, .ok .available) => some implementation
  | _ => none

def refusal : Answer → Option (Implementation × Unsupported)
  | (implementation, .ok (.unavailable reason)) =>
      some (implementation, reason)
  | _ => none

def errored : Answer → Option Implementation
  | (implementation, .error _) => some implementation
  | _ => none

/-- Every answer is one of the three. -/
theorem partition (answers : List Answer) :
    (answers.map Prod.fst).Perm
      (answers.filterMap available ++
        ((answers.filterMap refusal).map Prod.fst ++
          answers.filterMap errored)) := by
  induction answers with
  | nil => exact List.Perm.nil
  | cons answer rest inductionHypothesis =>
      rcases answer with ⟨implementation, error | available | reason⟩
      · have moved := inductionHypothesis.cons implementation
        refine moved.trans ?_
        simp only [List.filterMap_cons, available, refusal, errored]
        rw [← List.append_assoc, ← List.append_assoc]
        exact List.perm_middle.symm
      · exact inductionHypothesis.cons implementation
      · have moved := inductionHypothesis.cons implementation
        refine moved.trans ?_
        simp only [List.filterMap_cons, available, refusal, errored,
          List.map_cons, List.cons_append]
        exact List.perm_middle.symm

end Answer

namespace Receipt

def refusal : Receipt → Option (Implementation × Unsupported)
  | unsupported implementation reason => some (implementation, reason)
  | _ => none

def failure : Receipt → Option Implementation
  | failed implementation _ _ _ _ => some implementation
  | _ => none

def passing : Receipt → Option CandidateSamples
  | passed candidate => some candidate
  | _ => none

theorem partition (receipts : List Receipt) :
    (receipts.map implementation).Perm
      ((receipts.filterMap passing).map CandidateSamples.implementation ++
        ((receipts.filterMap refusal).map Prod.fst ++
          receipts.filterMap failure)) := by
  induction receipts with
  | nil => exact List.Perm.nil
  | cons receipt rest inductionHypothesis =>
      have moved := inductionHypothesis.cons receipt.implementation
      refine moved.trans ?_
      cases receipt with
      | unsupported implementation reason =>
          simp only [List.filterMap_cons, passing, refusal, failure,
            List.map_cons, List.cons_append, Receipt.implementation]
          exact List.perm_middle.symm
      | failed implementation metric phase error samples =>
          simp only [List.filterMap_cons, passing, refusal, failure,
            Receipt.implementation]
          rw [← List.append_assoc, ← List.append_assoc]
          exact List.perm_middle.symm
      | passed candidate => exact List.Perm.refl _

end Receipt

/-- How many failed receipts have been written. -/
def Progress.failures (self : Progress World) : Nat :=
  (self.receipts.filterMap Receipt.failure).length

/-! ## Calls -/

/-- Calls of one candidate, of which at most the last failed. -/
structure Called
    (implementation : Implementation) (stage : Stage) (failed : Bool)
    (calls : List RunCall) : Prop where
  own : ∀ call ∈ calls,
    call.implementation = implementation ∧ call.stage = stage
  last : calls.Pairwise fun earlier _ => earlier.failed = false
  failed_iff : failed = true ↔ ∃ call ∈ calls, call.failed = true

/-- A progress that differs by calls of one candidate only. -/
structure Ran
    (implementation : Implementation) (stage : Stage) (failed : Bool)
    (start after : Progress World) : Prop where
  answers : after.answers = start.answers
  receipts : after.receipts = start.receipts
  output : after.output = start.output
  calls : ∃ calls, after.calls = start.calls ++ calls ∧
    Called implementation stage failed calls

theorem Called.nil (implementation : Implementation) (stage : Stage) :
    Called implementation stage false [] :=
  { own := fun call member => by cases member
    last := List.Pairwise.nil
    failed_iff := by simp }

theorem Called.append
    {implementation : Implementation} {stage : Stage} {failed : Bool}
    {first second : List RunCall}
    (quiet : Called implementation stage false first)
    (next : Called implementation stage failed second) :
    Called implementation stage failed (first ++ second) := by
  have silent : ∀ call ∈ first, call.failed = false := by
    intro call member
    cases failed_ : call.failed with
    | false => rfl
    | true =>
        exact absurd (quiet.failed_iff.mpr ⟨call, member, failed_⟩)
          Bool.false_ne_true
  refine
    { own := fun call member => ?_
      last := ?_
      failed_iff := next.failed_iff.trans ⟨?_, ?_⟩ }
  · rcases List.mem_append.mp member with before | after
    · exact quiet.own call before
    · exact next.own call after
  · exact List.pairwise_append.mpr
      ⟨quiet.last, next.last, fun earlier member _ _ =>
        silent earlier member⟩
  · rintro ⟨call, member, failed_⟩
    exact ⟨call, List.mem_append_right first member, failed_⟩
  · rintro ⟨call, member, failed_⟩
    rcases List.mem_append.mp member with before | after
    · rw [silent call before] at failed_
      cases failed_
    · exact ⟨call, after, failed_⟩

namespace Ran

theorem refl
    (implementation : Implementation) (stage : Stage)
    (self : Progress World) : Ran implementation stage false self self :=
  { answers := rfl
    receipts := rfl
    output := rfl
    calls := ⟨[], (List.append_nil self.calls).symm,
      Called.nil implementation stage⟩ }

theorem trans
    {implementation : Implementation} {stage : Stage} {failed : Bool}
    {self middle after : Progress World}
    (first : Ran implementation stage false self middle)
    (second : Ran implementation stage failed middle after) :
    Ran implementation stage failed self after := by
  obtain ⟨before, early, quiet⟩ := first.calls
  obtain ⟨calls, late, next⟩ := second.calls
  refine
    { answers := second.answers.trans first.answers
      receipts := second.receipts.trans first.receipts
      output := second.output.trans first.output
      calls := ⟨before ++ calls, ?_, quiet.append next⟩ }
  rw [late, early, List.append_assoc]

/-- A call, whether it fails or not. -/
theorem run
    (self : Progress World) (driver : Driver World)
    (implementation : Implementation) (scenario : Scenario)
    (iterations : Nat) (metric : Option Metric) (stage : Stage) :
    Ran implementation stage
      (resultErr (self.run driver implementation scenario iterations metric
        stage).1).isSome self
      (self.run driver implementation scenario iterations metric
        stage).2 := by
  refine
    { answers := rfl
      receipts := rfl
      output := rfl
      calls := ⟨_, rfl, ?_⟩ }
  exact
    { own := fun call member => by
        rw [List.mem_singleton] at member
        rw [member]
        exact ⟨rfl, rfl⟩
      last := List.pairwise_singleton _ _
      failed_iff := by
        simp only [List.mem_singleton, exists_eq_left]
        rfl }

theorem count
    (self : Progress World) (driver : Driver World) (fdProbe : FdProbe)
    (implementation : Implementation) (stage : Stage) :
    Ran implementation stage false self
      (self.count driver fdProbe).2 :=
  { answers := rfl
    receipts := rfl
    output := rfl
    calls := ⟨[], (List.append_nil self.calls).symm,
      Called.nil implementation stage⟩ }

end Ran

/-! ## Accounts -/

section Accounts

variable (metric : Metric) (config : Config) (metadata : Metadata)
  (scenario : Scenario) (fdProbe : FdProbe)

/-- The text is the line of the receipt. -/
def Encodes (receipt : Receipt) (text : String) : Prop :=
  receipt.line metric config metadata scenario fdProbe = .ok text

/-- The candidates that take part and whether they have failed, beside the
receipts of those that have and of those that do not take part. -/
structure Retained
    (asked : List Implementation) (standing : List (Implementation × Bool))
    (progress : Progress World) : Prop where
  answered : progress.answers.map Prod.fst = asked
  entered : standing.map Prod.fst =
    progress.answers.filterMap Answer.available
  refused : progress.receipts.filterMap Receipt.refusal =
    progress.answers.filterMap Answer.refusal
  failed : (progress.receipts.filterMap Receipt.failure).Perm
    (progress.answers.filterMap Answer.errored ++
      (standing.filter Prod.snd).map Prod.fst)
  unpassed : progress.receipts.filterMap Receipt.passing = []
  written : List.Forall₂
    (Encodes metric config metadata scenario fdProbe) progress.receipts
    progress.output
  called : ∀ entry ∈ standing,
    (entry.2 = true ↔
      ∃ call ∈ progress.calls,
        call.implementation = entry.1 ∧ call.failed = true)
  callers : ∀ call ∈ progress.calls,
    call.implementation ∈ standing.map Prod.fst
  silent : progress.calls.Pairwise fun earlier later =>
    earlier.failed = true → earlier.implementation ≠ later.implementation

/-- An attempt at a candidate, and the receipt of its failure. -/
structure Attempt
    (implementation : Implementation) (stage : Stage) (outcome : Bool)
    (start after : Progress World) : Prop where
  answers : after.answers = start.answers
  calls : ∃ calls, after.calls = start.calls ++ calls ∧
    Called implementation stage outcome calls
  receipts : ∃ added texts,
    after.receipts = start.receipts ++ added ∧
      after.output = start.output ++ texts ∧
      List.Forall₂ (Encodes metric config metadata scenario fdProbe) added
        texts ∧
      added.filterMap Receipt.failure =
        (if outcome then [implementation] else []) ∧
      added.filterMap Receipt.refusal = [] ∧
      added.filterMap Receipt.passing = []

variable {metric config metadata scenario fdProbe}

namespace Retained

variable {asked : List Implementation}
  {standing : List (Implementation × Bool)} {progress : Progress World}
  (retained : Retained metric config metadata scenario fdProbe asked
    standing progress)
include retained

theorem standing_nodup (distinct : asked.Nodup) :
    (standing.map Prod.fst).Nodup := by
  have all := (Answer.partition progress.answers).nodup_iff.mp
    (retained.answered ▸ distinct)
  rw [retained.entered]
  exact (List.nodup_append.mp all).1

/-- No more candidates fail than are asked for. -/
theorem failures_le : progress.failures ≤ asked.length := by
  have parts := (Answer.partition progress.answers).length_eq
  have lengths := retained.failed.length_eq
  have fewer := List.length_filter_le Prod.snd standing
  have entered := congrArg List.length retained.entered
  have answered := congrArg List.length retained.answered
  simp only [List.length_append, List.length_map] at *
  unfold Progress.failures
  omega

end Retained

/-- An attempt at a candidate that has not failed. -/
theorem Retained.attempt
    {asked : List Implementation} {before rest : List (Implementation × Bool)}
    {implementation : Implementation} {stage : Stage} {outcome : Bool}
    {start after : Progress World}
    (retained : Retained metric config metadata scenario fdProbe asked
      (before ++ (implementation, false) :: rest) start)
    (distinct : asked.Nodup)
    (attempt : Attempt metric config metadata scenario fdProbe
      implementation stage outcome start after) :
    Retained metric config metadata scenario fdProbe asked
      (before ++ (implementation, outcome) :: rest) after := by
  obtain ⟨calls, called, own⟩ := attempt.calls
  obtain ⟨added, texts, receipts, output, encoded, failure, refusal,
    passing⟩ := attempt.receipts
  have sole := retained.standing_nodup distinct
  have others : ∀ entry ∈ before ++ rest, entry.1 ≠ implementation := by
    simp only [List.map_append, List.map_cons] at sole
    have split := List.perm_middle.nodup_iff.mp sole
    rw [← List.map_append, List.nodup_cons] at split
    intro entry member same
    exact split.1 (same ▸ List.mem_map_of_mem member)
  have unfailed : ∀ call ∈ start.calls,
      call.implementation = implementation → call.failed = false := by
    intro call member same
    cases failed : call.failed with
    | false => rfl
    | true =>
        have entry := retained.called (implementation, false)
          (List.mem_append_right before List.mem_cons_self)
        exact absurd (entry.mpr ⟨call, member, same, failed⟩)
          Bool.false_ne_true
  refine
    { answered := by rw [attempt.answers]; exact retained.answered
      entered := by
        rw [attempt.answers, ← retained.entered]
        simp
      refused := by
        rw [attempt.answers, receipts, List.filterMap_append, refusal,
          List.append_nil]
        exact retained.refused
      failed := ?_
      unpassed := by
        rw [receipts, List.filterMap_append, passing, retained.unpassed]
        rfl
      written := by
        rw [receipts, output]
        exact List.rel_append retained.written encoded
      called := fun entry member => ?_
      callers := fun call member => ?_
      silent := ?_ }
  · have kept := retained.failed
    rw [receipts, attempt.answers, List.filterMap_append, failure]
    cases outcome with
    | false =>
        simpa using kept
    | true =>
        have grown := kept.append_right [implementation]
        refine grown.trans ?_
        simp only [List.filter_append, List.filter_cons, List.map_append,
          List.append_assoc]
        refine List.Perm.append_left _ (List.Perm.append_left _ ?_)
        exact List.perm_append_comm
  · rw [called]
    have place : entry = (implementation, outcome) ∨
        entry ∈ before ++ rest := by
      simp only [List.mem_append, List.mem_cons] at member ⊢
      tauto
    rcases place with rfl | other
    · refine own.failed_iff.trans ⟨?_, ?_⟩
      · rintro ⟨call, inside, failed⟩
        exact ⟨call, List.mem_append_right start.calls inside,
          (own.own call inside).1, failed⟩
      · rintro ⟨call, inside, same, failed⟩
        rcases List.mem_append.mp inside with earlier | now
        · rw [unfailed call earlier same] at failed
          cases failed
        · exact ⟨call, now, failed⟩
    · have held : entry ∈ before ++ (implementation, false) :: rest := by
        simp only [List.mem_append, List.mem_cons] at other ⊢
        tauto
      refine (retained.called entry held).trans ⟨?_, ?_⟩
      · rintro ⟨call, inside, facts⟩
        exact ⟨call, List.mem_append_left calls inside, facts⟩
      · rintro ⟨call, inside, same, failed⟩
        rcases List.mem_append.mp inside with earlier | now
        · exact ⟨call, earlier, same, failed⟩
        · exact absurd (same.symm.trans (own.own call now).1)
            (others entry other)
  · rw [called] at member
    rcases List.mem_append.mp member with earlier | now
    · have held := retained.callers call earlier
      simpa using held
    · rw [(own.own call now).1]
      simp
  · rw [called]
    refine List.pairwise_append.mpr ⟨retained.silent,
      own.last.imp fun quiet failed => ?_,
      fun earlier inside later now failed same => ?_⟩
    · rw [quiet] at failed
      cases failed
    · rw [unfailed earlier inside
        (same.trans (own.own later now).1)] at failed
      cases failed

theorem Progress.failures_attempt
    {implementation : Implementation} {stage : Stage} {outcome : Bool}
    {start after : Progress World}
    (attempt : Attempt metric config metadata scenario fdProbe
      implementation stage outcome start after) :
    after.failures = start.failures + if outcome then 1 else 0 := by
  obtain ⟨added, _, receipts, _, _, failure, _⟩ := attempt.receipts
  unfold Progress.failures
  rw [receipts, List.filterMap_append, List.length_append, failure]
  cases outcome <;> rfl

/-! ## Emission -/

theorem writeReceipt_ok
    {receipt : Receipt} {text : String}
    (encoded : Encodes metric config metadata scenario fdProbe receipt text)
    (self : Progress World) :
    writeReceipt metric config metadata scenario fdProbe receipt self =
      .ok { self with
        output := self.output ++ [text]
        receipts := self.receipts ++ [receipt] } := by
  unfold writeReceipt
  rw [show receipt.line metric config metadata scenario fdProbe = .ok text
    from encoded]
  rfl

variable (metric config metadata scenario fdProbe) in
/-- The receipt of a failure, which can always be encoded. -/
theorem emitFailure_ok
    {reported : Metric} {samples : List Sample}
    (captured : OfMetric reported samples)
    (implementation : Implementation) (phase error : String)
    (self : Progress World) :
    ∃ after text,
      emitFailure reported config metadata scenario fdProbe implementation
          phase error samples self = .ok after ∧
        Encodes metric config metadata scenario fdProbe
          (.failed implementation reported phase error samples) text ∧
        after.answers = self.answers ∧ after.calls = self.calls ∧
        after.receipts = self.receipts ++
          [.failed implementation reported phase error samples] ∧
        after.output = self.output ++ [text] := by
  obtain ⟨text, encoded⟩ := failed_ok
    (show OfMetric
      ({ metric := reported, metadata, config, implementation,
         scenario } : FailureContext).metric samples from captured)
    phase error fdProbe
  have wrote := writeReceipt_ok
    (show Encodes reported config metadata scenario fdProbe
      (.failed implementation reported phase error samples) text from
        encoded) self
  unfold emitFailure
  rw [wrote]
  exact ⟨_, text, rfl, encoded, rfl, rfl, rfl, rfl⟩

variable (metric config metadata scenario fdProbe) in
/-- A failure that is reported ends the attempt. -/
theorem Ran.reported
    {implementation : Implementation} {stage : Stage}
    {start middle : Progress World}
    (ran : Ran implementation stage true start middle) {reported : Metric}
    {samples : List Sample} (captured : OfMetric reported samples)
    (phase error : String) :
    ∃ after,
      emitFailure reported config metadata scenario fdProbe implementation
          phase error samples middle = .ok after ∧
        Attempt metric config metadata scenario fdProbe implementation
          stage true start after ∧ after.calls = middle.calls := by
  obtain ⟨after, text, emitted, encoded, answers, calls, receipts,
    output⟩ := emitFailure_ok metric config metadata scenario fdProbe
      captured implementation phase error middle
  refine ⟨after, emitted, ?_, calls⟩
  exact
    { answers := answers.trans ran.answers
      calls := by
        rw [calls]
        exact ran.calls
      receipts :=
        ⟨[.failed implementation reported phase error samples], [text],
          by rw [receipts, ran.receipts], by rw [output, ran.output],
          .cons encoded .nil, rfl, rfl, rfl⟩ }

/-- Calls that do not fail need no receipt. -/
theorem Ran.attempt
    {implementation : Implementation} {stage : Stage}
    {start after : Progress World}
    (ran : Ran implementation stage false start after) :
    Attempt metric config metadata scenario fdProbe implementation stage
      false start after :=
  { answers := ran.answers
    calls := ran.calls
    receipts := ⟨[], [], by rw [ran.receipts, List.append_nil],
      by rw [ran.output, List.append_nil], .nil, rfl, rfl, rfl⟩ }

end Accounts

end Zio.Benchmark
