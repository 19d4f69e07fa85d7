import Zio.Library.Transition
import Zio.Vocabulary

/-!
# The eventfd wake source

`EventFd::wake` writes one to a nonblocking counter and, when the counter is
saturated, drains it and writes again.  Each system call is one step of a
machine with any number of concurrent calls; a call returns with the write that
completes it.  The poller observes the counter edge-triggered and never reads
it.
-/

namespace Zio

open Transition

/-! ## System calls and their classification -/

/-- `EINTR`. -/
def linuxEintr : Int32 := 4

/-- `EAGAIN`, which Linux also uses as `EWOULDBLOCK`. -/
def linuxEagain : Int32 := 11

/-- `io::Error::kind` on Linux. -/
def linuxKind : IoError → IoErrorKind
  | .os code =>
      if code = linuxEintr then .interrupted
      else if code = linuxEagain then .wouldBlock
      else .other
  | .simple kind => kind
  | .custom kind _ => kind

/-- The value of a system call: the byte count it returned, with
`io::Error::last_os_error` for a negative one and the scalar it read. -/
structure SyscallResult where
  count : Int
  lastError : IoError
  value : UInt64

inductive WriteOutcome where
  | complete
  | interrupted
  | wouldBlock
deriving DecidableEq

inductive ReadOutcome where
  | complete (value : UInt64)
  | interrupted
  | wouldBlock
deriving DecidableEq

def classifyWriteError (error : IoError) : Except IoError WriteOutcome :=
  match linuxKind error with
  | .interrupted => .ok .interrupted
  | .wouldBlock => .ok .wouldBlock
  | _ => .error error

def classifyReadError (error : IoError) : Except IoError ReadOutcome :=
  match linuxKind error with
  | .interrupted => .ok .interrupted
  | .wouldBlock => .ok .wouldBlock
  | _ => .error error

def writeOnce (result : SyscallResult) : Except IoError WriteOutcome :=
  if result.count = 8 then
    .ok .complete
  else if result.count < 0 then
    classifyWriteError result.lastError
  else
    .error (.custom .other "eventfd wake wrote a partial scalar")

def readOnce (result : SyscallResult) : Except IoError ReadOutcome :=
  if result.count = 8 then
    .ok (.complete result.value)
  else if result.count < 0 then
    classifyReadError result.lastError
  else
    .error (.custom .other "eventfd drain read a partial scalar")

/-! ## The wake loop -/

/-- Which system call a running `wake` performs next: the write of its loop, or
the read of the `drain` loop inside it. -/
inductive WakePhase where
  | writing
  | draining
deriving DecidableEq

/-- A `wake` after one of its system calls. -/
inductive WakeProgress where
  | running (phase : WakePhase)
  | returned (result : Except IoError Unit)

/-- The loop body of `wake` after its write. -/
def wakeAfterWrite (result : SyscallResult) : WakeProgress :=
  match writeOnce result with
  | .error error => .returned (.error error)
  | .ok .complete => .returned (.ok ())
  | .ok .interrupted => .running .writing
  | .ok .wouldBlock => .running .draining

/-- The loop body of `drain` after its read. -/
def wakeAfterRead (result : SyscallResult) : WakeProgress :=
  match readOnce result with
  | .error error => .returned (.error error)
  | .ok (.complete _) => .running .writing
  | .ok .wouldBlock => .running .writing
  | .ok .interrupted => .running .draining

/-! ## The counter -/

/-- The largest counter value. -/
def eventfdMax : Nat := 2 ^ 64 - 2

/-- An eventfd counter with the ready mark of its edge-triggered epoll item. -/
structure EventCounter where
  value : Nat
  mark : Bool
  bounded : value ≤ eventfdMax

namespace EventCounter

def failed (code : Int32) : SyscallResult :=
  { count := -1, lastError := .os code, value := 0 }

def transferred (value : UInt64) : SyscallResult :=
  { count := 8, lastError := .os 0, value }

/-- What a nonblocking write of one does. -/
inductive Writes : EventCounter → SyscallResult → EventCounter → Prop
  | interrupted (counter : EventCounter) :
      Writes counter (failed linuxEintr) counter
  | saturated (counter : EventCounter) :
      counter.value = eventfdMax →
      Writes counter (failed linuxEagain) counter
  | added (counter : EventCounter) (room : counter.value < eventfdMax) :
      Writes counter (transferred 0)
        { value := counter.value + 1, mark := true, bounded := room }

/-- What a nonblocking read does. -/
inductive Reads : EventCounter → SyscallResult → EventCounter → Prop
  | interrupted (counter : EventCounter) :
      Reads counter (failed linuxEintr) counter
  | empty (counter : EventCounter) :
      counter.value = 0 → Reads counter (failed linuxEagain) counter
  | reset (counter : EventCounter) :
      0 < counter.value →
      Reads counter (transferred (UInt64.ofNat counter.value))
        { value := 0, mark := counter.mark, bounded := Nat.zero_le _ }

/-- Whether an observation delivers a wake. -/
def delivers (counter : EventCounter) : Bool :=
  counter.mark && decide (0 < counter.value)

/-- An edge-triggered observation clears the mark. -/
def observed (counter : EventCounter) : EventCounter :=
  { counter with mark := false }

end EventCounter

/-! ## Concurrent wakers and one poller -/

/-- The counter and the `wake` calls in progress. -/
structure WakeSystem (ι : Type*) where
  counter : EventCounter
  calls : ι → Option WakePhase

/-- One step: a call starts, one of its system calls returns, or the poller
observes. -/
inductive WakeLabel (ι : Type*) where
  | start (caller : ι)
  | write (caller : ι) (result : SyscallResult)
  | read (caller : ι) (result : SyscallResult)
  | observe (delivered : Bool)

/-- The label ends a call with `Ok`. -/
def WakeLabel.ReturnsOk {ι : Type*} : WakeLabel ι → Prop
  | .write _ result => wakeAfterWrite result = .returned (.ok ())
  | .read _ result => wakeAfterRead result = .returned (.ok ())
  | _ => False

/-- The label is a delivered wake observation. -/
def WakeLabel.Delivers {ι : Type*} (label : WakeLabel ι) : Prop :=
  label = .observe true

/-- The label is an observation. -/
def WakeLabel.Observes {ι : Type*} (label : WakeLabel ι) : Prop :=
  ∃ delivered, label = .observe delivered

namespace WakeSystem

variable {ι : Type*} [DecidableEq ι]

/-- A fresh eventfd, before any call. -/
def initial : WakeSystem ι :=
  { counter := { value := 0, mark := false, bounded := Nat.zero_le _ }
    calls := fun _ => none }

/-- Continue or finish the call of one caller. -/
def proceed
    (system : WakeSystem ι) (caller : ι) (counter : EventCounter)
    (progress : WakeProgress) : WakeSystem ι :=
  { counter
    calls :=
      Function.update system.calls caller
        (match progress with
        | .running phase => some phase
        | .returned _ => none) }

inductive Step : WakeSystem ι → WakeLabel ι → WakeSystem ι → Prop
  | start {system : WakeSystem ι} {caller : ι} :
      system.calls caller = none →
      Step system (.start caller)
        (system.proceed caller system.counter (.running .writing))
  | write {system : WakeSystem ι} {caller : ι} {result : SyscallResult}
      {counter : EventCounter} :
      system.calls caller = some .writing →
      EventCounter.Writes system.counter result counter →
      Step system (.write caller result)
        (system.proceed caller counter (wakeAfterWrite result))
  | read {system : WakeSystem ι} {caller : ι} {result : SyscallResult}
      {counter : EventCounter} :
      system.calls caller = some .draining →
      EventCounter.Reads system.counter result counter →
      Step system (.read caller result)
        (system.proceed caller counter (wakeAfterRead result))
  | observe {system : WakeSystem ι} :
      Step system (.observe system.counter.delivers)
        { system with counter := system.counter.observed }

/-- Some call is between its start and its completing write. -/
def InProgress (system : WakeSystem ι) : Prop :=
  ∃ caller, system.calls caller ≠ none

/-! ## One system call -/

theorem write_cases
    {before after : EventCounter} {result : SyscallResult}
    (writes : EventCounter.Writes before result after) :
    (wakeAfterWrite result = .returned (.ok ()) ∧
        after.mark = true ∧ 0 < after.value) ∨
      (∃ phase, wakeAfterWrite result = .running phase) ∧
        after = before := by
  cases writes with
  | interrupted => exact Or.inr ⟨⟨.writing, rfl⟩, rfl⟩
  | saturated full => exact Or.inr ⟨⟨.draining, rfl⟩, rfl⟩
  | added room => exact Or.inl ⟨rfl, rfl, Nat.succ_pos _⟩

theorem read_running
    {before after : EventCounter} {result : SyscallResult}
    (reads : EventCounter.Reads before result after) :
    (∃ phase, wakeAfterRead result = .running phase) ∧
      after.mark = before.mark := by
  cases reads with
  | interrupted => exact ⟨⟨.draining, rfl⟩, rfl⟩
  | empty vacant => exact ⟨⟨.writing, rfl⟩, rfl⟩
  | reset positive => exact ⟨⟨.writing, rfl⟩, rfl⟩

theorem proceed_inProgress
    (system : WakeSystem ι) (caller : ι) (counter : EventCounter)
    (phase : WakePhase) :
    (system.proceed caller counter (.running phase)).InProgress :=
  ⟨caller, by simp [proceed]⟩

/-! ## Every reachable state -/

/-- What the past says about the counter: a trigger that was not delivered is
observable or another call is running, and a mark was set by a call that
completed after the last observation. -/
structure Accounted
    (past : List (WakeLabel ι)) (system : WakeSystem ι) : Prop where
  observable :
    Since WakeLabel.ReturnsOk WakeLabel.Delivers past →
      system.counter.delivers = true ∨ system.InProgress
  caused :
    system.counter.mark = true →
      Since WakeLabel.ReturnsOk WakeLabel.Observes past

theorem Accounted.start
    {past : List (WakeLabel ι)} {system : WakeSystem ι}
    (accounted : Accounted past system) (caller : ι) :
    Accounted (past ++ [.start caller])
      (system.proceed caller system.counter (.running .writing)) where
  observable := fun _ => Or.inr (proceed_inProgress _ _ _ _)
  caused := fun marked =>
    (accounted.caused marked).append (by rintro ⟨_, same⟩; cases same)

theorem Accounted.write
    {past : List (WakeLabel ι)} {system : WakeSystem ι}
    {result : SyscallResult} {counter : EventCounter}
    (accounted : Accounted past system) (caller : ι)
    (writes : EventCounter.Writes system.counter result counter) :
    Accounted (past ++ [.write caller result])
      (system.proceed caller counter (wakeAfterWrite result)) := by
  rcases write_cases writes with
    ⟨completed, marked, positive⟩ | ⟨⟨phase, running⟩, rfl⟩
  · refine ⟨fun _ => Or.inl ?_, fun _ => Since.of_last completed⟩
    simp [proceed, EventCounter.delivers, marked, positive]
  · rw [running]
    refine ⟨fun _ => Or.inr (proceed_inProgress _ _ _ _), fun marked => ?_⟩
    exact (accounted.caused marked).append
      (by rintro ⟨_, same⟩; cases same)

theorem Accounted.read
    {past : List (WakeLabel ι)} {system : WakeSystem ι}
    {result : SyscallResult} {counter : EventCounter}
    (accounted : Accounted past system) (caller : ι)
    (reads : EventCounter.Reads system.counter result counter) :
    Accounted (past ++ [.read caller result])
      (system.proceed caller counter (wakeAfterRead result)) := by
  obtain ⟨⟨phase, running⟩, sameMark⟩ := read_running reads
  rw [running]
  refine ⟨fun _ => Or.inr (proceed_inProgress _ _ _ _), fun marked => ?_⟩
  have marked : counter.mark = true := marked
  rw [sameMark] at marked
  exact (accounted.caused marked).append
    (by rintro ⟨_, same⟩; cases same)

omit [DecidableEq ι] in
theorem Accounted.observe
    {past : List (WakeLabel ι)} {system : WakeSystem ι}
    (accounted : Accounted past system) :
    Accounted (past ++ [.observe system.counter.delivers])
      { system with counter := system.counter.observed } := by
  refine ⟨fun triggered => ?_, fun marked => ?_⟩
  · rcases triggered.of_append with impossible | ⟨missed, earlier⟩
    · exact impossible.elim
    · rcases accounted.observable earlier with delivered | running
      · rw [delivered] at missed
        exact (missed rfl).elim
      · exact Or.inr running
  · cases marked

theorem Step.accounted
    {past : List (WakeLabel ι)} {before after : WakeSystem ι}
    {label : WakeLabel ι}
    (accounted : Accounted past before)
    (step : Step before label after) :
    Accounted (past ++ [label]) after := by
  cases step with
  | start idle => exact accounted.start _
  | write phase writes => exact accounted.write _ writes
  | read phase reads => exact accounted.read _ reads
  | observe => exact accounted.observe

/-- No trigger is lost: whenever some call has returned `Ok` since the last
delivered observation, the next observation delivers a wake or another call is
still in progress; and every delivered wake was caused by a call that returned
`Ok` after the previous observation. -/
theorem wake_observable
    {labels : List (WakeLabel ι)} {finish : WakeSystem ι}
    (run : Execution Step initial labels finish) :
    (Since WakeLabel.ReturnsOk WakeLabel.Delivers labels →
        (finish.counter.mark = true ∧ 0 < finish.counter.value) ∨
          finish.InProgress) ∧
      (Since WakeLabel.ReturnsOk WakeLabel.Delivers labels →
        ¬ finish.InProgress →
          Step finish (.observe true)
            { finish with counter := finish.counter.observed }) ∧
      ∀ next, Step finish (.observe true) next →
        Since WakeLabel.ReturnsOk WakeLabel.Observes labels := by
  have accounted : Accounted labels finish :=
    run.history Accounted (fun _ _ _ _ held step => step.accounted held)
      ⟨fun triggered => (Since.not_nil triggered).elim,
        fun marked => by cases marked⟩
  refine ⟨fun triggered => ?_, fun triggered idle => ?_, ?_⟩
  · rcases accounted.observable triggered with delivered | running
    · simp only [EventCounter.delivers, Bool.and_eq_true,
        decide_eq_true_eq] at delivered
      exact Or.inl delivered
    · exact Or.inr running
  · rcases accounted.observable triggered with delivered | running
    · have step : Step finish (.observe finish.counter.delivers)
          { finish with counter := finish.counter.observed } :=
        Step.observe
      rw [delivered] at step
      exact step
    · exact (idle running).elim
  · intro next step
    generalize observed : WakeLabel.observe true = label at step
    cases step with
    | observe =>
        simp only [WakeLabel.observe.injEq] at observed
        apply accounted.caused
        have delivered := observed.symm
        simp only [EventCounter.delivers, Bool.and_eq_true] at delivered
        exact delivered.1
    | start _ => cases observed
    | write _ _ => cases observed
    | read _ _ => cases observed

/-! ### Two callers at a saturated counter -/

/-- One call of a caller that completes with its first write. -/
def oneWake (caller : Bool) : List (WakeLabel Bool) :=
  [.start caller, .write caller (EventCounter.transferred 0)]

theorem oneWake_run
    {system : WakeSystem Bool} {caller : Bool}
    (idle : system.calls = fun _ => none)
    (room : system.counter.value < eventfdMax) :
    Execution Step system (oneWake caller)
      { counter :=
          { value := system.counter.value + 1
            mark := true
            bounded := room }
        calls := fun _ => none } := by
  have started : Step system (.start caller)
      (system.proceed caller system.counter (.running .writing)) :=
    Step.start (congrFun idle caller)
  have busy : (system.proceed caller system.counter
      (.running .writing)).calls caller = some .writing :=
    Function.update_self ..
  have written := Step.write busy
    (EventCounter.Writes.added system.counter room)
  have settled : ∀ counter : EventCounter,
      (system.proceed caller system.counter (.running .writing)).proceed
          caller counter (.returned (.ok ())) =
        { counter, calls := fun _ => none } := by
    intro counter
    simp only [proceed, Function.update_idem, idle,
      Function.update_eq_self_iff, WakeSystem.mk.injEq, true_and]
  have completed : wakeAfterWrite (EventCounter.transferred 0) =
      .returned (.ok ()) := rfl
  rw [completed] at written
  have finished := Execution.cons started
    (Execution.cons written (Execution.refl _))
  rw [settled] at finished
  exact finished

/-- Any number of wakes that fit the counter. -/
theorem wakes_run (count : Nat) (fits : count ≤ eventfdMax) :
    ∃ labels,
      Execution Step (initial : WakeSystem Bool) labels
        { counter :=
            { value := count, mark := decide (0 < count), bounded := fits }
          calls := fun _ => none } := by
  induction count with
  | zero => exact ⟨[], Execution.refl _⟩
  | succ count inductionHypothesis =>
      obtain ⟨labels, run⟩ := inductionHypothesis (Nat.le_of_succ_le fits)
      have room : count < eventfdMax := fits
      exact ⟨labels ++ oneWake true,
        run.append (@oneWake_run { counter := _, calls := _ } true rfl room)⟩

/-- A counter that was filled by wakes. -/
def full : WakeSystem Bool :=
  { counter :=
      { value := eventfdMax, mark := true, bounded := Nat.le_refl _ }
    calls := fun _ => none }

/-- At a full counter one call drains while another one starts, and the poller
observes in between. -/
def draining : List (WakeLabel Bool) :=
  [.start true, .write true (EventCounter.failed linuxEagain),
    .start false, .observe true,
    .read true (EventCounter.transferred (UInt64.ofNat eventfdMax))]

/-- Both calls then complete. -/
def completing : List (WakeLabel Bool) :=
  [.write false (EventCounter.transferred 0),
    .write true (EventCounter.transferred 0)]

theorem drained_observable :
    ∃ labels, ∃ finish : WakeSystem Bool,
      Execution Step initial (labels ++ draining ++ completing) finish ∧
        Step finish (.observe true)
          { finish with counter := finish.counter.observed } ∧
        Since WakeLabel.ReturnsOk WakeLabel.Observes
          (labels ++ draining ++ completing) := by
  obtain ⟨labels, saturated⟩ := wakes_run eventfdMax (Nat.le_refl _)
  have positive : 0 < eventfdMax := by decide
  have second : 1 < eventfdMax := by decide
  have drained : Execution Step full draining _ :=
    .cons (.start rfl) (.cons (.write rfl (.saturated _ rfl))
      (.cons (.start rfl) (.cons .observe
        (.cons (.read rfl (.reset _ positive)) (.refl _)))))
  have run := (saturated.append drained).append
    (.cons (.write rfl (.added _ positive))
      (.cons (.write rfl (.added _ second)) (.refl _)) :
      Execution Step _ completing _)
  have triggered : Since WakeLabel.ReturnsOk WakeLabel.Delivers
      (labels ++ draining ++ completing) :=
    ⟨labels ++ draining ++ [.write false (EventCounter.transferred 0)],
      .write true (EventCounter.transferred 0), [],
      (List.append_assoc _ [_] [_]).symm, rfl, by simp⟩
  obtain ⟨_, observable, caused⟩ := wake_observable run
  have observes := observable triggered (by
    rintro ⟨caller, busy⟩
    cases caller <;> exact busy rfl)
  exact ⟨labels, _, run, observes, caused _ observes⟩

end WakeSystem

end Zio
