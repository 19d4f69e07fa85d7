import Zio.Kqueue.Policy
import Zio.Kqueue.Run

/-!
# Native kqueue submissions

The two ways in which changes reach `kevent`: one or two changes of a mutation
with receipts in stack storage, and the disarm changes of a delivery staged in
the arena.  The `kevent` call itself is an input.
-/

namespace Zio

/-- The `kevent` call of a submission, with its input and the number of its
output entries.  It answers an error or the records that it wrote. -/
abbrev KeventCall (σ : Type*) :=
  σ → List Kevent → Nat → σ × Except IoError (List Kevent)

def eoverflow : Int32 := 84

def kqueueProtocolError : IoError := .os eio

variable {σ : Type*}

namespace Kqueue

/-! ## Submissions -/

/-- A submission leaves the records that the kernel wrote. -/
def submitNativeCounts
    (target : KqueueTarget) (kevent : KeventCall σ) (queue : σ)
    (input : List Kevent) (outputCount : Nat) :
    σ × List Kevent × NativeApply :=
  if target.narrowCounts ∧
      ¬ (fitsI32 input.length ∧ fitsI32 outputCount) then
    (queue, [], .unknown (.os eoverflow))
  else
    match kevent queue input outputCount with
    | (queue, .error source) =>
        (queue, [],
          classifyApplyError source target.appliesInterruptedChanges)
    | (queue, .ok records) => (queue, records, .receipts records.length)

def submitNative
    (target : KqueueTarget) (kevent : KeventCall σ) (queue : σ)
    (input : List Kevent) (outputCount : Nat) :
    σ × List Kevent × NativeApply :=
  if input.isEmpty ∨ input.length ≠ outputCount then
    (queue, [], .unknown kqueueProtocolError)
  else
    submitNativeCounts target kevent queue input outputCount

/-- With no output entries, errors are returned through the error code. -/
def submitChangesNative
    (target : KqueueTarget) (kevent : KeventCall σ) (queue : σ)
    (input : List Kevent) : σ × NativeApply :=
  if input.isEmpty then
    (queue, .unknown kqueueProtocolError)
  else
    let (queue, _, result) :=
      submitNativeCounts target kevent queue input 0
    (queue, result)

/-! ## Mutations -/

/-- The loop that records one receipt for each change. -/
def setReceipts (error : Nat → Change → Except IoError (Option Int32)) :
    List Change → Nat → Receipts → Except IoError Receipts
  | [], _, receipts => .ok receipts
  | change :: rest, index, receipts =>
      match error index change with
      | .error source => .error source
      | .ok code =>
          match receipts.set index
              { action := change.action, error := code } with
          | .error source => .error source
          | .ok receipts => setReceipts error rest (index + 1) receipts

/-- The error that one output entry reports. -/
def receiptError
    (target : KqueueTarget) (output : List Kevent) (index : Nat)
    (change : Change) : Except IoError (Option Int32) :=
  match decodeReceipt target output[index]? change with
  | .applied => .ok none
  | .notApplied code => .ok (some code)
  | .alreadyAbsent => .error kqueueProtocolError
  | .unknown _ => .error kqueueProtocolError

/-- The receipts that an answered submission returns. -/
def answerReceipts
    (target : KqueueTarget) (changes : List Change)
    (output : List Kevent) : NativeApply → Except IoError Receipts
  | .appliedWithoutReceipts =>
      setReceipts (fun _ _ => .ok none) changes 0
        (Receipts.new changes.length)
  | .receipts returned =>
      if returned = changes.length then
        setReceipts (receiptError target output) changes 0
          (Receipts.new changes.length)
      else
        .error kqueueProtocolError
  | .unknown source => .error source

def apply
    (target : KqueueTarget) (kevent : KeventCall σ) (queue : σ)
    (changes : ChangeList) : σ × Except IoError Receipts :=
  let changes := changes.asSlice
  match changes.mapM (encodeChange target) with
  | .error source => (queue, .error source)
  | .ok input =>
      let (queue, output, result) :=
        submitNative target kevent queue input input.length
      (queue, answerReceipts target changes output result)

def registrationChange
    (target : KqueueTarget) (descriptor : RawFd) (token : UInt64)
    (filter : Filter) : Except IoError Kevent :=
  encodeRegistrationChange target
    { ident := descriptor, filter, action := .addEnabled, token }

/-- The filters that a registration submits, read before write. -/
def registrationFilters (interest : Interest) : List Filter :=
  if interest.isReadable then
    if interest.isWritable then [.read, .write] else [.read]
  else
    [.write]

def applyRegistrationNative
    (target : KqueueTarget) (kevent : KeventCall σ) (queue : σ)
    (descriptor : RawFd) (token : UInt64) (interest : Interest) :
    σ × Except IoError Unit :=
  match (registrationFilters interest).mapM
      (registrationChange target descriptor token) with
  | .error source => (queue, .error source)
  | .ok input =>
      match submitChangesNative target kevent queue input with
      | (queue, .appliedWithoutReceipts) => (queue, .ok ())
      | (queue, .receipts 0) => (queue, .ok ())
      | (queue, .receipts _) =>
          (queue,
            .error
              (.custom .other
                "kqueue returned output for a change-only submission"))
      | (queue, .unknown source) => (queue, .error source)

/-- `Kqueue` as a change executor. -/
def executor (target : KqueueTarget) (kevent : KeventCall σ) :
    ChangeExecutor σ where
  apply := apply target kevent
  applyRegistration := applyRegistrationNative target kevent

end Kqueue

/-! ## Disarms -/

inductive StageError where
  | bounds
  | encode (source : IoError)
  | misreported
deriving DecidableEq, Repr

/-- The loop that encodes changes into consecutive storage entries. -/
def stageFrom (target : KqueueTarget) :
    Nat → Nat → DisarmChanges → List Kevent →
      List Kevent × Except StageError DisarmChanges
  | 0, _, items, storage => (storage, .ok items)
  | left + 1, index, items, storage =>
      match items.next with
      | (none, _) => (storage, .error .misreported)
      | (some item, items) =>
          match encodeChange target item with
          | .error source => (storage, .error (.encode source))
          | .ok event =>
              stageFrom target left (index + 1) items
                (storage.set index event)

/-- Overwrite consecutive entries of a fixed slice. -/
def overwrite
    (storage : List Kevent) (offset : Nat) (records : List Kevent) :
    List Kevent :=
  (storage.take offset ++ records ++
    storage.drop (offset + records.length)).take storage.length

namespace KeventBatch

/-- Stage every change, or nothing that may be submitted. -/
def stageChanges
    (target : KqueueTarget) (self : KeventBatch) (changes : DisarmChanges) :
    KeventBatch × Except StageError Nat :=
  let count := changes.len
  if count = 0 ∨ count > self.arena.changeCapacity then
    (self, .error .bounds)
  else
    let (storage, staged) :=
      stageFrom target count 0 changes self.arena.storage
    let self :=
      { arena := { self.arena with storage }, observed := 0, receipts := 0 }
    match staged with
    | .error error => (self, .error error)
    | .ok items =>
        match items.next.1 with
        | some _ => (self, .error .misreported)
        | none => (self, .ok count)

/-- The batch after the kernel wrote records behind the staged input. -/
def writeOutput
    (self : KeventBatch) (count : Nat) (records : List Kevent) :
    KeventBatch :=
  { self with
    arena :=
      { self.arena with
        storage :=
          overwrite self.arena.storage self.arena.changeCapacity
            (records.take count) } }

def recordReceipts (self : KeventBatch) (count returned : Nat) :
    KeventBatch :=
  if returned > count then self else { self with receipts := returned }

end KeventBatch

namespace Kqueue

def applyBatch
    (target : KqueueTarget) (kevent : KeventCall σ)
    (state : σ × KeventBatch) (changes : DisarmChanges) :
    (σ × KeventBatch) × NativeApply :=
  let (queue, batch) := state
  match batch.stageChanges target changes with
  | (batch, .error (.encode source)) => ((queue, batch), .unknown source)
  | (batch, .error _) => ((queue, batch), .unknown kqueueProtocolError)
  | (batch, .ok count) =>
      let input := batch.arena.storage.take count
      let (queue, records, result) :=
        submitNativeCounts target kevent queue input count
      let batch := batch.writeOutput count records
      match result with
      | .receipts returned =>
          ((queue, batch.recordReceipts count returned), result)
      | _ => ((queue, batch), result)

end Kqueue

/-! ## Storage -/

theorem length_stageFrom
    (target : KqueueTarget) (left index : Nat) (items : DisarmChanges)
    (storage : List Kevent) :
    (stageFrom target left index items storage).1.length =
      storage.length := by
  induction left generalizing index items storage with
  | zero => rfl
  | succ left inductionHypothesis =>
      unfold stageFrom
      split
      · rfl
      · split
        · rfl
        · rw [inductionHypothesis, List.length_set]

theorem length_overwrite
    (storage : List Kevent) (offset : Nat) (records : List Kevent) :
    (overwrite storage offset records).length = storage.length := by
  simp only [overwrite, List.length_take, List.length_append,
    List.length_drop]
  omega

/-- An overwritten entry that is still inside the slice. -/
theorem overwrite_getElem
    {storage records : List Kevent} {offset index : Nat} {event : Kevent}
    (inside : index < records.length)
    (held : (overwrite storage offset records)[offset + index]? =
      some event) :
    records[index]? = some event := by
  have bound := (List.getElem?_eq_some_iff.mp held).1
  rw [length_overwrite] at bound
  have offsetFits : (storage.take offset).length = offset := by
    rw [List.length_take]
    omega
  rw [overwrite, List.getElem?_take_of_lt bound, List.append_assoc,
    List.getElem?_append_right (by omega), offsetFits,
    List.getElem?_append_left (by omega)] at held
  rw [Nat.add_sub_cancel_left] at held
  exact held

namespace KeventBatch

theorem stageChanges_sizes
    (target : KqueueTarget) (self : KeventBatch)
    (changes : DisarmChanges) :
    (self.stageChanges target changes).1.arena.sizes =
      self.arena.sizes := by
  have kept := length_stageFrom target changes.len 0 changes
    self.arena.storage
  unfold stageChanges
  simp only
  split
  · rfl
  · rcases staged : stageFrom target changes.len 0 changes
      self.arena.storage with ⟨storage, result⟩
    rw [staged] at kept
    cases result with
    | error error => simp only [KqueueArena.sizes, kept]
    | ok items =>
        simp only
        split <;> simp only [KqueueArena.sizes, kept]

theorem writeOutput_sizes
    (self : KeventBatch) (count : Nat) (records : List Kevent) :
    (self.writeOutput count records).arena.sizes = self.arena.sizes := by
  simp only [writeOutput, KqueueArena.sizes, length_overwrite]

theorem recordReceipts_arena
    (self : KeventBatch) (count returned : Nat) :
    (self.recordReceipts count returned).arena = self.arena := by
  unfold recordReceipts
  split <;> rfl

end KeventBatch

theorem Kqueue.applyBatch_sizes
    (target : KqueueTarget) (kevent : KeventCall σ)
    (state : σ × KeventBatch) (changes : DisarmChanges) :
    (Kqueue.applyBatch target kevent state changes).1.2.arena.sizes =
      state.2.arena.sizes := by
  rcases state with ⟨queue, batch⟩
  have staging := batch.stageChanges_sizes target changes
  unfold Kqueue.applyBatch
  simp only
  split
  · rename_i staged
    rw [staged] at staging
    exact staging
  · rename_i staged
    rw [staged] at staging
    exact staging
  · rename_i staged
    rw [staged] at staging
    rw [← staging]
    split
    · simp only [KeventBatch.recordReceipts_arena,
        KeventBatch.writeOutput_sizes]
    · simp only [KeventBatch.writeOutput_sizes]

/-- `NativeDisarmExecutor`. -/
def nativeDisarmExecutor (target : KqueueTarget) (kevent : KeventCall σ) :
    BatchExecutor σ where
  apply := Kqueue.applyBatch target kevent
  receipt := fun state => state.2.receipt target
  fixed := Kqueue.applyBatch_sizes target kevent

/-! ## Staged input -/

/-- The changes that the staging loop took, encoded in order. -/
theorem stageFrom_ok
    {target : KqueueTarget} {left index : Nat} {items rest : DisarmChanges}
    {storage after : List Kevent}
    (staged :
      stageFrom target left index items storage = (after, .ok rest))
    (room : index + left ≤ storage.length) :
    ∃ changes events,
      items.pending = changes ++ rest.pending ∧ changes.length = left ∧
        changes.mapM (encodeChange target) = .ok events ∧
        after.take (index + left) = storage.take index ++ events := by
  induction left generalizing index items storage with
  | zero =>
      cases staged
      exact ⟨[], [], rfl, rfl, rfl, (List.append_nil _).symm⟩
  | succ left inductionHypothesis =>
      unfold stageFrom at staged
      split at staged
      · cases staged
      · rename_i item later stepped
        split at staged
        · cases staged
        · rename_i event encoded
          obtain ⟨changes, events, yields, count, encodes, written⟩ :=
            inductionHypothesis staged (by rw [List.length_set]; omega)
          refine ⟨item :: changes, event :: events, ?_, ?_, ?_, ?_⟩
          · rw [DisarmChanges.next_some stepped, yields]
            rfl
          · rw [List.length_cons, count]
          · rw [List.mapM_cons, encoded, encodes]
            rfl
          · have set : (storage.set index event).take (index + 1) =
                storage.take index ++ [event] := by
              rw [List.take_add_one, List.getElem?_set_self (by omega),
                List.take_set_of_le (Nat.le_refl index)]
              rfl
            rw [show index + (left + 1) = index + 1 + left by omega,
              written, set, List.append_assoc]
            rfl

/-- Staged input is the encoding of every pending change. -/
theorem KeventBatch.stageChanges_ok
    {target : KqueueTarget} {self after : KeventBatch}
    {changes : DisarmChanges} {count : Nat}
    (room : self.arena.changeCapacity ≤ self.arena.storage.length)
    (counted : changes.len = changes.pending.length)
    (staged : self.stageChanges target changes = (after, .ok count)) :
    changes.pending.mapM (encodeChange target) =
        .ok (after.arena.storage.take count) ∧
      count = changes.pending.length ∧ after.receipts = 0 := by
  unfold KeventBatch.stageChanges at staged
  simp only at staged
  split at staged
  · cases staged
  · rename_i bounds
    rcases loop : stageFrom target changes.len 0 changes
      self.arena.storage with ⟨storage, result⟩
    rw [loop] at staged
    cases result with
    | error error => cases staged
    | ok items =>
        obtain ⟨taken, events, yields, length, encodes, written⟩ :=
          stageFrom_ok loop (by omega)
        simp only at staged
        split at staged
        · cases staged
        · cases staged
          have all : taken = changes.pending := by
            rw [yields]
            have spent : items.pending.length = 0 := by
              have lengths := congrArg List.length yields
              rw [List.length_append] at lengths
              omega
            rw [List.length_eq_zero_iff.mp spent, List.append_nil]
          refine ⟨?_, counted, rfl⟩
          rw [Nat.zero_add, List.take_zero, List.nil_append] at written
          rw [written, ← all]
          exact encodes

end Zio
