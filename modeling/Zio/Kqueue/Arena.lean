import Zio.Kqueue.Native
import Zio.Library.Storage

/-!
# Uninitialized kqueue storage

The arena that wait output, change input and receipt output share, with cells
that nothing may have written yet.  A slice outside of the storage and a read of
an uninitialized cell are faults.  The records of a cell are those of the
initialized batch, as long as no read is a fault.
-/

namespace Zio

/-- What unsafe code must rule out, and the panics of slicing. -/
inductive StorageFault where
  | range
  | uninitialized
deriving DecidableEq, Repr

/-- A range of storage cells. -/
structure Span where
  start : Nat
  len : Nat
deriving DecidableEq, Repr

namespace Span

def limit (self : Span) : Nat := self.start + self.len

/-- `&mut self[..count]`. -/
def upTo (self : Span) (count : Nat) : Except StorageFault Span :=
  if count ≤ self.len then .ok { self with len := count }
  else .error .range

/-- `split_at_mut` of a slice with this length. -/
def splitAtMut (length middle : Nat) : Except StorageFault (Span × Span) :=
  if middle ≤ length then
    .ok
      ({ start := 0, len := middle },
        { start := middle, len := length - middle })
  else
    .error .range

end Span

/-- An iterator with the length that it reports. -/
structure ExactSizeIterator (ι Item : Type*) where
  len : ι → Nat
  next : ι → Option Item × ι

/-- Proof that every native input entry was staged before submission. -/
structure StagedChanges where
  input : Span
  output : Span
deriving DecidableEq, Repr

/-- Fixed storage whose cells may be uninitialized. -/
structure NativeArena (Cell : Type*) where
  storage : List (Option Cell)
  eventCapacity : Nat
  changeCapacity : Nat

variable {Cell Item ι : Type*}

/-- `MaybeUninit::assume_init_ref`. -/
def assumeInit (slot : Option Cell) : Except StorageFault Cell :=
  match slot with
  | none => .error .uninitialized
  | some cell => .ok cell

namespace NativeArena

/-- `allocated` is the allocator's answer. -/
def new
    (target : KqueueTarget) (eventCapacity changeCapacity : Nat)
    (allocated : Bool) : Option (NativeArena Cell) :=
  if eventCapacity = 0 then
    none
  else if target.narrowCounts ∧
      ¬ (fitsI32 eventCapacity ∧ fitsI32 changeCapacity) then
    none
  else
    match usizeCheckedMul changeCapacity 2 with
    | none => none
    | some doubled =>
        if allocated then
          some
            { storage := List.replicate (max eventCapacity doubled) none
              eventCapacity
              changeCapacity }
        else
          none

def waitOutput (self : NativeArena Cell) : Span :=
  { start := 0, len := self.eventCapacity }

def eventSlot (self : NativeArena Cell) (index : Nat) :
    Option (Option Cell) :=
  self.storage[index]?

def receiptSlot (self : NativeArena Cell) (index : Nat) :
    Option (Option Cell) :=
  match usizeCheckedAdd self.changeCapacity index with
  | none => none
  | some place => self.storage[place]?

/-- The kernel reads every cell of its input. -/
def kernelRead (self : NativeArena Cell) (input : Span) :
    Except StorageFault (List Cell) :=
  if input.limit ≤ self.storage.length then
    (Storage.slice self.storage input.start input.len).mapM assumeInit
  else
    .error .range

/-- The kernel writes records from the start of its output. -/
def kernelWrite
    (self : NativeArena Cell) (output : Span) (records : List Cell) :
    Except StorageFault (NativeArena Cell) :=
  if output.limit ≤ self.storage.length then
    .ok
      { self with
        storage :=
          Storage.write self.storage output.start
            ((records.take output.len).map some) }
  else
    .error .range

end NativeArena

/-- The loop of `stage` over the input entries. -/
def stageInto
    (next : ι → Option Item × ι) (encode : Item → Except IoError Cell) :
    Nat → Nat → ι → List (Option Cell) →
      List (Option Cell) × Except StageError ι
  | 0, _, items, storage => (storage, .ok items)
  | left + 1, index, items, storage =>
      match next items with
      | (none, _) => (storage, .error .misreported)
      | (some item, items) =>
          match encode item with
          | .error source => (storage, .error (.encode source))
          | .ok cell =>
              stageInto next encode left (index + 1) items
                (storage.set index (some cell))

/-! ## Batches -/

structure NativeBatch (Cell : Type*) where
  arena : NativeArena Cell
  observed : Nat
  receipts : Nat

namespace NativeBatch

def new
    (target : KqueueTarget) (eventCapacity changeCapacity : Nat)
    (allocated : Bool) : Option (NativeBatch Cell) :=
  (NativeArena.new target eventCapacity changeCapacity allocated).map
    fun arena => { arena, observed := 0, receipts := 0 }

/-- The slot that `event` inspects. -/
def inspectedEvent
    (self : NativeBatch Cell) (index observed : Nat) :
    Option (Option Cell) :=
  if observed ≠ self.observed ∨ index ≥ observed then none
  else self.arena.eventSlot index

def event
    (target : KqueueTarget) (record : Cell → Kevent)
    (self : NativeBatch Cell) (index observed : Nat) :
    Except StorageFault (Option RawKevent) :=
  match self.inspectedEvent index observed with
  | none => .ok none
  | some slot =>
      match assumeInit slot with
      | .error fault => .error fault
      | .ok cell => .ok (rawKevent target (record cell))

/-- The slot that `receipt` inspects. -/
def inspectedReceipt
    (self : NativeBatch Cell) (index returned : Nat) :
    Option (Option Cell) :=
  if returned = self.receipts ∧ index < returned then
    self.arena.receiptSlot index
  else
    none

/-- The outcome of a receipt in `event`, if there is one. -/
def receiptOutcome
    (target : KqueueTarget) (event : Option Kevent) (expected : Change) :
    FilterApply :=
  match decodeReceipt target event expected with
  | .notApplied code =>
      if isMissingDisable code expected then .alreadyAbsent
      else .notApplied code
  | outcome => outcome

def receipt
    (target : KqueueTarget) (record : Cell → Kevent)
    (self : NativeBatch Cell) (index returned : Nat) (expected : Change) :
    Except StorageFault FilterApply :=
  match self.inspectedReceipt index returned with
  | none => .ok (receiptOutcome target none expected)
  | some slot =>
      match assumeInit slot with
      | .error fault => .error fault
      | .ok cell =>
          .ok (receiptOutcome target (some (record cell)) expected)

/-- `Kqueue::wait`, with the records that the kernel writes and its result. -/
def wait
    (target : KqueueTarget) (self : NativeBatch Cell)
    (records : List Cell) (result : Except IoError Nat) :
    Except StorageFault (NativeBatch Cell × Except IoError Nat) :=
  if target.narrowCounts ∧ ¬ fitsI32 self.arena.eventCapacity then
    .ok
      (self, .error (.custom .other "kqueue event capacity overflowed"))
  else
    match self.arena.kernelWrite self.arena.waitOutput records with
    | .error fault => .error fault
    | .ok arena =>
        let self : NativeBatch Cell :=
          { arena, observed := 0, receipts := 0 }
        match result with
        | .error source => .ok (self, .error source)
        | .ok observed =>
            if observed > self.arena.eventCapacity then
              .ok
                (self,
                  .error
                    (.custom .other "kqueue exceeded the event capacity"))
            else
              .ok ({ self with observed }, .ok observed)

/-- Stage every change, or nothing that may be submitted. -/
def stage
    (iterator : ExactSizeIterator ι Item)
    (encode : Item → Except IoError Cell) (self : NativeBatch Cell)
    (items : ι) :
    Except StorageFault
      (NativeBatch Cell × Except StageError StagedChanges) :=
  let count := iterator.len items
  if count = 0 ∨ count > self.arena.changeCapacity then
    .ok (self, .error .bounds)
  else
    match Span.splitAtMut self.arena.storage.length
        self.arena.changeCapacity with
    | .error fault => .error fault
    | .ok (input, retained) =>
        match input.upTo count with
        | .error fault => .error fault
        | .ok input =>
            let (storage, staged) :=
              stageInto iterator.next encode input.len input.start items
                self.arena.storage
            let self : NativeBatch Cell :=
              { arena := { self.arena with storage }
                observed := 0
                receipts := 0 }
            match staged with
            | .error error => .ok (self, .error error)
            | .ok items =>
                match (iterator.next items).1 with
                | some _ => .ok (self, .error .misreported)
                | none =>
                    match retained.upTo count with
                    | .error fault => .error fault
                    | .ok output => .ok (self, .ok { input, output })

def recordReceipts
    (self : NativeBatch Cell) (staged : StagedChanges) (receipts : Nat) :
    NativeBatch Cell :=
  if receipts > staged.input.len then self else { self with receipts }

/-- `Kqueue::submit_staged_native`, with the records that the kernel writes and
its result. -/
def submitStagedNative
    (target : KqueueTarget) (self : NativeBatch Cell)
    (staged : StagedChanges) (records : List Cell)
    (result : Except IoError Nat) :
    Except StorageFault (NativeBatch Cell × NativeApply) :=
  if target.narrowCounts ∧ ¬ fitsI32 staged.input.len then
    .ok (self, .unknown (.os eoverflow))
  else
    match self.arena.kernelRead staged.input with
    | .error fault => .error fault
    | .ok _ =>
        match self.arena.kernelWrite staged.output records with
        | .error fault => .error fault
        | .ok arena =>
            let self := { self with arena }
            match result with
            | .error source =>
                .ok
                  (self,
                    classifyApplyError source
                      target.appliesInterruptedChanges)
            | .ok returned =>
                .ok
                  (self.recordReceipts staged returned,
                    .receipts returned)

end NativeBatch

/-! ## Initialized batches -/

/-- The storage as records, where nothing was written yet as zeros. -/
def NativeArena.initialized
    (record : Cell → Kevent) (self : NativeArena Cell) : KqueueArena :=
  { storage := self.storage.map fun slot =>
      (slot.map record).getD emptyKevent
    eventCapacity := self.eventCapacity
    changeCapacity := self.changeCapacity }

namespace NativeBatch

def initialized (record : Cell → Kevent) (self : NativeBatch Cell) :
    KeventBatch :=
  { arena := self.arena.initialized record
    observed := self.observed
    receipts := self.receipts }

variable {target : KqueueTarget} {record : Cell → Kevent}
  {self : NativeBatch Cell}

theorem new_initialized
    (target : KqueueTarget) (record : Cell → Kevent)
    (eventCapacity changeCapacity : Nat) (allocated : Bool) :
    (new target eventCapacity changeCapacity allocated).map
        (initialized record) =
      KeventBatch.new target eventCapacity changeCapacity allocated := by
  unfold new KeventBatch.new NativeArena.new KqueueArena.new
  split
  · rfl
  · split
    · rfl
    · cases usizeCheckedMul changeCapacity 2 with
      | none => rfl
      | some doubled =>
          cases allocated with
          | false => rfl
          | true =>
              simp [initialized, NativeArena.initialized]

theorem event_initialized
    {index observed : Nat} {answer : Option RawKevent}
    (read : self.event target record index observed = .ok answer) :
    (self.initialized record).event target index observed = answer := by
  unfold event inspectedEvent at read
  unfold KeventBatch.event
  simp only [initialized, NativeArena.initialized, List.getElem?_map]
  split
  · rename_i refused
    rw [if_pos refused] at read
    exact Except.ok.inj read
  · rename_i accepted
    rw [if_neg accepted, NativeArena.eventSlot] at read
    cases held : self.arena.storage[index]? with
    | none =>
        rw [held] at read
        exact Except.ok.inj read
    | some slot =>
        rw [held] at read
        cases slot with
        | none => cases read
        | some cell => exact Except.ok.inj read

theorem receipt_initialized
    {index returned : Nat} {expected : Change} {outcome : FilterApply}
    (read :
      self.receipt target record index returned expected = .ok outcome) :
    (self.initialized record).receipt target index returned expected =
      outcome := by
  have same :
      (self.initialized record).receipt target index returned expected =
        receiptOutcome target
          ((self.inspectedReceipt index returned).map fun slot =>
            (slot.map record).getD emptyKevent) expected := by
    unfold KeventBatch.receipt receiptOutcome inspectedReceipt
      NativeArena.receiptSlot
    simp only [initialized, NativeArena.initialized, List.getElem?_map]
    by_cases current : returned = self.receipts ∧ index < returned
    · rw [if_pos current, if_pos current]
      cases usizeCheckedAdd self.arena.changeCapacity index with
      | none => rfl
      | some place => rfl
    · rw [if_neg current, if_neg current]
      rfl
  rw [same]
  unfold receipt at read
  cases inspected : self.inspectedReceipt index returned with
  | none =>
      rw [inspected] at read
      exact Except.ok.inj read
  | some slot =>
      rw [inspected] at read
      cases slot with
      | none => cases read
      | some cell => exact Except.ok.inj read

theorem initialized_write
    {cells : List (Option Cell)} {offset : Nat} {records : List Cell}
    (inside : offset + records.length ≤ cells.length) :
    (Storage.write cells offset (records.map some)).map
        (fun slot => (slot.map record).getD emptyKevent) =
      overwrite
        (cells.map fun slot => (slot.map record).getD emptyKevent) offset
        (records.map record) := by
  rw [overwrite, List.take_of_length_le]
  · simp only [Storage.write, List.map_append, List.map_take,
      List.map_drop, List.map_map, List.length_map]
    rfl
  · simp only [List.length_append, List.length_take, List.length_drop,
      List.length_map]
    omega

/-- A wait writes at most its event capacity. -/
theorem wait_initialized
    {records : List Cell} {after : NativeBatch Cell}
    {answer : Except IoError Nat}
    (narrow :
      ¬ (target.narrowCounts = true ∧
        ¬ fitsI32 self.arena.eventCapacity = true))
    (within : records.length ≤ self.arena.eventCapacity)
    (waited :
      self.wait target records (.ok records.length) =
        .ok (after, answer)) :
    (self.initialized record).wait (.ok (records.map record)) =
      (after.initialized record, answer) := by
  unfold wait NativeArena.kernelWrite at waited
  rw [if_neg narrow] at waited
  split at waited
  · cases waited
  · rename_i arena wrote
    split at wrote
    · rename_i inside
      simp only [Span.limit, NativeArena.waitOutput, Nat.zero_add] at inside
      simp only [NativeArena.waitOutput,
        List.take_of_length_le within] at wrote
      cases wrote
      simp only at waited
      rw [if_neg (Nat.not_lt.mpr within)] at waited
      cases waited
      have stored := @initialized_write _ record self.arena.storage 0
        records (by omega)
      rw [overwrite, List.take_zero, List.nil_append, Nat.zero_add] at stored
      unfold KeventBatch.wait
      simp only [initialized, NativeArena.initialized, stored]
      have counted : ¬ (records.map record).length >
          self.arena.eventCapacity := by
        rw [List.length_map]
        exact Nat.not_lt.mpr within
      refine (if_neg counted).trans ?_
      simp only [List.length_map]
    · cases wrote

theorem wait_failed
    {source : IoError} {after : NativeBatch Cell}
    {answer : Except IoError Nat}
    (narrow :
      ¬ (target.narrowCounts = true ∧
        ¬ fitsI32 self.arena.eventCapacity = true))
    (waited :
      self.wait target [] (.error source) = .ok (after, answer)) :
    (self.initialized record).wait (.error source) =
      (after.initialized record, answer) := by
  unfold wait NativeArena.kernelWrite at waited
  rw [if_neg narrow] at waited
  split at waited
  · cases waited
  · rename_i arena wrote
    split at wrote
    · simp only [Storage.write, NativeArena.waitOutput, List.take_nil,
        List.map_nil, List.take_zero, List.nil_append, List.length_nil,
        Nat.add_zero, List.drop_zero] at wrote
      cases wrote
      cases waited
      rfl
    · cases wrote

/-- The iterator over planned disarm changes. -/
def disarmChanges : ExactSizeIterator DisarmChanges Change :=
  { len := DisarmChanges.len, next := DisarmChanges.next }

theorem stageInto_initialized
    {encode : Change → Except IoError Cell}
    (encodes : ∀ change,
      (encode change).map record = encodeChange target change)
    (left index : Nat) (items : DisarmChanges)
    (storage : List (Option Cell)) :
    stageFrom target left index items
        (storage.map fun slot => (slot.map record).getD emptyKevent) =
      ((stageInto disarmChanges.next encode left index items storage).1.map
          fun slot => (slot.map record).getD emptyKevent,
        (stageInto disarmChanges.next encode left index items
          storage).2) := by
  induction left generalizing index items storage with
  | zero => rfl
  | succ left inductionHypothesis =>
      unfold stageFrom stageInto
      simp only [disarmChanges]
      rcases items.next with ⟨item, rest⟩
      cases item with
      | none => rfl
      | some change =>
          have encoded := encodes change
          simp only
          cases read : encode change with
          | error source =>
              rw [read] at encoded
              simp only [← encoded, Except.map]
          | ok cell =>
              rw [read] at encoded
              have written := inductionHypothesis (index + 1) rest
                (storage.set index (some cell))
              rw [List.map_set] at written
              simp only [← encoded, Except.map]
              exact written

theorem stage_initialized
    {encode : Change → Except IoError Cell}
    (encodes : ∀ change,
      (encode change).map record = encodeChange target change)
    {items : DisarmChanges} {after : NativeBatch Cell}
    {staged : Except StageError StagedChanges}
    (ran : self.stage disarmChanges encode items = .ok (after, staged)) :
    (self.initialized record).stageChanges target items =
      (after.initialized record,
        staged.map fun changes => changes.input.len) := by
  unfold stage at ran
  unfold KeventBatch.stageChanges
  simp only [initialized, NativeArena.initialized] at ran ⊢
  split at ran
  · rename_i refused
    cases ran
    exact if_pos refused
  · rename_i accepted
    refine (if_neg accepted).trans ?_
    split at ran
    · cases ran
    · rename_i input retained halves
      obtain ⟨rfl, rfl⟩ : input = ⟨0, self.arena.changeCapacity⟩ ∧
          retained = ⟨self.arena.changeCapacity,
            self.arena.storage.length - self.arena.changeCapacity⟩ := by
        unfold Span.splitAtMut at halves
        split at halves
        · cases halves
          exact ⟨rfl, rfl⟩
        · cases halves
      split at ran
      · cases ran
      · rename_i input shortened
        obtain rfl : input = ⟨0, items.len⟩ := by
          unfold Span.upTo at shortened
          split at shortened
          · exact (Except.ok.inj shortened).symm
          · cases shortened
        rw [stageInto_initialized encodes]
        simp only at ran ⊢
        rcases looped : stageInto disarmChanges.next encode items.len 0
            items self.arena.storage with ⟨storage, result⟩
        rw [looped] at ran
        cases result with
        | error error =>
            cases ran
            rfl
        | ok rest =>
            simp only [disarmChanges] at ran ⊢
            cases last : rest.next.1 with
            | some change =>
                rw [last] at ran
                cases ran
                rfl
            | none =>
                rw [last] at ran
                simp only at ran
                split at ran
                · cases ran
                · cases ran
                  rfl

theorem submit_initialized
    {staged : StagedChanges} {records : List Cell}
    {after : NativeBatch Cell} {answer : NativeApply}
    (sized : staged.output.len = staged.input.len)
    (placed : staged.output.start = self.arena.changeCapacity)
    (narrow :
      ¬ (target.narrowCounts = true ∧
        ¬ fitsI32 staged.input.len = true))
    (submitted :
      self.submitStagedNative target staged records (.ok records.length) =
        .ok (after, answer)) :
    after.initialized record =
      ((self.initialized record).writeOutput staged.input.len
        (records.map record)).recordReceipts staged.input.len
          records.length := by
  unfold submitStagedNative NativeArena.kernelWrite at submitted
  rw [if_neg narrow] at submitted
  split at submitted
  · cases submitted
  · split at submitted
    · cases submitted
    · rename_i arena wrote
      split at wrote
      · rename_i inside
        cases wrote
        cases submitted
        have capped : (records.take staged.output.len).length ≤
            staged.output.len := List.length_take_le _ _
        have stored := @initialized_write _ record self.arena.storage
          staged.output.start (records.take staged.output.len)
          (by unfold Span.limit at inside; omega)
        rw [sized, placed] at stored
        simp only [recordReceipts, KeventBatch.recordReceipts,
          KeventBatch.writeOutput, initialized, NativeArena.initialized]
        split <;> simp only [sized, placed, ← List.map_take, stored]
      · cases wrote

end NativeBatch

end Zio
