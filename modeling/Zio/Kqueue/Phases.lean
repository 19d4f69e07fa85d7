import Zio.Kqueue.Arena
import Zio.Library.Transition

/-!
# Phases of the kqueue storage

Every cell is tagged with the call that wrote it last.  Whatever the kernel
answers, however a staging fails and whatever an iterator reports, an event is
read only from a cell that the most recent wait wrote, and a receipt only from
a cell that the most recent submission wrote.
-/

namespace Zio

variable {Cell Item ι : Type*}

/-! ## Written ranges -/

namespace NativeArena

/-- The cells of a range are initialized and satisfy a predicate. -/
def Holds
    (self : NativeArena Cell) (good : Cell → Prop) (start count : Nat) :
    Prop :=
  ∀ index < count, ∃ cell,
    self.storage[start + index]? = some (some cell) ∧ good cell

/-- The storage covers the wait output and both halves of a submission. -/
structure Fits (target : KqueueTarget) (arena : NativeArena Cell) : Prop where
  events : arena.eventCapacity ≤ arena.storage.length
  changes : arena.changeCapacity + arena.changeCapacity ≤ arena.storage.length
  eventCounts :
    ¬ (target.narrowCounts = true ∧
      ¬ fitsI32 arena.eventCapacity = true)
  changeCounts : ∀ count ≤ arena.changeCapacity,
    ¬ (target.narrowCounts = true ∧ ¬ fitsI32 count = true)

theorem new_fits
    {target : KqueueTarget} {eventCapacity changeCapacity : Nat}
    {allocated : Bool} {arena : NativeArena Cell}
    (created : new target eventCapacity changeCapacity allocated =
      some arena) :
    arena.Fits target := by
  unfold new at created
  split at created
  · cases created
  · split at created
    · cases created
    · rename_i narrow
      cases product : usizeCheckedMul changeCapacity 2 with
      | none =>
          rw [product] at created
          cases created
      | some doubled =>
          simp only [product] at created
          split at created
          · cases created
            have value : doubled = changeCapacity * 2 := by
              unfold usizeCheckedMul at product
              split at product
              · exact (Option.some.inj product).symm
              · cases product
            refine ⟨?_, ?_, ?_, ?_⟩
            · rw [List.length_replicate]
              exact Nat.le_max_left _ _
            · simp only [List.length_replicate, value]
              omega
            · exact fun overflows =>
                narrow ⟨overflows.1, fun fits => overflows.2 fits.1⟩
            · intro count within overflows
              apply narrow
              refine ⟨overflows.1, fun fits => overflows.2 ?_⟩
              have changes := fits.2
              simp only [fitsI32, decide_eq_true_eq] at within changes ⊢
              omega
          · cases created

/-- The kernel's records reach every place of its output, and no other. -/
theorem kernelWrite_spec
    {target : KqueueTarget} {self : NativeArena Cell}
    (fits : self.Fits target) {output : Span}
    (inside : output.limit ≤ self.storage.length) {good : Cell → Prop}
    {records : List Cell} (written : ∀ cell ∈ records, good cell) :
    ∃ after, self.kernelWrite output records = .ok after ∧
      after.Fits target ∧ after.eventCapacity = self.eventCapacity ∧
      after.changeCapacity = self.changeCapacity ∧
      ∀ count ≤ records.length, count ≤ output.len →
        after.Holds good output.start count := by
  have room : output.start + ((records.take output.len).map some).length ≤
      self.storage.length := by
    rw [List.length_map, List.length_take]
    unfold Span.limit at inside
    omega
  have length := Storage.length_write room
  refine ⟨_, if_pos inside, ?_, rfl, rfl, ?_⟩
  · refine ⟨?_, ?_, fits.eventCounts, fits.changeCounts⟩
    · rw [length]
      exact fits.events
    · rw [length]
      exact fits.changes
  · intro count within capped index below
    have bound : index < ((records.take output.len).map some).length := by
      rw [List.length_map, List.length_take]
      omega
    have recorded : index < records.length := by omega
    refine ⟨records[index], ?_, written _ (List.getElem_mem recorded)⟩
    rw [Storage.getElem?_write_self room bound, List.getElem?_map,
      List.getElem?_take_of_lt (by omega),
      List.getElem?_eq_getElem recorded]
    rfl

/-- The kernel reads an initialized range without a fault. -/
theorem kernelRead_spec
    {self : NativeArena Cell} {good : Cell → Prop} {input : Span}
    (inside : input.limit ≤ self.storage.length)
    (holds : self.Holds good input.start input.len) :
    ∃ cells, self.kernelRead input = .ok cells ∧
      cells.length = input.len ∧ ∀ cell ∈ cells, good cell := by
  suffices general : ∀ slots : List (Option Cell),
      (∀ slot ∈ slots, ∃ cell, slot = some cell ∧ good cell) →
      ∃ cells, slots.mapM assumeInit = .ok cells ∧
        cells.length = slots.length ∧ ∀ cell ∈ cells, good cell by
    have length :
        (Storage.slice self.storage input.start input.len).length =
          input.len := by
      unfold Span.limit at inside
      rw [Storage.slice, List.length_take, List.length_drop]
      omega
    unfold kernelRead
    rw [if_pos inside, ← length]
    rw [length]
    obtain ⟨cells, read, sized, all⟩ := general
      (Storage.slice self.storage input.start input.len) (by
        intro slot member
        obtain ⟨index, bound, found⟩ := List.getElem_of_mem member
        rw [length] at bound
        obtain ⟨cell, held, goodCell⟩ := holds index bound
        refine ⟨cell, ?_, goodCell⟩
        have place := List.getElem?_eq_getElem (length.symm ▸ bound)
        rw [found, Storage.slice, List.getElem?_take_of_lt bound,
          List.getElem?_drop, held] at place
        exact (Option.some.inj place).symm)
    exact ⟨cells, read, sized.trans length, all⟩
  intro slots
  induction slots with
  | nil => exact fun _ => ⟨[], rfl, rfl, fun _ impossible => by
      cases impossible⟩
  | cons slot rest inductionHypothesis =>
      intro all
      obtain ⟨cell, rfl, goodCell⟩ := all slot List.mem_cons_self
      obtain ⟨cells, read, sized, later⟩ := inductionHypothesis
        fun other member => all other (List.mem_cons_of_mem _ member)
      refine ⟨cell :: cells, ?_, by rw [List.length_cons, sized]; rfl, ?_⟩
      · rw [List.mapM_cons, read]
        rfl
      · intro other member
        rcases List.mem_cons.mp member with rfl | tail
        · exact goodCell
        · exact later other tail

end NativeArena

/-! ## Staging -/

section Staging

variable {next : ι → Option Item × ι} {encode : Item → Except IoError Cell}

theorem length_stageInto
    (left index : Nat) (items : ι) (storage : List (Option Cell)) :
    (stageInto next encode left index items storage).1.length =
      storage.length := by
  induction left generalizing index items storage with
  | zero => rfl
  | succ left inductionHypothesis =>
      unfold stageInto
      split
      · rfl
      · split
        · rfl
        · rw [inductionHypothesis, List.length_set]

theorem stageInto_before
    {left index place : Nat} {items : ι} {storage : List (Option Cell)}
    (earlier : place < index) :
    (stageInto next encode left index items storage).1[place]? =
      storage[place]? := by
  induction left generalizing index items storage with
  | zero => rfl
  | succ left inductionHypothesis =>
      unfold stageInto
      split
      · rfl
      · split
        · rfl
        · rw [inductionHypothesis (by omega),
            List.getElem?_set_ne (by omega)]

/-- A staging that succeeds wrote every input entry. -/
theorem stageInto_ok
    {good : Cell → Prop}
    (encodes : ∀ item cell, encode item = .ok cell → good cell)
    {left index : Nat} {items rest : ι}
    {storage after : List (Option Cell)}
    (room : index + left ≤ storage.length)
    (staged :
      stageInto next encode left index items storage = (after, .ok rest)) :
    ∀ offset < left, ∃ cell,
      after[index + offset]? = some (some cell) ∧ good cell := by
  induction left generalizing index items storage with
  | zero =>
      intro offset impossible
      omega
  | succ left inductionHypothesis =>
      unfold stageInto at staged
      split at staged
      · cases staged
      · rename_i item later found
        split at staged
        · cases staged
        · rename_i cell encoded
          intro offset below
          cases offset with
          | zero =>
              refine ⟨cell, ?_, encodes item cell encoded⟩
              have kept := @stageInto_before _ _ _ next encode left
                (index + 1) index later (storage.set index (some cell))
                (by omega)
              rw [staged] at kept
              rw [Nat.add_zero, kept, List.getElem?_set_self (by omega)]
          | succ offset =>
              have room : index + 1 + left ≤
                  (storage.set index (some cell)).length := by
                rw [List.length_set]
                omega
              obtain ⟨other, held, goodCell⟩ :=
                inductionHypothesis room staged offset (by omega)
              refine ⟨other, ?_, goodCell⟩
              rw [← held]
              congr 1
              omega

end Staging

/-- Disjoint ranges of the storage for the input and the output. -/
structure StagedChanges.Placed
    (staged : StagedChanges) (arena : NativeArena Cell) : Prop where
  disjoint : staged.input.limit ≤ staged.output.start
  inside : staged.output.limit ≤ arena.storage.length
  output : staged.output.start = arena.changeCapacity
  sized : staged.output.len = staged.input.len
  bounded : staged.input.len ≤ arena.changeCapacity

/-! ## Calls -/

namespace NativeBatch

variable {target : KqueueTarget} {self : NativeBatch Cell}
  {good : Cell → Prop}

theorem wait_spec
    (fits : self.arena.Fits target) {records : List Cell}
    {result : Except IoError Nat}
    (counted : ∀ count, result = .ok count → count ≤ records.length)
    (written : ∀ cell ∈ records, good cell) :
    ∃ after answer,
      self.wait target records result = .ok (after, answer) ∧
        after.arena.Fits target ∧ after.receipts = 0 ∧
        after.arena.Holds good 0 after.observed := by
  have inside :
      self.arena.waitOutput.limit ≤ self.arena.storage.length := by
    have events := fits.events
    simp only [Span.limit, NativeArena.waitOutput]
    omega
  obtain ⟨arena, wrote, arenaFits, events, _, holds⟩ :=
    NativeArena.kernelWrite_spec fits inside written
  unfold wait
  rw [if_neg fits.eventCounts, wrote]
  cases result with
  | error source =>
      exact ⟨_, _, rfl, arenaFits, rfl, fun index impossible =>
        absurd impossible (Nat.not_lt_zero index)⟩
  | ok observed =>
      simp only
      split
      · exact ⟨_, _, rfl, arenaFits, rfl, fun index impossible =>
          absurd impossible (Nat.not_lt_zero index)⟩
      · rename_i within
        rw [events, Nat.not_lt] at within
        exact ⟨_, _, rfl, arenaFits, rfl,
          holds observed (counted observed rfl) within⟩

theorem stage_spec
    (fits : self.arena.Fits target)
    {iterator : ExactSizeIterator ι Item}
    {encode : Item → Except IoError Cell}
    (encodes : ∀ item cell, encode item = .ok cell → good cell)
    (items : ι) :
    ∃ after result,
      self.stage iterator encode items = .ok (after, result) ∧
        after.arena.Fits target ∧
        (after = self ∧ result = .error .bounds ∨
          after.observed = 0 ∧ after.receipts = 0) ∧
        ∀ staged, result = .ok staged →
          after.observed = 0 ∧ after.receipts = 0 ∧
            staged.input.len = iterator.len items ∧
            staged.Placed after.arena ∧
            after.arena.Holds good staged.input.start
              staged.input.len := by
  have room := fits.changes
  unfold stage
  simp only
  split
  · exact ⟨_, _, rfl, fits, Or.inl ⟨rfl, rfl⟩, fun _ impossible => by
      cases impossible⟩
  · rename_i accepted
    rw [not_or] at accepted
    have bounded : iterator.len items ≤ self.arena.changeCapacity := by
      omega
    have half : self.arena.changeCapacity ≤ self.arena.storage.length := by
      omega
    have filled : 0 + iterator.len items ≤ self.arena.storage.length := by
      omega
    rw [Span.splitAtMut, if_pos half]
    simp only [Span.upTo, if_pos bounded]
    have length := @length_stageInto _ _ _ iterator.next encode
      (iterator.len items) 0 items self.arena.storage
    cases looped : stageInto iterator.next encode (iterator.len items) 0
        items self.arena.storage with
    | mk storage staged =>
        rw [looped] at length
        have stagedFits : NativeArena.Fits target
            { self.arena with storage } := by
          refine ⟨?_, ?_, fits.eventCounts, fits.changeCounts⟩
          · rw [length]
            exact fits.events
          · rw [length]
            exact fits.changes
        cases staged with
        | error error =>
            exact ⟨_, _, rfl, stagedFits, Or.inr ⟨rfl, rfl⟩,
              fun _ impossible => by cases impossible⟩
        | ok rest =>
            simp only
            split
            · exact ⟨_, _, rfl, stagedFits, Or.inr ⟨rfl, rfl⟩,
                fun _ impossible => by cases impossible⟩
            · rw [if_pos (by omega)]
              refine ⟨_, _, rfl, stagedFits, Or.inr ⟨rfl, rfl⟩, ?_⟩
              intro placed same
              cases same
              refine ⟨rfl, rfl, rfl, ?_, ?_⟩
              · exact
                  { disjoint := by simp only [Span.limit]; omega
                    inside := by simp only [Span.limit, length]; omega
                    output := rfl
                    sized := rfl
                    bounded }
              · exact stageInto_ok encodes filled looped

theorem submit_spec
    (fits : self.arena.Fits target) (quiet : self.observed = 0)
    (cleared : self.receipts = 0) {staged : StagedChanges}
    (placed : staged.Placed self.arena) {input : Cell → Prop}
    (filled :
      self.arena.Holds input staged.input.start staged.input.len)
    {records : List Cell} {result : Except IoError Nat}
    (counted : ∀ count, result = .ok count → count ≤ records.length)
    (written : ∀ cell ∈ records, good cell) :
    ∃ after answer,
      self.submitStagedNative target staged records result =
          .ok (after, answer) ∧
        after.arena.Fits target ∧ after.observed = 0 ∧
        after.arena.Holds good after.arena.changeCapacity
          after.receipts := by
  have disjoint := placed.disjoint
  have inside := placed.inside
  obtain ⟨cells, read, _⟩ :=
    NativeArena.kernelRead_spec
      (by unfold Span.limit at disjoint inside ⊢; omega) filled
  obtain ⟨arena, wrote, arenaFits, _, changes, holds⟩ :=
    NativeArena.kernelWrite_spec fits inside written
  rw [placed.output] at holds
  unfold submitStagedNative
  rw [if_neg (fits.changeCounts _ placed.bounded), read, wrote]
  have empty : ∀ start, arena.Holds good start 0 :=
    fun _ index impossible => absurd impossible (Nat.not_lt_zero index)
  cases result with
  | error source =>
      refine ⟨_, _, rfl, arenaFits, quiet, ?_⟩
      rw [cleared]
      exact empty _
  | ok returned =>
      simp only [recordReceipts]
      split
      · refine ⟨_, _, rfl, arenaFits, quiet, ?_⟩
        rw [cleared]
        exact empty _
      · rename_i within
        refine ⟨_, _, rfl, arenaFits, quiet, ?_⟩
        simp only [changes]
        exact holds returned (counted returned rfl)
          (by rw [placed.sized]; omega)

end NativeBatch

/-! ## Tagged runs -/

/-- The call that wrote a cell. -/
inductive Writer where
  | wait (number : Nat)
  | staging (number : Nat)
  | submission (number : Nat)
deriving DecidableEq, Repr

structure TaggedCell where
  event : Kevent
  writer : Writer
deriving DecidableEq, Repr

/-- What the kernel writes and answers: a count never exceeds the records that
were written. -/
structure KernelReply where
  records : List Kevent
  result : Except IoError Nat
  counted : ∀ count, result = .ok count → count ≤ records.length

namespace KernelReply

def tagged (self : KernelReply) (writer : Writer) : List TaggedCell :=
  self.records.map fun event => { event, writer }

theorem tagged_writer
    (self : KernelReply) (writer : Writer) :
    ∀ cell ∈ self.tagged writer, cell.writer = writer := by
  intro cell member
  obtain ⟨event, _, rfl⟩ := List.mem_map.mp member
  rfl

theorem tagged_counted
    (self : KernelReply) (writer : Writer) :
    ∀ count, self.result = .ok count →
      count ≤ (self.tagged writer).length := by
  intro count answered
  rw [tagged, List.length_map]
  exact self.counted count answered

end KernelReply

/-- Encode a change into a cell of a staging. -/
def encodeTagged (target : KqueueTarget) (number : Nat) (change : Change) :
    Except IoError TaggedCell :=
  match encodeChange target change with
  | .error source => .error source
  | .ok event => .ok { event, writer := .staging number }

theorem encodeTagged_writer
    {target : KqueueTarget} {number : Nat} :
    ∀ change cell, encodeTagged target number change = .ok cell →
      cell.writer = .staging number := by
  intro change cell encoded
  unfold encodeTagged at encoded
  split at encoded
  · cases encoded
  · cases encoded
    rfl

/-- A batch with the numbers of calls so far. -/
structure TaggedBatch where
  batch : NativeBatch TaggedCell
  waits : Nat
  stagings : Nat
  submissions : Nat

/-- One use of a batch, with the kernel's replies. -/
inductive BatchCall (ι : Type*) where
  | wait (reply : KernelReply)
  | stage (items : ι)
  | submit (items : ι) (reply : KernelReply)
  | event (index observed : Nat)
  | receipt (index returned : Nat) (expected : Change)

namespace TaggedBatch

variable (target : KqueueTarget) (iterator : ExactSizeIterator ι Change)

def start (batch : NativeBatch TaggedCell) : TaggedBatch :=
  { batch, waits := 0, stagings := 0, submissions := 0 }

def event (self : TaggedBatch) (index observed : Nat) :
    Except StorageFault (Option RawKevent) :=
  self.batch.event target TaggedCell.event index observed

def receipt
    (self : TaggedBatch) (index returned : Nat) (expected : Change) :
    Except StorageFault FilterApply :=
  self.batch.receipt target TaggedCell.event index returned expected

def wait (self : TaggedBatch) (reply : KernelReply) :
    Except StorageFault TaggedBatch :=
  match self.batch.wait target (reply.tagged (.wait (self.waits + 1)))
      reply.result with
  | .error fault => .error fault
  | .ok (batch, _) => .ok { self with batch, waits := self.waits + 1 }

def stage (self : TaggedBatch) (items : ι) :
    Except StorageFault (TaggedBatch × Except StageError StagedChanges) :=
  match self.batch.stage iterator
      (encodeTagged target (self.stagings + 1)) items with
  | .error fault => .error fault
  | .ok (batch, staged) =>
      .ok ({ self with batch, stagings := self.stagings + 1 }, staged)

def submitStaged
    (self : TaggedBatch) (staged : StagedChanges) (reply : KernelReply) :
    Except StorageFault TaggedBatch :=
  match self.batch.submitStagedNative target staged
      (reply.tagged (.submission (self.submissions + 1))) reply.result with
  | .error fault => .error fault
  | .ok (batch, _) =>
      .ok { self with batch, submissions := self.submissions + 1 }

/-- `apply_batch`: submit what was staged. -/
def submit (self : TaggedBatch) (items : ι) (reply : KernelReply) :
    Except StorageFault TaggedBatch :=
  match self.stage target iterator items with
  | .error fault => .error fault
  | .ok (self, .error _) => .ok self
  | .ok (self, .ok staged) => self.submitStaged target staged reply

def call (self : TaggedBatch) :
    BatchCall ι → Except StorageFault TaggedBatch
  | .wait reply => self.wait target reply
  | .stage items =>
      match self.stage target iterator items with
      | .error fault => .error fault
      | .ok (self, _) => .ok self
  | .submit items reply => self.submit target iterator items reply
  | .event index observed =>
      match self.event target index observed with
      | .error fault => .error fault
      | .ok _ => .ok self
  | .receipt index returned expected =>
      match self.receipt target index returned expected with
      | .error fault => .error fault
      | .ok _ => .ok self

/-- The batch after calls in any order. -/
def run : TaggedBatch → List (BatchCall ι) →
    Except StorageFault TaggedBatch
  | self, [] => .ok self
  | self, first :: rest =>
      match self.call target iterator first with
      | .error fault => .error fault
      | .ok self => run self rest

/-- Every cell below a count was written by the most recent call of its
phase. -/
structure Current (tagged : TaggedBatch) : Prop where
  fits : tagged.batch.arena.Fits target
  events : tagged.batch.arena.Holds
    (fun cell => cell.writer = .wait tagged.waits) 0 tagged.batch.observed
  receipts : tagged.batch.arena.Holds
    (fun cell => cell.writer = .submission tagged.submissions)
    tagged.batch.arena.changeCapacity tagged.batch.receipts

namespace Current

variable {target} {self : TaggedBatch}
  (current : self.Current target)
include current

/-- An inspected event was written by the most recent wait. -/
theorem inspectedEvent
    {index observed : Nat} {slot : Option TaggedCell}
    (inspected : self.batch.inspectedEvent index observed = some slot) :
    ∃ cell, slot = some cell ∧
      self.batch.arena.storage[index]? = some slot ∧
      cell.writer = .wait self.waits := by
  unfold NativeBatch.inspectedEvent at inspected
  split at inspected
  · cases inspected
  · rename_i accepted
    rw [not_or, not_not] at accepted
    obtain ⟨cell, held, written⟩ := current.events index (by omega)
    rw [Nat.zero_add] at held
    rw [NativeArena.eventSlot] at inspected
    have same := inspected.symm.trans held
    exact ⟨cell, Option.some.inj same, inspected, written⟩

/-- An inspected receipt was written by the most recent submission. -/
theorem inspectedReceipt
    {index returned : Nat} {slot : Option TaggedCell}
    (inspected : self.batch.inspectedReceipt index returned = some slot) :
    ∃ cell, slot = some cell ∧
      self.batch.arena.storage[
        self.batch.arena.changeCapacity + index]? = some slot ∧
      cell.writer = .submission self.submissions := by
  unfold NativeBatch.inspectedReceipt at inspected
  split at inspected
  · rename_i accepted
    obtain ⟨cell, held, written⟩ := current.receipts index (by omega)
    unfold NativeArena.receiptSlot at inspected
    split at inspected
    · cases inspected
    · rename_i place added
      unfold usizeCheckedAdd at added
      split at added
      · rw [← Option.some.inj added] at inspected
        have same := inspected.symm.trans held
        exact ⟨cell, Option.some.inj same, inspected, written⟩
      · cases added
  · cases inspected

theorem event_ok (index observed : Nat) :
    ∃ answer, self.event target index observed = .ok answer := by
  unfold TaggedBatch.event NativeBatch.event
  cases inspected : self.batch.inspectedEvent index observed with
  | none => exact ⟨none, rfl⟩
  | some slot =>
      obtain ⟨cell, rfl, _⟩ := current.inspectedEvent inspected
      exact ⟨rawKevent target cell.event, rfl⟩

theorem receipt_ok (index returned : Nat) (expected : Change) :
    ∃ outcome, self.receipt target index returned expected =
      .ok outcome := by
  unfold TaggedBatch.receipt NativeBatch.receipt
  cases inspected : self.batch.inspectedReceipt index returned with
  | none => exact ⟨_, rfl⟩
  | some slot =>
      obtain ⟨cell, rfl, _⟩ := current.inspectedReceipt inspected
      exact ⟨_, rfl⟩

theorem wait (reply : KernelReply) :
    ∃ after, self.wait target reply = .ok after ∧ after.Current target := by
  obtain ⟨batch, answer, waited, fits, cleared, events⟩ :=
    NativeBatch.wait_spec current.fits
      (reply.tagged_counted (.wait (self.waits + 1)))
      (reply.tagged_writer (.wait (self.waits + 1)))
  unfold TaggedBatch.wait
  rw [waited]
  refine ⟨_, rfl, fits, events, ?_⟩
  simp only [cleared]
  exact fun index impossible => absurd impossible (Nat.not_lt_zero index)

/-- What a staging does: nothing may be read after it, unless it was refused
at once, and a staged input was written by it. -/
theorem stage (items : ι) :
    ∃ after staged,
      self.stage target iterator items = .ok (after, staged) ∧
        after.Current target ∧
        ∀ changes, staged = .ok changes →
          after.batch.observed = 0 ∧ after.batch.receipts = 0 ∧
            changes.input.len = iterator.len items ∧
            changes.Placed after.batch.arena ∧
            after.batch.arena.Holds
              (fun cell => cell.writer = .staging after.stagings)
              changes.input.start changes.input.len := by
  obtain ⟨batch, staged, ran, fits, quiet, placed⟩ :=
    @NativeBatch.stage_spec _ _ _ _ _ _ current.fits iterator _
      (@encodeTagged_writer target (self.stagings + 1)) items
  unfold TaggedBatch.stage
  rw [ran]
  refine ⟨_, _, rfl, ?_, placed⟩
  rcases quiet with ⟨rfl, _⟩ | ⟨unobserved, unanswered⟩
  · exact ⟨fits, current.events, current.receipts⟩
  · refine ⟨fits, ?_, ?_⟩
    · simp only [unobserved]
      exact fun index impossible =>
        absurd impossible (Nat.not_lt_zero index)
    · simp only [unanswered]
      exact fun index impossible =>
        absurd impossible (Nat.not_lt_zero index)

theorem submit (items : ι) (reply : KernelReply) :
    ∃ after, self.submit target iterator items reply = .ok after ∧
      after.Current target := by
  obtain ⟨middle, staged, ran, kept, placed⟩ :=
    current.stage iterator items
  unfold TaggedBatch.submit
  rw [ran]
  cases staged with
  | error error => exact ⟨middle, rfl, kept⟩
  | ok changes =>
      obtain ⟨quiet, cleared, _, disjoint, filled⟩ := placed changes rfl
      obtain ⟨batch, answer, submitted, fits, unobserved, receipts⟩ :=
        NativeBatch.submit_spec kept.fits quiet cleared disjoint filled
          (reply.tagged_counted (.submission (middle.submissions + 1)))
          (reply.tagged_writer (.submission (middle.submissions + 1)))
      simp only [submitStaged, submitted]
      refine ⟨_, rfl, fits, ?_, receipts⟩
      simp only [unobserved]
      exact fun index impossible =>
        absurd impossible (Nat.not_lt_zero index)

/-- Every call keeps the phases apart, and none is a fault. -/
theorem call (next : BatchCall ι) :
    ∃ after, self.call target iterator next = .ok after ∧
      after.Current target := by
  cases next with
  | wait reply => exact current.wait reply
  | stage items =>
      obtain ⟨after, staged, ran, kept, _⟩ :=
        current.stage iterator items
      refine ⟨after, ?_, kept⟩
      simp only [TaggedBatch.call, ran]
  | submit items reply => exact current.submit iterator items reply
  | event index observed =>
      obtain ⟨answer, read⟩ := current.event_ok index observed
      refine ⟨self, ?_, current⟩
      simp only [TaggedBatch.call, read]
  | receipt index returned expected =>
      obtain ⟨outcome, read⟩ := current.receipt_ok index returned expected
      refine ⟨self, ?_, current⟩
      simp only [TaggedBatch.call, read]

theorem run (calls : List (BatchCall ι)) :
    ∃ after, self.run target iterator calls = .ok after ∧
      after.Current target := by
  induction calls generalizing self with
  | nil => exact ⟨self, rfl, current⟩
  | cons first rest inductionHypothesis =>
      obtain ⟨middle, called, kept⟩ :=
        current.call iterator first
      simp only [TaggedBatch.run, called]
      exact inductionHypothesis kept

end Current

theorem start_current
    {target : KqueueTarget} {eventCapacity changeCapacity : Nat}
    {allocated : Bool} {batch : NativeBatch TaggedCell}
    (created :
      NativeBatch.new target eventCapacity changeCapacity allocated =
        some batch) :
    (start batch).Current target := by
  unfold NativeBatch.new at created
  obtain ⟨arena, made, rfl⟩ := Option.map_eq_some_iff.mp created
  exact ⟨NativeArena.new_fits made,
    fun index impossible => absurd impossible (Nat.not_lt_zero index),
    fun index impossible => absurd impossible (Nat.not_lt_zero index)⟩

/-- Reused storage is read only where the current phase wrote it. -/
theorem storage_phases
    {target : KqueueTarget} (iterator : ExactSizeIterator ι Change)
    {eventCapacity changeCapacity : Nat} {allocated : Bool}
    {batch : NativeBatch TaggedCell}
    (created :
      NativeBatch.new target eventCapacity changeCapacity allocated =
        some batch)
    (calls : List (BatchCall ι)) :
    ∃ self : TaggedBatch,
      (start batch).run target iterator calls = .ok self ∧
        (∀ index observed,
          (∃ answer, self.event target index observed = .ok answer) ∧
            ∀ slot,
              self.batch.inspectedEvent index observed = some slot →
                ∃ cell, slot = some cell ∧
                  self.batch.arena.storage[index]? = some slot ∧
                  cell.writer = .wait self.waits) ∧
        (∀ index returned expected,
          (∃ outcome,
            self.receipt target index returned expected = .ok outcome) ∧
            ∀ slot,
              self.batch.inspectedReceipt index returned = some slot →
                ∃ cell, slot = some cell ∧
                  self.batch.arena.storage[
                    self.batch.arena.changeCapacity + index]? =
                      some slot ∧
                  cell.writer = .submission self.submissions) ∧
        ∀ items, ∃ after staged,
          self.stage target iterator items = .ok (after, staged) ∧
            ∀ changes, staged = .ok changes →
              changes.input.limit ≤ changes.output.start ∧
                changes.output.limit ≤
                  after.batch.arena.storage.length ∧
                ∃ input,
                  after.batch.arena.kernelRead changes.input =
                      .ok input ∧
                    input.length = iterator.len items ∧
                    ∀ cell ∈ input,
                      cell.writer = .staging after.stagings := by
  obtain ⟨self, ran, current⟩ :=
    (start_current created).run iterator calls
  refine ⟨self, ran, fun index observed => ⟨?_, ?_⟩,
    fun index returned expected => ⟨?_, ?_⟩, ?_⟩
  · exact current.event_ok index observed
  · exact fun slot => current.inspectedEvent
  · exact current.receipt_ok index returned expected
  · exact fun slot => current.inspectedReceipt
  · intro items
    obtain ⟨after, staged, staging, _, placed⟩ :=
      current.stage iterator items
    refine ⟨after, staged, staging, fun changes same => ?_⟩
    obtain ⟨_, _, length, disjoint, filled⟩ := placed changes same
    have apart := disjoint.disjoint
    have inside := disjoint.inside
    obtain ⟨input, read, sized, written⟩ :=
      NativeArena.kernelRead_spec
        (by unfold Span.limit at apart inside ⊢; omega) filled
    exact ⟨apart, inside, input, read, sized.trans length, written⟩

/-- Changes in a list, with a length that they report. -/
def reportedChanges : ExactSizeIterator (Nat × List Change) Change :=
  { len := Prod.fst
    next := fun items => (items.2.head?, (items.1, items.2.tail)) }

/-- Storage for three records and two changes. -/
def smallStorage : NativeBatch TaggedCell :=
  { arena :=
      { storage := List.replicate 4 none
        eventCapacity := 3
        changeCapacity := 2 }
    observed := 0
    receipts := 0 }

/-- A kernel that writes two records and counts some of them. -/
def twoRecords (count : Nat) (fits : count ≤ 2) : KernelReply :=
  { records := [emptyKevent, emptyKevent]
    result := .ok count
    counted := fun found answered => by
      cases answered
      exact fits }

/-- Two disables of one descriptor, with their true length. -/
def twoChanges : Nat × List Change :=
  (2, [⟨3, .read, .disable, 0⟩, ⟨3, .write, .disable, 0⟩])

/-- A wait reads what it wrote; after a submission over the same slots a
receipt is read from the submission's output, and the next staging submits what
it staged itself. -/
theorem smallStorage_phases :
    (∃ self cell,
        (start smallStorage).run .netbsd reportedChanges
            [.wait (twoRecords 2 (Nat.le_refl 2))] = .ok self ∧
          self.batch.inspectedEvent 1 2 = some (some cell) ∧
          cell.writer = .wait self.waits) ∧
      ∃ self cell after changes input,
        (start smallStorage).run .netbsd reportedChanges
            [.wait (twoRecords 2 (Nat.le_refl 2)), .event 1 2,
              .submit twoChanges (twoRecords 1 (Nat.le_succ 1))] =
            .ok self ∧
          self.batch.inspectedReceipt 0 1 = some (some cell) ∧
          cell.writer = .submission self.submissions ∧
          self.stage .netbsd reportedChanges twoChanges =
            .ok (after, .ok changes) ∧
          changes.input.limit ≤ changes.output.start ∧
          after.batch.arena.kernelRead changes.input = .ok input ∧
          input.length = 2 ∧
          ∀ cell ∈ input, cell.writer = .staging after.stagings := by
  have phases := @storage_phases _ .netbsd reportedChanges 3 2 true
    smallStorage rfl
  constructor
  · obtain ⟨self, ran, events, _⟩ :=
      phases [.wait (twoRecords 2 (Nat.le_refl 2))]
    have final := ran
    cases ran
    obtain ⟨cell, same, _, written⟩ := (events 1 2).2 _ rfl
    exact ⟨_, cell, final, congrArg some same, written⟩
  · obtain ⟨self, ran, _, receipts, staging⟩ :=
      phases [.wait (twoRecords 2 (Nat.le_refl 2)), .event 1 2,
        .submit twoChanges (twoRecords 1 (Nat.le_succ 1))]
    have final := ran
    cases ran
    obtain ⟨cell, same, _, written⟩ :=
      (receipts 0 1 ⟨3, .read, .disable, 0⟩).2 _ rfl
    obtain ⟨after, staged, performed, placed⟩ := staging twoChanges
    have again := performed
    cases performed
    obtain ⟨apart, _, input, read, sized, filled⟩ := placed _ rfl
    exact ⟨_, cell, _, _, input, final, congrArg some same, written, again,
      apart, read, sized, filled⟩

end TaggedBatch

end Zio
