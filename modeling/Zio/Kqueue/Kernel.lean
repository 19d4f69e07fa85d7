import Mathlib.Data.List.Forall2
import Zio.Kqueue.Native

/-!
# Kernels behind a kqueue

A kernel is any state whose `kevent` call keeps a map of installed filters as
documented: receipts tell truthfully what happened to each change, a submission
that fails as a whole applied any subset of its changes, and an interrupted one
applied all of them on the targets that say so.  Over such a kernel the native
executors are truthful.
-/

namespace Zio

/-! ## Codec -/

theorem ident_of_rawFd
    {ident : UInt64} {descriptor : RawFd}
    (decoded : rawFdOfIdent ident = some descriptor) :
    ident = UInt64.ofNat descriptor.toInt.toNat := by
  unfold rawFdOfIdent at decoded
  split at decoded
  · rename_i fits
    cases decoded
    have value : (Int32.ofNat ident.toNat).toInt = ident.toNat := by
      apply Int32.toInt_ofNat_of_lt
      simp only [i32Max] at fits
      omega
    rw [value, Int.toNat_natCast, UInt64.ofNat_toNat]
  · cases decoded

theorem rawFdOfIdent_encoded
    {descriptor : RawFd} (nonnegative : ¬ descriptor < 0) :
    rawFdOfIdent (UInt64.ofNat descriptor.toInt.toNat) =
      some descriptor := by
  have upper := Int32.toInt_lt descriptor
  have lower : 0 ≤ descriptor.toInt := by
    rw [Int32.lt_iff_toInt_lt] at nonnegative
    simpa using nonnegative
  have value : (UInt64.ofNat descriptor.toInt.toNat).toNat =
      descriptor.toInt.toNat := by
    apply UInt64.toNat_ofNat_of_lt
    simp only [UInt64.size]
    omega
  unfold rawFdOfIdent
  rw [value, if_pos (by simp only [i32Max]; omega)]
  congr 1
  rw [← Int32.ofInt_eq_ofNat, Int.toNat_of_nonneg lower,
    Int32.ofInt_toInt]

theorem filter_of_decoded
    {target : KqueueTarget} {native : Int64} {filter : Filter}
    (decoded : decodeFilter target native = filter)
    (known : filter ≠ .unknown) :
    native = encodeFilter target filter := by
  unfold decodeFilter at decoded
  split at decoded
  · rename_i same
    subst decoded
    exact same
  · split at decoded
    · rename_i same
      subst decoded
      exact same
    · split at decoded
      · rename_i same
        subst decoded
        exact same
      · exact (known decoded.symm).elim

/-- The data of a receipt: zero, or the error of its change. -/
def receiptData : Option Int32 → Int64
  | none => 0
  | some code => code.toInt64

theorem i32OfData_receipt (error : Option Int32) :
    i32OfData (receiptData error) = some (error.getD 0) := by
  cases error with
  | none => rfl
  | some code =>
      have lower := Int32.le_toInt code
      have upper := Int32.toInt_lt code
      have value : (code.toInt64).toInt = code.toInt :=
        Int32.toInt_toInt64 code
      simp only [i32OfData, receiptData, value]
      rw [if_pos ⟨by omega, by omega⟩, Int32.ofInt_toInt]
      rfl

/-- An output record that answers a submitted event reports its error. -/
def Kevent.Certifies
    (record event : Kevent) (error : Option Int32) : Prop :=
  record.ident = event.ident → record.filter = event.filter →
    hasFlag record.flags evError = true → record.data = receiptData error

/-- What a receipt may say about a change with this error. -/
def FilterApply.Reports (outcome : FilterApply) (error : Option Int32) :
    Prop :=
  match outcome with
  | .applied => error = none
  | .alreadyAbsent => error = some enoent
  | .notApplied code => error = some code
  | .unknown _ => True

theorem encodeChange_fields
    {target : KqueueTarget} {change : Change} {event : Kevent}
    (encoded : encodeChange target change = .ok event) :
    event.ident = UInt64.ofNat change.ident.toInt.toNat ∧
      event.filter = encodeFilter target change.filter := by
  unfold encodeChange encodeChangeWithReceipt at encoded
  split at encoded
  · cases encoded
  · cases encoded
    exact ⟨rfl, rfl⟩

/-- Decoding a truthful receipt reports the error of its change. -/
theorem decodeReceipt_reports
    {target : KqueueTarget} {change : Change} {event : Kevent}
    {error : Option Int32} (known : change.filter ≠ .unknown)
    (positive : ∀ code, error = some code → 0 < code)
    (encoded : encodeChange target change = .ok event)
    {output : Option Kevent}
    (certified : ∀ record, output = some record →
      record.Certifies event error) :
    (decodeReceipt target output change).Reports error := by
  cases output with
  | none => trivial
  | some record =>
      simp only [decodeReceipt]
      split
      · trivial
      · rename_i matching
        simp only [not_or, not_not, Bool.not_eq_false] at matching
        obtain ⟨ident, filter, marked⟩ := matching
        obtain ⟨eventIdent, eventFilter⟩ := encodeChange_fields encoded
        have data := certified record rfl
          ((ident_of_rawFd ident).trans eventIdent.symm)
          ((filter_of_decoded filter known).trans eventFilter.symm) marked
        rw [data, i32OfData_receipt]
        cases error with
        | none => exact rfl
        | some code =>
            have above := positive code rfl
            have nonzero : code ≠ 0 := by
              rintro rfl
              exact absurd above (by decide)
            simp only [Option.getD_some, if_neg nonzero, if_pos above]
            exact rfl

/-! ## Kernels -/

/-- The filters after a submission failed as a whole. -/
def FilterMap.Interrupted
    (target : KqueueTarget) (before : FilterMap) (changes : List Change)
    (source : IoError) (after : FilterMap) : Prop :=
  if kqueueInterrupted source && target.appliesInterruptedChanges then
    after = before.applyAll changes
  else
    before.Partly changes after

/-- A kqueue: any state with a `kevent` call that keeps its filters. -/
structure KqueueKernel (target : KqueueTarget) (σ : Type*) where
  filters : σ → FilterMap
  kevent : KeventCall σ
  failed : ∀ {queue after changes input outputs source} (receipt : Bool),
    (∀ change ∈ changes, Change.Resource change) →
    changes.mapM (encodeChangeWithReceipt target · receipt) = .ok input →
    kevent queue input outputs = (after, .error source) →
      (filters queue).Interrupted target changes source (filters after)
  answered : ∀ {queue after changes input records},
    (∀ change ∈ changes, Change.Resource change) →
    changes.mapM (encodeChange target) = .ok input →
    kevent queue input input.length = (after, .ok records) →
      ∃ errors,
        (filters queue).Attempts changes errors (filters after) ∧
          ∀ (index : Nat) (event record : Kevent) (error : Option Int32),
            input[index]? = some event →
            records[index]? = some record →
            errors[index]? = some error →
              record.Certifies event error
  unanswered : ∀ {queue after changes input records},
    (∀ change ∈ changes, Change.Resource change) →
    changes.mapM (encodeRegistrationChange target) = .ok input →
    kevent queue input 0 = (after, .ok records) →
      (records = [] → filters after = (filters queue).applyAll changes) ∧
        (filters queue).Partly changes (filters after)

/-- What a submission did, as far as its answer tells.  `receipt` reads the
receipt of one change. -/
def FilterMap.Submitted
    (before after : FilterMap) (changes : List Change)
    (receipt : Nat → Change → FilterApply) (answer : NativeApply) : Prop :=
  match answer with
  | .appliedWithoutReceipts => after = before.applyAll changes
  | .unknown _ => before.Partly changes after
  | .receipts _ =>
      ∃ errors, before.Attempts changes errors after ∧
        ∀ index change error, changes[index]? = some change →
          errors[index]? = some error →
            (receipt index change).Reports error

theorem FilterMap.partly_refl (filters : FilterMap) (changes : List Change) :
    filters.Partly changes filters :=
  ⟨[], List.nil_sublist changes, rfl⟩

theorem FilterMap.Interrupted.submitted
    {target : KqueueTarget} {before after : FilterMap}
    {changes : List Change} {source : IoError}
    (interrupted : before.Interrupted target changes source after)
    (receipt : Nat → Change → FilterApply) :
    before.Submitted after changes receipt
      (classifyApplyError source target.appliesInterruptedChanges) := by
  unfold Interrupted at interrupted
  unfold classifyApplyError
  split
  · rename_i accepted
    rw [if_pos accepted] at interrupted
    exact interrupted
  · rename_i refused
    rw [if_neg refused] at interrupted
    exact interrupted

theorem mapM_forall₂
    {α β ε : Type*} {encode : α → Except ε β} {items : List α}
    {encoded : List β} (mapped : items.mapM encode = .ok encoded) :
    List.Forall₂ (fun item event => encode item = .ok event) items
      encoded := by
  induction items generalizing encoded with
  | nil =>
      cases mapped
      exact List.Forall₂.nil
  | cons item rest inductionHypothesis =>
      rw [List.mapM_cons] at mapped
      cases first : encode item with
      | error source =>
          rw [first] at mapped
          cases mapped
      | ok event =>
          cases later : rest.mapM encode with
          | error source =>
              rw [first, later] at mapped
              cases mapped
          | ok events =>
              rw [first, later] at mapped
              cases mapped
              exact List.Forall₂.cons first (inductionHypothesis later)

variable {σ : Type*} {target : KqueueTarget}

/-- A submission with one output entry for each change. -/
theorem KqueueKernel.submits
    (kernel : KqueueKernel target σ) {queue after : σ}
    {changes : List Change} {input records : List Kevent}
    {answer : NativeApply}
    (resource : ∀ change ∈ changes, change.Resource)
    (encoded : changes.mapM (encodeChange target) = .ok input)
    (submitted :
      Kqueue.submitNativeCounts target kernel.kevent queue input
        input.length = (after, records, answer)) :
    (kernel.filters queue).Submitted (kernel.filters after) changes
        (fun index => decodeReceipt target records[index]?) answer ∧
      ∀ returned, answer = .receipts returned →
        returned = records.length := by
  unfold Kqueue.submitNativeCounts at submitted
  split at submitted
  · cases submitted
    exact ⟨FilterMap.partly_refl _ _, fun _ impossible => by
      cases impossible⟩
  · rcases called : kernel.kevent queue input input.length with
      ⟨next, reply⟩
    rw [called] at submitted
    cases reply with
    | error source =>
        cases submitted
        refine ⟨(kernel.failed true resource encoded called).submitted _,
          ?_⟩
        intro returned impossible
        unfold classifyApplyError at impossible
        split at impossible <;> cases impossible
    | ok written =>
        cases submitted
        obtain ⟨errors, attempts, certified⟩ :=
          kernel.answered resource encoded called
        refine ⟨⟨errors, attempts, ?_⟩, fun returned same => by
          cases same
          rfl⟩
        intro index change error named held
        have events := mapM_forall₂ encoded
        have inside := (List.getElem?_eq_some_iff.mp named).1
        have insideInput : index < input.length := by
          rw [← events.length_eq]
          exact inside
        have event := List.getElem?_eq_getElem insideInput
        have encodes := events.get inside insideInput
        simp only [List.get_eq_getElem,
          (List.getElem?_eq_some_iff.mp named).2] at encodes
        have positive : ∀ code, error = some code → 0 < code := by
          rintro code rfl
          exact attempts.code_pos (List.mem_of_getElem? held)
        have known : change.filter ≠ .unknown := by
          have filters := (resource change (List.mem_of_getElem? named)).1
          rcases filters with filter | filter <;> rw [filter] <;> decide
        exact decodeReceipt_reports known positive encodes
          fun record written =>
            certified index _ record error event written held

/-! ## Mutations -/

/-- The loop records the error of every change. -/
theorem setReceipts_ok
    {error : Nat → Change → Except IoError (Option Int32)}
    {changes : List Change} {index : Nat} {receipts after : Receipts}
    (recorded :
      Kqueue.setReceipts error changes index receipts = .ok after) :
    ∃ codes,
      List.Forall₂ (fun place code => error place.1 place.2 = .ok code)
          ((List.range' index changes.length).zip changes) codes ∧
        after.len = receipts.len ∧
        (index + changes.length ≤ 2 →
          after.items.take (index + changes.length) =
            receipts.items.take index ++ receiptsOf changes codes) := by
  induction changes generalizing index receipts with
  | nil =>
      cases recorded
      refine ⟨[], List.Forall₂.nil, rfl, fun _ => ?_⟩
      simp [receiptsOf]
  | cons change rest inductionHypothesis =>
      unfold Kqueue.setReceipts at recorded
      split at recorded
      · cases recorded
      · rename_i code read
        simp only [Receipts.set] at recorded
        split at recorded
        · cases recorded
        · rename_i written set
          split at set
          · cases set
            obtain ⟨codes, reads, len, items⟩ :=
              inductionHypothesis recorded
            refine ⟨code :: codes, List.Forall₂.cons read reads, len, ?_⟩
            intro room
            rw [List.length_cons] at room ⊢
            have first := receipts.sized
            have head :
                (receipts.items.set index
                    { action := change.action, error := code }).take
                  (index + 1) =
                  receipts.items.take index ++
                    [{ action := change.action, error := code }] := by
              rw [List.take_add_one, List.getElem?_set_self (by omega),
                List.take_set_of_le (Nat.le_refl index)]
              rfl
            rw [show index + (rest.length + 1) =
              index + 1 + rest.length by omega, items (by omega), head,
              List.append_assoc]
            rfl
          · cases set

/-- Recorded receipts are those of the errors that were read. -/
theorem receipts_recorded
    {error : Nat → Change → Except IoError (Option Int32)}
    {changes : ChangeList} {after : Receipts}
    (recorded :
      Kqueue.setReceipts error changes.items 0
        (Receipts.new changes.items.length) = .ok after) :
    ∃ codes,
      codes.length = changes.items.length ∧
        (∀ index change code, changes.items[index]? = some change →
          codes[index]? = some code → error index change = .ok code) ∧
        after.iter = receiptsOf changes.items codes := by
  obtain ⟨codes, reads, len, items⟩ := setReceipts_ok recorded
  have bounded := changes.bounded
  have lengths := reads.length_eq
  rw [List.length_zip, List.length_range', Nat.min_self] at lengths
  refine ⟨codes, lengths.symm, ?_, ?_⟩
  · intro index change code named held
    obtain ⟨inside, same⟩ := List.getElem?_eq_some_iff.mp named
    obtain ⟨insideCodes, sameCode⟩ := List.getElem?_eq_some_iff.mp held
    have insideZip : index <
        ((List.range' 0 changes.items.length).zip
          changes.items).length := by
      rw [List.length_zip, List.length_range', Nat.min_self]
      exact inside
    have reading := reads.get insideZip insideCodes
    simp only [List.get_eq_getElem, List.getElem_zip,
      List.getElem_range', same, sameCode, Nat.zero_add,
      Nat.one_mul] at reading
    exact reading
  · have all := items (by omega)
    rw [Nat.zero_add, List.take_zero, List.nil_append] at all
    rw [Receipts.iter, len]
    exact all

theorem receiptError_ok
    {output : List Kevent} {index : Nat} {change : Change}
    {code error : Option Int32}
    (read : Kqueue.receiptError target output index change = .ok code)
    (reports : (decodeReceipt target output[index]? change).Reports
      error) :
    error = code := by
  unfold Kqueue.receiptError at read
  split at read
  · rename_i applied
    rw [applied] at reports
    cases read
    exact reports
  · rename_i refused
    rw [refused] at reports
    cases read
    exact reports
  · cases read
  · cases read

theorem registration_input
    {descriptor : RawFd} {token : UInt64} {interest : Interest}
    (nonempty : interest.isEmpty = false) {input : List Kevent}
    (encoded :
      (Kqueue.registrationFilters interest).mapM
        (Kqueue.registrationChange target descriptor token) = .ok input) :
    (additions descriptor token interest .addEnabled).items.mapM
        (encodeRegistrationChange target) = .ok input ∧
      input ≠ [] := by
  have mapped :
      (additions descriptor token interest .addEnabled).items.mapM
          (encodeRegistrationChange target) =
        (Kqueue.registrationFilters interest).mapM
          (Kqueue.registrationChange target descriptor token) := by
    rcases interest.cases_eq with rfl | rfl | rfl | rfl
    · cases nonempty
    · rfl
    · rfl
    · rfl
  refine ⟨mapped.trans encoded, ?_⟩
  rintro rfl
  have filters := (mapM_forall₂ encoded).length_eq
  rcases interest.cases_eq with rfl | rfl | rfl | rfl
  · cases nonempty
  · cases filters
  · cases filters
  · cases filters

/-- The receipts of a submission are those of its attempts. -/
theorem FilterMap.Submitted.receipts
    {before after : FilterMap} {changes : ChangeList}
    {output : List Kevent} {answer : NativeApply} {receipts : Receipts}
    (settled :
      before.Submitted after changes.items
        (fun index => decodeReceipt target output[index]?) answer)
    (recorded :
      Kqueue.answerReceipts target changes.items output answer =
        .ok receipts) :
    ∃ errors,
      before.Attempts changes.items errors after ∧
        receipts.iter = receiptsOf changes.items errors := by
  cases answer with
  | unknown source => cases recorded
  | appliedWithoutReceipts =>
      obtain ⟨codes, length, reads, items⟩ := receipts_recorded recorded
      refine ⟨changes.items.map fun _ => none, ?_, ?_⟩
      · have all := FilterMap.attempts_applyAll before changes.items
        rw [← settled] at all
        exact all
      · rw [items]
        congr 1
        apply List.ext_getElem
        · rw [length, List.length_map]
        · intro index inside _
          have insideChanges := length ▸ inside
          have read := reads index _ _
            (List.getElem?_eq_getElem insideChanges)
            (List.getElem?_eq_getElem inside)
          rw [List.getElem_map]
          exact (Except.ok.inj read).symm
  | receipts returned =>
      simp only [Kqueue.answerReceipts] at recorded
      split at recorded
      · obtain ⟨codes, length, reads, items⟩ := receipts_recorded recorded
        obtain ⟨errors, attempts, reports⟩ := settled
        refine ⟨errors, attempts, ?_⟩
        rw [items]
        congr 1
        apply List.ext_getElem
        · rw [length, attempts.reports.length_eq]
        · intro index inside insideErrors
          have insideChanges := length ▸ inside
          have named := List.getElem?_eq_getElem insideChanges
          have read := reads index _ _ named
            (List.getElem?_eq_getElem inside)
          exact (receiptError_ok read
            (reports index _ _ named
              (List.getElem?_eq_getElem insideErrors))).symm
      · cases recorded

/-- Whatever a submission answered, it applied a subset of its changes. -/
theorem FilterMap.Submitted.partly
    {before after : FilterMap} {changes : List Change}
    {receipt : Nat → Change → FilterApply} {answer : NativeApply}
    (settled : before.Submitted after changes receipt answer) :
    before.Partly changes after := by
  cases answer with
  | appliedWithoutReceipts => exact ⟨changes, List.Sublist.refl _, settled⟩
  | unknown source => exact settled
  | receipts returned =>
      obtain ⟨errors, attempts, _⟩ := settled
      exact attempts.reports.partly

/-- A mutation either reached no kernel, or submitted its changes. -/
theorem KqueueKernel.apply_cases
    (kernel : KqueueKernel target σ) {queue after : σ}
    {changes : ChangeList} {result : Except IoError Receipts}
    (resource : ∀ change ∈ changes.items, change.Resource)
    (applied :
      Kqueue.apply target kernel.kevent queue changes =
        (after, result)) :
    (after = queue ∧ ∃ source, result = .error source) ∨
      ∃ output answer,
        (kernel.filters queue).Submitted (kernel.filters after)
            changes.items
            (fun index => decodeReceipt target output[index]?) answer ∧
          result =
            Kqueue.answerReceipts target changes.items output answer := by
  unfold Kqueue.apply at applied
  simp only [ChangeList.asSlice] at applied
  split at applied
  · cases applied
    exact Or.inl ⟨rfl, _, rfl⟩
  · rename_i input encoded
    rcases native : Kqueue.submitNative target kernel.kevent queue input
        input.length with ⟨next, output, answer⟩
    rw [native] at applied
    cases applied
    unfold Kqueue.submitNative at native
    split at native
    · cases native
      exact Or.inl ⟨rfl, _, rfl⟩
    · obtain ⟨settled, _⟩ := kernel.submits resource encoded native
      exact Or.inr ⟨output, answer, settled, rfl⟩

/-- A submission without output entries. -/
theorem KqueueKernel.submitsOnly
    (kernel : KqueueKernel target σ) {queue after : σ}
    {changes : List Change} {input records : List Kevent}
    {answer : NativeApply}
    (resource : ∀ change ∈ changes, change.Resource)
    (encoded : changes.mapM (encodeRegistrationChange target) = .ok input)
    (submitted :
      Kqueue.submitNativeCounts target kernel.kevent queue input 0 =
        (after, records, answer)) :
    (kernel.filters queue).Partly changes (kernel.filters after) ∧
      (answer = .appliedWithoutReceipts ∨ answer = .receipts 0 →
        kernel.filters after =
          (kernel.filters queue).applyAll changes) := by
  unfold Kqueue.submitNativeCounts at submitted
  split at submitted
  · cases submitted
    exact ⟨FilterMap.partly_refl _ _, by simp⟩
  · rcases called : kernel.kevent queue input 0 with ⟨next, reply⟩
    rw [called] at submitted
    cases reply with
    | error source =>
        cases submitted
        have settled := (kernel.failed false resource encoded
          called).submitted fun _ _ => .unknown none
        refine ⟨settled.partly, ?_⟩
        rintro (interrupted | impossible)
        · rw [interrupted] at settled
          exact settled
        · unfold classifyApplyError at impossible
          split at impossible <;> cases impossible
    | ok written =>
        cases submitted
        obtain ⟨all, subset⟩ := kernel.unanswered resource encoded called
        refine ⟨subset, ?_⟩
        rintro (impossible | none)
        · cases impossible
        · exact all (List.length_eq_zero_iff.mp
            (NativeApply.receipts.inj none))

/-- A registration: success applied every addition, and failure a subset. -/
theorem KqueueKernel.registers
    (kernel : KqueueKernel target σ) {queue after : σ}
    {descriptor : RawFd} {token : UInt64} {interest : Interest}
    {result : Except IoError Unit}
    (nonempty : interest.isEmpty = false)
    (submitted :
      Kqueue.applyRegistrationNative target kernel.kevent queue descriptor
        token interest = (after, result)) :
    (kernel.filters queue).Partly
        (additions descriptor token interest .addEnabled).items
        (kernel.filters after) ∧
      (result = .ok () →
        kernel.filters after =
          (kernel.filters queue).applyAll
            (additions descriptor token interest .addEnabled).items) := by
  have resource : ∀ change ∈
      (additions descriptor token interest .addEnabled).items,
        change.Resource :=
    fun change member =>
      (additions_scoped descriptor token interest change member).2.2
  unfold Kqueue.applyRegistrationNative at submitted
  split at submitted
  · cases submitted
    exact ⟨FilterMap.partly_refl _ _, fun impossible => by
      cases impossible⟩
  · rename_i input encoded
    obtain ⟨additionsEncoded, some⟩ := registration_input nonempty encoded
    rcases native : Kqueue.submitNativeCounts target kernel.kevent queue
        input 0 with ⟨next, records, answer⟩
    obtain ⟨subset, all⟩ :=
      kernel.submitsOnly resource additionsEncoded native
    have called :
        Kqueue.submitChangesNative target kernel.kevent queue input =
          (next, answer) := by
      unfold Kqueue.submitChangesNative
      rw [if_neg (by simpa using some), native]
    rw [called] at submitted
    split at submitted
    · rename_i same
      cases same
      cases submitted
      exact ⟨subset, fun _ => all (Or.inl rfl)⟩
    · rename_i same
      cases same
      cases submitted
      exact ⟨subset, fun _ => all (Or.inr rfl)⟩
    · rename_i same
      cases same
      cases submitted
      exact ⟨subset, fun impossible => by cases impossible⟩
    · rename_i same
      cases same
      cases submitted
      exact ⟨subset, fun impossible => by cases impossible⟩

/-- `Kqueue` is a truthful change executor. -/
theorem KqueueKernel.truthful (kernel : KqueueKernel target σ) :
    (Kqueue.executor target kernel.kevent).Truthful kernel.filters where
  applied := by
    intro queue changes after receipts resource submitted
    rcases kernel.apply_cases resource submitted with
      ⟨_, source, impossible⟩ | ⟨output, answer, settled, recorded⟩
    · cases impossible
    · exact settled.receipts recorded.symm
  failed := by
    intro queue changes after source resource submitted
    rcases kernel.apply_cases resource submitted with
      ⟨rfl, _⟩ | ⟨output, answer, settled, _⟩
    · exact FilterMap.partly_refl _ _
    · exact settled.partly
  registered := fun nonempty submitted =>
    (kernel.registers nonempty submitted).2 rfl
  unregistered := fun nonempty submitted =>
    (kernel.registers nonempty submitted).1

/-! ## Disarms -/

/-- A receipt slot that is read holds a record of the submission. -/
theorem KeventBatch.receipt_slot
    {batch : KeventBatch} (cleared : batch.receipts = 0)
    {count index place : Nat} {records : List Kevent} {event : Kevent}
    (current : records.length =
      ((batch.writeOutput count records).recordReceipts count
        records.length).receipts)
    (inside : index < records.length)
    (added : usizeCheckedAdd batch.arena.changeCapacity index = some place)
    (held : (batch.writeOutput count records).arena.storage[place]? =
      some event) :
    records[index]? = some event := by
  unfold KeventBatch.recordReceipts at current
  split at current
  · have unreceipted : (batch.writeOutput count records).receipts = 0 := cleared
    omega
  · rename_i counted
    have whole : records.take count = records :=
      List.take_of_length_le (by omega)
    have sum : place = batch.arena.changeCapacity + index := by
      unfold usizeCheckedAdd at added
      split at added
      · exact (Option.some.inj added).symm
      · cases added
    simp only [KeventBatch.writeOutput, whole, sum] at held
    exact overwrite_getElem inside held

/-- A receipt that is read back from the arena. -/
theorem KeventBatch.receipt_reports
    {batch : KeventBatch} (cleared : batch.receipts = 0)
    {count index : Nat} {change : Change} {records : List Kevent}
    {error : Option Int32}
    (reports : (decodeReceipt target records[index]? change).Reports
      error) :
    (((batch.writeOutput count records).recordReceipts count
      records.length).receipt target index records.length
        change).Reports error := by
  obtain ⟨event, held, outcome⟩ :=
    KeventBatch.receipt_cases target
      ((batch.writeOutput count records).recordReceipts count
        records.length) index records.length change
  have read : (decodeReceipt target event change).Reports error := by
    cases event with
    | none => trivial
    | some slot =>
        obtain ⟨current, place, added, stored⟩ := held slot rfl
        rw [KeventBatch.recordReceipts_arena] at added stored
        rw [KeventBatch.receipt_slot cleared current.1 current.2 added
          stored] at reports
        exact reports
  rcases outcome with same | ⟨code, decoded, disables, absent⟩
  · rw [same]
    exact read
  · have missing : code = enoent := by
      simp only [isMissingDisable, Bool.and_eq_true,
        beq_iff_eq] at disables
      exact disables.1
    rw [decoded, missing] at read
    rw [absent]
    exact read

/-- The native executor submits every pending change of a traversal. -/
theorem KqueueKernel.disarms
    (kernel : KqueueKernel target σ) {queue after : σ}
    {batch returned : KeventBatch} {changes : DisarmChanges}
    {answer : NativeApply}
    (room : batch.arena.changeCapacity ≤ batch.arena.storage.length)
    (counted : changes.len = changes.pending.length)
    (resource : ∀ change ∈ changes.pending, change.Resource)
    (applied :
      (nativeDisarmExecutor target kernel.kevent).apply (queue, batch)
        changes = ((after, returned), answer)) :
    (kernel.filters queue).Submitted (kernel.filters after)
      changes.pending
      (fun index change =>
        match answer with
        | .receipts count => returned.receipt target index count change
        | _ => .unknown none)
      answer := by
  simp only [nativeDisarmExecutor, Kqueue.applyBatch] at applied
  split at applied
  · cases applied
    exact FilterMap.partly_refl _ _
  · cases applied
    exact FilterMap.partly_refl _ _
  · rename_i staged count staging
    obtain ⟨encoded, length, cleared⟩ :=
      KeventBatch.stageChanges_ok room counted staging
    have inputLength : (staged.arena.storage.take count).length = count :=
      (mapM_forall₂ encoded).length_eq.symm.trans length.symm
    rcases native : Kqueue.submitNativeCounts target kernel.kevent queue
        (staged.arena.storage.take count) count with
      ⟨next, records, result⟩
    have whole :
        Kqueue.submitNativeCounts target kernel.kevent queue
            (staged.arena.storage.take count)
            (staged.arena.storage.take count).length =
          (next, records, result) := by
      rw [inputLength]
      exact native
    obtain ⟨settled, sized⟩ := kernel.submits resource encoded whole
    rw [native] at applied
    cases result with
    | appliedWithoutReceipts =>
        cases applied
        exact settled
    | unknown source =>
        cases applied
        exact settled
    | receipts total =>
        cases applied
        obtain ⟨errors, attempts, reports⟩ := settled
        have same := sized total rfl
        subst same
        refine ⟨errors, attempts, ?_⟩
        intro index change error named held
        exact KeventBatch.receipt_reports cleared
          (reports index change error named held)

end Zio
