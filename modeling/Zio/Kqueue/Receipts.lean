import Zio.Kqueue.Kernel

/-!
# Kqueue receipts

An output entry answers a change when it names the identifier and the filter of
the change, is marked as an error and holds a code.  A mutation succeeds exactly
when its submission was interrupted after every change was applied, or was
answered once for each change; its receipts then hold the codes.
-/

namespace Zio

/-! ## Answers -/

/-- An output entry that answers a change with a code. -/
structure Kevent.Answers
    (target : KqueueTarget) (event : Kevent) (change : Change)
    (code : Int32) : Prop where
  ident : (event.ident.toNat : Int) = change.ident.toInt
  filter : event.filter = encodeFilter target change.filter
  marked : hasFlag event.flags evError = true
  data : event.data.toInt = code.toInt
  nonnegative : 0 ≤ code

/-- The error that a receipt holds for a code. -/
def errorOfCode (code : Int32) : Option Int32 :=
  if code = 0 then none else some code

theorem rawFdOfIdent_eq_some_iff
    {ident : UInt64} {descriptor : RawFd} :
    rawFdOfIdent ident = some descriptor ↔
      (ident.toNat : Int) = descriptor.toInt := by
  have upper := Int32.toInt_lt descriptor
  unfold rawFdOfIdent
  constructor
  · intro decoded
    split at decoded
    · rename_i fits
      cases decoded
      symm
      apply Int32.toInt_ofNat_of_lt
      simp only [i32Max] at fits
      omega
    · cases decoded
  · intro same
    rw [if_pos (by simp only [i32Max]; omega), ← Int32.ofInt_eq_ofNat,
      same, Int32.ofInt_toInt]

theorem decodeFilter_encodeFilter
    {target : KqueueTarget} {filter : Filter} (known : filter ≠ .unknown) :
    decodeFilter target (encodeFilter target filter) = filter := by
  cases filter with
  | unknown => exact (known rfl).elim
  | read => cases target <;> decide
  | write => cases target <;> decide
  | user => cases target <;> decide

theorem decodeFilter_eq_iff
    {target : KqueueTarget} {native : Int64} {filter : Filter}
    (known : filter ≠ .unknown) :
    decodeFilter target native = filter ↔
      native = encodeFilter target filter := by
  constructor
  · exact fun decoded => filter_of_decoded decoded known
  · rintro rfl
    exact decodeFilter_encodeFilter known

theorem i32OfData_eq_some_iff {data : Int64} {code : Int32} :
    i32OfData data = some code ↔ data.toInt = code.toInt := by
  have lower := Int32.le_toInt code
  have upper := Int32.toInt_lt code
  unfold i32OfData
  constructor
  · intro decoded
    split at decoded
    · rename_i fits
      cases decoded
      exact (Int32.toInt_ofInt_of_le fits.1 fits.2).symm
    · cases decoded
  · intro same
    rw [if_pos (by omega), same, Int32.ofInt_toInt]

/-! ## Decoded receipts -/

section Decoding

variable {target : KqueueTarget} {event : Kevent} {change : Change}

/-- A receipt is read only when it names its change, and then by its data. -/
theorem decodeReceipt_cases (known : change.filter ≠ .unknown) :
    decodeReceipt target (some event) change = .unknown none ∧
        (∀ code, ¬ event.Answers target change code) ∨
      ∃ code, event.Answers target change code ∧
        decodeReceipt target (some event) change =
          if code = 0 then .applied else .notApplied code := by
  unfold decodeReceipt
  simp only
  split
  · rename_i mismatch
    refine Or.inl ⟨rfl, fun code answers => ?_⟩
    rcases mismatch with ident | filter | unmarked
    · exact ident (rawFdOfIdent_eq_some_iff.mpr answers.ident)
    · exact filter ((decodeFilter_eq_iff known).mpr answers.filter)
    · exact absurd answers.marked (by rw [unmarked]; decide)
  · rename_i matching
    simp only [not_or, not_not, Bool.not_eq_false] at matching
    obtain ⟨ident, filter, marked⟩ := matching
    have answers : ∀ {code}, i32OfData event.data = some code → 0 ≤ code →
        event.Answers target change code := by
      intro code data nonnegative
      exact
        { ident := rawFdOfIdent_eq_some_iff.mp ident
          filter := (decodeFilter_eq_iff known).mp filter
          marked
          data := i32OfData_eq_some_iff.mp data
          nonnegative }
    split
    · rename_i wide
      refine Or.inl ⟨rfl, fun code answer => ?_⟩
      rw [i32OfData_eq_some_iff.mpr answer.data] at wide
      cases wide
    · rename_i code data
      by_cases zero : code = 0
      · subst zero
        exact Or.inr ⟨0, answers data (by decide), by
          rw [if_pos rfl, if_pos rfl]⟩
      · by_cases positive : 0 < code
        · refine Or.inr ⟨code, answers data (Int32.le_of_lt positive), ?_⟩
          rw [if_neg zero, if_pos positive, if_neg zero]
        · refine Or.inl ⟨by rw [if_neg zero, if_neg positive], ?_⟩
          intro other answer
          have same := (i32OfData_eq_some_iff.mpr answer.data).symm.trans
            data
          cases same
          have nonnegative := answer.nonnegative
          rw [Int32.lt_iff_toInt_lt] at positive
          rw [Int32.le_iff_toInt_le] at nonnegative
          have zeroValue : code.toInt ≠ 0 := fun value =>
            zero (Int32.toInt_inj.mp value)
          have zeroInt : (0 : Int32).toInt = 0 := rfl
          omega

theorem Kevent.Answers.code_eq
    {first second : Int32} (left : event.Answers target change first)
    (right : event.Answers target change second) : first = second :=
  Int32.toInt_inj.mp (left.data.symm.trans right.data)

theorem decodeReceipt_applied_iff (known : change.filter ≠ .unknown) :
    decodeReceipt target (some event) change = .applied ↔
      event.Answers target change 0 := by
  rcases @decodeReceipt_cases target event change known with
    ⟨unknown, none⟩ | ⟨code, answers, decoded⟩
  · rw [unknown]
    exact ⟨fun impossible => (by cases impossible),
      fun answers => (none 0 answers).elim⟩
  · rw [decoded]
    constructor
    · intro applied
      split at applied
      · rename_i zero
        exact zero ▸ answers
      · cases applied
    · intro zero
      rw [if_pos (answers.code_eq zero)]

theorem decodeReceipt_notApplied_iff
    (known : change.filter ≠ .unknown) {code : Int32} :
    decodeReceipt target (some event) change = .notApplied code ↔
      event.Answers target change code ∧ code ≠ 0 := by
  rcases @decodeReceipt_cases target event change known with
    ⟨unknown, none⟩ | ⟨read, answers, decoded⟩
  · rw [unknown]
    exact ⟨fun impossible => (by cases impossible),
      fun answers => (none code answers.1).elim⟩
  · rw [decoded]
    constructor
    · intro failed
      split at failed
      · cases failed
      · rename_i nonzero
        cases failed
        exact ⟨answers, nonzero⟩
    · rintro ⟨same, nonzero⟩
      rw [answers.code_eq same, if_neg nonzero]

end Decoding

/-! ## Answered submissions -/

/-- Records that answer every change, and the receipts that say so. -/
structure Answered
    (target : KqueueTarget) (changes : List Change) (records : List Kevent)
    (receipts : List Receipt) : Prop where
  counted : records.length = changes.length
  sized : receipts.length = changes.length
  certified : ∀ {index : Nat} {change : Change} {record : Kevent}
    {receipt : Receipt}, changes[index]? = some change → records[index]? = some record →
      receipts[index]? = some receipt →
        receipt.action = change.action ∧
          ∃ code, record.Answers target change code ∧
            receipt.error = errorOfCode code

/-- Receipts of changes that were applied without a receipt. -/
def appliedReceipts (changes : List Change) : List Receipt :=
  changes.map fun change => { action := change.action, error := none }

/-- Receipts that the kernel's reply to a submission grants. -/
def Granted
    (target : KqueueTarget) (changes : List Change)
    (receipts : List Receipt) : Except IoError (List Kevent) → Prop
  | .error source =>
      kqueueInterrupted source = true ∧
        target.appliesInterruptedChanges = true ∧
        receipts = appliedReceipts changes
  | .ok records => Answered target changes records receipts

variable {target : KqueueTarget}

theorem receiptError_ok_iff
    {output : List Kevent} {index : Nat} {change : Change}
    {error : Option Int32} (known : change.filter ≠ .unknown) :
    Kqueue.receiptError target output index change = .ok error ↔
      ∃ record, output[index]? = some record ∧
        ∃ code, record.Answers target change code ∧
          error = errorOfCode code := by
  unfold Kqueue.receiptError
  cases output[index]? with
  | none =>
      simp [decodeReceipt]
  | some record =>
      simp only [Option.some.injEq, exists_eq_left']
      rcases @decodeReceipt_cases target record change
          known with ⟨unknown, none⟩ | ⟨code, answers, decoded⟩
      · rw [unknown]
        constructor
        · intro impossible
          cases impossible
        · rintro ⟨code, answers, _⟩
          exact (none code answers).elim
      · rw [decoded]
        constructor
        · intro read
          refine ⟨code, answers, ?_⟩
          unfold errorOfCode
          split at read
          · rename_i applied
            split at applied
            · rename_i zero
              rw [if_pos zero]
              exact (Except.ok.inj read).symm
            · cases applied
          · rename_i failed
            split at failed
            · cases failed
            · rename_i nonzero
              rw [if_neg nonzero]
              cases failed
              exact (Except.ok.inj read).symm
          · rename_i absent
            split at absent <;> cases absent
          · rename_i unknown
            split at unknown <;> cases unknown
        · rintro ⟨other, same, rfl⟩
          rw [answers.code_eq same]
          unfold errorOfCode
          by_cases zero : other = 0
          · rw [if_pos zero, if_pos zero]
          · rw [if_neg zero, if_neg zero]

/-- The loop succeeds when every error is read and has a place. -/
theorem setReceipts_succeeds
    {error : Nat → Change → Except IoError (Option Int32)}
    {changes : List Change} {index : Nat} {receipts : Receipts}
    (room : index + changes.length ≤ 2)
    (reads : ∀ {offset change}, changes[offset]? = some change →
      ∃ code, error (index + offset) change = .ok code) :
    ∃ after,
      Kqueue.setReceipts error changes index receipts = .ok after := by
  induction changes generalizing index receipts with
  | nil => exact ⟨receipts, rfl⟩
  | cons change rest inductionHypothesis =>
      rw [List.length_cons] at room
      obtain ⟨code, read⟩ := @reads 0 change rfl
      unfold Kqueue.setReceipts
      rw [Nat.add_zero] at read
      rw [read]
      simp only [Receipts.set]
      rw [if_pos (by omega)]
      apply inductionHypothesis (by omega)
      intro offset later named
      obtain ⟨other, found⟩ := @reads (offset + 1) later named
      rw [Nat.add_right_comm, Nat.add_assoc]
      exact ⟨other, found⟩

/-- Receipts that were read from the output answer their changes. -/
theorem answered_of_recorded
    {changes : ChangeList} {output : List Kevent} {receipts : Receipts}
    (known : ∀ change ∈ changes.items, change.filter ≠ .unknown)
    (recorded :
      Kqueue.setReceipts (Kqueue.receiptError target output) changes.items
        0 (Receipts.new changes.items.length) = .ok receipts) :
    Answered target changes.items (output.take changes.items.length)
      receipts.iter := by
  obtain ⟨codes, length, reads, items⟩ := receipts_recorded recorded
  have read : ∀ (index : Nat) (change : Change),
      changes.items[index]? = some change →
      ∃ (error : Option Int32) (record : Kevent) (code : Int32),
        codes[index]? = some error ∧ output[index]? = some record ∧
        record.Answers target change code ∧ error = errorOfCode code := by
    intro index change named
    have inside := (List.getElem?_eq_some_iff.mp named).1
    have held := List.getElem?_eq_getElem (length.symm ▸ inside)
    obtain ⟨record, written, code, answers, same⟩ :=
      (receiptError_ok_iff
        (known change (List.mem_of_getElem? named))).mp
        (reads index change _ named held)
    exact ⟨_, record, code, held, written, answers, same⟩
  refine ⟨?_, ?_, ?_⟩
  · rw [List.length_take, Nat.min_eq_left]
    by_contra short
    obtain ⟨error, record, code, _, written, _⟩ :=
      read output.length _ (List.getElem?_eq_getElem (by omega))
    rw [List.getElem?_eq_none (Nat.le_refl _)] at written
    cases written
  · rw [items, receiptsOf, List.length_zipWith, length, Nat.min_self]
  · intro index change record receipt named written granted
    obtain ⟨error, other, code, held, found, answers, same⟩ :=
      read index change named
    rw [List.getElem?_take_of_lt
      (List.getElem?_eq_some_iff.mp named).1, found] at written
    cases written
    rw [items, receiptsOf, List.getElem?_zipWith, named, held] at granted
    cases granted
    exact ⟨rfl, code, answers, same⟩

/-- An output that answers every change is recorded. -/
theorem recorded_of_answered
    {changes : ChangeList} {output : List Kevent} {items : List Receipt}
    (known : ∀ change ∈ changes.items, change.filter ≠ .unknown)
    (answered :
      Answered target changes.items (output.take changes.items.length)
        items) :
    ∃ receipts,
      Kqueue.setReceipts (Kqueue.receiptError target output) changes.items
          0 (Receipts.new changes.items.length) = .ok receipts ∧
        receipts.iter = items := by
  have bounded := changes.bounded
  have granted : ∀ (index : Nat) (change : Change),
      changes.items[index]? = some change →
      ∃ error : Option Int32,
        items[index]? = some { action := change.action, error } ∧
        Kqueue.receiptError target output index change = .ok error := by
    intro index change named
    have inside := (List.getElem?_eq_some_iff.mp named).1
    have written := List.getElem?_eq_getElem
      (answered.counted.symm ▸ inside)
    have held := List.getElem?_eq_getElem (answered.sized.symm ▸ inside)
    obtain ⟨action, code, answers, same⟩ :=
      answered.certified named written held
    rw [List.getElem?_take_of_lt inside] at written
    refine ⟨_, ?_, (receiptError_ok_iff
      (known change (List.mem_of_getElem? named))).mpr
      ⟨_, written, code, answers, same⟩⟩
    rw [held, ← action]
  obtain ⟨receipts, recorded⟩ :=
    @setReceipts_succeeds (Kqueue.receiptError target output)
      changes.items 0 (Receipts.new changes.items.length)
      (by omega) (by
        intro offset change named
        obtain ⟨error, _, read⟩ := granted offset change named
        rw [Nat.zero_add]
        exact ⟨error, read⟩)
  refine ⟨receipts, recorded, ?_⟩
  obtain ⟨codes, length, reads, same⟩ := receipts_recorded recorded
  rw [same]
  apply List.ext_getElem?
  intro index
  rw [receiptsOf, List.getElem?_zipWith]
  cases named : changes.items[index]? with
  | none =>
      have outside := List.getElem?_eq_none_iff.mp named
      rw [← answered.sized] at outside
      rw [List.getElem?_eq_none outside]
  | some change =>
      obtain ⟨error, held, read⟩ := granted index change named
      have inside := (List.getElem?_eq_some_iff.mp named).1
      have stored := List.getElem?_eq_getElem (length.symm ▸ inside)
      have agrees := (reads index change _ named stored).symm.trans read
      rw [held, stored, Except.ok.inj agrees]

/-- The receipts that a reply with this count and output grants. -/
theorem answerReceipts_answered_iff
    {changes : ChangeList} {output : List Kevent} {returned : Nat}
    {items : List Receipt}
    (known : ∀ change ∈ changes.items, change.filter ≠ .unknown) :
    (∃ receipts,
        Kqueue.answerReceipts target changes.items output
            (.receipts returned) = .ok receipts ∧
          receipts.iter = items) ↔
      returned = changes.items.length ∧
        Answered target changes.items
          (output.take changes.items.length) items := by
  simp only [Kqueue.answerReceipts]
  constructor
  · rintro ⟨receipts, recorded, rfl⟩
    split at recorded
    · rename_i counted
      exact ⟨counted, answered_of_recorded known recorded⟩
    · cases recorded
  · rintro ⟨counted, answered⟩
    rw [if_pos counted]
    exact recorded_of_answered known answered

theorem answerReceipts_applied
    (target : KqueueTarget) (changes : ChangeList) (output : List Kevent) :
    ∃ receipts,
      Kqueue.answerReceipts target changes.items output
          .appliedWithoutReceipts = .ok receipts ∧
        receipts.iter = appliedReceipts changes.items := by
  have bounded := changes.bounded
  obtain ⟨receipts, recorded⟩ :=
    @setReceipts_succeeds (fun _ _ => .ok none)
      changes.items 0 (Receipts.new changes.items.length)
      (by omega) (fun _ => ⟨none, rfl⟩)
  refine ⟨receipts, recorded, ?_⟩
  obtain ⟨codes, length, reads, same⟩ := receipts_recorded recorded
  have clean : codes = changes.items.map fun _ => none := by
    apply List.ext_getElem
    · rw [length, List.length_map]
    · intro index inside _
      have read := reads index _ _
        (List.getElem?_eq_getElem (length ▸ inside))
        (List.getElem?_eq_getElem inside)
      rw [List.getElem_map]
      exact (Except.ok.inj read).symm
  rw [same, clean, receiptsOf, List.zipWith_map_right, List.zipWith_self]
  rfl

/-! ## Encoded changes -/

/-- A submitted event that comes back marked as an error, with this data. -/
def Kevent.echo (self : Kevent) (flags : UInt64) (data : Int64) : Kevent :=
  { self with flags := flags ||| evError, data }

theorem hasFlag_marked (flags : UInt64) :
    hasFlag (flags ||| evError) evError = true := by
  have absorbed : (flags ||| evError) &&& evError = evError := by
    apply UInt64.toBitVec_inj.mp
    rw [UInt64.toBitVec_and, UInt64.toBitVec_or]
    ext index inside
    simp only [BitVec.getElem_and, BitVec.getElem_or]
    cases evError.toBitVec[index] <;> simp
  unfold hasFlag
  rw [absorbed]
  decide

theorem encodeChange_ok
    (target : KqueueTarget) {change : Change}
    (nonnegative : 0 ≤ change.ident) :
    ∃ event, encodeChange target change = .ok event ∧
      (event.ident.toNat : Int) = change.ident.toInt ∧
      event.filter = encodeFilter target change.filter ∧
      event.udata = change.token := by
  have refused : ¬ change.ident < 0 := by
    rw [Int32.lt_iff_toInt_lt]
    rw [Int32.le_iff_toInt_le] at nonnegative
    omega
  cases encoded : encodeChange target change with
  | error source =>
      unfold encodeChange encodeChangeWithReceipt at encoded
      rw [if_neg refused] at encoded
      cases encoded
  | ok event =>
      refine ⟨event, rfl, ?_⟩
      unfold encodeChange encodeChangeWithReceipt at encoded
      rw [if_neg refused] at encoded
      cases encoded
      exact ⟨rawFdOfIdent_eq_some_iff.mp (rawFdOfIdent_encoded refused),
        rfl, rfl⟩

theorem encodeChanges_ok
    (target : KqueueTarget) {changes : List Change}
    (nonnegative : ∀ change ∈ changes, 0 ≤ change.ident) :
    ∃ input, changes.mapM (encodeChange target) = .ok input ∧
      input.length = changes.length := by
  induction changes with
  | nil => exact ⟨[], rfl, rfl⟩
  | cons change rest inductionHypothesis =>
      obtain ⟨event, encoded, _⟩ :=
        encodeChange_ok target (nonnegative change List.mem_cons_self)
      obtain ⟨input, later, length⟩ := inductionHypothesis
        fun other member => nonnegative other (List.mem_cons_of_mem _ member)
      refine ⟨event :: input, ?_, by rw [List.length_cons, length]; rfl⟩
      rw [List.mapM_cons, encoded, later]
      rfl

section Echo

variable {change : Change} {event : Kevent}
  (ident : (event.ident.toNat : Int) = change.ident.toInt)
  (filter : event.filter = encodeFilter target change.filter)
  (known : change.filter ≠ .unknown)

include ident filter in
theorem echo_answers_iff
    {flags : UInt64} {data : Int64} {code : Int32} :
    (event.echo flags data).Answers target change code ↔
      data.toInt = code.toInt ∧ 0 ≤ code := by
  constructor
  · intro answers
    exact ⟨answers.data, answers.nonnegative⟩
  · rintro ⟨value, nonnegative⟩
    exact
      { ident
        filter
        marked := hasFlag_marked flags
        data := value
        nonnegative }

include ident filter known

theorem echo_applied_iff {flags : UInt64} {data : Int64} :
    decodeReceipt target (some (event.echo flags data)) change =
        .applied ↔
      data = 0 := by
  rw [decodeReceipt_applied_iff known, echo_answers_iff ident filter]
  constructor
  · rintro ⟨value, _⟩
    exact Int64.toInt_inj.mp value
  · rintro rfl
    exact ⟨rfl, by decide⟩

theorem echo_notApplied_iff
    {flags : UInt64} {data : Int64} {code : Int32} :
    decodeReceipt target (some (event.echo flags data)) change =
        .notApplied code ↔
      0 < data.toInt ∧ data.toInt ≤ i32Max ∧ code.toInt = data.toInt := by
  have upper := Int32.toInt_lt code
  rw [decodeReceipt_notApplied_iff known, echo_answers_iff ident filter]
  simp only [i32Max, Int32.le_iff_toInt_le, ne_eq, ← Int32.toInt_inj,
    Int32.toInt_zero]
  omega

/-- The echo of a change says nothing about any other change. -/
theorem echo_unknown
    {flags : UInt64} {data : Int64} {other : Change}
    (different :
      other.ident ≠ change.ident ∨ other.filter ≠ change.filter) :
    decodeReceipt target (some (event.echo flags data)) other =
      .unknown none := by
  unfold decodeReceipt
  simp only
  rw [if_pos]
  rcases different with otherIdent | otherFilter
  · refine Or.inl fun same => otherIdent ?_
    have read := rawFdOfIdent_eq_some_iff.mpr ident
    exact Option.some.inj (same.symm.trans read)
  · refine Or.inr (Or.inl fun same => otherFilter ?_)
    have read := (decodeFilter_eq_iff known).mpr filter
    exact same.symm.trans read

end Echo

/-! ## Mutations -/

/-- A mutation of at least one encodable change asks the kernel once. -/
theorem apply_answer
    {σ : Type*} (kevent : KeventCall σ) (queue : σ) {changes : ChangeList}
    {input : List Kevent} (nonempty : changes.items ≠ [])
    (encoded : changes.items.mapM (encodeChange target) = .ok input)
    (length : input.length = changes.items.length) :
    (Kqueue.apply target kevent queue changes).2 =
      match (kevent queue input input.length).2 with
      | .error source =>
          Kqueue.answerReceipts target changes.items []
            (classifyApplyError source target.appliesInterruptedChanges)
      | .ok records =>
          Kqueue.answerReceipts target changes.items records
            (.receipts records.length) := by
  have bounded := changes.bounded
  have accepted : ¬ (input.isEmpty = true ∨ input.length ≠ input.length) := by
    simp only [List.isEmpty_iff, ne_eq, not_true_eq_false, or_false]
    rintro rfl
    exact nonempty (List.length_eq_zero_iff.mp length.symm)
  have fits : ¬ (target.narrowCounts = true ∧
      ¬ (fitsI32 input.length = true ∧ fitsI32 input.length = true)) := by
    rintro ⟨_, overflows⟩
    have small : fitsI32 input.length = true := by
      unfold fitsI32 i32Max
      exact decide_eq_true (by omega)
    exact overflows ⟨small, small⟩
  unfold Kqueue.apply Kqueue.submitNative Kqueue.submitNativeCounts
  simp only [ChangeList.asSlice, encoded, if_neg accepted, if_neg fits]
  rcases kevent queue input input.length with ⟨after, reply⟩
  cases reply <;> rfl

/-- A mutation succeeds exactly with the receipts that its reply grants. -/
theorem apply_granted_iff
    {σ : Type*} (kevent : KeventCall σ) (queue : σ) {changes : ChangeList}
    {input : List Kevent} {items : List Receipt}
    (nonempty : changes.items ≠ [])
    (known : ∀ change ∈ changes.items, change.filter ≠ .unknown)
    (encoded : changes.items.mapM (encodeChange target) = .ok input)
    (length : input.length = changes.items.length) :
    (∃ receipts,
        (Kqueue.apply target kevent queue changes).2 = .ok receipts ∧
          receipts.iter = items) ↔
      Granted target changes.items items
        (kevent queue input input.length).2 := by
  rw [apply_answer kevent queue nonempty encoded length]
  cases (kevent queue input input.length).2 with
  | error source =>
      simp only [Granted, classifyApplyError, Bool.and_eq_true]
      split
      · rename_i accepted
        obtain ⟨receipts, recorded, same⟩ :=
          answerReceipts_applied target changes []
        constructor
        · rintro ⟨other, found, rfl⟩
          rw [recorded] at found
          cases found
          exact ⟨accepted.1, accepted.2, same⟩
        · rintro ⟨_, _, rfl⟩
          exact ⟨receipts, recorded, same⟩
      · rename_i refused
        constructor
        · rintro ⟨other, impossible, _⟩
          cases impossible
        · rintro ⟨interrupted, applies, _⟩
          exact (refused ⟨interrupted, applies⟩).elim
  | ok records =>
      rw [answerReceipts_answered_iff known]
      constructor
      · rintro ⟨counted, answered⟩
        rw [← counted, List.take_length] at answered
        exact answered
      · intro answered
        have counted := answered.counted
        refine ⟨counted, ?_⟩
        rw [← counted, List.take_length]
        exact answered

/-- Receipts certify only the changes that they answer. -/
theorem receipts_certify
    {σ : Type*} (target : KqueueTarget) (kevent : KeventCall σ) (queue : σ)
    (changes : ChangeList) (nonempty : changes.items ≠ [])
    (known : ∀ change ∈ changes.items, change.filter ≠ .unknown)
    (nonnegative : ∀ change ∈ changes.items, 0 ≤ change.ident) :
    (∃ input, changes.items.mapM (encodeChange target) = .ok input ∧
      input.length = changes.items.length ∧
      ∀ items,
        (∃ receipts,
            (Kqueue.apply target kevent queue changes).2 = .ok receipts ∧
              receipts.iter = items) ↔
          Granted target changes.items items
            (kevent queue input input.length).2) ∧
      (∀ returned output items,
        (∃ receipts,
            Kqueue.answerReceipts target changes.items output
                (.receipts returned) = .ok receipts ∧
              receipts.iter = items) ↔
          returned = changes.items.length ∧
            Answered target changes.items
              (output.take changes.items.length) items) ∧
      ∀ change : Change, change.filter ≠ .unknown → 0 ≤ change.ident →
        ∃ event, encodeChange target change = .ok event ∧
          (∃ raw, rawKevent target event = some raw ∧
            raw.token = change.token) ∧
          ∀ flags data,
            (decodeReceipt target (some (event.echo flags data)) change =
                .applied ↔ data = 0) ∧
              (∀ code,
                decodeReceipt target (some (event.echo flags data))
                    change = .notApplied code ↔
                  0 < data.toInt ∧ data.toInt ≤ i32Max ∧
                    code.toInt = data.toInt) ∧
              ∀ other : Change,
                other.ident ≠ change.ident ∨
                    other.filter ≠ change.filter →
                  decodeReceipt target (some (event.echo flags data))
                    other = .unknown none := by
  refine ⟨?_, fun returned output items =>
    answerReceipts_answered_iff known, ?_⟩
  · obtain ⟨input, encoded, length⟩ := encodeChanges_ok target nonnegative
    exact ⟨input, encoded, length, fun items =>
      apply_granted_iff kevent queue nonempty known encoded length⟩
  · intro change filterKnown identFits
    obtain ⟨event, encoded, ident, filter, udata⟩ :=
      encodeChange_ok target identFits
    refine ⟨event, encoded, ?_, fun flags data => ⟨?_, ?_, ?_⟩⟩
    · unfold rawKevent
      rw [rawFdOfIdent_eq_some_iff.mpr ident]
      exact ⟨_, rfl, udata⟩
    · exact echo_applied_iff ident filter filterKnown
    · exact fun code => echo_notApplied_iff ident filter filterKnown
    · exact fun other => echo_unknown ident filter filterKnown

/-- A kernel that reports a missing filter for every change. -/
def missingKevent : KeventCall Unit :=
  fun queue input _ =>
    (queue, .ok (input.map fun event => event.echo event.flags 2))

/-- The deletion of one filter. -/
def oneDeletion : ChangeList :=
  ⟨[{ ident := 3, filter := .read, action := .delete, token := 7 }],
    by decide⟩

theorem oneDeletion_certified :
    ∃ receipts,
      (Kqueue.apply .macos missingKevent () oneDeletion).2 =
          .ok receipts ∧
        receipts.iter = [{ action := .delete, error := some 2 }] := by
  obtain ⟨⟨input, encoded, _, granted⟩, _, _⟩ :=
    receipts_certify .macos missingKevent () oneDeletion (by decide)
      (by decide) (by decide)
  apply (granted _).mpr
  cases encoded
  refine ⟨rfl, rfl, ?_⟩
  intro index change record receipt named written held
  cases index with
  | zero =>
      cases named
      cases written
      cases held
      refine ⟨rfl, 2, ?_, by decide⟩
      exact ⟨by decide, by decide, by decide, by decide, by decide⟩
  | succ index => cases held

end Zio
