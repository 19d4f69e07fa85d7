import Zio.Linux.Arena

/-!
# The translation of a wait within the caller's storage

A wait stages its records in the tail of the storage and the forward loop
translates them in place.  The result is that of copying all records first.
-/

namespace Zio

variable {σ : Type*} {layout : EventLayout}

/-! ## Copied records -/

/-- The classifier never fails. -/
def Accepts (classify : σ → UInt64 → σ × Except Error (Option Key)) :
    Prop :=
  ∀ state token, ∃ key, (classify state token).2 = .ok key

/-- The resource events of copied records: each nonzero token that the
classifier accepts, in order. -/
def acceptedEvents
    (classify : σ → UInt64 → σ × Except Error (Option Key)) :
    List EpollEvent → σ → List Event
  | [], _ => []
  | raw :: rest, state =>
      if raw.token = 0 then
        acceptedEvents classify rest state
      else
        match (classify state raw.token).2 with
        | .ok (some key) =>
            .resource key (fromEpollFlags raw.events) ::
              acceptedEvents classify rest
                (classify state raw.token).1
        | _ => acceptedEvents classify rest (classify state raw.token).1

/-- The wake event of copied records. -/
def wakeOf (records : List EpollEvent) (wakeKey : Option Key) :
    List Event :=
  if records.any fun raw => raw.token = 0 then
    (wakeKey.map Event.wake).toList
  else
    []

theorem wakeEvent_wakeOf
    (records : List EpollEvent) (wakeKey : Option Key) :
    (EpollBatch.wakeEvent (records.any fun raw => raw.token = 0)
      wakeKey).map Delivery.event = wakeOf records wakeKey := by
  unfold EpollBatch.wakeEvent wakeOf
  cases records.any fun raw => raw.token = 0 <;> cases wakeKey <;> rfl

theorem translateFrom_accepts
    {classify : σ → UInt64 → σ × Except Error (Option Key)}
    (accepts : Accepts classify) (records : List EpollEvent) (state : σ)
    (deliveries : List Delivery) (woke : Bool) :
    ∃ after delivered,
      EpollBatch.translateFrom classify records state deliveries woke =
          (after, .ok
            (delivered, woke || records.any fun raw => raw.token = 0)) ∧
        delivered.map Delivery.event =
          deliveries.map Delivery.event ++
            acceptedEvents classify records state := by
  induction records generalizing state deliveries woke with
  | nil =>
      refine ⟨state, deliveries, ?_, ?_⟩
      · rw [EpollBatch.translateFrom, List.any_nil, Bool.or_false]
      · rw [acceptedEvents, List.append_nil]
  | cons raw rest inductionHypothesis =>
      rw [EpollBatch.translateFrom, acceptedEvents, List.any_cons]
      by_cases wake : raw.token = 0
      · obtain ⟨after, delivered, result, events⟩ :=
          inductionHypothesis state deliveries true
        refine ⟨after, delivered, ?_, ?_⟩
        · rw [if_pos wake, result, decide_eq_true wake]
          simp
        · rw [if_pos wake, events]
      · obtain ⟨key, answered⟩ := accepts state raw.token
        rcases classified : classify state raw.token with ⟨next, answer⟩
        rw [classified] at answered
        simp only at answered
        subst answered
        rw [if_neg wake, if_neg wake, decide_eq_false wake,
          Bool.false_or]
        cases key with
        | none => exact inductionHypothesis next deliveries woke
        | some key =>
            obtain ⟨after, delivered, result, events⟩ :=
              inductionHypothesis next
                (deliveries ++
                  [{ event := .resource key (fromEpollFlags raw.events)
                     source := some ⟨raw.token⟩ }]) woke
            refine ⟨after, delivered, result, ?_⟩
            rw [events, List.map_append, List.append_assoc]
            rfl

/-! ## A wait and its translation -/

namespace EpollBatch

/-- A new batch of the capacity, and the caller's empty storage for it. -/
structure Fits
    (layout : EventLayout) (capacity : Nat) (batch : EpollBatch)
    (arena : EventArena) : Prop where
  created : new layout capacity = some batch
  vacant : arena.len = 0
  large : capacity ≤ arena.capacity.val
  sized : arena.bytes.length = arena.capacity.val * layout.eventSize

theorem new_capacity
    {capacity : Nat} {batch : EpollBatch}
    (created : new layout capacity = some batch) :
    batch.capacity = capacity ∧ batch.maxEvents = capacity ∧
      batch.invalidate = batch := by
  unfold new at created
  split at created
  · cases created
  · split at created
    · cases created
    · simp only at created
      split at created
      · cases created
      · split at created
        · cases created
        · cases created
          exact ⟨rfl, rfl, rfl⟩

/-- A stamped batch translates its records. -/
theorem translateArena_stamped
    (codec : RecordCodec layout)
    (classify : σ → UInt64 → σ × Except Error (Option Key))
    (batch : EpollBatch) (arena : EventArena)
    (vacant : arena.len = 0)
    (large : batch.capacity ≤ arena.capacity.val)
    (stamped : batch.storageAddress = arena.address.val)
    (fits : batch.observed ≤ batch.capacity)
    (wakeKey : Option Key) {state : σ} {final : Cursor σ}
    {result : Except Error Unit}
    (ran : Cursor.run codec batch.nativeOffset classify batch.observed 0
        { bytes := arena.bytes, resources := 0, woke := false, state
          accesses := [] } = (final, result)) :
    (∀ error, result = .error error →
        batch.translateArena codec classify arena batch.observed wakeKey
            state =
          (batch.invalidate, { arena with bytes := final.bytes },
            final.state, .error error, final.accesses)) ∧
      (result = .ok () →
        batch.translateArena codec classify arena batch.observed wakeKey
            state =
          (batch.invalidate,
            { arena with
              bytes := (storeWake codec wakeKey final).bytes
              len := (storeWake codec wakeKey final).resources },
            (storeWake codec wakeKey final).state, .ok (),
            (storeWake codec wakeKey final).accesses)) := by
  have positive := arena.address.property
  have guard : ¬ (batch.storageAddress = 0 ∨ arena.len ≠ 0 ∨
      arena.capacity.val < batch.capacity ∨
      batch.observed ≠ batch.observed ∨
      batch.observed > batch.capacity) := by
    rw [stamped, vacant]
    omega
  have current : ¬ arena.address.val ≠ batch.storageAddress :=
    not_not.mpr stamped.symm
  unfold translateArena
  rw [if_neg guard, if_neg current, ran]
  constructor
  · intro error failed
    rw [failed]
  · intro completed
    rw [completed]

namespace Fits

variable {capacity : Nat} {batch : EpollBatch} {arena : EventArena}

theorem tail (fits : Fits layout capacity batch arena) :
    TailLayout layout capacity batch.nativeOffset :=
  TailLayout.of_new fits.created

theorem room (fits : Fits layout capacity batch arena) :
    capacity * layout.eventSize ≤ arena.bytes.length := by
  rw [fits.sized]
  exact Nat.mul_le_mul_right _ fits.large

/-- The bytes after the kernel wrote its records. -/
theorem waited
    (fits : Fits layout capacity batch arena) (codec : RecordCodec layout)
    {records : List EpollEvent} (observed : records.length ≤ capacity) :
    ∃ staged,
      batch.waitArena codec arena (.ok records) =
          ({ batch with
              observed := records.length
              storageAddress := arena.address.val },
            { arena with bytes := staged }, .ok records.length) ∧
        staged.length = arena.bytes.length ∧
        ∀ index raw, records[index]? = some raw →
          codec.decodeNative
            (Storage.slice staged
              (batch.nativeOffset + (0 + index) * layout.nativeSize)
              layout.nativeSize) = raw := by
  have blockSize : ∀ block ∈ records.map codec.encodeNative,
      block.length = layout.nativeSize := by
    intro block member
    obtain ⟨raw, _, rfl⟩ := List.mem_map.mp member
    exact codec.length_native raw
  have inside : batch.nativeOffset +
      (records.map codec.encodeNative).length * layout.nativeSize ≤
        arena.bytes.length := by
    rw [List.length_map]
    exact Nat.le_trans (fits.tail.record_le observed) fits.room
  obtain ⟨capacityEq, _, unchanged⟩ := new_capacity fits.created
  refine ⟨_, ?_, Storage.length_writeBlocks blockSize inside, ?_⟩
  · unfold waitArena
    rw [unchanged, if_neg (by
      have large := fits.large
      rw [capacityEq, fits.vacant]
      omega)]
  · intro index raw held
    have placed : (records.map codec.encodeNative)[index]? =
        some (codec.encodeNative raw) := by
      rw [List.getElem?_map, held]
      rfl
    rw [Nat.zero_add, Storage.slice_writeBlocks blockSize inside placed,
      codec.decode_native]

/-- The translation of a wait's records, against the translation of copied
records. -/
theorem translated
    (fits : Fits layout capacity batch arena) (codec : RecordCodec layout)
    {records : List EpollEvent} (observed : records.length ≤ capacity)
    (wakeKey : Option Key)
    {classify : σ → UInt64 → σ × Except Error (Option Key)}
    {state after : σ} {outcome : Except Error (List Delivery × Bool)}
    (copied : translateFrom classify records state [] false =
      (after, outcome)) :
    ∃ (final : Cursor σ) (original : List UInt8) (reached len : Nat)
        (resources : List Event),
      let waited := batch.waitArena codec arena (.ok records)
      waited.1.translateArena codec classify waited.2.1 records.length
            wakeKey state =
          (batch.invalidate,
            { arena with bytes := final.bytes, len }, after,
            outcome.map fun _ => (), final.accesses) ∧
        final.Follows codec capacity batch.nativeOffset original reached
          resources ∧
        resources.length ≤ reached ∧ reached ≤ records.length ∧
        (∀ error, outcome = .error error → len = 0) ∧
        ∀ delivered woke, outcome = .ok (delivered, woke) →
          reached = records.length ∧ len = final.resources ∧
            resources =
              delivered.map Delivery.event ++
                (wakeEvent woke wakeKey).map Delivery.event := by
  obtain ⟨staged, waited, size, held⟩ := fits.waited codec observed
  have room : capacity * layout.eventSize ≤ staged.length := by
    rw [size]
    exact fits.room
  have initial :
      Cursor.Follows codec capacity batch.nativeOffset staged 0
        (([] : List Delivery).map Delivery.event) _ :=
    Cursor.Follows.initial codec capacity batch.nativeOffset staged state
  obtain ⟨final, reached, resources, ran, sameState, follows, behind,
      bounded, completed⟩ :=
    initial.run fits.tail room held (Nat.zero_le _)
      (by rw [Nat.zero_add]; exact observed) copied
  rw [Nat.zero_add] at bounded
  obtain ⟨capacityEq, _, _⟩ := new_capacity fits.created
  have large : batch.capacity ≤ arena.capacity.val := by
    rw [capacityEq]
    exact fits.large
  rw [← capacityEq] at observed
  rw [waited]
  obtain ⟨onError, onSuccess⟩ := translateArena_stamped codec classify
    { batch with
      observed := records.length
      storageAddress := arena.address.val }
    { arena with bytes := staged }
    fits.vacant large rfl observed wakeKey ran
  cases outcome with
  | error error =>
      refine ⟨final, staged, reached, arena.len, resources, ?_, follows,
        behind, bounded, fun _ _ => fits.vacant, ?_⟩
      · rw [← sameState]
        exact onError error rfl
      · intro delivered woke impossible
        cases impossible
  | ok value =>
      obtain ⟨delivered, woke⟩ := value
      obtain ⟨whole, named, flag, left⟩ := completed delivered woke rfl
      rw [Nat.zero_add] at whole
      rw [← flag] at left
      obtain ⟨stored, short, kept⟩ := follows.storeWake fits.tail room
        left (capacityEq ▸ Nat.le_trans bounded observed) wakeKey
      refine ⟨storeWake codec wakeKey final, staged, reached,
        (storeWake codec wakeKey final).resources, _, ?_, stored, short,
        bounded, ?_, ?_⟩
      · rw [← sameState, ← kept]
        exact onSuccess rfl
      · intro error impossible
        cases impossible
      · intro other flagged same
        cases same
        exact ⟨whole, rfl, by rw [named, flag]⟩

end Fits

/-- The translation within the caller's storage is the translation of copied
records.  After any wait of at most the capacity, every access stays inside
the storage of the capacity, the records are read in order and no write
reaches an unread one, and the batch is invalidated.  A classifier that never
fails gives exactly the accepted resource events and the wake, each in a slot
that was written; a classifier that fails leaves the destination empty. -/
theorem translateArena_exact
    {capacity : Nat} {batch : EpollBatch} {arena : EventArena}
    (fits : Fits layout capacity batch arena) (codec : RecordCodec layout)
    (records : List EpollEvent) (observed : records.length ≤ capacity)
    (wakeKey : Option Key)
    (classify : σ → UInt64 → σ × Except Error (Option Key)) (state : σ) :
    let waited := batch.waitArena codec arena (.ok records)
    let translated :=
      waited.1.translateArena codec classify waited.2.1 records.length
        wakeKey state
    let events := translated.2.1
    let result := translated.2.2.2.1
    let accesses := translated.2.2.2.2
    batch.nativeOffset + batch.maxEvents * layout.nativeSize ≤
        capacity * layout.eventSize ∧
      (∀ access ∈ accesses,
        access.limit ≤ capacity * layout.eventSize) ∧
      (∃ read ≤ records.length,
        accesses.filter Access.isRead =
          (List.range read).map
            (recordAccess layout batch.nativeOffset)) ∧
      Clear layout batch.nativeOffset 0 accesses ∧
      translated.1 = batch.invalidate ∧
      events.len ≤ capacity ∧
      (Accepts classify →
        result = .ok () ∧
          events.contents codec =
            acceptedEvents classify records state ++
              wakeOf records wakeKey ∧
          accesses.filter Access.isWrite =
            (List.range events.len).map (slotAccess layout)) ∧
      ∀ after error,
        translateFrom classify records state [] false =
            (after, .error error) →
          result = .error error ∧ events.len = 0 := by
  intro waited translated events result accesses
  rcases copied : translateFrom classify records state [] false with
    ⟨after, outcome⟩
  obtain ⟨final, original, reached, len, resources, performed, follows,
      behind, bounded, failed, completed⟩ :=
    fits.translated codec observed wakeKey copied
  have same : translated = _ := performed
  obtain ⟨_, maxEvents, _⟩ := new_capacity fits.created
  have inside := Nat.le_trans bounded observed
  simp only [events, result, accesses, same]
  refine ⟨?_, fun access => follows.limit_le fits.tail behind inside,
    ⟨reached, bounded, follows.reads⟩, follows.clear, trivial, ?_, ?_, ?_⟩
  · rw [maxEvents, fits.tail.tail_eq]
  · cases outcome with
    | error error =>
        rw [failed error rfl]
        exact Nat.zero_le _
    | ok value =>
        obtain ⟨_, counted, _⟩ := completed value.1 value.2 rfl
        rw [counted, follows.counted]
        exact Nat.le_trans behind inside
  · intro accepts
    obtain ⟨next, delivered, accepted, named⟩ :=
      translateFrom_accepts accepts records state [] false
    rw [copied] at accepted
    cases accepted
    obtain ⟨_, counted, stored⟩ := completed _ _ rfl
    rw [Bool.false_or, wakeEvent_wakeOf, named, List.map_nil,
      List.nil_append] at stored
    refine ⟨rfl, ?_, ?_⟩
    · rw [counted, follows.contents arena, stored]
    · rw [counted, follows.counted, follows.writes]
  · intro other error impossible
    cases impossible
    exact ⟨rfl, failed error rfl⟩

/-- The translation within storage refines the one over lists of records. -/
theorem translateArena_refines
    {capacity : Nat} {batch : EpollBatch} {arena : EventArena}
    (fits : Fits layout capacity batch arena) (codec : RecordCodec layout)
    {records : List EpollEvent} (observed : records.length ≤ capacity)
    {events : Events} (vacant : events.deliveries = [])
    (sameCapacity : events.capacity = arena.capacity)
    (wakeKey : Option Key)
    (classify : σ → UInt64 → σ × Except Error (Option Key)) (state : σ) :
    let waited := batch.waitArena codec arena (.ok records)
    let staged := batch.wait events (.ok records)
    let inPlace :=
      waited.1.translateArena codec classify waited.2.1 records.length
        wakeKey state
    let copied :=
      staged.1.translate classify staged.2.1 records.length wakeKey state
    inPlace.1 = copied.1 ∧
      inPlace.2.1.contents codec = copied.2.1.asSlice ∧
      inPlace.2.2.1 = copied.2.2.1 ∧
      inPlace.2.2.2.1 = copied.2.2.2 := by
  intro waited staged inPlace copied
  obtain ⟨capacityEq, _, unchanged⟩ := new_capacity fits.created
  have large : batch.capacity ≤ events.capacity.val := by
    rw [capacityEq, sameCapacity]
    exact fits.large
  have empty : events.isEmpty = true := by
    rw [Events.isEmpty, vacant]
    rfl
  have performed : staged =
      ({ batch with
          observed := records.length
          storageAddress := events.address.val },
        { events with native := records }, .ok records.length) := by
    simp only [staged, wait, unchanged]
    rw [if_neg (by rw [empty]; simp; omega)]
  have stamped :
      Stamped
        { batch with
          observed := records.length
          storageAddress := events.address.val }
        { events with native := records } :=
    { vacant, large, counted := rfl, address := rfl }
  have listed := stamped.translate_eq classify
    (by rw [← capacityEq] at observed; exact observed) wakeKey state
  have whole : copied =
      staged.1.translate classify staged.2.1 records.length wakeKey
        state := rfl
  rw [performed] at whole
  replace whole := whole.trans listed
  rcases outcome : translateFrom classify records state [] false with
    ⟨after, result⟩
  obtain ⟨final, original, reached, len, resources, translated, follows,
      _, _, failed, completed⟩ :=
    fits.translated codec observed wakeKey outcome
  have same : inPlace = _ := translated
  rw [whole, same, outcome]
  cases result with
  | error error =>
      refine ⟨rfl, ?_, rfl, rfl⟩
      rw [failed error rfl, EventArena.contents, Events.asSlice, vacant]
      rfl
  | ok value =>
      obtain ⟨delivered, woke⟩ := value
      obtain ⟨_, counted, stored⟩ := completed delivered woke rfl
      refine ⟨rfl, ?_, rfl, rfl⟩
      simp only [counted]
      rw [follows.contents arena, stored, Events.asSlice, List.map_append]

end EpollBatch

/-! ### A packed layout -/

/-- An event as its key, a tag and its readiness. -/
def packedEvent : Event → List UInt8
  | .resource key readiness =>
      Storage.digits 8 key.value.toNat ++
        [0, readiness.bits, 0, 0, 0, 0, 0, 0]
  | .wake key =>
      Storage.digits 8 key.value.toNat ++ [1, 0, 0, 0, 0, 0, 0, 0]

/-- The event that bytes of this form stand for. -/
def unpackedEvent (bytes : List UInt8) : Event :=
  let key : Key := ⟨UInt64.ofNat (Storage.number (bytes.take 8))⟩
  match bytes.drop 8 with
  | 0 :: readiness :: _ => .resource key ⟨readiness⟩
  | _ => .wake key

theorem number_digits_word (value : UInt64) :
    UInt64.ofNat (Storage.number (Storage.digits 8 value.toNat)) =
      value := by
  rw [Storage.number_digits value.toNat_lt]
  exact UInt64.ofNat_toNat

/-- Records without padding. -/
def packedCodec : RecordCodec packedLayout where
  encodeEvent := packedEvent
  decodeEvent := unpackedEvent
  encodeNative := fun raw =>
    Storage.digits 4 raw.events.toNat ++ Storage.digits 8 raw.token.toNat
  decodeNative := fun bytes =>
    { events := UInt32.ofNat (Storage.number (bytes.take 4))
      token := UInt64.ofNat (Storage.number (bytes.drop 4)) }
  length_event := by
    intro event
    cases event <;>
      simp [packedEvent, Storage.length_digits, packedLayout]
  length_native := by
    intro raw
    simp [Storage.length_digits, packedLayout]
  decode_event := by
    intro event
    cases event with
    | resource key readiness =>
        simp only [unpackedEvent, packedEvent,
          List.take_left' (Storage.length_digits 8 _),
          List.drop_left' (Storage.length_digits 8 _),
          number_digits_word]
    | wake key =>
        simp only [unpackedEvent, packedEvent,
          List.take_left' (Storage.length_digits 8 _),
          List.drop_left' (Storage.length_digits 8 _),
          number_digits_word]
        rfl
  decode_native := by
    intro raw
    simp only [List.take_left' (Storage.length_digits 4 _),
      List.drop_left' (Storage.length_digits 4 _), number_digits_word]
    rw [Storage.number_digits raw.events.toNat_lt]
    rw [UInt32.ofNat_toNat]

/-- Storage for four events. -/
def fourEvents : EventArena :=
  { capacity := ⟨4, Nat.succ_pos 3⟩
    len := 0
    address := ⟨1, Nat.one_pos⟩
    bytes := List.replicate 64 0 }

/-- Three resource records around a wake. -/
def sparseRecords : List EpollEvent :=
  [⟨epollIn, 11⟩, ⟨epollIn, 0⟩, ⟨epollIn, 12⟩, ⟨epollIn, 13⟩]

/-- A classifier that accepts one token. -/
def acceptLast (state : Unit) (token : UInt64) :
    Unit × Except Error (Option Key) :=
  (state, .ok (if token = 13 then some ⟨93⟩ else none))

/-- A batch of four records. -/
def fourRecords : EpollBatch :=
  { maxEvents := 4, capacity := 4, nativeOffset := 16, observed := 0
    storageAddress := 0 }

theorem sparseRecords_translated :
    let waited :=
      fourRecords.waitArena packedCodec fourEvents (.ok sparseRecords)
    (waited.1.translateArena packedCodec acceptLast waited.2.1 4
        (some ⟨99⟩) ()).2.1.contents packedCodec =
      [.resource ⟨93⟩ Readiness.readable, .wake ⟨99⟩] := by
  have fits : EpollBatch.Fits packedLayout 4 fourRecords fourEvents :=
    { created := rfl
      vacant := rfl
      large := Nat.le_refl 4
      sized := List.length_replicate }
  have translated := EpollBatch.translateArena_exact fits packedCodec
    sparseRecords (Nat.le_refl 4) (some ⟨99⟩) acceptLast ()
  have accepts : Accepts acceptLast := fun _ _ => ⟨_, rfl⟩
  exact (translated.2.2.2.2.2.2.1 accepts).2.1

end Zio
