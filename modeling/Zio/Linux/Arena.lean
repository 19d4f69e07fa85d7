import Zio.Library.Storage
import Zio.Linux.Translate

/-!
# Translation within the caller's storage

The bytes behind `Epoll::wait` and `EpollBatch::translate`.  The kernel writes
its records into the tail of the caller's event storage, and the forward loop
reads them from there while it writes events from the head of the same bytes.
Every access is recorded.
-/

namespace Zio

/-- How the compiler stores events and native records in bytes. -/
structure RecordCodec (layout : EventLayout) where
  encodeEvent : Event → List UInt8
  decodeEvent : List UInt8 → Event
  encodeNative : EpollEvent → List UInt8
  decodeNative : List UInt8 → EpollEvent
  length_event : ∀ event, (encodeEvent event).length = layout.eventSize
  length_native : ∀ raw, (encodeNative raw).length = layout.nativeSize
  decode_event : ∀ event, decodeEvent (encodeEvent event) = event
  decode_native : ∀ raw, decodeNative (encodeNative raw) = raw

/-- The caller's events as the bytes of their storage. -/
structure EventArena where
  capacity : NonZeroUsize
  len : Nat
  address : NonZeroUsize
  bytes : List UInt8
deriving DecidableEq, Repr

/-- One access to the storage. -/
inductive Access where
  | read (offset size : Nat)
  | write (offset size : Nat)
deriving DecidableEq, Repr

namespace Access

def isRead : Access → Bool
  | read _ _ => true
  | write _ _ => false

def isWrite : Access → Bool
  | read _ _ => false
  | write _ _ => true

/-- The end of the accessed range. -/
def limit : Access → Nat
  | read offset size => offset + size
  | write offset size => offset + size

end Access

variable {σ : Type*} {layout : EventLayout}

/-- The events of the initialized prefix. -/
def EventArena.contents (self : EventArena) (codec : RecordCodec layout) :
    List Event :=
  (List.range self.len).map fun slot =>
    codec.decodeEvent
      (Storage.slice self.bytes (slot * layout.eventSize)
        layout.eventSize)

/-! ## The forward loop -/

/-- The variables of the forward loop, with the accesses so far. -/
structure Cursor (σ : Type*) where
  bytes : List UInt8
  resources : Nat
  woke : Bool
  state : σ
  accesses : List Access

namespace Cursor

/-- Read one native record. -/
def read (codec : RecordCodec layout) (nativeOffset source : Nat)
    (self : Cursor σ) : Cursor σ × EpollEvent :=
  let place := nativeOffset + source * layout.nativeSize
  ({ self with
      accesses := self.accesses ++ [.read place layout.nativeSize] },
    codec.decodeNative
      (Storage.slice self.bytes place layout.nativeSize))

/-- Write an event into the next slot. -/
def store (codec : RecordCodec layout) (event : Event)
    (self : Cursor σ) : Cursor σ :=
  let place := self.resources * layout.eventSize
  { self with
    bytes := Storage.write self.bytes place (codec.encodeEvent event)
    resources := self.resources + 1
    accesses := self.accesses ++ [.write place layout.eventSize] }

/-- The body of the loop. -/
def visit (codec : RecordCodec layout) (nativeOffset : Nat)
    (classify : σ → UInt64 → σ × Except Error (Option Key))
    (source : Nat) (self : Cursor σ) : Cursor σ × Except Error Unit :=
  let (self, raw) := self.read codec nativeOffset source
  if raw.token = 0 then
    ({ self with woke := true }, .ok ())
  else
    match classify self.state raw.token with
    | (state, .error error) => ({ self with state }, .error error)
    | (state, .ok none) => ({ self with state }, .ok ())
    | (state, .ok (some key)) =>
        (store codec (.resource key (fromEpollFlags raw.events))
          { self with state }, .ok ())

section

variable {codec : RecordCodec layout} {nativeOffset source : Nat}
  {classify : σ → UInt64 → σ × Except Error (Option Key)}
  {self : Cursor σ} {raw : EpollEvent} {state : σ}
  (held : (self.read codec nativeOffset source).2 = raw)
include held

theorem visit_wake (wake : raw.token = 0) :
    self.visit codec nativeOffset classify source =
      ({ (self.read codec nativeOffset source).1 with woke := true },
        .ok ()) := by
  subst held
  exact if_pos wake

variable (resource : raw.token ≠ 0)
include resource

theorem visit_failed
    {error : Error}
    (answered : classify self.state raw.token = (state, .error error)) :
    self.visit codec nativeOffset classify source =
      ({ (self.read codec nativeOffset source).1 with state },
        .error error) := by
  subst held
  simp only [visit, if_neg resource]
  rw [show (self.read codec nativeOffset source).1.state =
    self.state from rfl, answered]

theorem visit_dropped
    (answered : classify self.state raw.token = (state, .ok none)) :
    self.visit codec nativeOffset classify source =
      ({ (self.read codec nativeOffset source).1 with state },
        .ok ()) := by
  subst held
  simp only [visit, if_neg resource]
  rw [show (self.read codec nativeOffset source).1.state =
    self.state from rfl, answered]

theorem visit_stored
    {key : Key}
    (answered : classify self.state raw.token = (state, .ok (some key))) :
    self.visit codec nativeOffset classify source =
      (store codec (.resource key (fromEpollFlags raw.events))
        { (self.read codec nativeOffset source).1 with state },
        .ok ()) := by
  subst held
  simp only [visit, if_neg resource]
  rw [show (self.read codec nativeOffset source).1.state =
    self.state from rfl, answered]

end

/-- The loop over the records that are left. -/
def run (codec : RecordCodec layout) (nativeOffset : Nat)
    (classify : σ → UInt64 → σ × Except Error (Option Key)) :
    Nat → Nat → Cursor σ → Cursor σ × Except Error Unit
  | 0, _, self => (self, .ok ())
  | left + 1, source, self =>
      match self.visit codec nativeOffset classify source with
      | (self, .error error) => (self, .error error)
      | (self, .ok ()) =>
          run codec nativeOffset classify left (source + 1) self

end Cursor

namespace EpollBatch

/-- `Epoll::wait`: the kernel writes its records into the native tail. -/
def waitArena
    (codec : RecordCodec layout) (self : EpollBatch) (events : EventArena)
    (answer : Except IoError (List EpollEvent)) :
    EpollBatch × EventArena × Except IoError Nat :=
  let self := self.invalidate
  if events.len ≠ 0 ∨ events.capacity.val < self.capacity then
    (self, events,
      .error
        (.custom .invalidInput
          "epoll event storage is not empty or is undersized"))
  else
    match answer with
    | .error source => (self, events, .error source)
    | .ok written =>
        let observed := written.length
        ({ self with observed, storageAddress := events.address.val },
          { events with
            bytes :=
              Storage.writeBlocks layout.nativeSize events.bytes
                self.nativeOffset (written.map codec.encodeNative) },
          .ok observed)

/-- Store the wake event after the resources. -/
def storeWake
    (codec : RecordCodec layout) (wakeKey : Option Key)
    (cursor : Cursor σ) : Cursor σ :=
  match (if cursor.woke then wakeKey else none) with
  | some key => cursor.store codec (.wake key)
  | none => cursor

/-- `EpollBatch::translate`, with the accesses that it performed. -/
def translateArena
    (codec : RecordCodec layout)
    (classify : σ → UInt64 → σ × Except Error (Option Key))
    (self : EpollBatch) (events : EventArena) (observed : Nat)
    (wakeKey : Option Key) (state : σ) :
    EpollBatch × EventArena × σ × Except Error Unit × List Access :=
  if self.storageAddress = 0 ∨ events.len ≠ 0 ∨
      events.capacity.val < self.capacity ∨ observed ≠ self.observed ∨
      observed > self.capacity then
    (self.invalidate, events, state, .error .invariant, [])
  else if events.address.val ≠ self.storageAddress then
    (self.invalidate, events, state, .error .invariant, [])
  else
    match Cursor.run codec self.nativeOffset classify observed 0
        { bytes := events.bytes, resources := 0, woke := false, state
          accesses := [] } with
    | (cursor, .error error) =>
        (self.invalidate, { events with bytes := cursor.bytes },
          cursor.state, .error error, cursor.accesses)
    | (cursor, .ok ()) =>
        let cursor := storeWake codec wakeKey cursor
        (self.invalidate,
          { events with bytes := cursor.bytes, len := cursor.resources },
          cursor.state, .ok (), cursor.accesses)

end EpollBatch

/-! ## Where the accesses go -/

/-- Sizes that leave the native tail behind the slots of the events. -/
structure TailLayout (layout : EventLayout) (capacity nativeOffset : Nat) :
    Prop where
  smaller : layout.nativeSize ≤ layout.eventSize
  offset : nativeOffset =
    capacity * (layout.eventSize - layout.nativeSize)

namespace TailLayout

variable {capacity nativeOffset : Nat}

theorem of_new
    {batch : EpollBatch}
    (created : EpollBatch.new layout capacity = some batch) :
    TailLayout layout capacity batch.nativeOffset := by
  unfold EpollBatch.new at created
  split at created
  · cases created
  · split at created
    · cases created
    · rename_i sizes
      simp only at created
      split at created
      · cases created
      · rename_i product multiplied
        split at created
        · cases created
        · cases created
          refine ⟨by omega, ?_⟩
          unfold usizeCheckedMul at multiplied
          split at multiplied
          · exact (Option.some.inj multiplied).symm
          · cases multiplied

/-- The slots before a record end before the record does. -/
theorem slot_le (tail : TailLayout layout capacity nativeOffset)
    {slots records : Nat} (behind : slots ≤ records)
    (inside : records ≤ capacity) :
    slots * layout.eventSize ≤
      nativeOffset + records * layout.nativeSize := by
  obtain ⟨gap, split⟩ := Nat.exists_eq_add_of_le tail.smaller
  have offset : nativeOffset = capacity * gap := by
    rw [tail.offset, split, Nat.add_sub_cancel_left]
  calc slots * layout.eventSize
      ≤ records * layout.eventSize := Nat.mul_le_mul_right _ behind
    _ = records * layout.nativeSize + records * gap := by
        rw [split, Nat.mul_add]
    _ ≤ records * layout.nativeSize + capacity * gap :=
        Nat.add_le_add_left (Nat.mul_le_mul_right _ inside) _
    _ = nativeOffset + records * layout.nativeSize := by
        rw [offset, Nat.add_comm]

/-- The whole tail fits the storage of the capacity. -/
theorem tail_eq (tail : TailLayout layout capacity nativeOffset) :
    nativeOffset + capacity * layout.nativeSize =
      capacity * layout.eventSize := by
  rw [tail.offset, ← Nat.mul_add, Nat.sub_add_cancel tail.smaller]

theorem record_le (tail : TailLayout layout capacity nativeOffset)
    {records : Nat} (inside : records ≤ capacity) :
    nativeOffset + records * layout.nativeSize ≤
      capacity * layout.eventSize := by
  rw [← tail.tail_eq]
  exact Nat.add_le_add_left (Nat.mul_le_mul_right _ inside) _

end TailLayout

/-- No write of a sequence reaches a record that is still to be read, when so
many records were read before. -/
def Clear (layout : EventLayout) (nativeOffset : Nat) :
    Nat → List Access → Prop
  | _, [] => True
  | records, .read _ _ :: rest =>
      Clear layout nativeOffset (records + 1) rest
  | records, .write offset size :: rest =>
      offset + size ≤ nativeOffset + records * layout.nativeSize ∧
        Clear layout nativeOffset records rest

theorem clear_append
    {nativeOffset records : Nat} {first rest : List Access} :
    Clear layout nativeOffset records (first ++ rest) ↔
      Clear layout nativeOffset records first ∧
        Clear layout nativeOffset
          (records + first.countP Access.isRead) rest := by
  induction first generalizing records with
  | nil => simp [Clear]
  | cons access later inductionHypothesis =>
      cases access with
      | read offset size =>
          have count :
              records + 1 + later.countP Access.isRead =
                records + (Access.read offset size :: later).countP
                  Access.isRead := by
            rw [List.countP_cons_of_pos rfl]
            omega
          rw [List.cons_append, Clear, inductionHypothesis, count, Clear]
      | write offset size =>
          have count :
              later.countP Access.isRead =
                (Access.write offset size :: later).countP
                  Access.isRead := by
            rw [List.countP_cons_of_neg Bool.false_ne_true]
          rw [List.cons_append, Clear, inductionHypothesis, count, Clear,
            and_assoc]

/-! ## The loop invariant -/

/-- The place of a native record. -/
def recordAccess (layout : EventLayout) (nativeOffset record : Nat) :
    Access :=
  .read (nativeOffset + record * layout.nativeSize) layout.nativeSize

/-- The slot of an event. -/
def slotAccess (layout : EventLayout) (slot : Nat) : Access :=
  .write (slot * layout.eventSize) layout.eventSize

/-- After `source` records: the stored events stand in their slots, the unread
records are untouched, and the accesses are those of the records and slots so
far, none of them reaching an unread record. -/
structure Cursor.Follows
    (codec : RecordCodec layout) (capacity nativeOffset : Nat)
    (original : List UInt8) (source : Nat) (resources : List Event)
    (cursor : Cursor σ) : Prop where
  size : cursor.bytes.length = original.length
  counted : cursor.resources = resources.length
  stored : ∀ slot event, resources[slot]? = some event →
    Storage.slice cursor.bytes (slot * layout.eventSize) layout.eventSize =
      codec.encodeEvent event
  unread : ∀ record, source ≤ record → record < capacity →
    Storage.slice cursor.bytes
        (nativeOffset + record * layout.nativeSize) layout.nativeSize =
      Storage.slice original
        (nativeOffset + record * layout.nativeSize) layout.nativeSize
  reads : cursor.accesses.filter Access.isRead =
    (List.range source).map (recordAccess layout nativeOffset)
  writes : cursor.accesses.filter Access.isWrite =
    (List.range resources.length).map (slotAccess layout)
  clear : Clear layout nativeOffset 0 cursor.accesses

namespace Cursor.Follows

variable {codec : RecordCodec layout} {capacity nativeOffset : Nat}
  {original : List UInt8} {source : Nat} {resources : List Event}
  {cursor : Cursor σ}

theorem initial
    (codec : RecordCodec layout) (capacity nativeOffset : Nat)
    (original : List UInt8) (state : σ) :
    Follows codec capacity nativeOffset original 0 []
      { bytes := original, resources := 0, woke := false, state
        accesses := [] } where
  size := rfl
  counted := rfl
  stored := by
    intro slot event impossible
    cases impossible
  unread := fun _ _ _ => rfl
  reads := rfl
  writes := rfl
  clear := trivial

theorem countP_reads
    (follows : cursor.Follows codec capacity nativeOffset original source
      resources) :
    cursor.accesses.countP Access.isRead = source := by
  rw [List.countP_eq_length_filter, follows.reads, List.length_map,
    List.length_range]

theorem with_state
    (follows : cursor.Follows codec capacity nativeOffset original source
      resources) (state : σ) (woke : Bool) :
    Follows codec capacity nativeOffset original source resources
      { cursor with state, woke } :=
  { follows with }

theorem read
    (follows : cursor.Follows codec capacity nativeOffset original source
      resources) :
    (cursor.read codec nativeOffset source).1.Follows codec capacity
      nativeOffset original (source + 1) resources where
  size := follows.size
  counted := follows.counted
  stored := follows.stored
  unread := fun record later =>
    follows.unread record (Nat.le_of_succ_le later)
  reads := by
    simp only [Cursor.read, List.filter_append, follows.reads,
      List.range_succ, List.map_append]
    rfl
  writes := by
    simp only [Cursor.read, List.filter_append, follows.writes]
    exact List.append_nil _
  clear := by
    rw [Cursor.read, clear_append]
    exact ⟨follows.clear, trivial⟩

theorem store
    (tail : TailLayout layout capacity nativeOffset)
    (room : capacity * layout.eventSize ≤ original.length)
    (follows : cursor.Follows codec capacity nativeOffset original source
      resources)
    (behind : resources.length + 1 ≤ source) (inside : source ≤ capacity)
    (event : Event) :
    (cursor.store codec event).Follows codec capacity nativeOffset
      original source (resources ++ [event]) := by
  have encoded := codec.length_event event
  have counted := follows.counted
  have successor : (resources.length + 1) * layout.eventSize =
      resources.length * layout.eventSize + layout.eventSize :=
    Nat.succ_mul _ _
  have before := tail.slot_le behind inside
  have ends := tail.record_le inside
  have fits : cursor.resources * layout.eventSize +
      (codec.encodeEvent event).length ≤ cursor.bytes.length := by
    rw [follows.size, encoded, counted]
    omega
  exact
    { size := by
        rw [Cursor.store, Storage.length_write fits, follows.size]
      counted := by
        rw [Cursor.store, List.length_append, counted]
        rfl
      stored := by
        intro slot stored held
        rw [List.getElem?_append] at held
        split at held
        · rename_i earlier
          have apart : slot * layout.eventSize + layout.eventSize ≤
              cursor.resources * layout.eventSize := by
            rw [counted, ← Nat.succ_mul]
            exact Nat.mul_le_mul_right _ earlier
          rw [Cursor.store, Storage.slice_write_before fits apart]
          exact follows.stored slot stored held
        · rename_i later
          have position : slot = cursor.resources := by
            have single := (List.getElem?_eq_some_iff.mp held).1
            rw [List.length_singleton] at single
            omega
          have same : stored = event := by
            rw [position, counted, Nat.sub_self] at held
            exact (Option.some.inj held).symm
          have written := Storage.slice_write_self fits
          rw [encoded] at written
          rw [same, position]
          exact written
      unread := by
        intro record later limited
        have records : source * layout.nativeSize ≤
            record * layout.nativeSize := Nat.mul_le_mul_right _ later
        have apart : cursor.resources * layout.eventSize +
            (codec.encodeEvent event).length ≤
              nativeOffset + record * layout.nativeSize := by
          rw [encoded, counted]
          omega
        rw [Cursor.store, Storage.slice_write_after fits apart]
        exact follows.unread record later limited
      reads := by
        simp only [Cursor.store, List.filter_append, follows.reads]
        exact List.append_nil _
      writes := by
        simp only [Cursor.store, List.filter_append, follows.writes,
          List.length_append, List.length_singleton, List.range_succ,
          List.map_append, counted]
        rfl
      clear := by
        rw [Cursor.store, clear_append, follows.countP_reads,
          Nat.zero_add]
        refine ⟨follows.clear, ?_, trivial⟩
        rw [counted]
        omega }

section

variable {classify : σ → UInt64 → σ × Except Error (Option Key)}
  (tail : TailLayout layout capacity nativeOffset)
  (room : capacity * layout.eventSize ≤ original.length)
include tail room

/-- The loop follows the translation of the records that were copied from the
original bytes. -/
theorem run
    {records : List EpollEvent} {deliveries : List Delivery}
    (staged : ∀ index raw, records[index]? = some raw →
      codec.decodeNative
        (Storage.slice original
          (nativeOffset + (source + index) * layout.nativeSize)
          layout.nativeSize) = raw)
    (follows : cursor.Follows codec capacity nativeOffset original source
      (deliveries.map Delivery.event))
    (behind : deliveries.length + cursor.woke.toNat ≤ source)
    (inside : source + records.length ≤ capacity)
    {after : σ} {outcome : Except Error (List Delivery × Bool)}
    (copied : EpollBatch.translateFrom classify records cursor.state
      deliveries cursor.woke = (after, outcome)) :
    ∃ final reached resources,
      Cursor.run codec nativeOffset classify records.length source
          cursor = (final, outcome.map fun _ => ()) ∧
        final.state = after ∧
        final.Follows codec capacity nativeOffset original reached
          resources ∧
        resources.length ≤ reached ∧
        reached ≤ source + records.length ∧
        ∀ delivered woke, outcome = .ok (delivered, woke) →
          reached = source + records.length ∧
            resources = delivered.map Delivery.event ∧
            final.woke = woke ∧
            resources.length + woke.toNat ≤ reached := by
  induction records generalizing source cursor deliveries with
  | nil =>
      cases copied
      refine ⟨cursor, source, _, rfl, rfl, follows, ?_, Nat.le_refl _, ?_⟩
      · rw [List.length_map]
        omega
      · intro delivered woke same
        cases same
        refine ⟨rfl, rfl, rfl, ?_⟩
        rw [List.length_map]
        exact behind
  | cons raw rest inductionHypothesis =>
      rw [List.length_cons] at inside
      have read : (cursor.read codec nativeOffset source).2 = raw := by
        have untouched := follows.unread source (Nat.le_refl _) (by omega)
        have first := staged 0 raw rfl
        rw [Nat.add_zero] at first
        simp only [Cursor.read, untouched, first]
      have restStaged : ∀ index raw, rest[index]? = some raw →
          codec.decodeNative
            (Storage.slice original
              (nativeOffset + (source + 1 + index) * layout.nativeSize)
              layout.nativeSize) = raw := by
        intro index other held
        have later := staged (index + 1) other held
        rw [Nat.add_assoc, Nat.add_comm 1 index]
        exact later
      have advanced := follows.read
      have length : source + 1 + rest.length =
          source + (rest.length + 1) := by
        omega
      rw [List.length_cons, Cursor.run, ← length]
      rw [← length] at inside
      rw [EpollBatch.translateFrom] at copied
      by_cases wake : raw.token = 0
      · rw [if_pos wake] at copied
        rw [Cursor.visit_wake read wake]
        exact inductionHypothesis restStaged
          (advanced.with_state cursor.state true)
          (by simp only [Bool.toNat_true]; omega) inside copied
      · rw [if_neg wake] at copied
        rcases answered : classify cursor.state raw.token with
          ⟨state, answer⟩
        rw [answered] at copied
        cases answer with
        | error error =>
            cases copied
            rw [Cursor.visit_failed read wake answered]
            refine ⟨_, source + 1, _, rfl, rfl,
              advanced.with_state after cursor.woke, ?_, by omega, ?_⟩
            · rw [List.length_map]
              omega
            · intro delivered woke impossible
              cases impossible
        | ok accepted =>
            cases accepted with
            | none =>
                rw [Cursor.visit_dropped read wake answered]
                exact inductionHypothesis restStaged
                  (advanced.with_state state cursor.woke)
                  (Nat.le_succ_of_le behind) inside copied
            | some key =>
                rw [Cursor.visit_stored read wake answered]
                have stored := (advanced.with_state state
                  cursor.woke).store tail room
                    (by rw [List.length_map]; omega) (by omega)
                    (.resource key (fromEpollFlags raw.events))
                refine inductionHypothesis restStaged ?_ ?_ inside copied
                · rw [List.map_append]
                  exact stored
                · rw [List.length_append, List.length_singleton]
                  have flags : (Cursor.store codec
                      (.resource key (fromEpollFlags raw.events))
                      { (cursor.read codec nativeOffset source).1 with
                        state }).woke = cursor.woke := rfl
                  rw [flags]
                  omega

/-- The wake event fits: the record that woke the poller left a slot. -/
theorem storeWake
    (follows : cursor.Follows codec capacity nativeOffset original source
      resources)
    (behind : resources.length + cursor.woke.toNat ≤ source)
    (inside : source ≤ capacity) (wakeKey : Option Key) :
    (EpollBatch.storeWake codec wakeKey cursor).Follows codec capacity
        nativeOffset original source
        (resources ++
          (EpollBatch.wakeEvent cursor.woke wakeKey).map
            Delivery.event) ∧
      (resources ++
        (EpollBatch.wakeEvent cursor.woke wakeKey).map
          Delivery.event).length ≤ source ∧
      (EpollBatch.storeWake codec wakeKey cursor).state =
        cursor.state := by
  unfold EpollBatch.storeWake EpollBatch.wakeEvent
  cases woke : cursor.woke with
  | false =>
      rw [if_neg Bool.false_ne_true, List.map_nil, List.append_nil]
      exact ⟨follows, by omega, rfl⟩
  | true =>
      rw [woke, Bool.toNat_true] at behind
      cases wakeKey with
      | none =>
          rw [if_pos rfl, List.map_nil, List.append_nil]
          exact ⟨follows, by omega, rfl⟩
      | some key =>
          rw [if_pos rfl]
          refine ⟨follows.store tail room behind inside (.wake key), ?_,
            rfl⟩
          rw [List.length_append]
          exact behind

omit room in
/-- Every access stays inside the storage of the capacity. -/
theorem limit_le
    (follows : cursor.Follows codec capacity nativeOffset original source
      resources)
    (behind : resources.length ≤ source) (inside : source ≤ capacity)
    {access : Access} (performed : access ∈ cursor.accesses) :
    access.limit ≤ capacity * layout.eventSize := by
  cases access with
  | read offset size =>
      have listed : Access.read offset size ∈
          cursor.accesses.filter Access.isRead :=
        List.mem_filter.mpr ⟨performed, rfl⟩
      rw [follows.reads] at listed
      obtain ⟨record, member, same⟩ := List.mem_map.mp listed
      have earlier : record + 1 ≤ capacity :=
        Nat.le_trans (List.mem_range.mp member) inside
      cases same
      have ends := tail.record_le earlier
      rw [Nat.succ_mul] at ends
      simp only [Access.limit]
      omega
  | write offset size =>
      have listed : Access.write offset size ∈
          cursor.accesses.filter Access.isWrite :=
        List.mem_filter.mpr ⟨performed, rfl⟩
      rw [follows.writes] at listed
      obtain ⟨slot, member, same⟩ := List.mem_map.mp listed
      have earlier : slot + 1 ≤ capacity :=
        Nat.le_trans (List.mem_range.mp member)
          (Nat.le_trans behind inside)
      cases same
      have ends := Nat.mul_le_mul_right layout.eventSize earlier
      rw [Nat.succ_mul] at ends
      exact ends

end

theorem contents
    (follows : cursor.Follows codec capacity nativeOffset original source
      resources) (arena : EventArena) :
    EventArena.contents
        { arena with bytes := cursor.bytes, len := cursor.resources }
        codec = resources := by
  unfold EventArena.contents
  rw [follows.counted]
  apply List.ext_getElem?
  intro slot
  cases held : resources[slot]? with
  | none =>
      rw [List.getElem?_eq_none_iff] at held
      rw [List.getElem?_eq_none]
      rw [List.length_map, List.length_range]
      exact held
  | some event =>
      have inside := (List.getElem?_eq_some_iff.mp held).1
      rw [List.getElem?_map, List.getElem?_range inside]
      simp only [Option.map_some, follows.stored slot event held,
        codec.decode_event]

end Cursor.Follows

end Zio
