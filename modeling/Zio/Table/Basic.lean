import Zio.Token
import Zio.Descriptor

/-!
# Fixed registration table

The owner-local slot table: an intrusive free list of retired slots, a counter
of slots whose generations are used up, and the linear permits and leases that
lend one slot to a native call.  A Rust permit or lease borrows the table
exclusively, so here it carries the table that it borrows, and settling it
returns that table.
-/

namespace Zio

/-- `FREE_END`: a capacity is a count, so its largest index is below this. -/
def freeEnd : UInt32 := u32Max

/-- One retained registration. -/
structure Entry where
  descriptor : Descriptor
  key : Key
  interest : Interest
  mode : Mode
  state : RegistrationState
deriving DecidableEq, Repr

/-- A newly reserved entry is registered and armed. -/
def Entry.registered
    (descriptor : Descriptor) (key : Key) (interest : Interest)
    (mode : Mode) : Entry :=
  { descriptor, key, interest, mode, state := .registered .armed }

/-- An intrusive slot.  `nextFree` is stale while the slot is occupied. -/
structure Slot where
  generation : UInt32
  entry : Option Entry
  nextFree : UInt32
deriving DecidableEq, Repr

/-- Owner-local fixed slot table. -/
structure RegistrationTable where
  limit : NonZeroUsize
  slots : List Slot
  freeHead : UInt32
  exhausted : Nat
deriving DecidableEq, Repr

/-- Borrowed native state for one exact registration. -/
structure Binding where
  descriptor : Fd
  interest : Interest
  mode : Mode
  state : RegistrationState
deriving DecidableEq, Repr

/-- Copyable state needed while translating one native observation. -/
structure Observation where
  id : RegistrationId
  descriptor : RawFd
  key : Key
  mode : Mode
deriving DecidableEq, Repr

def Entry.binding (entry : Entry) : Binding :=
  { descriptor := entry.descriptor.asFd
    interest := entry.interest
    mode := entry.mode
    state := entry.state }

namespace RegistrationTable

/-- An empty table.  `allocated` is the allocator's answer to
`try_reserve_exact`. -/
def new (limit : NonZeroUsize) (allocated : Bool) :
    Except Error RegistrationTable :=
  if limit.val > maxRegistrations then
    .error .backendOverflow
  else if allocated then
    .ok { limit, slots := [], freeHead := freeEnd, exhausted := 0 }
  else
    .error (.capacity limit.val)

/-! ## Lookup -/

/-- Checked lookup of the entry of one exact generation. -/
def entryWithIndex (self : RegistrationTable) (id : RegistrationId) :
    Except Error (Nat × Entry) :=
  match decode id with
  | .error error => .error error
  | .ok (index, generation) =>
      match self.slots[index]? with
      | none => .error (.stale id)
      | some slot =>
          if slot.generation ≠ generation.val then
            .error (.stale id)
          else
            match slot.entry with
            | none => .error (.stale id)
            | some entry => .ok (index, entry)

def entry (self : RegistrationTable) (id : RegistrationId) :
    Except Error Entry :=
  (self.entryWithIndex id).map Prod.snd

/-- The mutable entry of one exact generation: the index of its slot, the
slot and the entry. -/
def entryMut (self : RegistrationTable) (id : RegistrationId) :
    Except Error (Nat × Slot × Entry) :=
  match decode id with
  | .error error => .error error
  | .ok (index, generation) =>
      match self.slots[index]? with
      | none => .error (.stale id)
      | some slot =>
          if slot.generation ≠ generation.val then
            .error (.stale id)
          else
            match slot.entry with
            | none => .error (.stale id)
            | some entry => .ok (index, slot, entry)

/-- Write an entry through the reference that `entryMut` returned. -/
def writeEntry
    (self : RegistrationTable) (index : Nat) (slot : Slot)
    (entry : Entry) : RegistrationTable :=
  { self with
    slots := self.slots.set index { slot with entry := some entry } }

def binding
    (self : RegistrationTable) (id : RegistrationId)
    (allowUncertain : Bool) : Except Error Binding :=
  match self.entry id with
  | .error error => .error error
  | .ok entry =>
      if !allowUncertain && entry.state == .uncertain then
        .error (.uncertain id)
      else
        .ok entry.binding

/-- The live registration that a native token names. -/
def resolve (self : RegistrationTable) (token : UInt64) :
    Option Observation :=
  let id : RegistrationId := ⟨token⟩
  match self.entry id with
  | .error _ => none
  | .ok entry =>
      match entry.state with
      | .registered _ =>
          some
            { id
              descriptor := entry.descriptor.asRawFd
              key := entry.key
              mode := entry.mode }
      | .uncertain => none

def state (self : RegistrationTable) (id : RegistrationId) :
    Except Error RegistrationState :=
  (self.entry id).map Entry.state

/-! ## Updates of one live entry -/

def commitModify
    (self : RegistrationTable) (id : RegistrationId)
    (interest : Interest) (mode : Mode) :
    RegistrationTable × Except Error Unit :=
  match self.entryMut id with
  | .error error => (self, .error error)
  | .ok (index, slot, entry) =>
      (self.writeEntry index slot
        { entry with interest, mode, state := .registered .armed },
        .ok ())

def markUncertain
    (self : RegistrationTable) (id : RegistrationId) :
    RegistrationTable × Except Error Unit :=
  match self.entryMut id with
  | .error error => (self, .error error)
  | .ok (index, slot, entry) =>
      (self.writeEntry index slot { entry with state := .uncertain },
        .ok ())

/-- The state that a settled disarm establishes. -/
def disarmedState
    (commit : CommitStatus) (previous : RegistrationState) :
    RegistrationState :=
  match commit with
  | .applied => .registered .disarmed
  | .notApplied => previous
  | .unknown => .uncertain

def applyDisarm
    (self : RegistrationTable) (id : RegistrationId)
    (commit : CommitStatus) :
    RegistrationTable × Except Error RegistrationState :=
  match self.entryMut id with
  | .error error => (self, .error error)
  | .ok (index, slot, entry) =>
      if entry.mode ≠ .oneShot ∨ entry.state ≠ .registered .armed then
        (self, .error .invariant)
      else
        let state := disarmedState commit entry.state
        (self.writeEntry index slot { entry with state }, .ok state)

end RegistrationTable

/-! ## Slot leases -/

/-- Exclusive access to one occupied slot and its free-list state. -/
structure SlotLease where
  table : RegistrationTable
  slotIndex : Nat
  slot : Slot
  freeIndex : UInt32

namespace SlotLease

def binding (self : SlotLease) : Except Error Binding :=
  match self.slot.entry with
  | none => .error .invariant
  | some entry => .ok entry.binding

def keep (self : SlotLease) : RegistrationTable := self.table

/-- Write the leased slot back into the borrowed table. -/
def writeSlot (self : SlotLease) (slot : Slot) : RegistrationTable :=
  { self.table with slots := self.table.slots.set self.slotIndex slot }

/-- Drop the entry and thread the slot onto the free list, or count the slot
as exhausted when its last generation ends. -/
def retire (self : SlotLease) : RegistrationTable × Except Error Unit :=
  if self.slot.generation = maxGeneration then
    match usizeCheckedAdd self.table.exhausted 1 with
    | none => (self.table, .error .invariant)
    | some exhausted =>
        ({ self.writeSlot
            { self.slot with entry := none, nextFree := freeEnd } with
            exhausted },
          .ok ())
  else
    ({ self.writeSlot
        { self.slot with
          entry := none
          nextFree := self.table.freeHead } with
        freeHead := self.freeIndex },
      .ok ())

def markUncertain (self : SlotLease) :
    RegistrationTable × Except Error Unit :=
  match self.slot.entry with
  | none => (self.table, .error .invariant)
  | some entry =>
      (self.writeSlot
        { self.slot with
          entry := some { entry with state := .uncertain } },
        .ok ())

end SlotLease

/-! ## Reservations -/

/-- Capacity proof for one exact virgin slot. -/
structure FreshPermit where
  table : RegistrationTable
  slotIndex : Nat
  freeIndex : UInt32
  id : EncodedRegistrationId

/-- Capacity proof for one exact retired slot. -/
structure ReusedPermit where
  table : RegistrationTable
  slotIndex : Nat
  slot : Slot
  freeIndex : UInt32
  nextFree : UInt32
  nextGeneration : UInt32
  id : EncodedRegistrationId

namespace RegistrationTable

def hasReusableSlot (self : RegistrationTable) : Bool :=
  self.freeHead != freeEnd

def freshPermit (self : RegistrationTable) : Except Error FreshPermit :=
  if self.hasReusableSlot then
    .error .invariant
  else if self.slots.length < self.limit.val then
    let slotIndex := self.slots.length
    match u32OfUsize slotIndex with
    | none => .error .backendOverflow
    | some freeIndex =>
        match encode freeIndex ⟨1, by decide⟩ with
        | none => .error .registrationSpaceExhausted
        | some id => .ok { table := self, slotIndex, freeIndex, id }
  else if self.exhausted = self.limit.val then
    .error .registrationSpaceExhausted
  else
    .error (.capacity self.limit.val)

def reusedPermit (self : RegistrationTable) : Except Error ReusedPermit :=
  let freeIndex := self.freeHead
  if freeIndex = freeEnd then
    .error .invariant
  else
    match self.slots[freeIndex.toNat]? with
    | none => .error .invariant
    | some slot =>
        if slot.entry.isSome ∨ slot.generation = maxGeneration then
          .error .invariant
        else
          match u32CheckedSucc slot.generation with
          | none => .error .invariant
          | some nextGeneration =>
              match nonZeroU32 nextGeneration with
              | none => .error .invariant
              | some generation =>
                  match encode freeIndex generation with
                  | none => .error .registrationSpaceExhausted
                  | some id =>
                      .ok
                        { table := self
                          slotIndex := freeIndex.toNat
                          slot
                          freeIndex
                          nextFree := slot.nextFree
                          nextGeneration
                          id }

end RegistrationTable

/-- Fill a vacant entry; an occupied one is a broken invariant. -/
def occupy (vacancy : Option Entry) (entry : Entry) : Except Error Entry :=
  match vacancy with
  | some _ => .error .invariant
  | none => .ok entry

/-- Insert the descriptor, then lend that exact entry to one native call.  A
failure returns the table that the permit borrowed. -/
def FreshPermit.reserveWith
    {Output : Type*} (self : FreshPermit)
    (descriptor : Descriptor) (key : Key) (interest : Interest)
    (mode : Mode) (apply : Fd → RegistrationId → Output) :
    Except (RegistrationTable × Error) (SlotLease × Output) :=
  let vacant : Slot :=
    { generation := 1, entry := none, nextFree := freeEnd }
  let slots := self.table.slots ++ [vacant]
  match slots[self.slotIndex]? with
  | none => .error ({ self.table with slots }, .invariant)
  | some slot =>
      let entry := Entry.registered descriptor key interest mode
      let slot := { slot with entry := some entry }
      let output := apply entry.descriptor.asFd self.id.id
      .ok
        ({ table :=
            { self.table with slots := slots.set self.slotIndex slot }
           slotIndex := self.slotIndex
           slot
           freeIndex := self.freeIndex },
          output)

/-- Insert the descriptor, then lend that exact entry to one native call. -/
def ReusedPermit.reserveWith
    {Output : Type*} (self : ReusedPermit)
    (descriptor : Descriptor) (key : Key) (interest : Interest)
    (mode : Mode) (apply : Fd → RegistrationId → Output) :
    Except (RegistrationTable × Error) (SlotLease × Output) :=
  match occupy self.slot.entry
      (Entry.registered descriptor key interest mode) with
  | .error error => .error (self.table, error)
  | .ok entry =>
      let slot :=
        { self.slot with
          entry := some entry
          generation := self.nextGeneration }
      let output := apply entry.descriptor.asFd self.id.id
      .ok
        ({ table :=
            { self.table with
              slots := self.table.slots.set self.slotIndex slot
              freeHead := self.nextFree }
           slotIndex := self.slotIndex
           slot
           freeIndex := self.freeIndex },
          output)

/-! ## Retirement of a validated generation -/

namespace RegistrationTable

def prepareRetireAt
    (self : RegistrationTable) (id : RegistrationId) (index : Nat)
    (freeIndex generation : UInt32) (allowUncertain : Bool) :
    Except Error SlotLease :=
  match self.slots[index]? with
  | none => .error (.stale id)
  | some slot =>
      if slot.generation ≠ generation then
        .error (.stale id)
      else
        match slot.entry with
        | none => .error (.stale id)
        | some entry =>
            if !allowUncertain && entry.state == .uncertain then
              .error (.uncertain id)
            else
              .ok { table := self, slotIndex := index, slot, freeIndex }

/-- Unchecked lookup through the sealed encoding of a library handle. -/
def prepareRegistrationRetire
    (self : RegistrationTable) (encoded : EncodedRegistrationId)
    (allowUncertain : Bool) : Except Error SlotLease :=
  let (freeIndex, generation) := encoded.parts
  self.prepareRetireAt encoded.id freeIndex.toNat freeIndex generation
    allowUncertain

end RegistrationTable

end Zio
