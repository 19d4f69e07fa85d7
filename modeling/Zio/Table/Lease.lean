import Zio.Table.Lookup

/-!
# Leases and reservations over the map

A lease that holds an identity settles it: keeping changes nothing, retiring
removes the identity and marking makes it uncertain.  A reservation, fresh or
reused, adds one absent identity and leases it.
-/

namespace Zio

/-- The lease lends the slot of one exact live generation. -/
structure SlotLease.Holds
    (lease : SlotLease) (id : RegistrationId) (entry : Entry) : Prop where
  located : lease.table.Located id lease.slotIndex lease.slot entry
  index : lease.freeIndex.toNat = lease.slotIndex

namespace SlotLease

theorem Holds.binding
    {lease : SlotLease} {id : RegistrationId} {entry : Entry}
    (holds : lease.Holds id entry) :
    lease.binding = .ok entry.binding := by
  simp [SlotLease.binding, holds.located.occupied]

/-- The table that retiring leaves when the slot has generations left. -/
def retiredTable (self : SlotLease) : RegistrationTable :=
  { self.writeSlot
      { self.slot with
        entry := none
        nextFree := self.table.freeHead } with
    freeHead := self.freeIndex }

/-- The table that retiring the last generation of a slot leaves. -/
def exhaustedTable (self : SlotLease) : RegistrationTable :=
  { self.writeSlot { self.slot with entry := none, nextFree := freeEnd } with
    exhausted := self.table.exhausted + 1 }

theorem retire_cases (lease : SlotLease) :
    (lease.slot.generation ≠ maxGeneration ∧
        lease.retire = (lease.retiredTable, .ok ())) ∨
      (lease.slot.generation = maxGeneration ∧
        lease.table.exhausted + 1 ≤ usizeMax ∧
        lease.retire = (lease.exhaustedTable, .ok ())) ∨
      (lease.slot.generation = maxGeneration ∧
        usizeMax < lease.table.exhausted + 1 ∧
        lease.retire = (lease.table, .error .invariant)) := by
  unfold retire
  by_cases last : lease.slot.generation = maxGeneration
  · by_cases room : lease.table.exhausted + 1 ≤ usizeMax
    · refine Or.inr (Or.inl ⟨last, room, ?_⟩)
      simp [last, usizeCheckedAdd, room, exhaustedTable]
    · refine Or.inr (Or.inr ⟨last, by omega, ?_⟩)
      simp [last, usizeCheckedAdd, room]
  · refine Or.inl ⟨last, ?_⟩
    simp [last, retiredTable]

theorem Holds.lookup_retiredTable
    {lease : SlotLease} {id : RegistrationId} {entry : Entry}
    (holds : lease.Holds id entry) (other : RegistrationId) :
    lease.retiredTable.lookup other =
      if other = id then none else lease.table.lookup other :=
  RegistrationTable.lookup_set_same_generation holds.located
    { lease.slot with entry := none, nextFree := lease.table.freeHead }
    rfl other

theorem Holds.lookup_exhaustedTable
    {lease : SlotLease} {id : RegistrationId} {entry : Entry}
    (holds : lease.Holds id entry) (other : RegistrationId) :
    lease.exhaustedTable.lookup other =
      if other = id then none else lease.table.lookup other :=
  RegistrationTable.lookup_set_same_generation holds.located
    { lease.slot with entry := none, nextFree := freeEnd } rfl other

theorem Holds.markUncertain
    {lease : SlotLease} {id : RegistrationId} {entry : Entry}
    (holds : lease.Holds id entry) :
    lease.markUncertain =
      (lease.table.writeEntry lease.slotIndex lease.slot
        (RegistrationTable.uncertainEntry entry), .ok ()) := by
  simp [SlotLease.markUncertain, holds.located.occupied, writeSlot,
    RegistrationTable.writeEntry, RegistrationTable.uncertainEntry]

end SlotLease

namespace RegistrationTable

/-! ## Prepared retirement -/

/-- The unchecked lookup of a sealed handle is the map. -/
theorem prepareRegistrationRetire_cases
    (table : RegistrationTable) (encoded : EncodedRegistrationId)
    (allowUncertain : Bool) :
    (∃ lease entry,
        table.prepareRegistrationRetire encoded allowUncertain =
            .ok lease ∧
          lease.table = table ∧ lease.Holds encoded.id entry ∧
          (allowUncertain = false → entry.state ≠ .uncertain)) ∨
      (∃ entry,
        table.lookup encoded.id = some entry ∧
          allowUncertain = false ∧ entry.state = .uncertain ∧
          table.prepareRegistrationRetire encoded allowUncertain =
            .error (.uncertain encoded.id)) ∨
      (table.lookup encoded.id = none ∧
        table.prepareRegistrationRetire encoded allowUncertain =
          .error (.stale encoded.id)) := by
  have decoded := decode_encoded encoded
  unfold prepareRegistrationRetire
  simp only [prepareRetireAt]
  cases found : table.slots[encoded.parts.1.toNat]? with
  | none =>
      refine Or.inr (Or.inr ⟨?_, rfl⟩)
      simp [lookup, decoded, found]
  | some slot =>
      by_cases same : slot.generation = encoded.parts.2
      · cases occupied : slot.entry with
        | none =>
            refine Or.inr (Or.inr ⟨?_, ?_⟩)
            · simp [lookup, decoded, found, same, occupied]
            · simp [same, occupied]
        | some entry =>
            have located :
                table.Located encoded.id encoded.parts.1.toNat slot entry :=
              ⟨⟨_, decoded, same⟩, found, occupied⟩
            by_cases blocked :
                allowUncertain = false ∧ entry.state = .uncertain
            · refine Or.inr (Or.inl ⟨entry, located.lookup, blocked.1,
                blocked.2, ?_⟩)
              simp [same, occupied, blocked.1, blocked.2]
            · refine Or.inl
                ⟨⟨table, encoded.parts.1.toNat, slot, encoded.parts.1⟩,
                  entry, ?_, rfl, ⟨located, rfl⟩, ?_⟩
              · cases allowUncertain with
                | true => simp [same, occupied]
                | false =>
                    have certain : entry.state ≠ .uncertain := fun state =>
                      blocked ⟨rfl, state⟩
                    simp [same, occupied, certain]
              · intro strict state
                exact blocked ⟨strict, state⟩
      · refine Or.inr (Or.inr ⟨?_, ?_⟩)
        · simp [lookup, decoded, found, same]
        · simp [same]

/-! ## Reservations -/

/-- A reservation adds one absent identity to the map and leases it. -/
structure Reserves
    (table : RegistrationTable) (lease : SlotLease)
    (id : RegistrationId) (entry : Entry) : Prop where
  absent : table.lookup id = none
  holds : lease.Holds id entry
  lookup : ∀ other,
    lease.table.lookup other =
      if other = id then some entry else table.lookup other
  limit : lease.table.limit = table.limit

/-- The occupied slot that a fresh reservation appends. -/
def freshSlot (entry : Entry) : Slot :=
  { generation := 1, entry := some entry, nextFree := freeEnd }

/-- The lease of a fresh reservation. -/
def freshLease
    (table : RegistrationTable) (freeIndex : UInt32) (entry : Entry) :
    SlotLease :=
  { table := { table with slots := table.slots ++ [freshSlot entry] }
    slotIndex := table.slots.length
    slot := freshSlot entry
    freeIndex }

/-- The occupied slot that a reused reservation writes. -/
def reusedSlot (slot : Slot) (entry : Entry) : Slot :=
  { slot with entry := some entry, generation := slot.generation + 1 }

/-- The lease of a reused reservation. -/
def reusedLease
    (table : RegistrationTable) (slot : Slot) (entry : Entry) :
    SlotLease :=
  { table :=
      { table with
        slots :=
          table.slots.set table.freeHead.toNat (reusedSlot slot entry)
        freeHead := slot.nextFree }
    slotIndex := table.freeHead.toNat
    slot := reusedSlot slot entry
    freeIndex := table.freeHead }

theorem freshPermit_eq_ok
    {table : RegistrationTable} {permit : FreshPermit}
    (granted : table.freshPermit = .ok permit) :
    table.freeHead = freeEnd ∧
      table.slots.length < table.limit.val ∧
      permit.table = table ∧
      permit.slotIndex = table.slots.length ∧
      permit.freeIndex.toNat = table.slots.length ∧
      decode permit.id.id =
        .ok (table.slots.length, ⟨1, by decide⟩) := by
  unfold freshPermit at granted
  split at granted
  · cases granted
  · rename_i noReuse
    split at granted
    · rename_i room
      simp only at granted
      split at granted
      · cases granted
      · rename_i freeIndex narrowed
        split at granted
        · cases granted
        · rename_i id packed
          cases granted
          have indexValue := u32OfUsize_toNat narrowed
          refine ⟨?_, room, rfl, rfl, indexValue, ?_⟩
          · simpa [hasReusableSlot] using noReuse
          · rw [decode_encode packed, indexValue]
    · split at granted <;> cases granted

theorem freshReserve_eq
    {table : RegistrationTable} {permit : FreshPermit}
    (granted : table.freshPermit = .ok permit)
    {Output : Type*} (descriptor : Descriptor) (key : Key)
    (interest : Interest) (mode : Mode)
    (apply : Fd → RegistrationId → Output) :
    permit.reserveWith descriptor key interest mode apply =
      .ok
        (freshLease table permit.freeIndex
            (Entry.registered descriptor key interest mode),
          apply descriptor.asFd permit.id.id) := by
  obtain ⟨_, _, tableValue, indexValue, _, _⟩ :=
    freshPermit_eq_ok granted
  simp [FreshPermit.reserveWith, tableValue, indexValue, freshLease,
    freshSlot, Entry.registered]

theorem reusedPermit_eq_ok
    {table : RegistrationTable} {permit : ReusedPermit}
    (granted : table.reusedPermit = .ok permit) :
    ∃ slot generation,
      table.freeHead ≠ freeEnd ∧
        table.slots[table.freeHead.toNat]? = some slot ∧
        slot.entry = none ∧ slot.generation ≠ maxGeneration ∧
        permit =
          { table
            slotIndex := table.freeHead.toNat
            slot
            freeIndex := table.freeHead
            nextFree := slot.nextFree
            nextGeneration := slot.generation + 1
            id := permit.id } ∧
        generation.val = slot.generation + 1 ∧
        decode permit.id.id =
          .ok (table.freeHead.toNat, generation) := by
  unfold reusedPermit at granted
  simp only at granted
  split at granted
  · cases granted
  · rename_i notEnd
    split at granted
    · cases granted
    · rename_i slot found
      split at granted
      · cases granted
      · rename_i vacant
        split at granted
        · cases granted
        · rename_i nextGeneration added
          split at granted
          · cases granted
          · rename_i generation nonzero
            split at granted
            · cases granted
            · rename_i id packed
              cases granted
              have notLast : slot.generation ≠ maxGeneration := fun last =>
                vacant (Or.inr last)
              have nextValue : nextGeneration = slot.generation + 1 := by
                have different : slot.generation ≠ u32Max := notLast
                simp only [u32CheckedSucc, if_neg different,
                  Option.some.injEq] at added
                exact added.symm
              have generationValue : generation.val = nextGeneration := by
                unfold nonZeroU32 at nonzero
                split at nonzero
                · cases nonzero
                  rfl
                · cases nonzero
              refine ⟨slot, generation, notEnd, found, ?_, notLast, ?_,
                ?_, decode_encode packed⟩
              · cases occupied : slot.entry with
                | none => rfl
                | some entry =>
                    exact (vacant (Or.inl (by simp [occupied]))).elim
              · rw [nextValue]
              · rw [generationValue, nextValue]

theorem reusedReserve_eq
    {table : RegistrationTable} {permit : ReusedPermit}
    (granted : table.reusedPermit = .ok permit)
    {Output : Type*} (descriptor : Descriptor) (key : Key)
    (interest : Interest) (mode : Mode)
    (apply : Fd → RegistrationId → Output) :
    permit.reserveWith descriptor key interest mode apply =
      .ok
        (reusedLease table permit.slot
            (Entry.registered descriptor key interest mode),
          apply descriptor.asFd permit.id.id) := by
  obtain ⟨slot, generation, _, _, vacant, _, shape, _, _⟩ :=
    reusedPermit_eq_ok granted
  rw [shape]
  simp [ReusedPermit.reserveWith, occupy, vacant, reusedLease, reusedSlot,
    Entry.registered]

theorem freshLease_reserves
    {table : RegistrationTable} {permit : FreshPermit}
    (granted : table.freshPermit = .ok permit) (entry : Entry) :
    table.Reserves (freshLease table permit.freeIndex entry)
      permit.id.id entry := by
  obtain ⟨_, _, _, _, indexValue, decoded⟩ := freshPermit_eq_ok granted
  have appended :
      (table.slots ++ [freshSlot entry])[table.slots.length]? =
        some (freshSlot entry) := by
    simp
  refine
    { absent := ?_
      holds :=
        { located := ⟨⟨_, decoded, rfl⟩, appended, rfl⟩
          index := indexValue }
      lookup := ?_
      limit := rfl }
  · simp [RegistrationTable.lookup, decoded]
  · intro other
    by_cases equal : other = permit.id.id
    · subst equal
      simp [RegistrationTable.lookup, freshLease, decoded, freshSlot]
    · rw [if_neg equal]
      unfold RegistrationTable.lookup freshLease
      cases otherDecoded : decode other with
      | error error => rfl
      | ok place =>
          rcases place with ⟨otherIndex, otherGeneration⟩
          by_cases sameIndex : otherIndex = table.slots.length
          · subst sameIndex
            have different : (1 : UInt32) ≠ otherGeneration.val := by
              intro sameValue
              apply equal
              have generations :
                  otherGeneration = (⟨1, by decide⟩ : NonZeroU32) :=
                Subtype.ext sameValue.symm
              subst generations
              exact decode_injective otherDecoded decoded
            simp [freshSlot, different]
          · have unchanged :
                (table.slots ++ [freshSlot entry])[otherIndex]? =
                  table.slots[otherIndex]? := by
              rw [List.getElem?_append]
              split
              · rfl
              · rename_i outside
                rw [List.getElem?_eq_none (by simp; omega),
                  List.getElem?_eq_none (by omega)]
            simp only [unchanged]

theorem reusedLease_reserves
    {table : RegistrationTable} {permit : ReusedPermit}
    (granted : table.reusedPermit = .ok permit) (entry : Entry) :
    table.Reserves (reusedLease table permit.slot entry)
      permit.id.id entry := by
  obtain ⟨slot, generation, _, found, vacant, notLast, shape,
    generationValue, decoded⟩ := reusedPermit_eq_ok granted
  have slotValue : permit.slot = slot := by rw [shape]
  have inside : table.freeHead.toNat < table.slots.length :=
    (List.getElem?_eq_some_iff.mp found).1
  have advanced : slot.generation ≠ generation.val := by
    intro same
    have different : slot.generation ≠ u32Max := notLast
    have size := u32_succ_toNat different
    rw [← generationValue, ← same] at size
    omega
  have updated :
      (table.slots.set table.freeHead.toNat
        (reusedSlot slot entry))[table.freeHead.toNat]? =
          some (reusedSlot slot entry) :=
    List.getElem?_set_self inside
  rw [slotValue]
  refine
    { absent := ?_
      holds :=
        { located :=
            ⟨⟨generation, decoded, generationValue.symm⟩, updated, rfl⟩
          index := rfl }
      lookup := ?_
      limit := rfl }
  · simp [RegistrationTable.lookup, decoded, found, advanced]
  · intro other
    by_cases equal : other = permit.id.id
    · subst equal
      simp only [RegistrationTable.lookup, reusedLease, decoded, updated]
      simp [reusedSlot, generationValue]
    · rw [if_neg equal]
      unfold RegistrationTable.lookup reusedLease
      cases otherDecoded : decode other with
      | error error => rfl
      | ok place =>
          rcases place with ⟨otherIndex, otherGeneration⟩
          by_cases sameIndex : otherIndex = table.freeHead.toNat
          · subst sameIndex
            have different :
                (reusedSlot slot entry).generation ≠
                  otherGeneration.val := by
              intro sameValue
              apply equal
              have generations : otherGeneration = generation :=
                Subtype.ext (by
                  rw [← sameValue, generationValue]
                  rfl)
              subst generations
              exact decode_injective otherDecoded decoded
            simp only [updated, found, if_neg different, vacant, ite_self]
          · simp [List.getElem?_set_ne (Ne.symm sameIndex)]

end RegistrationTable

end Zio
