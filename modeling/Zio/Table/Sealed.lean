import Zio.Table.Run

/-!
# Sealed handles

Deletion looks its entry up through the unchecked projection of a sealed
handle, and every other operation through the checked decoding of its token.
Both find the same slot of every table: the bias, the zero halves and the last
index line up.
-/

namespace Zio

namespace RegistrationTable

/-- The lease of an entry that the checked lookup found. -/
def sealedLease
    (self : RegistrationTable) (encoded : EncodedRegistrationId)
    (allowUncertain : Bool) :
    Nat × Slot × Entry → Except Error SlotLease
  | (slotIndex, slot, entry) =>
      if !allowUncertain && entry.state == .uncertain then
        .error (.uncertain encoded.id)
      else
        .ok
          { table := self, slotIndex, slot, freeIndex := encoded.parts.1 }

/-- The unchecked lookup leases what the checked lookup finds. -/
theorem prepareRegistrationRetire_eq
    (table : RegistrationTable) (encoded : EncodedRegistrationId)
    (allowUncertain : Bool) :
    table.prepareRegistrationRetire encoded allowUncertain =
      (table.entryMut encoded.id).bind
        (table.sealedLease encoded allowUncertain) := by
  have decoded := decode_encoded encoded
  unfold prepareRegistrationRetire entryMut
  simp only [prepareRetireAt, decoded]
  cases found : table.slots[encoded.parts.1.toNat]? with
  | none => rfl
  | some slot =>
      by_cases same : slot.generation = encoded.parts.2
      · cases occupied : slot.entry with
        | none => simp [same, Except.bind, occupied]
        | some entry => simp [same, Except.bind, sealedLease, occupied]
      · simp [same, Except.bind]

/-- What the sealed lookup answers for each answer of the checked one. -/
theorem prepareRegistrationRetire_agrees
    (table : RegistrationTable) (encoded : EncodedRegistrationId)
    (allowUncertain : Bool) :
    (∀ lease,
      table.prepareRegistrationRetire encoded allowUncertain = .ok lease →
        ∃ entry,
          table.entryMut encoded.id =
              .ok (lease.slotIndex, lease.slot, entry) ∧
            table.entryWithIndex encoded.id =
              .ok (lease.slotIndex, entry)) ∧
    (∀ index slot entry,
      table.entryMut encoded.id = .ok (index, slot, entry) →
        table.prepareRegistrationRetire encoded allowUncertain =
          if allowUncertain = false ∧ entry.state = .uncertain then
            .error (.uncertain encoded.id)
          else
            .ok
              { table, slotIndex := index, slot
                freeIndex := encoded.parts.1 }) ∧
    (table.prepareRegistrationRetire encoded allowUncertain =
        .error (.stale encoded.id) ↔
      table.entryMut encoded.id = .error (.stale encoded.id)) ∧
    (table.entryMut encoded.id = .error (.stale encoded.id) ↔
      table.entryWithIndex encoded.id = .error (.stale encoded.id)) := by
  rw [prepareRegistrationRetire_eq, entryWithIndex_eq_entryMut]
  rcases entryMut_cases table encoded.id with
    ⟨index, slot, entry, _, present⟩ | ⟨_, absent⟩
  · have leased :
        (table.entryMut encoded.id).bind
            (table.sealedLease encoded allowUncertain) =
          if allowUncertain = false ∧ entry.state = .uncertain then
            .error (.uncertain encoded.id)
          else
            .ok
              { table, slotIndex := index, slot
                freeIndex := encoded.parts.1 } := by
      rw [present]
      simp [Except.bind, sealedLease]
    rw [leased]
    refine ⟨fun lease prepared => ?_, fun place found other same => ?_,
      ?_, ?_⟩
    · split at prepared
      · cases prepared
      · cases prepared
        exact ⟨entry, present, by rw [present]; rfl⟩
    · rw [present] at same
      cases same
      rfl
    · rw [present]
      split
      · simp
      · simp
    · rw [present]
      simp [Except.map]
  · rw [absent]
    refine ⟨fun lease prepared => ?_, fun place found other same => ?_,
      ?_, ?_⟩
    · cases prepared
    · cases same
    · simp [Except.bind]
    · simp [Except.map]

/-- Token coding is a bijection, and in every table the sealed lookup of a
minted handle agrees with the checked one. -/
theorem tokens_coded :
    (∀ index generation,
      encode index generation = none ↔ index = u32Max) ∧
    (∀ index generation encoded,
      encode index generation = some encoded →
        decode encoded.id = .ok (index.toNat, generation) ∧
          encoded.parts = (index, generation.val) ∧
          encoded.id.raw ≠ 0) ∧
    (∀ id : RegistrationId,
      (∃ place, decode id = .ok place) ↔
        id.slotHalf ≠ 0 ∧ id.generationHalf ≠ 0) ∧
    (∀ id index generation,
      decode id = .ok (index, generation) →
        ∃ narrow encoded,
          u32OfUsize index = some narrow ∧
            encode narrow generation = some encoded ∧ encoded.id = id) ∧
    (∀ first second firstGeneration secondGeneration encoded,
      encode first firstGeneration = some encoded →
        encode second secondGeneration = some encoded →
          first = second ∧ firstGeneration = secondGeneration) ∧
    ∀ (table : RegistrationTable) (encoded : EncodedRegistrationId)
        (allowUncertain : Bool),
      (∀ lease,
        table.prepareRegistrationRetire encoded allowUncertain =
            .ok lease →
          ∃ entry,
            table.entryMut encoded.id =
                .ok (lease.slotIndex, lease.slot, entry) ∧
              table.entryWithIndex encoded.id =
                .ok (lease.slotIndex, entry)) ∧
      (∀ index slot entry,
        table.entryMut encoded.id = .ok (index, slot, entry) →
          table.prepareRegistrationRetire encoded allowUncertain =
            if allowUncertain = false ∧ entry.state = .uncertain then
              .error (.uncertain encoded.id)
            else
              .ok
                { table, slotIndex := index, slot
                  freeIndex := encoded.parts.1 }) ∧
      (table.prepareRegistrationRetire encoded allowUncertain =
          .error (.stale encoded.id) ↔
        table.entryMut encoded.id = .error (.stale encoded.id)) ∧
      (table.entryMut encoded.id = .error (.stale encoded.id) ↔
        table.entryWithIndex encoded.id =
          .error (.stale encoded.id)) := by
  refine ⟨encode_eq_none_iff, fun index generation encoded packed => ?_,
    decode_isOk_iff, fun id index generation => encode_decode,
    fun first second firstGeneration secondGeneration encoded =>
      encode_injective, prepareRegistrationRetire_agrees⟩
  exact ⟨decode_encode packed, parts_encode packed,
    encoded_ne_zero encoded⟩

/-- The handle of a filled slot, and of the same slot once retired. -/
theorem oneSlot_coded :
    decode oneSlotId.id = .ok (0, ⟨1, by decide⟩) ∧
      (oneSlotRetired.prepareRegistrationRetire oneSlotId true =
          .error (.stale oneSlotId.id) ↔
        oneSlotRetired.entryMut oneSlotId.id =
          .error (.stale oneSlotId.id)) := by
  obtain ⟨_, coded, _, _, _, agrees⟩ := tokens_coded
  have packed : encode 0 ⟨1, by decide⟩ = some oneSlotId := by rfl
  exact ⟨(coded 0 ⟨1, by decide⟩ oneSlotId packed).1,
    (agrees oneSlotRetired oneSlotId true).2.2.1⟩

end RegistrationTable

end Zio
