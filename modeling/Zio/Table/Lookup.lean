import Zio.Table.Basic

/-!
# The table as a partial map of exact generations

`lookup` is the partial map from registration identities to live entries that
the slots represent.  Every checked or unchecked lookup path of the table is
expressed through it, and every settled update changes it at one identity.
-/

namespace Zio

/-- What a token that names a registered entry resolves to. -/
def Entry.observation (entry : Entry) (id : RegistrationId) :
    Observation :=
  { id
    descriptor := entry.descriptor.asRawFd
    key := entry.key
    mode := entry.mode }

/-- An entry that a delivery may disarm. -/
def Entry.Disarmable (entry : Entry) : Prop :=
  entry.mode = .oneShot ∧ entry.state = .registered .armed

namespace RegistrationTable

/-- The live entry of one exact generation. -/
def lookup (self : RegistrationTable) (id : RegistrationId) :
    Option Entry :=
  match decode id with
  | .error _ => none
  | .ok (index, generation) =>
      match self.slots[index]? with
      | none => none
      | some slot =>
          if slot.generation = generation.val then slot.entry else none

/-- Every live entry asks for at least one direction. -/
def Interested (table : RegistrationTable) : Prop :=
  ∀ id entry, table.lookup id = some entry →
    entry.interest.isEmpty = false

/-- The slot that holds the live entry of one exact generation. -/
structure Located
    (table : RegistrationTable) (id : RegistrationId)
    (index : Nat) (slot : Slot) (entry : Entry) : Prop where
  decoded :
    ∃ generation, decode id = .ok (index, generation) ∧
      slot.generation = generation.val
  found : table.slots[index]? = some slot
  occupied : slot.entry = some entry

theorem Located.index_lt
    {table : RegistrationTable} {id : RegistrationId}
    {index : Nat} {slot : Slot} {entry : Entry}
    (located : table.Located id index slot entry) :
    index < table.slots.length :=
  (List.getElem?_eq_some_iff.mp located.found).1

theorem entryMut_eq_ok_iff
    (table : RegistrationTable) (id : RegistrationId)
    (index : Nat) (slot : Slot) (entry : Entry) :
    table.entryMut id = .ok (index, slot, entry) ↔
      table.Located id index slot entry := by
  constructor
  · intro succeeded
    unfold entryMut at succeeded
    split at succeeded
    · cases succeeded
    · rename_i place generation decoded
      split at succeeded
      · cases succeeded
      · rename_i candidate found
        split at succeeded
        · cases succeeded
        · rename_i same
          split at succeeded
          · cases succeeded
          · rename_i present occupied
            cases succeeded
            exact ⟨⟨generation, decoded, not_not.mp same⟩, found, occupied⟩
  · rintro ⟨⟨generation, decoded, same⟩, found, occupied⟩
    simp [entryMut, decoded, found, same, occupied]

/-- A failed lookup always reports the identity as stale. -/
theorem entryMut_error
    {table : RegistrationTable} {id : RegistrationId} {error : Error}
    (failed : table.entryMut id = .error error) :
    error = .stale id := by
  unfold entryMut at failed
  split at failed
  · rename_i reason rejected
    cases failed
    exact decode_error rejected
  · split at failed
    · cases failed
      rfl
    · split at failed
      · cases failed
        rfl
      · split at failed
        · cases failed
          rfl
        · cases failed

theorem lookup_eq_some_iff
    (table : RegistrationTable) (id : RegistrationId) (entry : Entry) :
    table.lookup id = some entry ↔
      ∃ index slot, table.Located id index slot entry := by
  constructor
  · intro present
    unfold lookup at present
    split at present
    · cases present
    · rename_i index generation decoded
      split at present
      · cases present
      · rename_i slot found
        split at present
        · rename_i same
          exact ⟨index, slot, ⟨generation, decoded, same⟩, found, present⟩
        · cases present
  · rintro ⟨index, slot, ⟨generation, decoded, same⟩, found, occupied⟩
    simp [lookup, decoded, found, same, occupied]

theorem Located.lookup
    {table : RegistrationTable} {id : RegistrationId}
    {index : Nat} {slot : Slot} {entry : Entry}
    (located : table.Located id index slot entry) :
    table.lookup id = some entry :=
  (lookup_eq_some_iff table id entry).2 ⟨index, slot, located⟩

/-- The mutable lookup is the map, with a stale error where it is absent. -/
theorem entryMut_cases (table : RegistrationTable) (id : RegistrationId) :
    (∃ index slot entry,
        table.Located id index slot entry ∧
          table.entryMut id = .ok (index, slot, entry)) ∨
      (table.lookup id = none ∧
        table.entryMut id = .error (.stale id)) := by
  cases result : table.entryMut id with
  | ok place =>
      rcases place with ⟨index, slot, entry⟩
      exact Or.inl
        ⟨index, slot, entry,
          (entryMut_eq_ok_iff table id index slot entry).1 result, rfl⟩
  | error error =>
      have reason := entryMut_error result
      subst reason
      refine Or.inr ⟨?_, rfl⟩
      cases present : table.lookup id with
      | none => rfl
      | some entry =>
          obtain ⟨index, slot, located⟩ :=
            (lookup_eq_some_iff table id entry).1 present
          rw [(entryMut_eq_ok_iff table id index slot entry).2 located]
            at result
          cases result

/-- The shared lookup finds what the mutable lookup finds. -/
theorem entryWithIndex_eq_entryMut
    (table : RegistrationTable) (id : RegistrationId) :
    table.entryWithIndex id =
      (table.entryMut id).map fun place => (place.1, place.2.2) := by
  unfold entryWithIndex entryMut
  split
  · rfl
  · split
    · rfl
    · split
      · rfl
      · split <;> rfl

theorem entry_eq (table : RegistrationTable) (id : RegistrationId) :
    table.entry id = okOr (table.lookup id) (.stale id) := by
  unfold entry
  rw [entryWithIndex_eq_entryMut]
  rcases entryMut_cases table id with
    ⟨index, slot, entry, located, result⟩ | ⟨absent, result⟩
  · rw [result, located.lookup]
    rfl
  · rw [result, absent]
    rfl

theorem state_eq (table : RegistrationTable) (id : RegistrationId) :
    table.state id =
      (okOr (table.lookup id) (.stale id)).map Entry.state := by
  rw [state, entry_eq]

theorem binding_eq
    (table : RegistrationTable) (id : RegistrationId)
    (allowUncertain : Bool) :
    table.binding id allowUncertain =
      match table.lookup id with
      | none => .error (.stale id)
      | some entry =>
          if !allowUncertain && entry.state == .uncertain then
            .error (.uncertain id)
          else
            .ok entry.binding := by
  unfold binding
  rw [entry_eq]
  cases table.lookup id <;> rfl

theorem resolve_eq (table : RegistrationTable) (token : UInt64) :
    table.resolve token =
      match table.lookup ⟨token⟩ with
      | none => none
      | some entry =>
          match entry.state with
          | .registered _ => some (entry.observation ⟨token⟩)
          | .uncertain => none := by
  simp only [resolve, entry_eq]
  cases table.lookup ⟨token⟩ with
  | none => rfl
  | some entry =>
      cases registered : entry.state <;> simp [okOr, registered, Entry.observation]

theorem resolve_eq_some_iff
    (table : RegistrationTable) (token : UInt64)
    (observation : Observation) :
    table.resolve token = some observation ↔
      ∃ entry arm,
        table.lookup ⟨token⟩ = some entry ∧
          entry.state = .registered arm ∧
          observation = entry.observation ⟨token⟩ := by
  rw [resolve_eq]
  cases table.lookup ⟨token⟩ with
  | none => simp
  | some entry =>
      cases registered : entry.state with
      | uncertain => simp [registered]
      | registered arm =>
          simp only [registered, Option.some.injEq]
          constructor
          · intro found
            exact ⟨entry, arm, rfl, registered, found.symm⟩
          · rintro ⟨other, otherArm, same, _, rfl⟩
            cases same
            rfl

/-! ## One identity at a time -/

/-- Two located entries in one slot belong to one identity. -/
theorem Located.id_unique
    {table : RegistrationTable} {first second : RegistrationId}
    {index : Nat} {firstSlot secondSlot : Slot}
    {firstEntry secondEntry : Entry}
    (firstLocated : table.Located first index firstSlot firstEntry)
    (secondLocated : table.Located second index secondSlot secondEntry) :
    first = second := by
  obtain ⟨firstGeneration, firstDecoded, firstSame⟩ :=
    firstLocated.decoded
  obtain ⟨secondGeneration, secondDecoded, secondSame⟩ :=
    secondLocated.decoded
  have sameSlot : firstSlot = secondSlot := by
    have found := firstLocated.found
    rw [secondLocated.found] at found
    exact (Option.some.inj found).symm
  have sameGeneration : firstGeneration = secondGeneration := by
    apply Subtype.ext
    rw [← firstSame, ← secondSame, sameSlot]
  subst sameGeneration
  exact decode_injective firstDecoded secondDecoded

/-- Replacing the slot of a located identity, at the same generation, changes
the map at that identity only. -/
theorem lookup_set_same_generation
    {table : RegistrationTable} {id : RegistrationId}
    {index : Nat} {slot : Slot} {entry : Entry}
    (located : table.Located id index slot entry)
    (replacement : Slot)
    (sameGeneration : replacement.generation = slot.generation)
    {freeHead : UInt32} {exhausted : Nat} (other : RegistrationId) :
    ({ table with
        slots := table.slots.set index replacement
        freeHead, exhausted } : RegistrationTable).lookup other =
      if other = id then replacement.entry else table.lookup other := by
  obtain ⟨generation, decoded, same⟩ := located.decoded
  have inside := located.index_lt
  by_cases equal : other = id
  · subst equal
    simp [lookup, decoded, inside, sameGeneration, same]
  · rw [if_neg equal]
    unfold lookup
    cases otherDecoded : decode other with
    | error error => rfl
    | ok place =>
        rcases place with ⟨otherIndex, otherGeneration⟩
        by_cases sameIndex : otherIndex = index
        · subst sameIndex
          have different : slot.generation ≠ otherGeneration.val := by
            intro sameValue
            apply equal
            have generations : otherGeneration = generation :=
              Subtype.ext (by rw [← sameValue, same])
            subst generations
            exact decode_injective otherDecoded decoded
          have updated :
              (table.slots.set otherIndex replacement)[otherIndex]? =
                some replacement :=
            List.getElem?_set_self inside
          simp only [updated, located.found, sameGeneration,
            if_neg different]
        · simp [List.getElem?_set_ne (Ne.symm sameIndex)]

theorem lookup_writeEntry
    {table : RegistrationTable} {id : RegistrationId}
    {index : Nat} {slot : Slot} {entry : Entry}
    (located : table.Located id index slot entry)
    (written : Entry) (other : RegistrationId) :
    (table.writeEntry index slot written).lookup other =
      if other = id then some written else table.lookup other :=
  lookup_set_same_generation located
    { slot with entry := some written } rfl other

/-! ## Updates of one live entry -/

/-- What a committed modification writes. -/
def modifiedEntry (interest : Interest) (mode : Mode) (entry : Entry) :
    Entry :=
  { entry with interest, mode, state := .registered .armed }

/-- What an unprovable mutation writes. -/
def uncertainEntry (entry : Entry) : Entry :=
  { entry with state := .uncertain }

/-- What a settled disarm writes. -/
def disarmedEntry (commit : CommitStatus) (entry : Entry) : Entry :=
  { entry with state := disarmedState commit entry.state }

theorem commitModify_cases
    (table : RegistrationTable) (id : RegistrationId)
    (interest : Interest) (mode : Mode) :
    (∃ index slot entry,
        table.Located id index slot entry ∧
          table.commitModify id interest mode =
            (table.writeEntry index slot
              (modifiedEntry interest mode entry), .ok ())) ∨
      (table.lookup id = none ∧
        table.commitModify id interest mode =
          (table, .error (.stale id))) := by
  unfold commitModify
  rcases entryMut_cases table id with
    ⟨index, slot, entry, located, result⟩ | ⟨absent, result⟩
  · rw [result]
    exact Or.inl ⟨index, slot, entry, located, rfl⟩
  · rw [result]
    exact Or.inr ⟨absent, rfl⟩

theorem markUncertain_cases
    (table : RegistrationTable) (id : RegistrationId) :
    (∃ index slot entry,
        table.Located id index slot entry ∧
          table.markUncertain id =
            (table.writeEntry index slot (uncertainEntry entry),
              .ok ())) ∨
      (table.lookup id = none ∧
        table.markUncertain id = (table, .error (.stale id))) := by
  unfold markUncertain
  rcases entryMut_cases table id with
    ⟨index, slot, entry, located, result⟩ | ⟨absent, result⟩
  · rw [result]
    exact Or.inl ⟨index, slot, entry, located, rfl⟩
  · rw [result]
    exact Or.inr ⟨absent, rfl⟩

theorem applyDisarm_cases
    (table : RegistrationTable) (id : RegistrationId)
    (commit : CommitStatus) :
    (∃ index slot entry,
        table.Located id index slot entry ∧ entry.Disarmable ∧
          table.applyDisarm id commit =
            (table.writeEntry index slot (disarmedEntry commit entry),
              .ok (disarmedState commit entry.state))) ∨
      (∃ entry,
        table.lookup id = some entry ∧ ¬ entry.Disarmable ∧
          table.applyDisarm id commit = (table, .error .invariant)) ∨
      (table.lookup id = none ∧
        table.applyDisarm id commit = (table, .error (.stale id))) := by
  unfold applyDisarm
  rcases entryMut_cases table id with
    ⟨index, slot, entry, located, result⟩ | ⟨absent, result⟩
  · rw [result]
    by_cases ready : entry.Disarmable
    · refine Or.inl ⟨index, slot, entry, located, ready, ?_⟩
      simp [ready.1, ready.2, disarmedEntry]
    · refine Or.inr (Or.inl ⟨entry, located.lookup, ready, ?_⟩)
      have blocked :
          entry.mode ≠ .oneShot ∨ entry.state ≠ .registered .armed := by
        unfold Entry.Disarmable at ready
        tauto
      simp [blocked]
  · rw [result]
    exact Or.inr (Or.inr ⟨absent, rfl⟩)

/-- The zero token is reserved. -/
theorem lookup_nonzero
    {table : RegistrationTable} {id : RegistrationId} {entry : Entry}
    (present : table.lookup id = some entry) : id.raw ≠ 0 := by
  intro zero
  have reserved : id = ⟨0⟩ := by
    rcases id with ⟨raw⟩
    exact congrArg RegistrationId.mk zero
  have absent : table.lookup ⟨0⟩ = none := rfl
  rw [reserved, absent] at present
  cases present

end RegistrationTable

end Zio
