import Zio.Library.Indices
import Zio.Table.Run

/-!
# Admission of new registrations

A well-formed table admits a reservation exactly when its live entries and its
used-up slots leave room under the limit.  The number of live entries is the
number of identities that the map holds.
-/

namespace Zio

namespace RegistrationTable

/-- Whether a slot is occupied. -/
def occupied (slot : Slot) : Bool := slot.entry.isSome

/-- The number of live entries. -/
def live (table : RegistrationTable) : Nat := table.slots.countP occupied

private def reusableSlot (slot : Slot) : Bool :=
  slot.entry.isNone && slot.generation != maxGeneration

private theorem slots_partition (slots : List Slot) :
    slots.countP occupied + slots.countP spent +
        slots.countP reusableSlot =
      slots.length := by
  induction slots with
  | nil => rfl
  | cons slot rest inductionHypothesis =>
      simp only [List.countP_cons, List.length_cons]
      cases present : slot.entry with
      | some entry =>
          simp [occupied, spent, reusableSlot, present]
          omega
      | none =>
          by_cases last : slot.generation = maxGeneration
          · simp [occupied, spent, reusableSlot, present, last]
            omega
          · simp [occupied, spent, reusableSlot, present, last]
            omega

theorem WellFormed.live_add_exhausted_le
    {table : RegistrationTable} (wellFormed : table.WellFormed) :
    table.live + table.exhausted ≤ table.slots.length := by
  have partition := slots_partition table.slots
  rw [wellFormed.exhausted]
  unfold live
  omega

/-- Without a reusable slot every opened slot is live or used up. -/
theorem WellFormed.live_add_exhausted
    {table : RegistrationTable} (wellFormed : table.WellFormed)
    (nothing : table.hasReusableSlot = false) :
    table.live + table.exhausted = table.slots.length := by
  obtain ⟨path, visits, members⟩ := wellFormed.freeList
  have atEnd : table.freeHead = freeEnd := by
    simpa [hasReusableSlot] using nothing
  have noneLeft : table.slots.countP reusableSlot = 0 := by
    rw [List.countP_eq_zero]
    intro slot member reusable
    obtain ⟨index, inside, value⟩ := List.mem_iff_getElem.mp member
    have small := wellFormed.index_lt inside
    rw [u32Max_toNat] at small
    have cell : (UInt32.ofNat index).toNat = index := by
      rw [UInt32.toNat_ofNat']
      omega
    have onPath : UInt32.ofNat index ∈ path := by
      refine (members _).2 ⟨slot, ?_, ?_, ?_⟩
      · rw [cell]
        exact List.getElem?_eq_some_iff.mpr ⟨inside, value⟩
      · cases present : slot.entry with
        | none => rfl
        | some entry => simp [reusableSlot, present] at reusable
      · rw [lt_maxGeneration_iff]
        intro last
        simp [reusableSlot, last] at reusable
    have emptyPath : path = [] := visits.unique atEnd
    rw [emptyPath] at onPath
    cases onPath
  have partition := slots_partition table.slots
  rw [wellFormed.exhausted]
  unfold live
  omega

/-- A reusable slot leaves room under the limit. -/
theorem WellFormed.live_add_exhausted_lt
    {table : RegistrationTable} (wellFormed : table.WellFormed)
    (reusable : table.hasReusableSlot = true) :
    table.live + table.exhausted < table.slots.length := by
  obtain ⟨permit, granted⟩ := wellFormed.reusedPermit_ok reusable
  obtain ⟨slot, _, _, found, vacant, notLast, _, _, _⟩ :=
    reusedPermit_eq_ok granted
  have positive : 0 < table.slots.countP reusableSlot := by
    refine List.countP_pos_iff.mpr
      ⟨slot, List.mem_of_getElem? found, ?_⟩
    simp [reusableSlot, vacant, notLast]
  have partition := slots_partition table.slots
  rw [wellFormed.exhausted]
  unfold live
  omega

/-- The admitting path is granted exactly when there is room. -/
theorem WellFormed.admission
    {table : RegistrationTable} (wellFormed : table.WellFormed) :
    if table.live + table.exhausted < table.limit.val then
      if table.hasReusableSlot then
        ∃ permit, table.reusedPermit = .ok permit
      else
        ∃ permit, table.freshPermit = .ok permit
    else
      table.hasReusableSlot = false ∧
        table.live + table.exhausted = table.limit.val ∧
        table.freshPermit =
          .error
            (if table.exhausted = table.limit.val then
              .registrationSpaceExhausted
            else .capacity table.limit.val) := by
  have within := wellFormed.withinLimit
  cases reusable : table.hasReusableSlot with
  | true =>
      have room := wellFormed.live_add_exhausted_lt reusable
      rw [if_pos (by omega)]
      simpa using wellFormed.reusedPermit_ok reusable
  | false =>
      have total := wellFormed.live_add_exhausted reusable
      split
      · rename_i room
        simpa using wellFormed.freshPermit_ok reusable (by omega)
      · rename_i full
        exact ⟨rfl, by omega, freshPermit_full reusable (by omega)⟩

/-! ## Live identities -/

/-- The identity of the current generation of a slot. -/
def idAt (index : Nat) (slot : Slot) : RegistrationId :=
  packToken (UInt32.ofNat (index + 1)) slot.generation

/-- Every occupied slot is the place of one live identity. -/
theorem WellFormed.located_idAt
    {table : RegistrationTable} (wellFormed : table.WellFormed)
    {index : Nat} {slot : Slot} {entry : Entry}
    (found : table.slots[index]? = some slot)
    (present : slot.entry = some entry) :
    table.Located (idAt index slot) index slot entry := by
  have inside := (List.getElem?_eq_some_iff.mp found).1
  have small := wellFormed.index_lt inside
  rw [u32Max_toNat] at small
  have nonzero : slot.generation ≠ 0 := by
    intro zero
    have positive :=
      wellFormed.generations slot (List.mem_of_getElem? found)
    rw [zero] at positive
    exact absurd positive (by decide)
  refine ⟨⟨⟨slot.generation, nonzero⟩, ?_, rfl⟩, found, present⟩
  rw [decode_ok_iff]
  simp only [idAt, packToken_slotHalf, packToken_generationHalf, and_true]
  rw [UInt32.toNat_ofNat']
  omega

/-- The live entries are as many as the identities in the map. -/
theorem WellFormed.ncard_lookup
    {table : RegistrationTable} (wellFormed : table.WellFormed) :
    { id | table.lookup id ≠ none }.ncard = table.live := by
  rw [live, ← Indices.ncard_passing]
  symm
  refine Set.ncard_congr
    (fun index member => idAt index (member.choose)) ?_ ?_ ?_
  · intro index member
    obtain ⟨found, busy⟩ := member.choose_spec
    obtain ⟨entry, present⟩ := Option.isSome_iff_exists.mp busy
    have located := wellFormed.located_idAt found present
    simp [located.lookup]
  · intro first second firstMember secondMember same
    obtain ⟨firstFound, firstBusy⟩ := firstMember.choose_spec
    obtain ⟨secondFound, secondBusy⟩ := secondMember.choose_spec
    obtain ⟨firstEntry, firstPresent⟩ :=
      Option.isSome_iff_exists.mp firstBusy
    obtain ⟨secondEntry, secondPresent⟩ :=
      Option.isSome_iff_exists.mp secondBusy
    obtain ⟨_, firstDecoded, _⟩ :=
      (wellFormed.located_idAt firstFound firstPresent).decoded
    obtain ⟨_, secondDecoded, _⟩ :=
      (wellFormed.located_idAt secondFound secondPresent).decoded
    rw [same, secondDecoded] at firstDecoded
    cases firstDecoded
    rfl
  · intro id present
    obtain ⟨entry, held⟩ := Option.ne_none_iff_exists'.mp present
    obtain ⟨index, slot, located⟩ :=
      (lookup_eq_some_iff table id entry).1 held
    have member : index ∈ Indices.passing table.slots occupied :=
      ⟨slot, located.found, by simp [occupied, located.occupied]⟩
    refine ⟨index, member, ?_⟩
    obtain ⟨found, busy⟩ := member.choose_spec
    have same : member.choose = slot :=
      Option.some.inj (found.symm.trans located.found)
    rw [same]
    exact (wellFormed.located_idAt located.found located.occupied).id_unique
      located

end RegistrationTable

end Zio
