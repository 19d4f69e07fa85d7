import Mathlib.Data.List.Count
import Zio.Library.Grouping
import Zio.Token

/-!
# Sparse-slot coalescing of split kqueue observations

`KqueuePending` merges the read and write observations of one registration
through an index by slot.  Its index invariant says that the index and the
entries name each other; under it `add` absorbs one observation into the
bounded groups and `clear` restores the fresh structure.
-/

namespace Zio

/-- `EMPTY`. -/
def pendingEmpty : UInt32 := u32Max

/-- One logical resource observation. -/
structure PendingResource where
  registration : RegistrationId
  key : Key
  readiness : Readiness
deriving DecidableEq, Repr

/-- The registration and its hints, without the key. -/
def PendingResource.group (entry : PendingResource) :
    RegistrationId × Readiness :=
  (entry.registration, entry.readiness)

structure KqueuePending where
  capacity : NonZeroUsize
  entries : List PendingResource
  bySlot : List UInt32
deriving DecidableEq, Repr

namespace KqueuePending

/-- Fixed aggregation storage.  The booleans are the allocator's answers. -/
def new (capacity registrations : NonZeroUsize)
    (entriesAllocated slotsAllocated : Bool) : Except Error KqueuePending :=
  if !entriesAllocated then
    .error (.capacity capacity.val)
  else if !slotsAllocated then
    .error (.capacity registrations.val)
  else
    .ok
      { capacity
        entries := []
        bySlot := List.replicate registrations.val pendingEmpty }

/-- The loop of `clear`: reset the index of every entry, or report that the
index does not name the entries. -/
def clearFrom : Nat → List PendingResource → List UInt32 →
    Option (List UInt32)
  | _, [], bySlot => some bySlot
  | entryIndex, pending :: rest, bySlot =>
      match decode pending.registration with
      | .error _ => none
      | .ok (slot, _) =>
          match bySlot[slot]? with
          | none => none
          | some index =>
              if index.toNat ≠ entryIndex then none
              else
                clearFrom (entryIndex + 1) rest
                  (bySlot.set slot pendingEmpty)

def clear (self : KqueuePending) : KqueuePending :=
  match clearFrom 0 self.entries self.bySlot with
  | some bySlot => { self with entries := [], bySlot }
  | none =>
      { self with
        entries := []
        bySlot := self.bySlot.map fun _ => pendingEmpty }

def add
    (self : KqueuePending) (registration : RegistrationId) (key : Key)
    (readiness : Readiness) : KqueuePending × Except Error Unit :=
  match decode registration with
  | .error error => (self, .error error)
  | .ok (slot, _) =>
      match self.bySlot[slot]? with
      | none => (self, .error .invariant)
      | some index =>
          if index ≠ pendingEmpty then
            match self.entries[index.toNat]? with
            | none => (self, .error .invariant)
            | some entry =>
                if entry.registration ≠ registration then
                  (self, .error .invariant)
                else
                  ({ self with
                      entries :=
                        self.entries.set index.toNat
                          { entry with
                            readiness :=
                              entry.readiness.union readiness } },
                    .ok ())
          else if self.entries.length ≥ self.capacity.val then
            (self, .ok ())
          else
            match u32OfUsize self.entries.length with
            | none => (self, .error .invariant)
            | some retainedIndex =>
                ({ self with
                    entries :=
                      self.entries ++ [{ registration, key, readiness }]
                    bySlot := self.bySlot.set slot retainedIndex },
                  .ok ())

/-! ## The index invariant -/

/-- The index and the entries name each other. -/
structure Indexed (pending : KqueuePending) : Prop where
  addressable : pending.bySlot.length ≤ maxRegistrations
  counted :
    pending.entries.length =
      pending.bySlot.countP fun index => index ≠ pendingEmpty
  placed : ∀ (position : Nat) entry,
    pending.entries[position]? = some entry →
      ∃ slot generation,
        decode entry.registration = .ok (slot, generation) ∧
          pending.bySlot[slot]? = some (UInt32.ofNat position)
  listed : ∀ (slot : Nat) index,
    pending.bySlot[slot]? = some index → index ≠ pendingEmpty →
      ∃ entry generation,
        pending.entries[index.toNat]? = some entry ∧
          decode entry.registration = .ok (slot, generation)

theorem Indexed.length_le
    {pending : KqueuePending} (indexed : pending.Indexed) :
    pending.entries.length ≤ pending.bySlot.length := by
  rw [indexed.counted]
  exact List.countP_le_length

/-- The index cell of an entry's slot holds the entry's position, which is
never the empty mark. -/
theorem Indexed.index_of_entry
    {pending : KqueuePending} (indexed : pending.Indexed)
    {position slot : Nat} {entry : PendingResource}
    {generation : NonZeroU32}
    (found : pending.entries[position]? = some entry)
    (decoded : decode entry.registration = .ok (slot, generation)) :
    pending.bySlot[slot]? = some (UInt32.ofNat position) ∧
      (UInt32.ofNat position).toNat = position ∧
      UInt32.ofNat position ≠ pendingEmpty := by
  obtain ⟨entrySlot, entryGeneration, entryDecoded, index⟩ :=
    indexed.placed position entry found
  rw [decoded] at entryDecoded
  cases entryDecoded
  have inside := (List.getElem?_eq_some_iff.mp found).1
  have bounded := indexed.length_le
  have addressable := indexed.addressable
  unfold maxRegistrations at addressable
  have size : (UInt32.ofNat position).toNat = position := by
    rw [UInt32.toNat_ofNat']
    omega
  refine ⟨index, size, fun empty => ?_⟩
  have last : pendingEmpty.toNat = 2 ^ 32 - 1 := u32Max_toNat
  rw [empty, last] at size
  omega

/-- Two entries of one slot are one entry. -/
theorem Indexed.sole
    {pending : KqueuePending} (indexed : pending.Indexed)
    {first second slot : Nat} {left right : PendingResource}
    {leftGeneration rightGeneration : NonZeroU32}
    (leftFound : pending.entries[first]? = some left)
    (rightFound : pending.entries[second]? = some right)
    (leftDecoded :
      decode left.registration = .ok (slot, leftGeneration))
    (rightDecoded :
      decode right.registration = .ok (slot, rightGeneration)) :
    first = second := by
  obtain ⟨leftIndex, leftSize, _⟩ :=
    indexed.index_of_entry leftFound leftDecoded
  obtain ⟨rightIndex, rightSize, _⟩ :=
    indexed.index_of_entry rightFound rightDecoded
  rw [leftIndex, Option.some.injEq] at rightIndex
  rw [← leftSize, ← rightSize, rightIndex]

/-- Storage without entries and with an empty index. -/
def Fresh (pending : KqueuePending) : Prop :=
  pending.entries = [] ∧
    pending.bySlot = List.replicate pending.bySlot.length pendingEmpty

theorem Fresh.indexed
    {pending : KqueuePending} (fresh : pending.Fresh)
    (addressable : pending.bySlot.length ≤ maxRegistrations) :
    pending.Indexed := by
  obtain ⟨noEntries, noIndex⟩ := fresh
  refine
    { addressable
      counted := ?_
      placed := ?_
      listed := ?_ }
  · rw [noEntries, noIndex, List.countP_replicate]
    simp
  · intro position entry found
    rw [noEntries] at found
    simp at found
  · intro slot index found present
    rw [noIndex, List.getElem?_replicate] at found
    split at found
    · cases found
      exact (present rfl).elim
    · cases found

/-! ## Clearing -/

theorem clearFrom_eq
    {entries : List PendingResource} {bySlot cleared : List UInt32}
    {entryIndex : Nat}
    (named : ∀ (slot : Nat) index,
      bySlot[slot]? = some index → index ≠ pendingEmpty →
        ∃ position entry generation,
          entries[position]? = some entry ∧
            index.toNat = entryIndex + position ∧
            decode entry.registration = .ok (slot, generation))
    (result : clearFrom entryIndex entries bySlot = some cleared) :
    cleared = List.replicate bySlot.length pendingEmpty := by
  induction entries generalizing bySlot entryIndex with
  | nil =>
      cases result
      refine List.eq_replicate_iff.mpr ⟨rfl, ?_⟩
      intro index member
      by_contra present
      obtain ⟨slot, found⟩ := List.mem_iff_getElem?.mp member
      obtain ⟨_, _, _, impossible, _⟩ := named slot index found present
      simp at impossible
  | cons pending rest inductionHypothesis =>
      unfold clearFrom at result
      split at result
      · cases result
      · rename_i slot generation decoded
        split at result
        · cases result
        · rename_i index found
          split at result
          · cases result
          · have inside := (List.getElem?_eq_some_iff.mp found).1
            rw [inductionHypothesis ?_ result, List.length_set]
            intro other value otherFound present
            by_cases same : other = slot
            · subst same
              rw [List.getElem?_set_self inside] at otherFound
              cases otherFound
              exact (present rfl).elim
            · rw [List.getElem?_set_ne (Ne.symm same)] at otherFound
              obtain ⟨position, entry, otherGeneration, entryFound,
                valueIndex, entryDecoded⟩ :=
                  named other value otherFound present
              cases position with
              | zero =>
                  simp only [List.getElem?_cons_zero,
                    Option.some.injEq] at entryFound
                  subst entryFound
                  rw [decoded] at entryDecoded
                  cases entryDecoded
                  exact (same rfl).elim
              | succ earlier =>
                  refine ⟨earlier, entry, otherGeneration, ?_, by omega,
                    entryDecoded⟩
                  simpa using entryFound

/-- Clearing restores the fresh structure. -/
theorem Indexed.clear_eq
    {pending : KqueuePending} (indexed : pending.Indexed) :
    pending.clear =
      { pending with
        entries := []
        bySlot :=
          List.replicate pending.bySlot.length pendingEmpty } := by
  unfold clear
  split
  · rename_i cleared result
    rw [clearFrom_eq ?_ result]
    intro slot index found present
    obtain ⟨entry, generation, entryFound, decoded⟩ :=
      indexed.listed slot index found present
    exact ⟨index.toNat, entry, generation, entryFound, by omega, decoded⟩
  · simp

/-! ## Absorbing one observation -/

def groups (pending : KqueuePending) : List (RegistrationId × Readiness) :=
  pending.entries.map PendingResource.group

theorem Indexed.position_unique
    {pending : KqueuePending} (indexed : pending.Indexed)
    {first second : Nat} {firstEntry secondEntry : PendingResource}
    (firstFound : pending.entries[first]? = some firstEntry)
    (secondFound : pending.entries[second]? = some secondEntry)
    (same : firstEntry.registration = secondEntry.registration) :
    first = second := by
  obtain ⟨slot, generation, decoded, _⟩ :=
    indexed.placed first firstEntry firstFound
  have other := decoded
  rw [same] at other
  exact indexed.sole firstFound secondFound decoded other

/-- Updating the entry of a registration in place joins its group. -/
theorem Indexed.set_groups
    {pending : KqueuePending} (indexed : pending.Indexed)
    {position : Nat} {entry : PendingResource}
    (found : pending.entries[position]? = some entry)
    (readiness : Readiness) :
    (pending.entries.set position
        { entry with
          readiness := entry.readiness.union readiness }).map
        PendingResource.group =
      pending.groups.map fun group =>
        if group.1 = entry.registration then
          (group.1, group.2.union readiness)
        else group := by
  apply List.ext_getElem?
  intro other
  unfold groups
  rw [List.getElem?_map, List.getElem?_map, List.getElem?_map]
  by_cases same : other = position
  · subst same
    have inside := (List.getElem?_eq_some_iff.mp found).1
    rw [List.getElem?_set_self inside, found]
    simp [PendingResource.group]
  · rw [List.getElem?_set_ne (Ne.symm same)]
    cases otherFound : pending.entries[other]? with
    | none => rfl
    | some candidate =>
        have different :
            candidate.registration ≠ entry.registration := fun equal =>
          same (indexed.position_unique otherFound found equal)
        simp [PendingResource.group, different]

/-- What `add` leaves behind when it succeeds. -/
structure Absorbed
    (before : KqueuePending) (registration : RegistrationId)
    (key : Key) (readiness : Readiness) (after : KqueuePending) :
    Prop where
  indexed : after.Indexed
  groups :
    after.groups =
      Grouping.absorb Readiness.union before.capacity.val before.groups
        (registration, readiness)
  keys : ∀ entry ∈ after.entries,
    (∃ earlier ∈ before.entries,
        entry.registration = earlier.registration ∧
          entry.key = earlier.key) ∨
      (entry.registration = registration ∧ entry.key = key)
  capacity : after.capacity = before.capacity
  slots : after.bySlot.length = before.bySlot.length

theorem Indexed.absorbed_join
    {pending : KqueuePending} (indexed : pending.Indexed)
    {position : Nat} {entry : PendingResource}
    (found : pending.entries[position]? = some entry)
    (key : Key) (readiness : Readiness) :
    Absorbed pending entry.registration key readiness
      { pending with
        entries :=
          pending.entries.set position
            { entry with
              readiness := entry.readiness.union readiness } } := by
  have inside := (List.getElem?_eq_some_iff.mp found).1
  have lookup : ∀ (other : Nat) candidate,
      (pending.entries.set position
        { entry with
          readiness := entry.readiness.union readiness })[other]? =
          some candidate →
        ∃ earlier, pending.entries[other]? = some earlier ∧
          candidate.registration = earlier.registration ∧
          candidate.key = earlier.key := by
    intro other candidate candidateFound
    by_cases same : other = position
    · subst same
      rw [List.getElem?_set_self inside] at candidateFound
      cases candidateFound
      exact ⟨entry, found, rfl, rfl⟩
    · rw [List.getElem?_set_ne (Ne.symm same)] at candidateFound
      exact ⟨candidate, candidateFound, rfl, rfl⟩
  refine
    { indexed :=
        { addressable := indexed.addressable
          counted := ?_
          placed := ?_
          listed := ?_ }
      groups := ?_
      keys := ?_
      capacity := rfl
      slots := rfl }
  · simp only [List.length_set]
    exact indexed.counted
  · intro other candidate candidateFound
    obtain ⟨earlier, earlierFound, sameRegistration, _⟩ :=
      lookup other candidate candidateFound
    rw [sameRegistration]
    exact indexed.placed other earlier earlierFound
  · intro slot index listed present
    obtain ⟨earlier, generation, earlierFound, decoded⟩ :=
      indexed.listed slot index listed present
    by_cases same : index.toNat = position
    · rw [same] at earlierFound ⊢
      rw [found] at earlierFound
      cases earlierFound
      refine ⟨_, generation, List.getElem?_set_self inside, decoded⟩
    · exact ⟨earlier, generation,
        by rw [List.getElem?_set_ne (Ne.symm same)]; exact earlierFound,
        decoded⟩
  · have grouped :
        entry.registration ∈ pending.groups.map Prod.fst := by
      simp only [KqueuePending.groups, List.map_map, List.mem_map]
      exact ⟨entry, List.mem_of_getElem? found, rfl⟩
    rw [Grouping.absorb, if_pos grouped]
    exact indexed.set_groups found readiness
  · intro candidate member
    obtain ⟨other, otherFound⟩ := List.mem_iff_getElem?.mp member
    obtain ⟨earlier, earlierFound, sameRegistration, sameKey⟩ :=
      lookup other candidate otherFound
    exact Or.inl ⟨earlier, List.mem_of_getElem? earlierFound,
      sameRegistration, sameKey⟩

theorem Indexed.absorbed_open
    {pending : KqueuePending} (indexed : pending.Indexed)
    {registration : RegistrationId} {slot : Nat}
    {generation : NonZeroU32}
    (decoded : decode registration = .ok (slot, generation))
    (vacant : pending.bySlot[slot]? = some pendingEmpty)
    (absent : registration ∉ pending.groups.map Prod.fst)
    (room : pending.entries.length < pending.capacity.val)
    {retained : UInt32}
    (narrowed : u32OfUsize pending.entries.length = some retained)
    (key : Key) (readiness : Readiness) :
    Absorbed pending registration key readiness
      { pending with
        entries := pending.entries ++ [{ registration, key, readiness }]
        bySlot := pending.bySlot.set slot retained } := by
  have inside := (List.getElem?_eq_some_iff.mp vacant).1
  have value := (List.getElem?_eq_some_iff.mp vacant).2
  have addressable := indexed.addressable
  have counted := indexed.counted
  unfold maxRegistrations at addressable
  have position := u32OfUsize_toNat narrowed
  have below : pending.entries.length < pending.bySlot.length := by
    rw [counted]
    have notAll :
        pending.bySlot.countP (fun index => index ≠ pendingEmpty) ≠
          pending.bySlot.length := by
      intro all
      have every := List.countP_eq_length.mp all pendingEmpty
        (List.mem_of_getElem? vacant)
      simp at every
    have atMost : pending.bySlot.countP
        (fun index => index ≠ pendingEmpty) ≤ pending.bySlot.length :=
      List.countP_le_length
    omega
  have occupied : retained ≠ pendingEmpty := by
    intro same
    rw [same] at position
    have size : pendingEmpty.toNat = 2 ^ 32 - 1 := u32Max_toNat
    omega
  refine
    { indexed :=
        { addressable := ?_
          counted := ?_
          placed := ?_
          listed := ?_ }
      groups := ?_
      keys := ?_
      capacity := rfl
      slots := by simp }
  · simp only [List.length_set]
    exact indexed.addressable
  · simp only [List.length_append, List.length_singleton]
    rw [List.countP_set inside, value, counted]
    simp [occupied]
  · intro other entry found
    rw [List.getElem?_append] at found
    split at found
    · obtain ⟨entrySlot, entryGeneration, entryDecoded, entryIndex⟩ :=
        indexed.placed other entry found
      refine ⟨entrySlot, entryGeneration, entryDecoded, ?_⟩
      have different : entrySlot ≠ slot := by
        rintro rfl
        rw [vacant] at entryIndex
        have size : pendingEmpty.toNat = 2 ^ 32 - 1 := u32Max_toNat
        have equal := congrArg (Option.map UInt32.toNat) entryIndex
        simp only [Option.map_some, Option.some.injEq,
          UInt32.toNat_ofNat', size] at equal
        omega
      rw [List.getElem?_set_ne (Ne.symm different)]
      exact entryIndex
    · rename_i outside
      have last : other = pending.entries.length := by
        have bound := (List.getElem?_eq_some_iff.mp found).1
        simp only [List.length_singleton] at bound
        omega
      subst last
      simp only [Nat.sub_self, List.getElem?_cons_zero,
        Option.some.injEq] at found
      subst found
      refine ⟨slot, generation, decoded, ?_⟩
      rw [List.getElem?_set_self inside, Option.some.injEq]
      apply UInt32.toNat_inj.mp
      rw [position, UInt32.toNat_ofNat']
      omega
  · intro other index found present
    by_cases same : other = slot
    · subst same
      rw [List.getElem?_set_self inside] at found
      cases found
      refine ⟨{ registration, key, readiness }, generation, ?_, decoded⟩
      rw [position, List.getElem?_append_right (Nat.le_refl _)]
      simp
    · rw [List.getElem?_set_ne (Ne.symm same)] at found
      obtain ⟨entry, entryGeneration, entryFound, entryDecoded⟩ :=
        indexed.listed other index found present
      have bound := (List.getElem?_eq_some_iff.mp entryFound).1
      exact ⟨entry, entryGeneration,
        by rw [List.getElem?_append_left bound]; exact entryFound,
        entryDecoded⟩
  · have short : pending.groups.length < pending.capacity.val := by
      simpa [KqueuePending.groups] using room
    rw [Grouping.absorb, if_neg absent, if_pos short]
    simp [KqueuePending.groups, PendingResource.group]
  · intro entry member
    rcases List.mem_append.mp member with earlier | last
    · exact Or.inl ⟨entry, earlier, rfl, rfl⟩
    · rw [List.mem_singleton.mp last]
      exact Or.inr ⟨rfl, rfl⟩

/-- An empty index cell means that no entry has the slot. -/
theorem Indexed.absent_of_vacant
    {pending : KqueuePending} (indexed : pending.Indexed)
    {registration : RegistrationId} {slot : Nat}
    {generation : NonZeroU32}
    (decoded : decode registration = .ok (slot, generation))
    (vacant : pending.bySlot[slot]? = some pendingEmpty) :
    registration ∉ pending.groups.map Prod.fst := by
  intro member
  simp only [groups, List.map_map, List.mem_map] at member
  obtain ⟨entry, entryMember, same⟩ := member
  have registrations : entry.registration = registration := same
  rw [← registrations] at decoded
  obtain ⟨position, entryFound⟩ := List.mem_iff_getElem?.mp entryMember
  obtain ⟨index, _, present⟩ := indexed.index_of_entry entryFound decoded
  rw [vacant, Option.some.injEq] at index
  exact present index.symm

/-- Why an addition is rejected. -/
inductive Rejects (pending : KqueuePending)
    (registration : RegistrationId) : Error → Prop
  | malformed {error : Error} :
      decode registration = .error error →
      Rejects pending registration error
  | outside {slot : Nat} {generation : NonZeroU32} :
      decode registration = .ok (slot, generation) →
      pending.bySlot.length ≤ slot →
      Rejects pending registration .invariant
  | occupied {slot : Nat} {generation other : NonZeroU32}
      {entry : PendingResource} :
      decode registration = .ok (slot, generation) →
      entry ∈ pending.entries →
      decode entry.registration = .ok (slot, other) →
      entry.registration ≠ registration →
      Rejects pending registration .invariant

/-- An addition is rejected or dropped, which changes nothing, or absorbed. -/
theorem Indexed.add_cases
    {pending : KqueuePending} (indexed : pending.Indexed)
    (registration : RegistrationId) (key : Key) (readiness : Readiness) :
    (∃ error, pending.Rejects registration error ∧
      pending.add registration key readiness =
        (pending, .error error)) ∨
    (pending.capacity.val ≤ pending.entries.length ∧
      registration ∉ pending.groups.map Prod.fst ∧
      pending.add registration key readiness = (pending, .ok ())) ∨
    ∃ after,
      pending.add registration key readiness = (after, .ok ()) ∧
        (registration ∈ pending.groups.map Prod.fst ∨
          pending.entries.length < pending.capacity.val) ∧
        Absorbed pending registration key readiness after := by
  unfold add
  cases decoded : decode registration with
  | error error => exact Or.inl ⟨error, .malformed decoded, rfl⟩
  | ok place =>
      rcases place with ⟨slot, generation⟩
      cases found : pending.bySlot[slot]? with
      | none =>
          exact Or.inl
            ⟨.invariant,
              .outside decoded (List.getElem?_eq_none_iff.mp found),
              by simp [found]⟩
      | some index =>
          by_cases present : index = pendingEmpty
          · subst present
            have absent := indexed.absent_of_vacant decoded found
            by_cases full : pending.capacity.val ≤ pending.entries.length
            · exact Or.inr (Or.inl ⟨full, absent, by simp [found, full]⟩)
            · have bounded := indexed.length_le
              have addressable := indexed.addressable
              unfold maxRegistrations at addressable
              have narrowed :
                  u32OfUsize pending.entries.length =
                    some (UInt32.ofNat pending.entries.length) := by
                rw [u32OfUsize, if_pos (by omega)]
              refine Or.inr (Or.inr
                ⟨_, by simp [found, full, narrowed]; rfl,
                  Or.inr (by omega), ?_⟩)
              exact indexed.absorbed_open decoded found absent (by omega)
                narrowed key readiness
          · obtain ⟨entry, entryGeneration, entryFound, entryDecoded⟩ :=
              indexed.listed slot index found present
            by_cases same : entry.registration = registration
            · subst same
              have grouped :
                  entry.registration ∈ pending.groups.map Prod.fst := by
                simp only [groups, List.map_map, List.mem_map]
                exact ⟨entry, List.mem_of_getElem? entryFound, rfl⟩
              refine Or.inr (Or.inr
                ⟨_, by simp [found, present, entryFound]; rfl,
                  Or.inl grouped, ?_⟩)
              exact indexed.absorbed_join entryFound key readiness
            · refine Or.inl ⟨.invariant, .occupied decoded
                (List.mem_of_getElem? entryFound) entryDecoded same, ?_⟩
              simp [found, present, entryFound, same]

/-- Adding an observation of a slot that no other registration occupies always
succeeds and absorbs it. -/
theorem Indexed.add_absorbed
    {pending : KqueuePending} (indexed : pending.Indexed)
    {registration : RegistrationId} {slot : Nat}
    {generation : NonZeroU32}
    (decoded : decode registration = .ok (slot, generation))
    (inside : slot < pending.bySlot.length)
    (sole : ∀ entry ∈ pending.entries, ∀ other,
      decode entry.registration = .ok (slot, other) →
        entry.registration = registration)
    (key : Key) (readiness : Readiness) :
    ∃ after,
      pending.add registration key readiness = (after, .ok ()) ∧
        Absorbed pending registration key readiness after := by
  rcases indexed.add_cases registration key readiness with
    ⟨error, rejects, _⟩ | ⟨full, absent, result⟩ |
      ⟨after, result, _, absorbed⟩
  · cases rejects with
    | malformed failed =>
        rw [decoded] at failed
        cases failed
    | outside place beyond =>
        rw [decoded] at place
        cases place
        omega
    | occupied place member other different =>
        rw [decoded] at place
        cases place
        exact (different (sole _ member _ other)).elim
  · refine ⟨pending, result, indexed, ?_, fun entry member =>
      Or.inl ⟨entry, member, rfl, rfl⟩, rfl, rfl⟩
    have long : ¬ pending.groups.length < pending.capacity.val := by
      simpa [groups] using full
    rw [Grouping.absorb, if_neg absent, if_neg long]
  · exact ⟨after, result, absorbed⟩

end KqueuePending

end Zio
