import Zio.Vocabulary

/-!
# Nonzero native tokens for exact slot generations

A token packs a slot number, biased by one, in its low half and a nonzero
generation in its high half.  `encode` and the checked `decode` are translated
with their conversion failures; the lemmas below show that every token either
decodes to one exact slot generation or is rejected as stale, and that two
tokens of one slot generation are equal.
-/

namespace Zio

/-- `MAX_REGISTRATIONS`. -/
def maxRegistrations : Nat := 2 ^ 32 - 1

/-- `MAX_GENERATION`. -/
def maxGeneration : UInt32 := u32Max

namespace RegistrationId

/-- The low half of the token. -/
def slotHalf (id : RegistrationId) : UInt32 := id.raw.toUInt32

/-- The high half of the token. -/
def generationHalf (id : RegistrationId) : UInt32 := (id.raw >>> 32).toUInt32

theorem slotHalf_toNat (id : RegistrationId) :
    id.slotHalf.toNat = id.raw.toNat % 2 ^ 32 := by
  simp [slotHalf, UInt64.toNat_toUInt32]

theorem generationHalf_toNat (id : RegistrationId) :
    id.generationHalf.toNat = id.raw.toNat / 2 ^ 32 := by
  have bound : id.raw.toNat < 2 ^ 64 := id.raw.toNat_lt
  simp only [generationHalf, UInt64.toNat_toUInt32, UInt64.toNat_shiftRight]
  have shift : (32 : UInt64).toNat % 64 = 32 := rfl
  rw [shift, Nat.shiftRight_eq_div_pow]
  exact Nat.mod_eq_of_lt (by omega)

/-- The two halves determine the token. -/
theorem ext_halves
    {left right : RegistrationId}
    (sameSlot : left.slotHalf = right.slotHalf)
    (sameGeneration : left.generationHalf = right.generationHalf) :
    left = right := by
  have low : left.raw.toNat % 2 ^ 32 = right.raw.toNat % 2 ^ 32 := by
    rw [← slotHalf_toNat, ← slotHalf_toNat, sameSlot]
  have high : left.raw.toNat / 2 ^ 32 = right.raw.toNat / 2 ^ 32 := by
    rw [← generationHalf_toNat, ← generationHalf_toNat, sameGeneration]
  have whole : left.raw.toNat = right.raw.toNat := by
    rw [← Nat.div_add_mod left.raw.toNat (2 ^ 32),
      ← Nat.div_add_mod right.raw.toNat (2 ^ 32), low, high]
  cases left
  cases right
  simpa using UInt64.toNat_inj.mp whole

end RegistrationId

/-- An encoding that only `encode` builds: both halves are nonzero. -/
structure EncodedRegistrationId where
  id : RegistrationId
  slotNonzero : id.slotHalf ≠ 0
  generationNonzero : id.generationHalf ≠ 0
deriving DecidableEq, Repr

/-- Unchecked projection to the slot index and generation. -/
def EncodedRegistrationId.parts (self : EncodedRegistrationId) :
    UInt32 × UInt32 :=
  let token := self.id.raw
  let slot := token.toUInt32
  let generation := (token >>> 32).toUInt32
  (slot - 1, generation)

/-- The token of a biased slot number and a generation. -/
def packToken (slot generation : UInt32) : RegistrationId :=
  ⟨(generation.toUInt64 <<< 32) ||| slot.toUInt64⟩

theorem packToken_toNat (slot generation : UInt32) :
    (packToken slot generation).raw.toNat =
      generation.toNat * 2 ^ 32 + slot.toNat := by
  have slotBound : slot.toNat < 2 ^ 32 := slot.toNat_lt
  have generationBound : generation.toNat < 2 ^ 32 := generation.toNat_lt
  simp only [packToken, UInt64.toNat_or, UInt64.toNat_shiftLeft,
    UInt32.toNat_toUInt64]
  have shift : (32 : UInt64).toNat % 64 = 32 := rfl
  rw [shift, Nat.mod_eq_of_lt (by rw [Nat.shiftLeft_eq]; omega),
    ← Nat.shiftLeft_add_eq_or_of_lt slotBound, Nat.shiftLeft_eq]

@[simp]
theorem packToken_slotHalf (slot generation : UInt32) :
    (packToken slot generation).slotHalf = slot := by
  have slotBound : slot.toNat < 2 ^ 32 := slot.toNat_lt
  apply UInt32.toNat_inj.mp
  rw [RegistrationId.slotHalf_toNat, packToken_toNat]
  omega

@[simp]
theorem packToken_generationHalf (slot generation : UInt32) :
    (packToken slot generation).generationHalf = generation := by
  have slotBound : slot.toNat < 2 ^ 32 := slot.toNat_lt
  apply UInt32.toNat_inj.mp
  rw [RegistrationId.generationHalf_toNat, packToken_toNat]
  omega

theorem u32CheckedSucc_ne_zero
    {value next : UInt32} (added : u32CheckedSucc value = some next) :
    next ≠ 0 := by
  unfold u32CheckedSucc at added
  split at added
  · cases added
  · rename_i different
    cases added
    intro zero
    have size := u32_succ_toNat different
    rw [zero] at size
    simp at size

/-- Pack one slot index and generation; fails only at `u32::MAX`. -/
def encode (index : UInt32) (generation : NonZeroU32) :
    Option EncodedRegistrationId :=
  match added : u32CheckedSucc index with
  | none => none
  | some slot =>
      some
        { id := packToken slot generation.val
          slotNonzero := by
            rw [packToken_slotHalf]
            exact u32CheckedSucc_ne_zero added
          generationNonzero := by
            rw [packToken_generationHalf]
            exact generation.property }

/-- Checked projection of an arbitrary token. -/
def decode (id : RegistrationId) : Except Error (Nat × NonZeroU32) :=
  if id.raw = 0 then
    .error (.stale id)
  else do
    let slot ← okOr (u32OfU64 (id.raw &&& 0xFFFFFFFF)) .invariant
    let generation ← okOr (u32OfU64 (id.raw >>> 32)) .invariant
    let index ← okOr (if slot = 0 then none else some (slot - 1)) (.stale id)
    let generation ← okOr (nonZeroU32 generation) (.stale id)
    return (index.toNat, generation)

/-! ## What a token decodes to -/

theorem u32OfU64_low (token : UInt64) :
    u32OfU64 (token &&& 0xFFFFFFFF) = some token.toUInt32 := by
  have masked : (token &&& 0xFFFFFFFF).toNat = token.toNat % 2 ^ 32 := by
    rw [UInt64.toNat_and]
    exact Nat.and_two_pow_sub_one_eq_mod token.toNat 32
  have narrow : (token &&& 0xFFFFFFFF).toUInt32 = token.toUInt32 := by
    apply UInt32.toNat_inj.mp
    rw [UInt64.toNat_toUInt32, UInt64.toNat_toUInt32, masked]
    omega
  unfold u32OfU64
  rw [masked, narrow, if_pos (Nat.mod_lt _ (by decide))]

theorem u32OfU64_high (token : UInt64) :
    u32OfU64 (token >>> 32) = some (token >>> 32).toUInt32 := by
  have bound : token.toNat < 2 ^ 64 := token.toNat_lt
  have shift : (32 : UInt64).toNat % 64 = 32 := rfl
  unfold u32OfU64
  rw [if_pos]
  rw [UInt64.toNat_shiftRight, shift, Nat.shiftRight_eq_div_pow]
  omega

theorem u32_pred_toNat {value : UInt32} (nonzero : value ≠ 0) :
    (value - 1).toNat + 1 = value.toNat := by
  have bound : value.toNat < 2 ^ 32 := value.toNat_lt
  have positive : value.toNat ≠ 0 := fun zero =>
    nonzero (UInt32.toNat_inj.mp zero)
  rw [UInt32.toNat_sub]
  simp only [UInt32.toNat_one]
  omega

/-- A token decodes exactly when both halves are nonzero; every other token
is rejected as stale.  The conversion failures of the source never occur. -/
theorem decode_eq (id : RegistrationId) :
    decode id =
      if valid : id.slotHalf ≠ 0 ∧ id.generationHalf ≠ 0 then
        .ok ((id.slotHalf - 1).toNat, ⟨id.generationHalf, valid.2⟩)
      else
        .error (.stale id) := by
  unfold decode
  rw [u32OfU64_low, u32OfU64_high]
  change _ = if valid : id.raw.toUInt32 ≠ 0 ∧ (id.raw >>> 32).toUInt32 ≠ 0
    then _ else _
  by_cases zero : id.raw = 0
  · simp [zero]
  · by_cases slotZero : id.raw.toUInt32 = 0
    · simp [zero, slotZero, okOr, bind, Except.bind]
    · by_cases generationZero : (id.raw >>> 32).toUInt32 = 0
      · simp [zero, slotZero, generationZero, okOr, nonZeroU32, bind,
          Except.bind]
      · simp [zero, slotZero, generationZero, okOr, nonZeroU32, bind,
          Except.bind, pure, Except.pure, RegistrationId.slotHalf,
          RegistrationId.generationHalf]

theorem decode_ok_iff
    (id : RegistrationId) (index : Nat) (generation : NonZeroU32) :
    decode id = .ok (index, generation) ↔
      id.slotHalf.toNat = index + 1 ∧
        id.generationHalf = generation.val := by
  rw [decode_eq]
  constructor
  · intro decoded
    split at decoded
    · rename_i valid
      simp only [Except.ok.injEq, Prod.mk.injEq] at decoded
      rcases decoded with ⟨rfl, rfl⟩
      exact ⟨(u32_pred_toNat valid.1).symm, rfl⟩
    · cases decoded
  · rintro ⟨slotValue, generationValue⟩
    have slotNonzero : id.slotHalf ≠ 0 := by
      intro zero
      rw [zero] at slotValue
      simp at slotValue
    have generationNonzero : id.generationHalf ≠ 0 := by
      rw [generationValue]
      exact generation.property
    have pred := u32_pred_toNat slotNonzero
    rw [dif_pos ⟨slotNonzero, generationNonzero⟩]
    simp only [Except.ok.injEq, Prod.mk.injEq]
    refine ⟨by omega, Subtype.ext generationValue⟩

/-- A rejected token is reported as stale, never as a broken invariant. -/
theorem decode_error
    {id : RegistrationId} {error : Error}
    (failed : decode id = .error error) :
    error = .stale id := by
  rw [decode_eq] at failed
  split at failed
  · cases failed
  · cases failed
    rfl

/-- Two tokens of one slot generation are equal. -/
theorem decode_injective
    {left right : RegistrationId} {place : Nat × NonZeroU32}
    (leftDecoded : decode left = .ok place)
    (rightDecoded : decode right = .ok place) :
    left = right := by
  rcases place with ⟨index, generation⟩
  rw [decode_ok_iff] at leftDecoded rightDecoded
  apply RegistrationId.ext_halves
  · apply UInt32.toNat_inj.mp
    rw [leftDecoded.1, rightDecoded.1]
  · rw [leftDecoded.2, rightDecoded.2]

theorem decode_index_lt
    {id : RegistrationId} {index : Nat} {generation : NonZeroU32}
    (decoded : decode id = .ok (index, generation)) :
    index < maxRegistrations := by
  have slotBound : id.slotHalf.toNat < 2 ^ 32 := id.slotHalf.toNat_lt
  have slotValue := ((decode_ok_iff id index generation).1 decoded).1
  unfold maxRegistrations
  omega

/-! ## Library-minted encodings -/

theorem decode_encoded (encoded : EncodedRegistrationId) :
    decode encoded.id =
      .ok (encoded.parts.1.toNat,
        ⟨encoded.parts.2, encoded.generationNonzero⟩) := by
  rw [decode_eq,
    dif_pos ⟨encoded.slotNonzero, encoded.generationNonzero⟩]
  rfl

theorem decode_encode
    {index : UInt32} {generation : NonZeroU32}
    {encoded : EncodedRegistrationId}
    (packed : encode index generation = some encoded) :
    decode encoded.id = .ok (index.toNat, generation) := by
  unfold encode at packed
  split at packed
  · cases packed
  · rename_i slot added
    cases packed
    rw [decode_ok_iff]
    simp only [packToken_slotHalf, packToken_generationHalf, and_true]
    unfold u32CheckedSucc at added
    split at added
    · cases added
    · rename_i different
      cases added
      exact u32_succ_toNat different

/-- Encoding succeeds for every index below the reserved last one. -/
theorem encode_isSome
    {index : UInt32} (different : index ≠ u32Max)
    (generation : NonZeroU32) :
    ∃ encoded, encode index generation = some encoded := by
  unfold encode
  split
  · rename_i failed
    simp [u32CheckedSucc, different] at failed
  · exact ⟨_, rfl⟩

/-- No minted identity is the reserved wake token. -/
theorem encoded_ne_zero (encoded : EncodedRegistrationId) :
    encoded.id.raw ≠ 0 := by
  intro zero
  apply encoded.slotNonzero
  unfold RegistrationId.slotHalf
  rw [zero]
  rfl

/-- Encoding fails at the reserved last index and nowhere else. -/
theorem encode_eq_none_iff (index : UInt32) (generation : NonZeroU32) :
    encode index generation = none ↔ index = u32Max := by
  constructor
  · intro failed
    by_contra different
    obtain ⟨encoded, packed⟩ := encode_isSome different generation
    rw [packed] at failed
    cases failed
  · intro last
    unfold encode
    split
    · rfl
    · rename_i slot added
      simp [u32CheckedSucc, last] at added

/-- The unchecked projection gives back what was packed. -/
theorem parts_encode
    {index : UInt32} {generation : NonZeroU32}
    {encoded : EncodedRegistrationId}
    (packed : encode index generation = some encoded) :
    encoded.parts = (index, generation.val) := by
  have checked := decode_encode packed
  rw [decode_encoded] at checked
  simp only [Except.ok.injEq, Prod.mk.injEq] at checked
  obtain ⟨sameIndex, sameGeneration⟩ := checked
  exact Prod.ext (UInt32.toNat_inj.mp sameIndex)
    (congrArg Subtype.val sameGeneration)

/-- A token decodes exactly when both of its halves are nonzero. -/
theorem decode_isOk_iff (id : RegistrationId) :
    (∃ place, decode id = .ok place) ↔
      id.slotHalf ≠ 0 ∧ id.generationHalf ≠ 0 := by
  rw [decode_eq]
  by_cases valid : id.slotHalf ≠ 0 ∧ id.generationHalf ≠ 0
  · simp [valid]
  · rw [dif_neg valid]
    simp [valid]

/-- Encoding what a token decodes to gives the token back. -/
theorem encode_decode
    {id : RegistrationId} {index : Nat} {generation : NonZeroU32}
    (decoded : decode id = .ok (index, generation)) :
    ∃ narrow encoded,
      u32OfUsize index = some narrow ∧
        encode narrow generation = some encoded ∧ encoded.id = id := by
  have bound := decode_index_lt decoded
  unfold maxRegistrations at bound
  have narrowed :
      u32OfUsize index = some (UInt32.ofNat index) := by
    rw [u32OfUsize, if_pos (by omega)]
  have size := u32OfUsize_toNat narrowed
  have different : UInt32.ofNat index ≠ u32Max := by
    intro last
    rw [last, u32Max_toNat] at size
    omega
  obtain ⟨encoded, packed⟩ := encode_isSome different generation
  have checked := decode_encode packed
  rw [size] at checked
  exact ⟨_, encoded, narrowed, packed, decode_injective checked decoded⟩

theorem encode_injective
    {first second : UInt32} {firstGeneration secondGeneration : NonZeroU32}
    {encoded : EncodedRegistrationId}
    (left : encode first firstGeneration = some encoded)
    (right : encode second secondGeneration = some encoded) :
    first = second ∧ firstGeneration = secondGeneration := by
  have same := (parts_encode left).symm.trans (parts_encode right)
  rw [Prod.mk.injEq] at same
  exact ⟨same.1, Subtype.ext same.2⟩

end Zio
