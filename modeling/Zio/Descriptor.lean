import Zio.Vocabulary

/-!
# Owned-or-borrowed descriptor retention

A retained descriptor and its close-on-drop policy share one signed word: the
sign bit is set for a borrowed descriptor.
-/

namespace Zio

/-- One descriptor plus its close-on-drop policy. -/
structure Descriptor where
  encoded : RawFd
deriving DecidableEq, Repr

namespace Descriptor

/-- `BORROWED_TAG`. -/
def borrowedTag : RawFd := Int32.minValue

/-- `DESCRIPTOR_BITS`. -/
def descriptorBits : RawFd := Int32.maxValue

def owned (descriptor : Fd) : Descriptor := ⟨descriptor.raw⟩

def borrowed (descriptor : Fd) : Descriptor :=
  ⟨descriptor.raw ||| borrowedTag⟩

def asRawFd (self : Descriptor) : RawFd :=
  self.encoded &&& descriptorBits

def isOwned (self : Descriptor) : Bool := 0 ≤ self.encoded

private theorem nonnegative_iff (value : Int32) :
    0 ≤ value ↔ value.toBitVec.toNat < 2 ^ 31 := by
  rw [Int32.le_iff_toInt_le, ← Int32.toInt_toBitVec value,
    BitVec.toInt_eq_toNat_cond]
  have bound := value.toBitVec.isLt
  simp only [Int32.toInt_zero]
  split <;> omega

private theorem masked_toNat (value : Int32) :
    (value &&& descriptorBits).toBitVec.toNat =
      value.toBitVec.toNat % 2 ^ 31 := by
  rw [Int32.toBitVec_and, BitVec.toNat_and]
  exact Nat.and_two_pow_sub_one_eq_mod value.toBitVec.toNat 31

/-- Masking the tag always leaves a descriptor number. -/
theorem asRawFd_nonnegative (self : Descriptor) : 0 ≤ self.asRawFd := by
  rw [nonnegative_iff, asRawFd, masked_toNat]
  exact Nat.mod_lt _ (by decide)

/-- The retained descriptor lent to a native call. -/
def asFd (self : Descriptor) : Fd :=
  ⟨self.asRawFd, self.asRawFd_nonnegative⟩

@[simp]
theorem asRawFd_owned (descriptor : Fd) :
    (owned descriptor).asRawFd = descriptor.raw := by
  apply Int32.toBitVec_inj.mp
  apply BitVec.eq_of_toNat_eq
  rw [asRawFd, masked_toNat]
  exact Nat.mod_eq_of_lt
    ((nonnegative_iff descriptor.raw).1 descriptor.nonnegative)

@[simp]
theorem asRawFd_borrowed (descriptor : Fd) :
    (borrowed descriptor).asRawFd = descriptor.raw := by
  have bound :=
    (nonnegative_iff descriptor.raw).1 descriptor.nonnegative
  apply Int32.toBitVec_inj.mp
  apply BitVec.eq_of_toNat_eq
  rw [asRawFd, masked_toNat, borrowed, Int32.toBitVec_or,
    BitVec.toNat_or, Nat.or_mod_two_pow]
  have tag : borrowedTag.toBitVec.toNat % 2 ^ 31 = 0 := by decide
  rw [tag, Nat.or_zero, Nat.mod_eq_of_lt bound]

/-- The descriptor number survives retention under either policy. -/
@[simp]
theorem asFd_owned (descriptor : Fd) :
    (owned descriptor).asFd = descriptor := by
  cases descriptor
  simp [asFd]

@[simp]
theorem asFd_borrowed (descriptor : Fd) :
    (borrowed descriptor).asFd = descriptor := by
  cases descriptor
  simp [asFd]

@[simp]
theorem isOwned_owned (descriptor : Fd) :
    (owned descriptor).isOwned = true :=
  decide_eq_true descriptor.nonnegative

/-- The tag makes every borrowed encoding negative. -/
@[simp]
theorem isOwned_borrowed (descriptor : Fd) :
    (borrowed descriptor).isOwned = false := by
  refine decide_eq_false fun positive => ?_
  have small := (nonnegative_iff _).1 positive
  have tagged : borrowedTag.toBitVec.toNat ≤
      (borrowed descriptor).encoded.toBitVec.toNat := by
    rw [borrowed, Int32.toBitVec_or, BitVec.toNat_or]
    exact Nat.right_le_or
  have size : borrowedTag.toBitVec.toNat = 2 ^ 31 := by decide
  omega

end Descriptor

end Zio
