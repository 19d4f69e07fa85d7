import Mathlib.Algebra.Order.Ring.Int
import Mathlib.Data.List.Basic
import Mathlib.Tactic.DeriveFintype

/-!
# Portable vocabulary

The closed domains and the error vocabulary shared by every layer of the
poller: keys, interests, modes, readiness hints, events, registration states,
commit statuses and failures.  Operating-system descriptors are carried by a
type whose values are nonnegative, and an interest is a byte whose unknown
bits are clear, as no public constructor can set them.
-/

namespace Zio

/-- A `NonZeroUsize` capacity. -/
abbrev NonZeroUsize := { count : Nat // 0 < count }

/-- The largest value of a `usize` on the supported 64-bit targets. -/
def usizeMax : Nat := 2 ^ 64 - 1

/-- `usize::checked_add`. -/
def usizeCheckedAdd (left right : Nat) : Option Nat :=
  if left + right ≤ usizeMax then some (left + right) else none

/-- `usize::checked_mul`. -/
def usizeCheckedMul (left right : Nat) : Option Nat :=
  if left * right ≤ usizeMax then some (left * right) else none

def i32Max : Nat := 2 ^ 31 - 1

/-- `i32::try_from(...).is_ok()` for a count. -/
def fitsI32 (count : Nat) : Bool := count ≤ i32Max

/-- `Option::ok_or`. -/
def okOr {α ε : Type*} (value : Option α) (error : ε) : Except ε α :=
  match value with
  | some present => .ok present
  | none => .error error

/-- `Result::err`. -/
def resultErr {α ε : Type*} : Except ε α → Option ε
  | .ok _ => none
  | .error error => some error

/-- A chain of fallible steps succeeds through the success of its first. -/
theorem bind_ok
    {α β ε : Type} {value : Except ε α} {next : α → Except ε β}
    {result : β} (run : value >>= next = .ok result) :
    ∃ found, value = .ok found ∧ next found = .ok result := by
  cases value with
  | error error => cases run
  | ok found => exact ⟨found, rfl, run⟩

/-- A loop of steps that each succeed succeeds. -/
theorem mapM_ok
    {α β ε : Type} {step : α → Except ε β} {items : List α}
    (each : ∀ item ∈ items, ∃ found, step item = .ok found) :
    ∃ found, items.mapM step = .ok found ∧ found.length = items.length := by
  induction items with
  | nil => exact ⟨[], rfl, rfl⟩
  | cons item rest inductionHypothesis =>
      obtain ⟨first, ran⟩ := each item List.mem_cons_self
      obtain ⟨more, loop, length⟩ := inductionHypothesis fun other member =>
        each other (List.mem_cons_of_mem item member)
      refine ⟨first :: more, ?_, congrArg (· + 1) length⟩
      rw [List.mapM_cons, ran, loop]
      rfl

/-- `u32::MAX`. -/
def u32Max : UInt32 := 0xFFFFFFFF

/-- `u32::checked_add(1)`. -/
def u32CheckedSucc (value : UInt32) : Option UInt32 :=
  if value = u32Max then none else some (value + 1)

/-- `u32::try_from` on a `usize`. -/
def u32OfUsize (value : Nat) : Option UInt32 :=
  if value < 2 ^ 32 then some (UInt32.ofNat value) else none

/-- `u32::try_from` on a `u64`. -/
def u32OfU64 (value : UInt64) : Option UInt32 :=
  if value.toNat < 2 ^ 32 then some value.toUInt32 else none

/-- A nonzero `u32`. -/
abbrev NonZeroU32 := { value : UInt32 // value ≠ 0 }

/-- `NonZeroU32::new`. -/
def nonZeroU32 (value : UInt32) : Option NonZeroU32 :=
  if nonzero : value ≠ 0 then some ⟨value, nonzero⟩ else none

theorem u32Max_toNat : u32Max.toNat = 2 ^ 32 - 1 := rfl

theorem u32_toNat_lt_max
    {value : UInt32} (different : value ≠ u32Max) :
    value.toNat < 2 ^ 32 - 1 := by
  have bound : value.toNat < 2 ^ 32 := value.toNat_lt
  have distinct : value.toNat ≠ u32Max.toNat := fun same =>
    different (UInt32.toNat_inj.mp same)
  rw [u32Max_toNat] at distinct
  omega

/-- The wrapping successor does not wrap below `u32::MAX`. -/
theorem u32_succ_toNat
    {value : UInt32} (different : value ≠ u32Max) :
    (value + 1).toNat = value.toNat + 1 := by
  have bound := u32_toNat_lt_max different
  rw [UInt32.toNat_add]
  simp only [UInt32.toNat_one]
  omega

theorem u32OfUsize_toNat
    {value : Nat} {narrow : UInt32}
    (converted : u32OfUsize value = some narrow) :
    narrow.toNat = value := by
  unfold u32OfUsize at converted
  split at converted
  · cases converted
    rw [UInt32.toNat_ofNat']
    omega
  · cases converted

/-! ## Registration identity -/

/-- Opaque identity for one exact registration generation. -/
structure RegistrationId where
  raw : UInt64
deriving DecidableEq, Repr

/-- Process-unique poller identity. -/
structure PollId where
  raw : UInt64
deriving DecidableEq, Repr

/-! ## Operating-system values -/

/-- A raw descriptor number. -/
abbrev RawFd := Int32

/-- A descriptor that an `OwnedFd` or a `BorrowedFd` can hold: the kernel
hands out nonnegative numbers only. -/
structure Fd where
  raw : RawFd
  nonnegative : 0 ≤ raw
deriving DecidableEq, Repr

/-- The first number after the standard streams. -/
def firstDescriptor : Fd := ⟨3, by decide⟩

/-- The classification of an `io::Error`: the stable kinds. -/
inductive IoErrorKind where
  | interrupted
  | wouldBlock
  | invalidInput
  | invalidData
  | notFound
  | permissionDenied
  | connectionRefused
  | connectionReset
  | hostUnreachable
  | networkUnreachable
  | connectionAborted
  | notConnected
  | addrInUse
  | addrNotAvailable
  | networkDown
  | brokenPipe
  | alreadyExists
  | notADirectory
  | isADirectory
  | directoryNotEmpty
  | readOnlyFilesystem
  | staleNetworkFileHandle
  | timedOut
  | writeZero
  | storageFull
  | notSeekable
  | quotaExceeded
  | fileTooLarge
  | resourceBusy
  | executableFileBusy
  | deadlock
  | crossesDevices
  | tooManyLinks
  | invalidFilename
  | argumentListTooLong
  | unsupported
  | unexpectedEof
  | outOfMemory
  | other
deriving DecidableEq, Repr

/-- An `io::Error`: an operating-system code, a bare kind, or a message. -/
inductive IoError where
  | os (code : Int32)
  | simple (kind : IoErrorKind)
  | custom (kind : IoErrorKind) (message : String)
deriving DecidableEq, Repr

/-! ## Keys, interests, modes and readiness -/

/-- Caller-selected value delivered with an observed event. -/
structure Key where
  value : UInt64
deriving DecidableEq, Repr

/-- Backend-neutral readiness interests: a byte of two flags. -/
structure Interest where
  bits : UInt8
  known : bits ≤ 3
deriving DecidableEq, Repr

namespace Interest

def empty : Interest := ⟨0, by decide⟩

def readable : Interest := ⟨1, by decide⟩

def writable : Interest := ⟨2, by decide⟩

theorem or_known :
    ∀ left right : UInt8, left ≤ 3 → right ≤ 3 → left ||| right ≤ 3 := by
  intro left right leftKnown rightKnown
  have leftBound : left.toNat < 2 ^ 2 := by
    have := UInt8.le_iff_toNat_le.mp leftKnown
    simp at this
    omega
  have rightBound : right.toNat < 2 ^ 2 := by
    have := UInt8.le_iff_toNat_le.mp rightKnown
    simp at this
    omega
  have joined := Nat.or_lt_two_pow leftBound rightBound
  rw [UInt8.le_iff_toNat_le, UInt8.toNat_or]
  simp
  omega

/-- The union of two interest sets. -/
def union (left right : Interest) : Interest :=
  ⟨left.bits ||| right.bits,
    or_known left.bits right.bits left.known right.known⟩

/-- Whether every flag in `other` is present. -/
def contains (self other : Interest) : Bool :=
  self.bits &&& other.bits == other.bits

def isEmpty (self : Interest) : Bool := self.bits == 0

def isReadable (self : Interest) : Bool := self.contains readable

def isWritable (self : Interest) : Bool := self.contains writable

/-- Both directions. -/
def both : Interest := ⟨3, by decide⟩

theorem cases_eq (interest : Interest) :
    interest = empty ∨ interest = readable ∨ interest = writable ∨
      interest = both := by
  rcases interest with ⟨bits, known⟩
  have bound := UInt8.le_iff_toNat_le.mp known
  have small : bits.toNat = 0 ∨ bits.toNat = 1 ∨ bits.toNat = 2 ∨
      bits.toNat = 3 := by
    simp at bound
    omega
  rcases small with value | value | value | value
  · exact Or.inl (by
      simp only [empty, mk.injEq]
      exact UInt8.toNat_inj.mp value)
  · exact Or.inr (Or.inl (by
      simp only [readable, mk.injEq]
      exact UInt8.toNat_inj.mp value))
  · exact Or.inr (Or.inr (Or.inl (by
      simp only [writable, mk.injEq]
      exact UInt8.toNat_inj.mp value)))
  · exact Or.inr (Or.inr (Or.inr (by
      simp only [both, mk.injEq]
      exact UInt8.toNat_inj.mp value)))

/-- A nonempty interest names at least one direction. -/
theorem directions_of_nonempty
    {interest : Interest} (nonempty : interest.isEmpty = false) :
    interest.isReadable = true ∨ interest.isWritable = true := by
  rcases cases_eq interest with rfl | rfl | rfl | rfl
  · cases nonempty
  · exact Or.inl rfl
  · exact Or.inr rfl
  · exact Or.inl rfl

end Interest

/-- Delivery behavior for one registered resource. -/
inductive Mode where
  | level
  | oneShot
deriving DecidableEq, Repr

/-- Backend-neutral advisory readiness hints: a byte of five flags. -/
structure Readiness where
  bits : UInt8
deriving DecidableEq, Repr

namespace Readiness

def empty : Readiness := ⟨0⟩

def readable : Readiness := ⟨1⟩

def writable : Readiness := ⟨2⟩

def readClosed : Readiness := ⟨4⟩

def writeClosed : Readiness := ⟨8⟩

def error : Readiness := ⟨16⟩

/-- The union of two readiness sets. -/
def union (left right : Readiness) : Readiness :=
  ⟨left.bits ||| right.bits⟩

end Readiness

/-- One logical observation delivered by a poller. -/
inductive Event where
  | resource (key : Key) (readiness : Readiness)
  | wake (key : Key)
deriving DecidableEq, Repr

/-! ## Registration state -/

/-- Whether a registered one-shot resource is eligible for delivery. -/
inductive ArmState where
  | armed
  | disarmed
deriving DecidableEq, Repr

/-- Poller-authoritative state for one exact registration. -/
inductive RegistrationState where
  | registered (arm : ArmState)
  | uncertain
deriving DecidableEq, Repr

/-! ## Failures -/

/-- What a failed synchronous mutation changed in the backend. -/
inductive CommitStatus where
  | notApplied
  | applied
  | unknown
deriving DecidableEq, Repr

/-- The operations that the modelled code attaches to a failure. -/
inductive Operation where
  | createPoller
  | createWaker
  | registerWaker
  | register
  | modify
  | delete
  | wait
  | triggerWake
  | disarm
  | unsupportedPlatform
deriving DecidableEq, Repr

/-- A selector mutation failure with a proven commit status. -/
structure MutationFailure where
  commit : CommitStatus
  source : IoError
deriving DecidableEq, Repr

/-- An I/O mutation failure with an exact commit status. -/
structure MutationError where
  operation : Operation
  commit : CommitStatus
  source : IoError
deriving DecidableEq, Repr

/-- Portable poller failure. -/
inductive Error where
  | io (operation : Operation) (source : IoError)
  | mutation (error : MutationError)
  | wakerAlreadyConfigured (existing requested : Key)
  | wrongPoller (registration : RegistrationId)
  | invalidInterest
  | stale (registration : RegistrationId)
  | uncertain (registration : RegistrationId)
  | capacity (limit : Nat)
  | registrationSpaceExhausted
  | eventsTooSmall (required actual : Nat)
  | backendOverflow
  | invariant
  | unsupportedPlatform
deriving DecidableEq, Repr

end Zio
