import Zio.Benchmark.Scenario

/-!
# Observation contracts

What a candidate may report in a scenario: the vocabulary of the qualification
harness, the flags of an observation and the contract that decides, for each
scenario and without regard to the candidate, which flags are required and
which are allowed.
-/

namespace Zio.Qualify

open Benchmark (Implementation)

/-! ## Vocabulary -/

/-- Delivery semantics covered by a scenario. -/
inductive DeliveryProfile where
  | initialObservation
  | level
  | oneShot
deriving DecidableEq, Repr

/-- Delivery semantics actually configured through a candidate. -/
inductive ConfiguredDelivery where
  | level
  | oneShot
  | nativeDefault
deriving DecidableEq, Repr

/-- Whether a candidate exposes a delivery profile on this host. -/
inductive ProfileSupport where
  | native
  | notExposed (reason : String)
  | hostUnavailable (reason : String)
deriving DecidableEq, Repr

/-- Readiness direction exercised by a fixture. -/
inductive Interest where
  | readable
  | writable
deriving DecidableEq, Repr

/-- One stable native qualification scenario. -/
inductive Scenario where
  | unixReadableInitial
  | unixWritableInitial
  | unixReadableLevel
  | unixWritableLevel
  | unixReadableOneShot
  | unixWritableOneShot
deriving DecidableEq, Repr

namespace Scenario

def all : List Scenario :=
  [unixReadableInitial, unixWritableInitial, unixReadableLevel,
    unixWritableLevel, unixReadableOneShot, unixWritableOneShot]

theorem mem_all (scenario : Scenario) : scenario ∈ all := by
  cases scenario <;> decide

theorem all_nodup : all.Nodup := by decide

def interest : Scenario → Interest
  | unixReadableInitial | unixReadableLevel | unixReadableOneShot =>
      .readable
  | unixWritableInitial | unixWritableLevel | unixWritableOneShot =>
      .writable

def profile : Scenario → DeliveryProfile
  | unixReadableInitial | unixWritableInitial => .initialObservation
  | unixReadableLevel | unixWritableLevel => .level
  | unixReadableOneShot | unixWritableOneShot => .oneShot

end Scenario

structure RegistrationSpec where
  key : Nat
  interest : Interest
  profile : DeliveryProfile
deriving DecidableEq, Repr

/-! ## Observations -/

/-- Vendor-neutral readiness hints. -/
structure Observation where
  bits : UInt8
deriving DecidableEq, Repr

namespace Observation

def empty : Observation := ⟨0⟩

def readable : Observation := ⟨1⟩

def writable : Observation := ⟨2⟩

def readClosed : Observation := ⟨4⟩

def writeClosed : Observation := ⟨8⟩

def error : Observation := ⟨16⟩

def interrupt : Observation := ⟨32⟩

def flags : List (Observation × String) :=
  [(readable, "readable"), (writable, "writable"),
    (readClosed, "read_closed"), (writeClosed, "write_closed"),
    (error, "error"), (interrupt, "interrupt")]

def isEmpty (self : Observation) : Bool := self.bits == 0

/-- Whether every flag in `other` is present. -/
def contains (self other : Observation) : Bool :=
  self.bits &&& other.bits == other.bits

/-- Whether any flag in `other` is present. -/
def intersects (self other : Observation) : Bool :=
  self.bits &&& other.bits != 0

def union (self other : Observation) : Observation :=
  ⟨self.bits ||| other.bits⟩

/-- `Display`: the present flags, or `empty`. -/
def text (self : Observation) : String :=
  if self.isEmpty then "empty"
  else
    "|".intercalate
      ((flags.filter fun flag => self.contains flag.1).map Prod.snd)

/-- Two observations that contain each other are the same. -/
theorem eq_of_contains
    {one other : Observation} (left : one.contains other = true)
    (right : other.contains one = true) : one = other := by
  unfold contains at left right
  rw [beq_iff_eq] at left right
  rw [UInt8.and_comm, left] at right
  cases one
  cases other
  exact congrArg Observation.mk right.symm

theorem contains_self (self : Observation) :
    self.contains self = true := by
  unfold contains
  rw [UInt8.and_self, beq_iff_eq]

end Observation

/-! ## Contracts -/

/-- A contract's required minimum and complete allowance. -/
structure ExpectedObservation where
  required : Observation
  requiredAny : Observation
  allowed : Observation
deriving DecidableEq, Repr

/-- The precise way an observation failed its contract. -/
inductive ContractViolation where
  | missingRequired (required actual : Observation)
  | missingOneOf (requiredAny actual : Observation)
  | undocumented (allowed actual : Observation)
deriving DecidableEq, Repr

/-- Validate one observation without consulting another candidate. -/
def ExpectedObservation.validate
    (self : ExpectedObservation) (actual : Observation) :
    Except ContractViolation Unit :=
  if !actual.contains self.required then
    .error (.missingRequired self.required actual)
  else if !self.requiredAny.isEmpty &&
      !actual.intersects self.requiredAny then
    .error (.missingOneOf self.requiredAny actual)
  else if !self.allowed.contains actual then
    .error (.undocumented self.allowed actual)
  else
    .ok ()

/-- The contract for one scenario. -/
def expectationFor (scenario : Scenario) : ExpectedObservation :=
  match scenario.interest with
  | .readable =>
      { required := .readable, requiredAny := .empty, allowed := .readable }
  | .writable =>
      { required := .writable, requiredAny := .empty, allowed := .writable }

/-- The flag of a direction. -/
def Interest.flag : Interest → Observation
  | readable => .readable
  | writable => .writable

theorem ExpectedObservation.validate_ok_iff
    (self : ExpectedObservation) (actual : Observation) :
    self.validate actual = .ok () ↔
      actual.contains self.required = true ∧
        (self.requiredAny.isEmpty = true ∨
          actual.intersects self.requiredAny = true) ∧
        self.allowed.contains actual = true := by
  unfold validate
  cases actual.contains self.required with
  | false => simp
  | true =>
      cases self.allowed.contains actual <;>
        cases self.requiredAny.isEmpty <;>
        cases actual.intersects self.requiredAny <;> simp

/-- A scenario's contract accepts the flag of its direction and nothing
else. -/
theorem expectation_exact (scenario : Scenario) (actual : Observation) :
    (expectationFor scenario).validate actual = .ok () ↔
      actual = scenario.interest.flag := by
  have single : ∀ flag : Observation,
      ExpectedObservation.validate
          { required := flag, requiredAny := .empty, allowed := flag }
          actual = .ok () ↔ actual = flag := by
    intro flag
    rw [ExpectedObservation.validate_ok_iff]
    constructor
    · rintro ⟨required, _, allowed⟩
      exact Observation.eq_of_contains required allowed
    · rintro rfl
      exact ⟨actual.contains_self, Or.inl rfl, actual.contains_self⟩
  unfold expectationFor
  cases scenario.interest with
  | readable => exact single .readable
  | writable => exact single .writable

end Zio.Qualify
