import Mathlib.Algebra.Order.Floor.Div
import Mathlib.Order.Bounds.Defs
import Zio.Vocabulary

/-!
# Requested blocking behavior

A wait asks for no blocking, for a bounded duration or for an indefinite wait.
Epoll takes whole milliseconds in a `c_int`, rounded up and clamped; kqueue
takes seconds and nanoseconds in a `timespec`, with the seconds clamped.
Rounding up and clamping at different places, the two conversions still agree
on which waits are nonblocking and which are indefinite.
-/

namespace Zio

/-! ## Durations -/

def nanosPerSecond : Nat := 10 ^ 9

/-- `core::time::Duration`. -/
structure Duration where
  secs : UInt64
  nanos : UInt32
  below : nanos.toNat < nanosPerSecond
deriving DecidableEq, Repr

namespace Duration

/-- `Duration::ZERO`. -/
def zero : Duration := ⟨0, 0, by decide⟩

/-- `Duration::as_nanos`, which fits a `u128`. -/
def asNanos (self : Duration) : Nat :=
  self.secs.toNat * nanosPerSecond + self.nanos.toNat

/-- The derived order compares the seconds first. -/
instance : LE Duration :=
  ⟨fun left right =>
    left.secs < right.secs ∨
      left.secs = right.secs ∧ left.nanos ≤ right.nanos⟩

theorem le_iff_asNanos (left right : Duration) :
    left ≤ right ↔ left.asNanos ≤ right.asNanos := by
  have leftBelow := left.below
  have rightBelow := right.below
  change left.secs < right.secs ∨
    left.secs = right.secs ∧ left.nanos ≤ right.nanos ↔ _
  rw [UInt64.lt_iff_toNat_lt, UInt32.le_iff_toNat_le,
    ← UInt64.toNat_inj]
  unfold asNanos nanosPerSecond at *
  omega

theorem eq_zero_iff_asNanos (duration : Duration) :
    duration = zero ↔ duration.asNanos = 0 := by
  constructor
  · rintro rfl
    rfl
  · intro vanishes
    rcases duration with ⟨secs, nanos, below⟩
    simp only [asNanos, nanosPerSecond] at vanishes
    have noSecs : secs = 0 := UInt64.toNat_inj.mp (by
      rw [UInt64.toNat_zero]
      omega)
    have noNanos : nanos = 0 := UInt32.toNat_inj.mp (by
      rw [UInt32.toNat_zero]
      omega)
    subst noSecs noNanos
    rfl

end Duration

/-- Requested blocking behavior for one readiness observation. -/
inductive Wait where
  | noBlock
  | forDuration (duration : Duration)
  | forever
deriving DecidableEq, Repr

/-- The portable timeout: none is indefinite and zero is nonblocking. -/
def Wait.timeout : Wait → Option Duration
  | .noBlock => some Duration.zero
  | .forDuration duration => some duration
  | .forever => none

/-! ## Epoll -/

def nanosPerMillisecond : Nat := 1000000

/-- `libc::c_int::try_from` on a `u128`. -/
def cIntOfU128 (value : Nat) : Option Int32 :=
  if value < 2 ^ 31 then some (Int32.ofNat value) else none

/-- The timeout argument of `epoll_wait`. -/
def epollTimeout (wait : Wait) : Int32 :=
  match wait.timeout with
  | none => -1
  | some duration =>
      let milliseconds :=
        min (duration.asNanos ⌈/⌉ nanosPerMillisecond) i32Max
      (cIntOfU128 milliseconds).getD Int32.maxValue

theorem epollTimeout_toInt (duration : Duration) :
    (epollTimeout (.forDuration duration)).toInt =
      min (duration.asNanos ⌈/⌉ nanosPerMillisecond) i32Max := by
  have below :
      min (duration.asNanos ⌈/⌉ nanosPerMillisecond) i32Max < 2 ^ 31 :=
    Nat.lt_of_le_of_lt (Nat.min_le_right _ _) (by decide)
  simp only [epollTimeout, Wait.timeout, cIntOfU128, if_pos below,
    Option.getD_some]
  rw [Int32.toInt_ofNat_of_lt below]

theorem milliseconds_pos : 0 < nanosPerMillisecond := by decide

theorem milliseconds_eq_zero_iff (duration : Duration) :
    duration.asNanos ⌈/⌉ nanosPerMillisecond = 0 ↔
      duration = Duration.zero := by
  rw [Duration.eq_zero_iff_asNanos, ← Nat.le_zero,
    ceilDiv_le_iff_le_mul milliseconds_pos, Nat.mul_zero, Nat.le_zero]

/-- Rounding up gives the least whole milliseconds that are long enough. -/
theorem milliseconds_least (duration : Duration) :
    IsLeast
      {milliseconds |
        duration.asNanos ≤ nanosPerMillisecond * milliseconds}
      (duration.asNanos ⌈/⌉ nanosPerMillisecond) := by
  refine ⟨?_, fun milliseconds enough => ?_⟩
  · exact (ceilDiv_le_iff_le_mul milliseconds_pos).mp le_rfl
  · exact (ceilDiv_le_iff_le_mul milliseconds_pos).mpr enough

theorem epollTimeout_range (duration : Duration) :
    0 ≤ (epollTimeout (.forDuration duration)).toInt ∧
      (epollTimeout (.forDuration duration)).toInt ≤ i32Max := by
  rw [epollTimeout_toInt]
  omega

theorem epollTimeout_eq_zero_iff (duration : Duration) :
    (epollTimeout (.forDuration duration)).toInt = 0 ↔
      duration = Duration.zero := by
  have positive : 0 < i32Max := by decide
  rw [epollTimeout_toInt, ← milliseconds_eq_zero_iff]
  omega

theorem epollTimeout_mono
    {shorter longer : Duration} (ordered : shorter ≤ longer) :
    (epollTimeout (.forDuration shorter)).toInt ≤
      (epollTimeout (.forDuration longer)).toInt := by
  rw [Duration.le_iff_asNanos] at ordered
  have rounded :
      shorter.asNanos ⌈/⌉ nanosPerMillisecond ≤
        longer.asNanos ⌈/⌉ nanosPerMillisecond :=
    (ceilDiv_le_iff_le_mul milliseconds_pos).mpr
      (ordered.trans (milliseconds_least longer).1)
  rw [epollTimeout_toInt, epollTimeout_toInt]
  omega

/-- The milliseconds are rounded up exactly, or clamped. -/
theorem epollTimeout_least (duration : Duration) :
    IsLeast
        {milliseconds : Nat |
          duration.asNanos ≤ nanosPerMillisecond * milliseconds}
        (epollTimeout (.forDuration duration)).toInt.toNat ∨
      (epollTimeout (.forDuration duration)).toInt = i32Max ∧
        nanosPerMillisecond * i32Max < duration.asNanos := by
  rw [epollTimeout_toInt]
  by_cases fits :
      duration.asNanos ⌈/⌉ nanosPerMillisecond ≤ i32Max
  · left
    rw [Nat.min_eq_left fits, Int.toNat_natCast]
    exact milliseconds_least duration
  · right
    refine ⟨by omega, ?_⟩
    by_contra enough
    exact fits ((ceilDiv_le_iff_le_mul milliseconds_pos).mpr
      (Nat.le_of_not_lt enough))

/-! ## Kqueue -/

/-- `libc::time_t` of a target: a signed type, given by its largest value,
which a `u64` can hold. -/
structure TimeType where
  max : Nat
  positive : 0 < max
  narrow : max < 2 ^ 64

/-- `libc::time_t::try_from` on a `u64`. -/
def TimeType.ofU64 (self : TimeType) (value : Nat) : Option Int :=
  if value ≤ self.max then some value else none

structure Timespec where
  tvSec : Int
  tvNsec : Int
deriving DecidableEq, Repr

namespace Timespec

def zero : Timespec := ⟨0, 0⟩

/-- The nanoseconds that a timespec stands for. -/
def asNanos (self : Timespec) : Int :=
  self.tvSec * nanosPerSecond + self.tvNsec

end Timespec

def intoTimespec (time : TimeType) (duration : Duration) : Timespec :=
  let seconds := min duration.secs.toNat time.max
  let tvSec := (time.ofU64 seconds).getD time.max
  { tvSec, tvNsec := duration.nanos.toNat }

/-- The timeout pointer of `kevent`: null for an indefinite wait. -/
def kqueueTimeout (time : TimeType) (wait : Wait) : Option Timespec :=
  wait.timeout.map (intoTimespec time)

section Kqueue

variable (time : TimeType) (duration : Duration)

theorem intoTimespec_tvSec :
    (intoTimespec time duration).tvSec =
      (min duration.secs.toNat time.max : Nat) := by
  simp [intoTimespec, TimeType.ofU64]

theorem intoTimespec_range :
    0 ≤ (intoTimespec time duration).tvSec ∧
      (intoTimespec time duration).tvSec ≤ time.max ∧
      0 ≤ (intoTimespec time duration).tvNsec ∧
      (intoTimespec time duration).tvNsec < nanosPerSecond := by
  have below := duration.below
  have nanos :
      (intoTimespec time duration).tvNsec = duration.nanos.toNat := rfl
  rw [intoTimespec_tvSec, nanos]
  omega

theorem intoTimespec_eq_zero_iff :
    intoTimespec time duration = Timespec.zero ↔
      duration = Duration.zero := by
  have positive := time.positive
  have nanos :
      (intoTimespec time duration).tvNsec = duration.nanos.toNat := rfl
  have zeroFields : Timespec.zero.tvSec = 0 ∧ Timespec.zero.tvNsec = 0 :=
    ⟨rfl, rfl⟩
  rw [Duration.eq_zero_iff_asNanos, Timespec.mk.injEq,
    intoTimespec_tvSec, nanos]
  unfold Duration.asNanos nanosPerSecond
  omega

theorem intoTimespec_asNanos :
    (intoTimespec time duration).asNanos ≤ duration.asNanos ∧
      ((intoTimespec time duration).asNanos = duration.asNanos ↔
        duration.secs.toNat ≤ time.max) := by
  have nanos :
      (intoTimespec time duration).tvNsec = duration.nanos.toNat := rfl
  unfold Timespec.asNanos Duration.asNanos
  rw [intoTimespec_tvSec, nanos]
  unfold nanosPerSecond
  omega

theorem intoTimespec_clamped
    (long : time.max < duration.secs.toNat) :
    (intoTimespec time duration).tvSec = time.max := by
  rw [intoTimespec_tvSec]
  omega

end Kqueue

/-! ## Both backends -/

theorem epollTimeout_neg_iff (wait : Wait) :
    (epollTimeout wait).toInt < 0 ↔ wait = .forever := by
  cases wait with
  | noBlock =>
      have nonblocking := epollTimeout_range Duration.zero
      change (epollTimeout (.forDuration Duration.zero)).toInt < 0 ↔ _
      simp only [reduceCtorEq, iff_false]
      omega
  | forDuration duration =>
      have bounded := epollTimeout_range duration
      simp only [reduceCtorEq, iff_false]
      omega
  | forever => simp [epollTimeout, Wait.timeout]

theorem kqueueTimeout_none_iff (time : TimeType) (wait : Wait) :
    kqueueTimeout time wait = none ↔ wait = .forever := by
  cases wait <;> simp [kqueueTimeout, Wait.timeout]

/-- The limit of epoll is never shorter than the limit of kqueue, unless the
milliseconds were clamped. -/
theorem epollTimeout_enough (time : TimeType) (duration : Duration) :
    (intoTimespec time duration).asNanos ≤
        (epollTimeout (.forDuration duration)).toInt *
          nanosPerMillisecond ∨
      (epollTimeout (.forDuration duration)).toInt = i32Max ∧
        nanosPerMillisecond * i32Max < duration.asNanos := by
  have shorter := (intoTimespec_asNanos time duration).1
  have bounded := (epollTimeout_range duration).1
  rcases epollTimeout_least duration with least | clamped
  · left
    have enough :
        duration.asNanos ≤
          nanosPerMillisecond *
            (epollTimeout (.forDuration duration)).toInt.toNat := least.1
    unfold nanosPerMillisecond at *
    omega
  · exact Or.inr clamped

/-- The conversions of every wait limit, on both backends. -/
theorem waits_convert (time : TimeType) :
    (∀ duration : Duration,
      (0 ≤ (epollTimeout (.forDuration duration)).toInt ∧
        (epollTimeout (.forDuration duration)).toInt ≤ i32Max) ∧
      ((epollTimeout (.forDuration duration)).toInt = 0 ↔
        duration = Duration.zero) ∧
      (∀ longer, duration ≤ longer →
        (epollTimeout (.forDuration duration)).toInt ≤
          (epollTimeout (.forDuration longer)).toInt) ∧
      (IsLeast
          {milliseconds : Nat |
            duration.asNanos ≤ nanosPerMillisecond * milliseconds}
          (epollTimeout (.forDuration duration)).toInt.toNat ∨
        (epollTimeout (.forDuration duration)).toInt = i32Max ∧
          nanosPerMillisecond * i32Max < duration.asNanos)) ∧
    (∀ duration : Duration,
      (0 ≤ (intoTimespec time duration).tvSec ∧
        (intoTimespec time duration).tvSec ≤ time.max ∧
        0 ≤ (intoTimespec time duration).tvNsec ∧
        (intoTimespec time duration).tvNsec < nanosPerSecond) ∧
      (intoTimespec time duration = Timespec.zero ↔
        duration = Duration.zero) ∧
      ((intoTimespec time duration).asNanos ≤ duration.asNanos ∧
        ((intoTimespec time duration).asNanos = duration.asNanos ↔
          duration.secs.toNat ≤ time.max)) ∧
      (time.max < duration.secs.toNat →
        (intoTimespec time duration).tvSec = time.max)) ∧
    (epollTimeout .noBlock = 0 ∧
      kqueueTimeout time .noBlock = some Timespec.zero) ∧
    (∀ wait,
      ((epollTimeout wait).toInt < 0 ↔ wait = .forever) ∧
        (kqueueTimeout time wait = none ↔ wait = .forever)) ∧
    ∀ duration : Duration,
      ((epollTimeout (.forDuration duration)).toInt = 0 ↔
        kqueueTimeout time (.forDuration duration) =
          some Timespec.zero) ∧
      ((intoTimespec time duration).asNanos ≤
          (epollTimeout (.forDuration duration)).toInt *
            nanosPerMillisecond ∨
        (epollTimeout (.forDuration duration)).toInt = i32Max ∧
          nanosPerMillisecond * i32Max < duration.asNanos) := by
  refine ⟨fun duration => ?_, fun duration => ?_, ?_, fun wait => ?_,
    fun duration => ?_⟩
  · exact ⟨epollTimeout_range duration, epollTimeout_eq_zero_iff duration,
      fun longer => epollTimeout_mono, epollTimeout_least duration⟩
  · exact ⟨intoTimespec_range time duration,
      intoTimespec_eq_zero_iff time duration,
      intoTimespec_asNanos time duration,
      intoTimespec_clamped time duration⟩
  · refine ⟨by decide, ?_⟩
    exact congrArg some
      ((intoTimespec_eq_zero_iff time Duration.zero).mpr rfl)
  · exact ⟨epollTimeout_neg_iff wait, kqueueTimeout_none_iff time wait⟩
  · refine ⟨?_, epollTimeout_enough time duration⟩
    rw [epollTimeout_eq_zero_iff, ← intoTimespec_eq_zero_iff time]
    exact (Option.some_inj).symm

/-- `time_t` of the 64-bit targets. -/
def wideTime : TimeType where
  max := 2 ^ 63 - 1
  positive := by decide
  narrow := by decide

/-- The longest duration. -/
def longestDuration : Duration where
  secs := 0xFFFFFFFFFFFFFFFF
  nanos := 999999999
  below := by decide

/-- The longest duration is clamped on both sides, at different places. -/
theorem longestDuration_converts :
    (intoTimespec wideTime longestDuration).tvSec = wideTime.max ∧
      epollTimeout (.forDuration longestDuration) = Int32.maxValue := by
  have long : wideTime.max < longestDuration.secs.toNat := by decide
  have clamped := ((waits_convert wideTime).2.1 longestDuration).2.2.2 long
  exact ⟨clamped, by decide⟩

end Zio
