import Zio.Benchmark.Config

/-!
# Benchmark records

What a run of a candidate captures, what a receipt says about the host, and the
descriptor counts around a sample.
-/

namespace Zio.Benchmark

/-! ## Captures -/

structure Counts where
  operations : UInt64
  events : UInt64
deriving DecidableEq, Repr

structure Allocations where
  countTotal : UInt64
  countCurrent : Int64
  countPeak : UInt64
  bytesTotal : UInt64
  bytesCurrent : Int64
  bytesPeak : UInt64
deriving DecidableEq, Repr

inductive CapturedMetric where
  | warmup
  | timing (elapsedNs : U128)
  | allocation (value : Allocations)
deriving DecidableEq, Repr

/-- The capture is one of the requested metric. -/
def CapturedMetric.Carries (self : CapturedMetric) : Metric → Prop
  | .timing => ∃ elapsed, self = timing elapsed
  | .allocation => ∃ value, self = allocation value

structure LiveFds where
  fixtureBaseline : Nat
  candidateSetup : Nat
  active : Nat
  postCleanup : Nat
deriving DecidableEq, Repr

structure Captured where
  counts : Counts
  metric : CapturedMetric
  liveFds : Option LiveFds
deriving DecidableEq, Repr

structure Sample where
  round : Nat
  orderPosition : Nat
  captured : Captured
  retainedFdDelta : Option Int64
deriving DecidableEq, Repr

/-- The difference of two descriptor counts, if it fits. -/
def fdDelta (before after : Option Nat) : Option Int64 :=
  match before, after with
  | some before, some after =>
      let difference : Int := (after : Int) - before
      if -(2 ^ 63 : Int) ≤ difference ∧ difference < 2 ^ 63 then
        some (Int64.ofInt difference)
      else
        none
  | _, _ => none

namespace LiveFds

def setupDelta (self : LiveFds) : Option Int64 :=
  fdDelta (some self.fixtureBaseline) (some self.candidateSetup)

def activeDelta (self : LiveFds) : Option Int64 :=
  fdDelta (some self.fixtureBaseline) (some self.active)

def cleanupDelta (self : LiveFds) : Option Int64 :=
  fdDelta (some self.fixtureBaseline) (some self.postCleanup)

end LiveFds

/-- A readable descriptor directory, or why there is none. -/
inductive FdProbe where
  | available (path : OsString)
  | unavailable (reason : String)
deriving DecidableEq, Repr

namespace FdProbe

def path : FdProbe → Option String
  | available (.text path) => some path
  | available (.bytes _) => none
  | unavailable _ => none

def reason : FdProbe → Option String
  | available _ => none
  | unavailable reason => some reason

end FdProbe

/-! ## Candidates -/

structure Calibration where
  probeIterations : Nat
  probeElapsedNs : U128
  requiredIterations : Nat
  achievedElapsedNs : U128
deriving DecidableEq, Repr

structure CandidateSamples where
  implementation : Implementation
  samples : List Sample
  failed : Bool
  calibration : Option Calibration
  iterations : Nat
  warmupIterations : Nat
deriving DecidableEq, Repr

def CandidateSamples.new
    (implementation : Implementation) (calibration : Option Calibration)
    (iterations : Nat) : CandidateSamples :=
  { implementation
    samples := []
    failed := false
    calibration
    iterations
    warmupIterations := 0 }

structure Unsupported where
  code : String
  reason : String
  requiredAdditionalFds : Option UInt64
  observedOpenFds : Option UInt64
  observedSoftFdLimit : Option UInt64
  fdLimitSource : Option String
deriving DecidableEq, Repr

inductive Support where
  | available
  | unavailable (reason : Unsupported)
deriving DecidableEq, Repr

/-! ## Host -/

structure Metadata where
  gitSha : String
  gitShaSource : String
  gitDirty : Option Bool
  os : String
  osVersion : String
  arch : String
  cpu : String
  rustc : String
  qualifyVersion : String
  buildProfile : String
  rustflags : String
  recordedUnixMs : U128
deriving DecidableEq, Repr

end Zio.Benchmark
