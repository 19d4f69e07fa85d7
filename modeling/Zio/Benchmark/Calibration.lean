import Zio.Benchmark.Record

/-!
# Calibration

A candidate is probed with growing iteration counts until a probe takes long
enough, and its iterations are scaled to the target time.  The loop ends, and
it fails only if a run does or if the scaling overflows.
-/

namespace Zio.Benchmark

def minProbeNs : Nat := 10000000

/-- The elapsed time of a capture, which counts as one nanosecond if the clock
did not move. -/
def elapsed (captured : Captured) : Except String U128 :=
  match captured.metric with
  | .timing elapsed => if 0 < elapsed then .ok elapsed else .ok 1
  | _ => .error "calibration received a non-timing capture"

/-- `Ord::clamp`. -/
def clamp (value least greatest : Nat) : Nat :=
  if value < least then least
  else if greatest < value then greatest
  else value

def growth (elapsed : U128) : Nat :=
  clamp (divCeil minProbeNs (max elapsed.val 1)) 2 16

/-- The iterations of the probe after this one. -/
def nextProbe (iterations maximum : Nat) (elapsed : U128) : Nat :=
  min (usizeSaturatingMul iterations (growth elapsed)) maximum

def scaledIterations
    (iterations : Nat) (elapsedNs : U128) (targetNs maximum : Nat) :
    Except String Nat :=
  if iterations * targetNs < 2 ^ 128 then
    .ok
      (clamp (divCeil (iterations * targetNs) (max elapsedNs.val 1)) 1
        maximum)
  else
    .error "calibration scale overflow"

theorem clamp_bounds
    (value : Nat) {least greatest : Nat} (ordered : least ≤ greatest) :
    least ≤ clamp value least greatest ∧
      clamp value least greatest ≤ greatest := by
  unfold clamp
  split
  · exact ⟨Nat.le_refl least, ordered⟩
  · split
    · exact ⟨ordered, Nat.le_refl greatest⟩
    · omega

/-- A next probe is at least as long as this one, and not beyond the
maximum. -/
theorem nextProbe_bounds
    {iterations maximum : Nat} (addressable : maximum ≤ usizeMax)
    (within : iterations ≤ maximum) (elapsed : U128) :
    iterations ≤ nextProbe iterations maximum elapsed ∧
      nextProbe iterations maximum elapsed ≤ maximum := by
  have grows : 2 ≤ growth elapsed := (clamp_bounds _ (by decide)).1
  have more : iterations ≤ iterations * growth elapsed :=
    Nat.le_mul_of_pos_right iterations (by omega)
  unfold nextProbe usizeSaturatingMul
  exact ⟨le_min (le_min more (within.trans addressable)) within,
    min_le_right _ _⟩

section Probe

variable {World : Type}
  (run : Nat → World → Except String Captured × World)

/-- The loop of the probes. -/
def probe
    (maximum : Nat) (addressable : maximum ≤ usizeMax) (iterations : Nat)
    (within : iterations ≤ maximum) (world : World) :
    Except String (Nat × U128) × World :=
  match run iterations world with
  | (.error message, world) => (.error message, world)
  | (.ok captured, world) =>
      match elapsed captured with
      | .error message => (.error message, world)
      | .ok elapsed =>
          if minProbeNs ≤ elapsed.val ∨ iterations = maximum then
            (.ok (iterations, elapsed), world)
          else if nextProbe iterations maximum elapsed = iterations then
            (.ok (iterations, elapsed), world)
          else
            probe maximum addressable
              (nextProbe iterations maximum elapsed)
              (nextProbe_bounds addressable within elapsed).2 world
termination_by maximum - iterations
decreasing_by
  have bounds := nextProbe_bounds addressable within elapsed
  omega

/-- The probe and the run of the iterations that it asks for, of at least one
iteration. -/
def calibrateWithin
    (seed targetNs maximum : Nat) (addressable : maximum ≤ usizeMax)
    (positive : 1 ≤ maximum) (world : World) :
    Except String Calibration × World :=
  match probe run maximum addressable (clamp seed 1 maximum)
      (clamp_bounds seed positive).2 world with
  | (.error message, world) => (.error message, world)
  | (.ok (iterations, elapsedNs), world) =>
      match scaledIterations iterations elapsedNs targetNs maximum with
      | .error message => (.error message, world)
      | .ok required =>
          match run required world with
          | (.error message, world) => (.error message, world)
          | (.ok captured, world) =>
              match elapsed captured with
              | .error message => (.error message, world)
              | .ok achieved =>
                  (.ok
                    { probeIterations := iterations
                      probeElapsedNs := elapsedNs
                      requiredIterations := required
                      achievedElapsedNs := achieved }, world)

def calibrate
    (seed targetNs maximum : Nat) (addressable : maximum ≤ usizeMax)
    (world : World) : Except String Calibration × World :=
  calibrateWithin run seed targetNs (max maximum 1)
    (max_le addressable (by decide)) (le_max_right maximum 1) world

/-! ## What a calibration does -/

theorem elapsed_ok
    {captured : Captured} (timed : captured.metric.Carries .timing) :
    ∃ value, elapsed captured = .ok value := by
  obtain ⟨value, shape⟩ := timed
  unfold elapsed
  rw [shape]
  by_cases moved : 0 < value
  · exact ⟨value, if_pos moved⟩
  · exact ⟨1, if_neg moved⟩

theorem scaledIterations_ok
    {iterations targetNs maximum : Nat} (within : iterations ≤ maximum)
    (fits : maximum * targetNs < 2 ^ 128) (elapsedNs : U128) :
    ∃ required,
      scaledIterations iterations elapsedNs targetNs maximum =
        .ok required :=
  ⟨_, if_pos ((Nat.mul_le_mul_right targetNs within).trans_lt fits)⟩

/-- Every run keeps what holds before a failure, or else fails. -/
def Runs (quiet failed : World → Prop) : Prop :=
  ∀ iterations world, quiet world →
    (∃ captured, (run iterations world).1 = .ok captured ∧
      captured.metric.Carries .timing ∧ quiet (run iterations world).2) ∨
    (∃ message, (run iterations world).1 = .error message) ∧
      failed (run iterations world).2

variable {run} {quiet failed : World → Prop} (runs : Runs run quiet failed)
include runs

theorem probe_spec
    {maximum : Nat} (addressable : maximum ≤ usizeMax) {iterations : Nat}
    (within : iterations ≤ maximum) {world : World}
    (holds : quiet world) :
    (∃ found,
      (probe run maximum addressable iterations within world).1 =
          .ok found ∧ found.1 ≤ maximum ∧
        quiet (probe run maximum addressable iterations within world).2) ∨
    (∃ message,
      (probe run maximum addressable iterations within world).1 =
          .error message) ∧
        failed
          (probe run maximum addressable iterations within world).2 := by
  induction less : maximum - iterations using Nat.strongRecOn
      generalizing iterations world with
  | ind measure inductionHypothesis =>
      rw [probe]
      rcases runs iterations world holds with
        ⟨captured, ran, timed, after⟩ | ⟨⟨message, ran⟩, after⟩
      · obtain ⟨value, counted⟩ := elapsed_ok timed
        rcases answer : run iterations world with ⟨result, next⟩
        rw [answer] at ran after
        cases ran
        simp only [counted]
        by_cases stops : minProbeNs ≤ value.val ∨ iterations = maximum
        · rw [if_pos stops]
          exact Or.inl ⟨_, rfl, within, after⟩
        · rw [if_neg stops]
          by_cases same :
              nextProbe iterations maximum value = iterations
          · rw [if_pos same]
            exact Or.inl ⟨_, rfl, within, after⟩
          · rw [if_neg same]
            have bounds := nextProbe_bounds addressable within value
            exact inductionHypothesis _ (by omega) bounds.2 after rfl
      · rcases answer : run iterations world with ⟨result, next⟩
        rw [answer] at ran after
        cases ran
        exact Or.inr ⟨⟨message, rfl⟩, after⟩

theorem calibrateWithin_spec
    {maximum targetNs : Nat} (seed : Nat)
    (addressable : maximum ≤ usizeMax) (positive : 1 ≤ maximum)
    (fits : maximum * targetNs < 2 ^ 128) {world : World}
    (holds : quiet world) :
    (∃ calibration,
      (calibrateWithin run seed targetNs maximum addressable positive
          world).1 = .ok calibration ∧
        quiet
          (calibrateWithin run seed targetNs maximum addressable positive
            world).2) ∨
    (∃ message,
      (calibrateWithin run seed targetNs maximum addressable positive
          world).1 = .error message) ∧
        failed
          (calibrateWithin run seed targetNs maximum addressable positive
            world).2 := by
  unfold calibrateWithin
  have probed := probe_spec runs addressable
    (clamp_bounds seed positive).2 holds
  rcases found : probe run maximum addressable (clamp seed 1 maximum)
      (clamp_bounds seed positive).2 world with ⟨result, middle⟩
  rw [found] at probed
  rcases probed with
    ⟨⟨iterations, value⟩, succeeded, within, still⟩ |
      ⟨⟨message, stopped⟩, after⟩
  · cases succeeded
    obtain ⟨required, scaled⟩ := scaledIterations_ok within fits value
    simp only [scaled]
    rcases answer : run required middle with ⟨result, next⟩
    rcases runs required middle still with
      ⟨captured, ran, timed, after⟩ | ⟨⟨message, ran⟩, after⟩
    · rw [answer] at ran after
      cases ran
      obtain ⟨achieved, counted⟩ := elapsed_ok timed
      simp only [counted]
      exact Or.inl ⟨_, rfl, after⟩
    · rw [answer] at ran after
      cases ran
      exact Or.inr ⟨⟨message, rfl⟩, after⟩
  · cases stopped
    exact Or.inr ⟨⟨message, rfl⟩, after⟩

/-- A calibration succeeds through runs that all do, or fails with the first
that does not. -/
theorem calibrate_spec
    {maximum targetNs : Nat} (seed : Nat)
    (addressable : maximum ≤ usizeMax)
    (fits : max maximum 1 * targetNs < 2 ^ 128) {world : World}
    (holds : quiet world) :
    (∃ calibration,
      (calibrate run seed targetNs maximum addressable world).1 =
          .ok calibration ∧
        quiet
          (calibrate run seed targetNs maximum addressable world).2) ∨
    (∃ message,
      (calibrate run seed targetNs maximum addressable world).1 =
          .error message) ∧
        failed
          (calibrate run seed targetNs maximum addressable world).2 :=
  calibrateWithin_spec runs seed (max_le addressable (by decide))
    (le_max_right maximum 1) fits holds

end Probe

end Zio.Benchmark
