import Zio.Benchmark.Receipt
import Zio.Benchmark.Calibration
import Mathlib.Data.Nat.Log

/-!
# Probes of a calibration

The probes of a calibration at least double until one takes long enough or the
maximum is reached, so that there are logarithmically many, and the iterations
that are required are the fewest which are expected to take the target time.
-/

namespace Zio.Benchmark

/-! ## Growing counts -/

/-- One count at least doubles the other, or is the greatest. -/
def Grows (maximum lesser greater : Nat) : Prop :=
  lesser < greater ∧ greater ≤ 16 * lesser ∧
    (2 * lesser ≤ greater ∨ greater = maximum)

theorem growing_length
    {maximum : Nat} {counts : List Nat} {first : Nat}
    (grows : (first :: counts).IsChain (Grows maximum))
    (within : ∀ count ∈ first :: counts, count ≤ maximum) :
    2 ^ (counts.length + 1) * first ≤ 4 * maximum := by
  induction counts generalizing first with
  | nil =>
      have most := within first List.mem_cons_self
      simp only [List.length_nil]
      omega
  | cons next rest inductionHypothesis =>
      rw [List.isChain_cons_cons] at grows
      obtain ⟨⟨less, _, doubles⟩, later⟩ := grows
      have bound := inductionHypothesis later fun count member =>
        within count (List.mem_cons_of_mem first member)
      have most := within next
        (List.mem_cons_of_mem first List.mem_cons_self)
      rcases doubles with doubles | greatest
      · have step : 2 ^ (rest.length + 1) * (2 * first) ≤
            2 ^ (rest.length + 1) * next :=
          Nat.mul_le_mul_left _ doubles
        rw [List.length_cons, Nat.pow_succ, Nat.mul_assoc]
        exact step.trans bound
      · cases rest with
        | nil =>
            simp only [List.length_cons, List.length_nil]
            omega
        | cons beyond others =>
            rw [List.isChain_cons_cons] at later
            have more := later.1.1
            have inside := within beyond
              (List.mem_cons_of_mem first
                (List.mem_cons_of_mem next List.mem_cons_self))
            omega

/-- Growing counts are few. -/
theorem growing_few
    {maximum first : Nat} {counts : List Nat} (positive : 1 ≤ first)
    (grows : (first :: counts).IsChain (Grows maximum))
    (within : ∀ count ∈ first :: counts, count ≤ maximum) :
    (first :: counts).length ≤ Nat.log 2 maximum + 2 := by
  have bound := growing_length grows within
  have most := within first List.mem_cons_self
  have power : 2 ^ (counts.length + 1) ≤ 4 * maximum :=
    (Nat.le_mul_of_pos_right _ positive).trans bound
  have four : 4 * maximum < 2 ^ (Nat.log 2 maximum + 3) := by
    have above := Nat.lt_pow_succ_log_self Nat.one_lt_two maximum
    rw [Nat.pow_succ, Nat.pow_succ] at *
    omega
  have exponents := (Nat.pow_lt_pow_iff_right Nat.one_lt_two).mp
    (power.trans_lt four)
  rw [List.length_cons]
  omega

/-- A next probe grows, unless this one is already the greatest. -/
theorem nextProbe_grows
    {iterations maximum : Nat} (addressable : maximum ≤ usizeMax)
    (positive : 1 ≤ iterations) (less : iterations < maximum)
    (elapsed : U128) :
    Grows maximum iterations (nextProbe iterations maximum elapsed) := by
  have bounds : 2 ≤ growth elapsed ∧ growth elapsed ≤ 16 :=
    clamp_bounds _ (by decide)
  have twice : iterations * 2 ≤ iterations * growth elapsed :=
    Nat.mul_le_mul_left iterations bounds.1
  have most : iterations * growth elapsed ≤ iterations * 16 :=
    Nat.mul_le_mul_left iterations bounds.2
  unfold Grows nextProbe usizeSaturatingMul
  omega

/-! ## Probes -/

section Probes

variable {World : Type}
  (run : Nat → World → Except String Captured × World)

/-- The world after runs of some iterations. -/
def replay (calls : List Nat) (world : World) : World :=
  calls.foldl (fun world iterations => (run iterations world).2) world

/-- A probe that has been taken, after some others. -/
structure Taken
    (maximum : Nat) (world : World) (calls : List Nat)
    (found : Nat × U128) : Prop where
  last : ∃ earlier captured, calls = earlier ++ [found.1] ∧
    (run found.1 (replay run earlier world)).1 = .ok captured ∧
      elapsed captured = .ok found.2
  enough : minProbeNs ≤ found.2.val ∨ found.1 = maximum

/-- A probe that has failed, after some others. -/
def Broken (world : World) (calls : List Nat) (message : String) : Prop :=
  ∃ earlier last, calls = earlier ++ [last] ∧
    (run last (replay run earlier world)).1.bind elapsed = .error message

/-- The runs of a probe, whatever they return. -/
structure Probing
    (maximum iterations : Nat) (world : World) (calls : List Nat)
    (result : Except String (Nat × U128)) (after : World) : Prop where
  starts : ∃ rest, calls = iterations :: rest
  grows : calls.IsChain (Grows maximum)
  within : ∀ count ∈ calls, iterations ≤ count ∧ count ≤ maximum
  after : after = replay run calls world
  taken : ∀ found, result = .ok found →
    Taken run maximum world calls found
  broken : ∀ message, result = .error message →
    Broken run world calls message

variable {run}

theorem Probing.single
    {maximum iterations : Nat} (inside : iterations ≤ maximum)
    {world : World} {result : Except String (Nat × U128)}
    (taken : ∀ found, result = .ok found →
      Taken run maximum world [iterations] found)
    (broken : ∀ message, result = .error message →
      (run iterations world).1.bind elapsed = .error message) :
    Probing run maximum iterations world [iterations] result
      (run iterations world).2 :=
  { starts := ⟨[], rfl⟩
    grows := List.IsChain.singleton iterations
    within := fun count member => by
      rw [List.mem_singleton.mp member]
      exact ⟨Nat.le_refl iterations, inside⟩
    after := rfl
    taken
    broken := fun message failed =>
      ⟨[], iterations, rfl, broken message failed⟩ }

theorem Probing.cons
    {maximum iterations next : Nat} (inside : iterations ≤ maximum)
    (grows : Grows maximum iterations next)
    {world : World} {calls : List Nat}
    {result : Except String (Nat × U128)} {after : World}
    (probing : Probing run maximum next (run iterations world).2 calls
      result after) :
    Probing run maximum iterations world (iterations :: calls) result
      after := by
  obtain ⟨rest, rfl⟩ := probing.starts
  refine
    { starts := ⟨next :: rest, rfl⟩
      grows := List.isChain_cons_cons.mpr ⟨grows, probing.grows⟩
      within := fun count member => ?_
      after := probing.after
      taken := fun found stopped => ?_
      broken := fun message failed => ?_ }
  · rcases List.mem_cons.mp member with rfl | later
    · exact ⟨Nat.le_refl count, inside⟩
    · have bounds := probing.within count later
      exact ⟨grows.1.le.trans bounds.1, bounds.2⟩
  · have taken := probing.taken found stopped
    obtain ⟨earlier, captured, shape, ran⟩ := taken.last
    exact
      { last := ⟨iterations :: earlier, captured, by rw [shape]; rfl, ran⟩
        enough := taken.enough }
  · obtain ⟨earlier, last, shape, ran⟩ := probing.broken message failed
    exact ⟨iterations :: earlier, last, by rw [shape]; rfl, ran⟩

theorem probe_probing
    {maximum : Nat} (addressable : maximum ≤ usizeMax) {iterations : Nat}
    (positive : 1 ≤ iterations) (within : iterations ≤ maximum)
    (world : World) :
    ∃ calls,
      Probing run maximum iterations world calls
        (probe run maximum addressable iterations within world).1
        (probe run maximum addressable iterations within world).2 := by
  induction less : maximum - iterations using Nat.strongRecOn
      generalizing iterations world with
  | ind measure inductionHypothesis =>
      rw [probe]
      rcases answer : run iterations world with ⟨result, next⟩
      have moved : next = (run iterations world).2 := by rw [answer]
      cases result with
      | error message =>
          refine ⟨[iterations], ?_⟩
          rw [moved]
          refine Probing.single within (fun found stopped => by cases stopped)
            fun _ failed => ?_
          cases failed
          rw [answer]
          rfl
      | ok captured =>
          simp only
          cases counted : elapsed captured with
          | error message =>
              refine ⟨[iterations], ?_⟩
              rw [moved]
              refine Probing.single within (fun found stopped => by
                cases stopped) fun _ failed => ?_
              cases failed
              rw [answer]
              exact counted
          | ok value =>
              simp only
              have ran : (run iterations world).1 = .ok captured := by
                rw [answer]
              by_cases stops :
                  minProbeNs ≤ value.val ∨ iterations = maximum
              · rw [if_pos stops]
                refine ⟨[iterations], ?_⟩
                rw [moved]
                refine Probing.single within (fun found stopped => ?_)
                  fun _ failed => by cases failed
                cases stopped
                exact
                  { last := ⟨[], captured, rfl, ran, counted⟩
                    enough := stops }
              · rw [if_neg stops]
                have shorter : iterations < maximum := by omega
                have grows := nextProbe_grows addressable positive shorter
                  value
                have moves := grows.1
                rw [if_neg moves.ne']
                have bounds := nextProbe_bounds addressable within value
                obtain ⟨calls, probing⟩ :=
                  inductionHypothesis _ (by omega)
                    (positive.trans moves.le) bounds.2 next rfl
                refine ⟨iterations :: calls, ?_⟩
                rw [moved] at probing ⊢
                exact probing.cons within grows

/-! ## Calibrations -/

theorem divCeil_le_iff
    {value divisor bound : Nat} (positive : 0 < divisor) :
    divCeil value divisor ≤ bound ↔ value ≤ bound * divisor := by
  unfold divCeil
  by_cases even : value % divisor = 0
  · rw [if_pos even, Nat.add_zero]
    have whole := Nat.div_mul_cancel (Nat.dvd_of_mod_eq_zero even)
    constructor
    · intro quotient
      exact whole.symm.le.trans (Nat.mul_le_mul_right divisor quotient)
    · intro product
      exact Nat.div_le_of_le_mul (Nat.mul_comm bound divisor ▸ product)
  · rw [if_neg even]
    refine (Nat.div_lt_iff_lt_mul positive).trans ⟨Nat.le_of_lt, ?_⟩
    intro product
    refine lt_of_le_of_ne product fun same => even ?_
    rw [same, Nat.mul_mod_left]

/-- The iterations that the scaling asks for, as the fewest that would take
the target time at the pace of the probe. -/
structure Scaled
    (iterations : Nat) (elapsedNs : U128) (targetNs maximum required : Nat) :
    Prop where
  within : 1 ≤ required ∧ required ≤ maximum
  sufficient : required = maximum ∨
    iterations * targetNs ≤ required * elapsedNs.val
  least : ∀ fewer, 1 ≤ fewer → fewer < required →
    fewer * elapsedNs.val < iterations * targetNs

theorem scaledIterations_scaled
    {iterations targetNs maximum required : Nat} {elapsedNs : U128}
    (positive : 1 ≤ maximum) (moved : 1 ≤ elapsedNs.val)
    (scaled : scaledIterations iterations elapsedNs targetNs maximum =
      .ok required) :
    Scaled iterations elapsedNs targetNs maximum required := by
  unfold scaledIterations at scaled
  split at scaled
  · cases scaled
    rw [max_eq_left moved]
    have ceiling := @divCeil_le_iff (iterations * targetNs) elapsedNs.val
    refine
      { within := clamp_bounds _ positive
        sufficient := ?_
        least := fun fewer least less => ?_ }
    · unfold clamp
      split
      · right
        exact (ceiling moved).mp (by omega)
      · split
        · exact Or.inl rfl
        · exact Or.inr ((ceiling moved).mp (Nat.le_refl _))
    · have above : ¬ divCeil (iterations * targetNs) elapsedNs.val ≤
          fewer := by
        unfold clamp at less
        split at less
        · omega
        · split at less <;> omega
      rw [ceiling moved] at above
      omega
  · cases scaled

theorem elapsed_positive
    {captured : Captured} {value : U128}
    (counted : elapsed captured = .ok value) : 1 ≤ value.val := by
  unfold elapsed at counted
  split at counted
  · split at counted
    · rename_i moved
      cases counted
      exact moved
    · cases counted
      exact Nat.le_refl 1
  · cases counted

/-- What a calibration has done when it succeeds: its probes, and a run of the
iterations that it requires. -/
structure Calibrated
    (run : Nat → World → Except String Captured × World)
    (targetNs maximum : Nat) (world : World) (calls : List Nat)
    (calibration : Calibration) : Prop where
  probed : ∃ probes captured,
    calls = probes ++ [calibration.requiredIterations] ∧
      Taken run maximum world probes
          (calibration.probeIterations, calibration.probeElapsedNs) ∧
        (run calibration.requiredIterations (replay run probes world)).1 =
            .ok captured ∧
          elapsed captured = .ok calibration.achievedElapsedNs
  scaled : Scaled calibration.probeIterations calibration.probeElapsedNs
    targetNs maximum calibration.requiredIterations

/-- The runs of a calibration, whatever they return. -/
structure Calibrating
    (run : Nat → World → Except String Captured × World)
    (seed targetNs maximum : Nat) (world : World) (calls : List Nat)
    (result : Except String Calibration) (after : World) : Prop where
  starts : calls.head? = some (clamp seed 1 maximum)
  grows : ∃ probes rest, calls = probes ++ rest ∧
    probes.IsChain (Grows maximum) ∧ rest.length ≤ 1 ∧
      ((∃ found, Taken run maximum world probes found) ∨
        rest = [] ∧ ∃ message, result = .error message ∧
          Broken run world probes message)
  within : ∀ count ∈ calls, 1 ≤ count ∧ count ≤ maximum
  few : calls.length ≤ Nat.log 2 maximum + 3
  after : after = replay run calls world
  calibrated : ∀ calibration, result = .ok calibration →
    Calibrated run targetNs maximum world calls calibration

theorem Probing.calibrating
    {seed targetNs maximum : Nat} (positive : 1 ≤ maximum) {world : World}
    {probes rest : List Nat} {probed : Except String (Nat × U128)}
    {result : Except String Calibration} {middle after : World}
    (probing : Probing run maximum (clamp seed 1 maximum) world probes
      probed middle)
    (single : rest.length ≤ 1)
    (ends : (∃ found, probed = .ok found) ∨
      rest = [] ∧ ∃ message, probed = .error message ∧
        result = .error message)
    (within : ∀ count ∈ rest, 1 ≤ count ∧ count ≤ maximum)
    (reached : after = replay run rest middle)
    (calibrated : ∀ calibration, result = .ok calibration →
      Calibrated run targetNs maximum world (probes ++ rest)
        calibration) :
    Calibrating run seed targetNs maximum world (probes ++ rest) result
      after := by
  obtain ⟨others, rfl⟩ := probing.starts
  have least := (clamp_bounds seed positive).1
  have few := growing_few least probing.grows fun count member =>
    (probing.within count member).2
  refine
    { starts := rfl
      grows := ⟨_, rest, rfl, probing.grows, single, ?_⟩
      within := fun count member => ?_
      few := ?_
      after := ?_
      calibrated }
  · rcases ends with ⟨found, ended⟩ | ⟨alone, message, failed, reported⟩
    · exact Or.inl ⟨found, probing.taken found ended⟩
    · exact Or.inr ⟨alone, message, reported,
        probing.broken message failed⟩
  · rcases List.mem_append.mp member with early | late
    · have bounds := probing.within count early
      exact ⟨least.trans bounds.1, bounds.2⟩
    · exact within count late
  · rw [List.length_append]
    omega
  · rw [reached, probing.after]
    unfold replay
    rw [List.foldl_append]

theorem calibrateWithin_calibrating
    {seed targetNs maximum : Nat} (addressable : maximum ≤ usizeMax)
    (positive : 1 ≤ maximum) (world : World) :
    ∃ calls,
      Calibrating run seed targetNs maximum world calls
        (calibrateWithin run seed targetNs maximum addressable positive
          world).1
        (calibrateWithin run seed targetNs maximum addressable positive
          world).2 := by
  obtain ⟨probes, probing⟩ := @probe_probing World run maximum addressable
    (clamp seed 1 maximum) (clamp_bounds seed positive).1
    (clamp_bounds seed positive).2 world
  unfold calibrateWithin
  rcases found : probe run maximum addressable (clamp seed 1 maximum)
      (clamp_bounds seed positive).2 world with ⟨result, middle⟩
  rw [found] at probing
  have stopping : ∀ message : String,
      (∃ taken, result = .ok taken) ∨ result = .error message →
      Calibrating run seed targetNs maximum world (probes ++ [])
        (.error message) middle := fun message ended =>
    probing.calibrating positive (Nat.zero_le 1)
      (ended.imp_right fun failed => ⟨rfl, message, failed, rfl⟩)
      (fun count member => by cases member) rfl
      (fun calibration same => by cases same)
  cases result with
  | error message => exact ⟨_, stopping message (Or.inr rfl)⟩
  | ok taken =>
      obtain ⟨iterations, elapsedNs⟩ := taken
      simp only
      cases asked : scaledIterations iterations elapsedNs targetNs
          maximum with
      | error message => exact ⟨_, stopping message (Or.inl ⟨_, rfl⟩)⟩
      | ok required =>
          simp only
          have stopped := probing.taken _ rfl
          have moved : 1 ≤ elapsedNs.val := by
            obtain ⟨_, _, _, _, counted⟩ := stopped.last
            exact elapsed_positive counted
          have scaled := scaledIterations_scaled positive moved asked
          have finishing : ∀ result : Except String Calibration,
              (∀ calibration, result = .ok calibration →
                Calibrated run targetNs maximum world
                  (probes ++ [required]) calibration) →
              Calibrating run seed targetNs maximum world
                (probes ++ [required]) result (run required middle).2 :=
            fun result calibrated =>
              probing.calibrating positive (Nat.le_refl 1)
                (Or.inl ⟨_, rfl⟩) (fun count member => by
                  rw [List.mem_singleton.mp member]
                  exact scaled.within) rfl calibrated
          rcases answer : run required middle with ⟨pilot, after⟩
          rw [answer] at finishing
          cases pilot with
          | error message =>
              exact ⟨_, finishing _ fun calibration same => by cases same⟩
          | ok captured =>
              simp only
              cases counted : elapsed captured with
              | error message =>
                  exact ⟨_, finishing _ fun calibration same => by
                    cases same⟩
              | ok achieved =>
                  refine ⟨_, finishing _ fun calibration same => ?_⟩
                  cases same
                  exact
                    { probed := ⟨probes, captured, rfl, stopped, by
                        rw [← probing.after, answer], counted⟩
                      scaled }

/-- Whatever the runs return, a calibration takes logarithmically many, of
growing iterations within the maximum, until one takes long enough, is the
maximum, or fails; when it succeeds, it has run the fewest iterations that take
the target time at the pace of its last probe, or the maximum. -/
theorem calibrate_probes
    (run : Nat → World → Except String Captured × World)
    (seed targetNs maximum : Nat) (addressable : maximum ≤ usizeMax)
    (world : World) :
    ∃ calls,
      Calibrating run seed targetNs (max maximum 1) world calls
        (calibrate run seed targetNs maximum addressable world).1
        (calibrate run seed targetNs maximum addressable world).2 :=
  calibrateWithin_calibrating (max_le addressable (by decide))
    (le_max_right maximum 1) world

end Probes

/-- A candidate that takes a millisecond for an iteration. -/
def steadyRun (iterations : Nat) (world : Unit) :
    Except String Captured × Unit :=
  (.ok
    { counts := { operations := UInt64.ofNat iterations, events := 0 }
      metric := .timing (u128OfU64 (UInt64.ofNat (1000000 * iterations)))
      liveFds := none }, world)

theorem steadyRun_probes :
    ∃ calls,
      Calibrating steadyRun 1 50000000 (max 100 1) () calls
        (calibrate steadyRun 1 50000000 100 (by decide) ()).1
        (calibrate steadyRun 1 50000000 100 (by decide) ()).2 :=
  calibrate_probes steadyRun 1 50000000 100 (by decide) ()

end Zio.Benchmark
