import Zio.Benchmark.Preparation

/-!
# Rounds of measurements

In every round each candidate that has not failed is measured once, at the
position to which the round rotates it.  All calls are for the same iterations,
and the samples of a candidate are those of the rounds so far, in their order.
-/

namespace Zio.Benchmark

variable {World : Type}

/-- The candidates of a rotation, before an order position of a round. -/
structure Measured
    (metric : Metric) (entered : List Implementation)
    (shared round position : Nat) (active : List CandidateSamples)
    (progress : Progress World) : Prop where
  entrants : active.map CandidateSamples.implementation = entered
  equal : ∀ candidate ∈ active, candidate.iterations = shared
  captured : ∀ candidate ∈ active, OfMetric metric candidate.samples
  placed : ∀ (index : Nat) (candidate : CandidateSamples),
    active[index]? = some candidate →
      ∀ sample ∈ candidate.samples,
        sample.orderPosition < entered.length ∧
          rotated sample.round sample.orderPosition entered.length = index
  visited : ∀ (index : Nat) (candidate : CandidateSamples),
    active[index]? = some candidate → candidate.failed = false →
      (∃ earlier < position,
        rotated round earlier entered.length = index) →
        candidate.samples.map Sample.round = List.range (round + 1)
  due : ∀ (index : Nat) (candidate : CandidateSamples),
    active[index]? = some candidate → candidate.failed = false →
      (¬∃ earlier < position,
        rotated round earlier entered.length = index) →
        candidate.samples.map Sample.round = List.range round
  slots : ∀ call ∈ progress.calls, ∀ slot, call.slot = some slot →
    (slot.1 < round ∨ slot.1 = round ∧ slot.2 < position) ∧
      slot.2 < entered.length ∧
      entered[rotated slot.1 slot.2 entered.length]? =
        some call.implementation ∧
      call.iterations = shared
  ordered : (progress.calls.filterMap RunCall.slot).Pairwise
    fun earlier later =>
      earlier.1 < later.1 ∨ earlier.1 = later.1 ∧ earlier.2 < later.2

/-- What a measurement leaves of a candidate. -/
structure Sampled
    (round position : Nat) (candidate after : CandidateSamples) :
    Prop where
  implementation : after.implementation = candidate.implementation
  iterations : after.iterations = candidate.iterations
  samples : after.failed = true ∧ after.samples = candidate.samples ∨
    after.failed = false ∧ ∃ sample,
      sample.round = round ∧ sample.orderPosition = position ∧
        after.samples = candidate.samples ++ [sample]

section Measured

variable {metric : Metric} {entered : List Implementation}
  {shared round position : Nat} {active : List CandidateSamples}
  {start finish : Progress World}

theorem visited_succ
    {count index : Nat} :
    (∃ earlier < position + 1, rotated round earlier count = index) ↔
      (∃ earlier < position, rotated round earlier count = index) ∨
        rotated round position count = index := by
  constructor
  · rintro ⟨earlier, less, same⟩
    by_cases now : earlier = position
    · exact Or.inr (now ▸ same)
    · exact Or.inl ⟨earlier, by omega, same⟩
  · rintro (⟨earlier, less, same⟩ | same)
    · exact ⟨earlier, by omega, same⟩
    · exact ⟨position, Nat.lt_succ_self position, same⟩

/-- The candidate at a position was not visited in this round. -/
theorem not_visited
    {count : Nat} (inside : position < count) :
    ¬∃ earlier < position,
      rotated round earlier count = rotated round position count := by
  rintro ⟨earlier, less, same⟩
  have equal := Rotation.position_unique (by omega) inside same
  omega

/-- A failed candidate is passed over. -/
theorem Measured.skip
    {candidate : CandidateSamples}
    (measured : Measured metric entered shared round position active start)
    (found : active[rotated round position entered.length]? =
      some candidate)
    (failed : candidate.failed = true) :
    Measured metric entered shared round (position + 1) active start := by
  have apart : ∀ (index : Nat) (other : CandidateSamples),
      active[index]? = some other → other.failed = false →
        rotated round position entered.length ≠ index := by
    intro index other held running same
    rw [same, held] at found
    cases found
    rw [running] at failed
    cases failed
  exact
    { entrants := measured.entrants
      equal := measured.equal
      captured := measured.captured
      placed := measured.placed
      visited := fun index other held running visited => by
        rcases visited_succ.mp visited with earlier | now
        · exact measured.visited index other held running earlier
        · exact absurd now (apart index other held running)
      due := fun index other held running due =>
        measured.due index other held running fun earlier =>
          due (visited_succ.mpr (Or.inl earlier))
      slots := fun call member slot shape => by
        obtain ⟨before, facts⟩ := measured.slots call member slot shape
        exact ⟨by omega, facts⟩
      ordered := measured.ordered }

/-- A candidate that has not failed is measured. -/
theorem Measured.visit
    {candidate after : CandidateSamples} {call : RunCall}
    (measured : Measured metric entered shared round position active start)
    (inside : position < entered.length)
    (found : active[rotated round position entered.length]? =
      some candidate)
    (running : candidate.failed = false)
    (sampled : Sampled round position candidate after)
    (captured : OfMetric metric after.samples)
    (calls : finish.calls = start.calls ++ [call])
    (slot : call.slot = some (round, position))
    (caller : call.implementation = candidate.implementation)
    (iterations : call.iterations = candidate.iterations) :
    Measured metric entered shared round (position + 1)
      (active.set (rotated round position entered.length) after)
      finish := by
  have member := List.mem_of_getElem? found
  have bound := (List.getElem?_eq_some_iff.mp found).1
  have entrant : entered[rotated round position entered.length]? =
      some candidate.implementation := by
    have mapped := congrArg
      (fun items => items[rotated round position entered.length]?)
      measured.entrants
    simp only [List.getElem?_map, found, Option.map_some] at mapped
    exact mapped.symm
  have lookup : ∀ (index : Nat) (other : CandidateSamples),
      (active.set (rotated round position entered.length) after)[index]? =
          some other →
        rotated round position entered.length = index ∧ other = after ∨
          rotated round position entered.length ≠ index ∧
            active[index]? = some other := by
    intro index other held
    by_cases same : rotated round position entered.length = index
    · rw [← same, List.getElem?_set_self bound] at held
      exact Or.inl ⟨same, (Option.some.inj held).symm⟩
    · rw [List.getElem?_set_ne same] at held
      exact Or.inr ⟨same, held⟩
  have all : ∀ other ∈ active.set
      (rotated round position entered.length) after,
        other = after ∨ other ∈ active := by
    intro other inside
    rcases List.mem_or_eq_of_mem_set inside with old | new
    · exact Or.inr old
    · exact Or.inl new
  refine
    { entrants := ?_
      equal := fun other inside => ?_
      captured := fun other inside => ?_
      placed := fun index other held => ?_
      visited := fun index other held unfailed visited => ?_
      due := fun index other held unfailed due => ?_
      slots := fun other inside used shape => ?_
      ordered := ?_ }
  · obtain ⟨held, value⟩ := List.getElem?_eq_some_iff.mp entrant
    rw [List.map_set, sampled.implementation, measured.entrants, ← value]
    exact List.set_getElem_self held
  · rcases all other inside with rfl | old
    · rw [sampled.iterations]
      exact measured.equal candidate member
    · exact measured.equal other old
  · rcases all other inside with rfl | old
    · exact captured
    · exact measured.captured other old
  · rcases lookup index other held with ⟨rfl, rfl⟩ | ⟨_, old⟩
    · have before := measured.placed _ candidate found
      rcases sampled.samples with ⟨_, same⟩ | ⟨_, sample, inRound, at_, same⟩
      · rw [same]
        exact before
      · rw [same]
        intro taken inside'
        rcases List.mem_append.mp inside' with old | new
        · exact before taken old
        · rw [List.mem_singleton] at new
          rw [new, inRound, at_]
          exact ⟨inside, rfl⟩
    · exact measured.placed index other old
  · rcases lookup index other held with ⟨rfl, rfl⟩ | ⟨apart, old⟩
    · have rounds := measured.due _ candidate found running
        (not_visited inside)
      rcases sampled.samples with ⟨failed, _⟩ | ⟨_, sample, inRound, _, same⟩
      · rw [failed] at unfailed
        cases unfailed
      · rw [same, List.map_append, rounds, List.range_succ, ← inRound]
        rfl
    · rcases visited_succ.mp visited with earlier | now
      · exact measured.visited index other old unfailed earlier
      · exact absurd now apart
  · rcases lookup index other held with ⟨rfl, rfl⟩ | ⟨_, old⟩
    · exact absurd (visited_succ.mpr (Or.inr rfl)) due
    · exact measured.due index other old unfailed fun earlier =>
        due (visited_succ.mpr (Or.inl earlier))
  · rw [calls] at inside
    rcases List.mem_append.mp inside with old | new
    · obtain ⟨before, facts⟩ := measured.slots other old used shape
      exact ⟨by omega, facts⟩
    · rw [List.mem_singleton] at new
      rw [new, slot] at shape
      cases shape
      rw [new]
      refine ⟨Or.inr ⟨rfl, Nat.lt_succ_self position⟩, by assumption, ?_,
        ?_⟩
      · rw [caller]
        exact entrant
      · rw [iterations]
        exact measured.equal candidate member
  · rw [calls, List.filterMap_append]
    refine List.pairwise_append.mpr ⟨measured.ordered, ?_, ?_⟩
    · rw [List.filterMap_cons, slot]
      exact List.pairwise_singleton _ _
    · intro earlier old later new
      obtain ⟨other, inside', shape⟩ := List.mem_filterMap.mp old
      have before := (measured.slots other inside' earlier shape).1
      rw [List.filterMap_cons, slot] at new
      simp only [List.filterMap_nil, List.mem_singleton] at new
      rw [new]
      exact before

/-- After its last position a round is over. -/
theorem Measured.next
    (measured : Measured metric entered shared round entered.length active
      start) :
    Measured metric entered shared (round + 1) 0 active start := by
  have length : active.length = entered.length := by
    rw [← measured.entrants, List.length_map]
  refine
    { entrants := measured.entrants
      equal := measured.equal
      captured := measured.captured
      placed := measured.placed
      visited := fun index other held unfailed visited => ?_
      due := fun index other held unfailed _ => ?_
      slots := fun call member slot shape => ?_
      ordered := measured.ordered }
  · obtain ⟨earlier, less, _⟩ := visited
    cases less
  · have bound := (List.getElem?_eq_some_iff.mp held).1
    exact measured.visited index other held unfailed
      (Rotation.position_exists round (length ▸ bound))
  · obtain ⟨before, facts⟩ := measured.slots call member slot shape
    exact ⟨by omega, facts⟩

end Measured

section Rounds

variable {metric : Metric} {config : Config} {metadata : Metadata}
  {scenario : Scenario} {fdProbe : FdProbe}
  {asked entered : List Implementation}
  {shared before : Nat} {active : List CandidateSamples} {failures : Nat}
  {start : Progress World}

/-- The candidate at an index, and the list with another in its place. -/
theorem set_split
    {items : List CandidateSamples} {index : Nat}
    {candidate : CandidateSamples} (found : items[index]? = some candidate) :
    ∃ earlier later, items = earlier ++ candidate :: later ∧
      ∀ after, items.set index after = earlier ++ after :: later := by
  obtain ⟨bound, value⟩ := List.getElem?_eq_some_iff.mp found
  refine ⟨items.take index, items.drop (index + 1), ?_, fun after => ?_⟩
  · rw [← value, List.cons_getElem_drop_succ, List.take_append_drop]
  · rw [List.set_eq_take_append_cons_drop, if_pos bound]

theorem Accounts.set
    {index : Nat} {stage : Stage} {candidate after : CandidateSamples}
    {counted : Nat} {finish : Progress World}
    (accounts : Accounts metric config metadata scenario fdProbe asked
      active before failures start)
    (found : active[index]? = some candidate)
    (running : candidate.failed = false)
    (visit : Visit metric config metadata scenario fdProbe stage candidate
      after failures counted start finish) :
    Accounts metric config metadata scenario fdProbe asked
      (active.set index after) before counted finish := by
  obtain ⟨earlier, later, split, replaced⟩ := set_split found
  rw [split] at accounts
  rw [replaced]
  exact accounts.visit running visit

theorem measureOne_spec
    {driver : Driver World} (honest : driver.Honest)
    {round position : Nat}
    (accounts : Accounts metric config metadata scenario fdProbe asked
      active before failures start)
    (measured : Measured metric entered shared round position active start)
    (inside : position < entered.length) :
    ∃ after counted finish,
      measureOne driver metric config metadata scenario fdProbe round
          position active failures start = .ok (after, counted, finish) ∧
        Accounts metric config metadata scenario fdProbe asked after before
          counted finish ∧
        Measured metric entered shared round (position + 1) after
          finish := by
  have length : active.length = entered.length := by
    rw [← measured.entrants, List.length_map]
  have bound : rotated round position entered.length < active.length := by
    rw [length]
    exact Nat.mod_lt _ (Nat.zero_lt_of_lt inside)
  obtain ⟨candidate, found⟩ :
      ∃ candidate, active[rotated round position entered.length]? =
        some candidate :=
    ⟨_, List.getElem?_eq_getElem bound⟩
  have held := measured.captured candidate (List.mem_of_getElem? found)
  unfold measureOne
  rw [length]
  simp only [found]
  cases failed : candidate.failed with
  | true =>
      rw [if_pos rfl]
      exact ⟨active, failures, start, rfl, accounts,
        measured.skip found failed⟩
  | false =>
      rw [if_neg Bool.false_ne_true]
      have opened := Ran.count start driver fdProbe candidate.implementation
        (.measurement round position)
      rcases (start.count driver fdProbe).2.run_cases driver
          candidate.implementation scenario candidate.iterations
          (some metric) (.measurement round position) with
        ⟨captured, shape, answered, ran⟩ | ⟨error, shape, ran⟩
      · rw [shape]
        refine ⟨_, _, _, rfl, ?_, ?_⟩
        · exact accounts.set found failed
            { implementation := rfl
              attempt := ((opened.trans ran).trans
                (Ran.count _ driver fdProbe _ _)).attempt
              counted := rfl }
        · refine measured.visit inside found failed
            { implementation := rfl
              iterations := rfl
              samples := Or.inr ⟨rfl, _, rfl, rfl, rfl⟩ } ?_ rfl rfl rfl
            rfl
          intro sample member
          rcases List.mem_append.mp member with old | new
          · exact held sample old
          · rw [List.mem_singleton] at new
            rw [new]
            exact honest _ _ _ _ _ _ answered
      · rw [shape]
        obtain ⟨finish, emitted, attempt, calls⟩ :=
          (opened.trans ran).reported metric config metadata scenario
            fdProbe held "measurement" error
        simp only [emitted]
        refine ⟨_, _, _, rfl, ?_, ?_⟩
        · exact accounts.set found failed
            { implementation := rfl
              attempt
              counted := rfl }
        · exact measured.visit inside found failed
            { implementation := rfl
              iterations := rfl
              samples := Or.inl ⟨rfl, rfl⟩ } held calls rfl rfl rfl

/-- The positions of a round that are left. -/
theorem measurePositions_spec
    {driver : Driver World} (honest : driver.Honest)
    {round position left : Nat}
    (accounts : Accounts metric config metadata scenario fdProbe asked
      active before failures start)
    (measured : Measured metric entered shared round position active start)
    (rest : position + left = entered.length) :
    ∃ after counted finish,
      measurePositions driver metric config metadata scenario fdProbe round
          (List.range' position left) active failures start =
        .ok (after, counted, finish) ∧
      Accounts metric config metadata scenario fdProbe asked after before
        counted finish ∧
      Measured metric entered shared (round + 1) 0 after finish := by
  induction left generalizing position active failures start with
  | zero =>
      rw [Nat.add_zero] at rest
      rw [rest] at measured
      exact ⟨active, failures, start, rfl, accounts, measured.next⟩
  | succ left inductionHypothesis =>
      obtain ⟨middle, counted, next, ran, kept, more⟩ :=
        measureOne_spec honest accounts measured (by omega)
      obtain ⟨after, total, finish, ran', accounts', measured'⟩ :=
        inductionHypothesis kept more (by omega)
      refine ⟨after, total, finish, ?_, accounts', measured'⟩
      rw [List.range'_succ, measurePositions, ran]
      exact ran'

/-- The rounds that are left. -/
theorem measureRounds_spec
    {driver : Driver World} (honest : driver.Honest) {round left : Nat}
    (accounts : Accounts metric config metadata scenario fdProbe asked
      active before failures start)
    (measured : Measured metric entered shared round 0 active start) :
    ∃ after counted finish,
      measureRounds driver metric config metadata scenario fdProbe
          (List.range' round left) active failures start =
        .ok (after, counted, finish) ∧
      Accounts metric config metadata scenario fdProbe asked after before
        counted finish ∧
      Measured metric entered shared (round + left) 0 after finish := by
  induction left generalizing round active failures start with
  | zero => exact ⟨active, failures, start, rfl, accounts, measured⟩
  | succ left inductionHypothesis =>
      have length : active.length = entered.length := by
        rw [← measured.entrants, List.length_map]
      obtain ⟨middle, counted, next, ran, kept, more⟩ :=
        measurePositions_spec honest accounts measured
          (Nat.zero_add entered.length)
      obtain ⟨after, total, finish, ran', accounts', measured'⟩ :=
        inductionHypothesis kept more
      rw [Nat.add_right_comm] at measured'
      refine ⟨after, total, finish, ?_, accounts', measured'⟩
      rw [List.range'_succ, measureRounds, List.range_eq_range', length,
        ran]
      exact ran'

/-- The rotation starts with candidates that were not measured. -/
theorem Measured.begin
    {visited : List CandidateSamples} {counted : Nat}
    (prepared : Prepared metric config metadata scenario fdProbe asked
      before visited [] counted start)
    (equal : ∀ candidate ∈ visited, candidate.iterations = shared) :
    Measured metric (visited.map CandidateSamples.implementation) shared 0 0
      visited start := by
  have empty : ∀ candidate ∈ visited, candidate.samples = [] := by
    have all := prepared.empty
    rw [List.append_nil] at all
    exact all
  have unused : start.calls.filterMap RunCall.slot = [] :=
    List.filterMap_eq_nil_iff.mpr prepared.unmeasured
  exact
    { entrants := rfl
      equal
      captured := fun candidate member => by
        rw [empty candidate member]
        exact fun sample inside => by cases inside
      placed := fun index candidate held => by
        rw [empty candidate (List.mem_of_getElem? held)]
        exact fun sample inside => by cases inside
      visited := fun index candidate _ _ seen => by
        obtain ⟨earlier, less, _⟩ := seen
        cases less
      due := fun index candidate held _ _ => by
        rw [empty candidate (List.mem_of_getElem? held)]
        rfl
      slots := fun call member slot shape => by
        rw [prepared.unmeasured call member] at shape
        cases shape
      ordered := by
        rw [unused]
        exact List.Pairwise.nil }

end Rounds

end Zio.Benchmark
