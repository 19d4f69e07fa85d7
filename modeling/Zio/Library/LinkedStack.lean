import Mathlib.Data.List.Nodup

/-!
# Intrusive linked stacks

A stack threaded through its own cells is given by a head, a partial successor
function and a reserved end mark.  `Visits` says which cells a traversal meets
before it reaches the mark.  A traversal that ends is determined by its head
and meets no cell twice, so pushing and popping are the only facts that a
stack owner has to maintain.
-/

namespace LinkedStack

universe u

variable {α : Type u}

/-- Following `next` from `head` meets exactly the listed cells, in order, and
then the end mark `stop`. -/
def Visits (next : α → Option α) (stop : α) : α → List α → Prop
  | head, [] => head = stop
  | head, cell :: rest =>
      head = cell ∧ cell ≠ stop ∧
        ∃ following,
          next cell = some following ∧ Visits next stop following rest

/-- A traversal is determined by its head. -/
theorem Visits.unique
    {next : α → Option α} {stop head : α} {first second : List α}
    (firstVisits : Visits next stop head first)
    (secondVisits : Visits next stop head second) :
    first = second := by
  induction first generalizing head second with
  | nil =>
      cases second with
      | nil => rfl
      | cons cell rest =>
          rcases secondVisits with ⟨rfl, notStop, _⟩
          exact (notStop firstVisits).elim
  | cons cell rest inductionHypothesis =>
      rcases firstVisits with ⟨rfl, notStop, following, link, tail⟩
      cases second with
      | nil => exact (notStop secondVisits).elim
      | cons otherCell otherRest =>
          rcases secondVisits with
            ⟨rfl, _, otherFollowing, otherLink, otherTail⟩
          rw [link] at otherLink
          cases otherLink
          rw [inductionHypothesis tail otherTail]

/-- Every cell met on the way starts the rest of the traversal. -/
theorem Visits.of_append
    {next : α → Option α} {stop head cell : α} {before after : List α}
    (visits : Visits next stop head (before ++ cell :: after)) :
    Visits next stop cell (cell :: after) := by
  induction before generalizing head with
  | nil =>
      rcases visits with ⟨rfl, rest⟩
      exact ⟨rfl, rest⟩
  | cons first rest inductionHypothesis =>
      rcases visits with ⟨_, _, following, _, tail⟩
      exact inductionHypothesis tail

/-- A traversal that ends meets no cell twice. -/
theorem Visits.nodup
    {next : α → Option α} {stop head : α} {path : List α}
    (visits : Visits next stop head path) :
    path.Nodup := by
  induction path generalizing head with
  | nil => exact List.nodup_nil
  | cons cell rest inductionHypothesis =>
      have whole : Visits next stop cell (cell :: rest) := by
        rcases visits with ⟨rfl, tail⟩
        exact ⟨rfl, tail⟩
      rcases visits with ⟨_, _, following, _, tail⟩
      refine List.nodup_cons.mpr ⟨?_, inductionHypothesis tail⟩
      intro repeated
      obtain ⟨before, after, shape⟩ := List.mem_iff_append.mp repeated
      rw [shape] at tail
      have again : cell :: rest = cell :: after :=
        whole.unique tail.of_append
      have sameLength := congrArg List.length again
      rw [shape] at sameLength
      simp at sameLength
      omega

/-- A traversal only reads the successors of the cells that it meets. -/
theorem Visits.congr
    {next next' : α → Option α} {stop head : α} {path : List α}
    (visits : Visits next stop head path)
    (agree : ∀ cell ∈ path, next' cell = next cell) :
    Visits next' stop head path := by
  induction path generalizing head with
  | nil => exact visits
  | cons cell rest inductionHypothesis =>
      rcases visits with ⟨rfl, notStop, following, link, tail⟩
      refine ⟨rfl, notStop, following, ?_, ?_⟩
      · rw [agree head (List.mem_cons_self ..), link]
      · exact inductionHypothesis tail fun other member =>
          agree other (List.mem_cons_of_mem _ member)

/-- Linking a new cell to the old head pushes it. -/
theorem Visits.push
    {next next' : α → Option α} {stop head cell : α} {path : List α}
    (visits : Visits next stop head path)
    (notStop : cell ≠ stop)
    (link : next' cell = some head)
    (agree : ∀ other ∈ path, next' other = next other) :
    Visits next' stop cell (cell :: path) :=
  ⟨rfl, notStop, head, link, visits.congr agree⟩

/-- A head other than the mark can be popped. -/
theorem Visits.pop
    {next : α → Option α} {stop head : α} {path : List α}
    (visits : Visits next stop head path)
    (notStop : head ≠ stop) :
    ∃ following rest,
      path = head :: rest ∧ next head = some following ∧
        Visits next stop following rest := by
  cases path with
  | nil => exact (notStop visits).elim
  | cons cell rest =>
      rcases visits with ⟨rfl, _, following, link, tail⟩
      exact ⟨following, rest, rfl, link, tail⟩

end LinkedStack
