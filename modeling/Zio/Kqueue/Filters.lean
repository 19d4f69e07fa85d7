import Mathlib.Data.List.Basic
import Mathlib.Logic.Function.Basic
import Zio.Kqueue.Change

/-!
# Installed filters

The kernel side of a kqueue: a map from descriptors to the read and write
filters that are installed on them.  A submission attempts its changes one
after another.  A change that fails leaves its filter as it is, and only a
change that removes or disables an absent filter fails as missing.
-/

namespace Zio

/-! ## Filters of one descriptor -/

structure InstalledFilter where
  token : UInt64
  enabled : Bool
deriving DecidableEq, Repr

/-- The filters installed on one descriptor. -/
structure Installed where
  read : Option InstalledFilter
  write : Option InstalledFilter
deriving DecidableEq, Repr

/-- What an applied action makes of a filter. -/
def Action.effect
    (action : Action) (token : UInt64) (filter : Option InstalledFilter) :
    Option InstalledFilter :=
  match action with
  | .addEnabled => some { token, enabled := true }
  | .addDisabled => some { token, enabled := false }
  | .delete => none
  | .disable => filter.map fun filter => { filter with enabled := false }
  | .addUser => filter
  | .trigger => filter

/-- The change is about the read or write filter of a descriptor. -/
def Change.Resource (self : Change) : Prop :=
  (self.filter = .read ∨ self.filter = .write) ∧
    self.action ≠ .addUser ∧ self.action ≠ .trigger

instance (change : Change) : Decidable change.Resource :=
  inferInstanceAs (Decidable (_ ∧ _))

namespace Installed

def empty : Installed := { read := none, write := none }

/-- Exactly the filters of an interest. -/
def exact (interest : Interest) (token : UInt64) (arm : ArmState) :
    Installed :=
  let filter := { token, enabled := arm == .armed }
  { read := if interest.isReadable then some filter else none
    write := if interest.isWritable then some filter else none }

def get (self : Installed) : Filter → Option InstalledFilter
  | .read => self.read
  | .write => self.write
  | .user => none
  | .unknown => none

def apply (self : Installed) (change : Change) : Installed :=
  match change.filter with
  | .read =>
      { self with read := change.action.effect change.token self.read }
  | .write =>
      { self with write := change.action.effect change.token self.write }
  | .user => self
  | .unknown => self

/-- Every installed filter carries the token. -/
def Carries (self : Installed) (token : UInt64) : Prop :=
  ∀ filter installed, self.get filter = some installed →
    installed.token = token

theorem empty_carries (token : UInt64) : empty.Carries token := by
  intro filter installed held
  cases filter <;> cases held

theorem exact_get
    {interest : Interest} {token : UInt64} {arm : ArmState}
    {filter : Filter} {installed : InstalledFilter}
    (held : (exact interest token arm).get filter = some installed) :
    installed = { token, enabled := arm == .armed } := by
  cases filter with
  | read | write =>
      simp only [get, exact] at held
      split at held
      · exact (Option.some.inj held).symm
      · cases held
  | user | unknown => cases held

theorem exact_carries
    (interest : Interest) (token : UInt64) (arm : ArmState) :
    (exact interest token arm).Carries token := by
  intro filter installed held
  rw [exact_get held]

/-- A change that adds no other token keeps the token. -/
theorem Carries.apply
    {self : Installed} {token : UInt64} (carries : self.Carries token)
    {change : Change}
    (kept : change.token = token ∨ change.action = .delete ∨
      change.action = .disable) :
    (self.apply change).Carries token := by
  have effect : ∀ filter installed,
      change.action.effect change.token (self.get filter) =
        some installed → installed.token = token := by
    intro filter installed held
    have before := carries filter
    rcases kept with rfl | removes | disables
    · cases action : change.action with
      | addEnabled | addDisabled =>
          simp only [action, Action.effect, Option.some.injEq] at held
          rw [← held]
      | delete =>
          simp only [action, Action.effect] at held
          cases held
      | disable =>
          simp only [action, Action.effect] at held
          obtain ⟨found, present, rfl⟩ := Option.map_eq_some_iff.mp held
          exact before found present
      | addUser | trigger =>
          simp only [action, Action.effect] at held
          exact before installed held
    · rw [removes] at held
      cases held
    · rw [disables] at held
      obtain ⟨found, present, rfl⟩ := Option.map_eq_some_iff.mp held
      exact before found present
  intro filter installed held
  cases named : change.filter with
  | read =>
      simp only [Installed.apply, named] at held
      cases filter with
      | read => exact effect .read installed held
      | write => exact carries .write installed held
      | user | unknown => cases held
  | write =>
      simp only [Installed.apply, named] at held
      cases filter with
      | read => exact carries .read installed held
      | write => exact effect .write installed held
      | user | unknown => cases held
  | user | unknown =>
      simp only [Installed.apply, named] at held
      exact carries filter installed held

/-- Deleting or disabling an absent filter has no effect. -/
theorem apply_missing
    {self : Installed} {change : Change}
    (removes : change.action = .delete ∨ change.action = .disable)
    (absent : self.get change.filter = none) :
    self.apply change = self := by
  have ineffective : change.action.effect change.token none = none := by
    rcases removes with action | action <;> rw [action] <;> rfl
  rcases self with ⟨read, write⟩
  cases named : change.filter with
  | read =>
      rw [named] at absent
      simp only [get] at absent
      subst absent
      simp only [Installed.apply, named, ineffective]
  | write =>
      rw [named] at absent
      simp only [get] at absent
      subst absent
      simp only [Installed.apply, named, ineffective]
  | user | unknown => simp only [Installed.apply, named]

end Installed

/-! ## Filters of all descriptors -/

/-- The installed filters of a kqueue. -/
abbrev FilterMap := RawFd → Installed

namespace FilterMap

def apply (self : FilterMap) (change : Change) : FilterMap :=
  Function.update self change.ident
    (Installed.apply (self change.ident) change)

/-- The filters after every change was applied. -/
def applyAll (self : FilterMap) (changes : List Change) : FilterMap :=
  changes.foldl apply self

/-- The change removes or disables an absent filter. -/
def Missing (self : FilterMap) (change : Change) : Prop :=
  (change.action = .delete ∨ change.action = .disable) ∧
    (self change.ident).get change.filter = none

/-- Changes attempted in order.  Each has the error that it failed with, or
none when it was applied. -/
inductive Attempts :
    FilterMap → List Change → List (Option Int32) → FilterMap → Prop
  | done (filters : FilterMap) : Attempts filters [] [] filters
  | applied {before after : FilterMap} {change : Change}
      {rest : List Change} {errors : List (Option Int32)} :
      Attempts (before.apply change) rest errors after →
      Attempts before (change :: rest) (none :: errors) after
  | failed {before after : FilterMap} {change : Change} {code : Int32}
      {rest : List Change} {errors : List (Option Int32)} :
      0 < code →
      (code = enoent → before.Missing change) →
      Attempts before rest errors after →
      Attempts before (change :: rest) (some code :: errors) after

/-- Any subset of the changes was applied. -/
def Partly (before : FilterMap) (changes : List Change) (after : FilterMap) :
    Prop :=
  ∃ applied, applied.Sublist changes ∧ after = before.applyAll applied

theorem apply_missing
    {self : FilterMap} {change : Change} (missing : self.Missing change) :
    self.apply change = self := by
  rw [apply, Installed.apply_missing missing.1 missing.2]
  exact Function.update_eq_self _ _

/-- Every change was applied. -/
theorem attempts_applyAll (before : FilterMap) (changes : List Change) :
    Attempts before changes (changes.map fun _ => none)
      (before.applyAll changes) := by
  induction changes generalizing before with
  | nil => exact Attempts.done before
  | cons change rest inductionHypothesis =>
      exact Attempts.applied (inductionHypothesis (before.apply change))

/-- A subset of the changes was applied: the others were attempted in vain. -/
theorem Partly.attempts
    {before after : FilterMap} {changes : List Change}
    (partly : before.Partly changes after) :
    ∃ errors, Attempts before changes errors after := by
  obtain ⟨applied, sublist, rfl⟩ := partly
  induction sublist generalizing before with
  | slnil => exact ⟨[], Attempts.done before⟩
  | cons change _ inductionHypothesis =>
      obtain ⟨errors, attempts⟩ := @inductionHypothesis before
      refine ⟨some eio :: errors, Attempts.failed (by decide) ?_ attempts⟩
      intro missing
      cases missing
  | cons_cons change _ inductionHypothesis =>
      obtain ⟨errors, attempts⟩ :=
        @inductionHypothesis (before.apply change)
      exact ⟨none :: errors, Attempts.applied attempts⟩

namespace Attempts

variable {before after : FilterMap} {changes : List Change}
  {errors : List (Option Int32)}

theorem code_pos (attempts : Attempts before changes errors after)
    {code : Int32} (member : some code ∈ errors) : 0 < code := by
  induction attempts with
  | done => cases member
  | applied _ inductionHypothesis =>
      exact inductionHypothesis (by simpa using member)
  | failed positive _ _ inductionHypothesis =>
      rcases List.mem_cons.mp member with same | later
      · cases same
        exact positive
      · exact inductionHypothesis later

/-- A property that every change keeps holds after the attempts. -/
theorem invariant
    (Good : FilterMap → Prop)
    (attempts : Attempts before changes errors after)
    (kept : ∀ change ∈ changes, ∀ filters, Good filters →
      Good (filters.apply change))
    (initial : Good before) : Good after := by
  induction attempts with
  | done => exact initial
  | applied _ inductionHypothesis =>
      apply inductionHypothesis
      · exact fun change member => kept change (List.mem_cons_of_mem _ member)
      · exact kept _ (List.mem_cons_self ..) _ initial
  | failed _ _ _ inductionHypothesis =>
      apply inductionHypothesis
      · exact fun change member => kept change (List.mem_cons_of_mem _ member)
      · exact initial

/-- Attempts leave the descriptors that they do not name. -/
theorem elsewhere
    (attempts : Attempts before changes errors after) {other : RawFd}
    (foreign : ∀ change ∈ changes, change.ident ≠ other) :
    after other = before other := by
  refine attempts.invariant
    (fun filters => filters other = before other) ?_ rfl
  intro change member filters same
  rw [FilterMap.apply, Function.update_of_ne (foreign change member).symm]
  exact same

/-- Attempts that add no other token keep the token of a descriptor. -/
theorem carries
    (attempts : Attempts before changes errors after) {descriptor : RawFd}
    {token : UInt64}
    (kept : ∀ change ∈ changes, change.token = token ∨
      change.action = .delete ∨ change.action = .disable)
    (carries : (before descriptor).Carries token) :
    (after descriptor).Carries token := by
  refine attempts.invariant
    (fun filters => (filters descriptor).Carries token) ?_ carries
  intro change member filters held
  by_cases same : descriptor = change.ident
  · subst same
    rw [FilterMap.apply, Function.update_self]
    exact held.apply (kept change member)
  · rw [FilterMap.apply, Function.update_of_ne same]
    exact held

/-- Attempts that met no error but missing filters applied every change. -/
theorem eq_applyAll
    (attempts : Attempts before changes errors after)
    (clean : ∀ error ∈ errors, error = none ∨ error = some enoent) :
    after = before.applyAll changes := by
  induction attempts with
  | done => rfl
  | applied _ inductionHypothesis =>
      exact inductionHypothesis fun error member =>
        clean error (List.mem_cons_of_mem _ member)
  | @failed before after change code rest errors _ missing _
      inductionHypothesis =>
      have absent : before.Missing change := by
        rcases clean _ (List.mem_cons_self ..) with impossible | same
        · cases impossible
        · exact missing (Option.some.inj same)
      rw [applyAll, List.foldl_cons, apply_missing absent]
      exact inductionHypothesis fun error member =>
        clean error (List.mem_cons_of_mem _ member)

/-- Cut attempts at any point of the change list. -/
theorem split
    {first second : List Change}
    (attempts : Attempts before (first ++ second) errors after) :
    ∃ middle, Attempts before first (errors.take first.length) middle ∧
      Attempts middle second (errors.drop first.length) after := by
  induction first generalizing before errors with
  | nil => exact ⟨before, Attempts.done before, attempts⟩
  | cons change rest inductionHypothesis =>
      cases attempts with
      | applied later =>
          obtain ⟨middle, left, right⟩ := inductionHypothesis later
          exact ⟨middle, Attempts.applied left, right⟩
      | failed positive missing later =>
          obtain ⟨middle, left, right⟩ := inductionHypothesis later
          exact ⟨middle, Attempts.failed positive missing left, right⟩

end Attempts

/-! ### Honest reports -/

/-- Changes reported in order by an executor that may answer with any error
code: an error left its filter untouched, and a deletion fails as missing only
when its filter is absent. -/
inductive Reports :
    FilterMap → List Change → List (Option Int32) → FilterMap → Prop
  | done (filters : FilterMap) : Reports filters [] [] filters
  | applied {before after : FilterMap} {change : Change}
      {rest : List Change} {errors : List (Option Int32)} :
      Reports (before.apply change) rest errors after →
      Reports before (change :: rest) (none :: errors) after
  | failed {before after : FilterMap} {change : Change} {code : Int32}
      {rest : List Change} {errors : List (Option Int32)} :
      (code = enoent → change.action = .delete →
        (before change.ident).get change.filter = none) →
      Reports before rest errors after →
      Reports before (change :: rest) (some code :: errors) after

theorem Attempts.reports
    {before after : FilterMap} {changes : List Change}
    {errors : List (Option Int32)}
    (attempts : Attempts before changes errors after) :
    Reports before changes errors after := by
  induction attempts with
  | done filters => exact Reports.done filters
  | applied _ inductionHypothesis =>
      exact Reports.applied inductionHypothesis
  | failed _ missing _ inductionHypothesis =>
      exact Reports.failed (fun same _ => (missing same).2)
        inductionHypothesis

namespace Reports

variable {before after : FilterMap} {changes : List Change}
  {errors : List (Option Int32)}

theorem length_eq (reports : Reports before changes errors after) :
    errors.length = changes.length := by
  induction reports with
  | done => rfl
  | applied _ inductionHypothesis =>
      simp only [List.length_cons, inductionHypothesis]
  | failed _ _ inductionHypothesis =>
      simp only [List.length_cons, inductionHypothesis]

/-- The reported changes that were applied are a subset. -/
theorem partly (reports : Reports before changes errors after) :
    before.Partly changes after := by
  induction reports with
  | done filters => exact ⟨[], List.Sublist.slnil, rfl⟩
  | applied _ inductionHypothesis =>
      obtain ⟨applied, sublist, same⟩ := inductionHypothesis
      exact ⟨_ :: applied, sublist.cons_cons _, same⟩
  | failed _ _ inductionHypothesis =>
      obtain ⟨applied, sublist, same⟩ := inductionHypothesis
      exact ⟨applied, sublist.cons _, same⟩

/-- Reports of no error but missing deletions applied every change. -/
theorem eq_applyAll
    (reports : Reports before changes errors after)
    (clean : List.Forall₂ (fun change error => error = none ∨
      error = some enoent ∧ change.action = Action.delete)
      changes errors) :
    after = before.applyAll changes := by
  induction reports with
  | done => rfl
  | applied _ inductionHypothesis =>
      cases clean with
      | cons _ rest => exact inductionHypothesis rest
  | failed missing _ inductionHypothesis =>
      cases clean with
      | cons first rest =>
          obtain ⟨same, deletes⟩ := first.resolve_left (by simp)
          have absent := missing (Option.some.inj same) deletes
          rw [applyAll, List.foldl_cons,
            apply_missing ⟨Or.inl deletes, absent⟩]
          exact inductionHypothesis rest

end Reports

/-- Changes of one descriptor act on its filters alone. -/
theorem applyAll_at
    (filters : FilterMap) {descriptor : RawFd} {changes : List Change}
    (own : ∀ change ∈ changes, change.ident = descriptor) :
    filters.applyAll changes descriptor =
      changes.foldl Installed.apply (filters descriptor) := by
  induction changes generalizing filters with
  | nil => rfl
  | cons change rest inductionHypothesis =>
      have mine := own change (List.mem_cons_self ..)
      rw [applyAll, List.foldl_cons, List.foldl_cons]
      have next := inductionHypothesis (filters.apply change)
        fun other member => own other (List.mem_cons_of_mem _ member)
      rw [← applyAll, next, FilterMap.apply, mine, Function.update_self]

end FilterMap

end Zio
