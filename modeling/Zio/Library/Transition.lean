import Mathlib.Data.List.Basic
import Mathlib.Logic.Relation

/-!
# Executions of labelled transition systems

A step relation is labelled with what one step receives and answers.  An
execution is a finite sequence of steps.  The rules below are the only
inductions over executions that a development on top of them needs: an
invariant rule, a rule for facts that hold until a breaking label occurs, and
a rule that carries a simulation from single steps to whole executions.
-/

namespace Transition

universe u v w

variable {State : Type u} {Label : Type v} {Abstract : Type w}

/-- A finite sequence of labelled steps. -/
inductive Execution (step : State → Label → State → Prop) :
    State → List Label → State → Prop
  | refl (state : State) :
      Execution step state [] state
  | cons {start middle finish : State} {label : Label}
      {labels : List Label} :
      step start label middle →
      Execution step middle labels finish →
      Execution step start (label :: labels) finish

namespace Execution

variable {step : State → Label → State → Prop}

/-- Cut an execution at any point of its label sequence. -/
theorem split
    {start finish : State} {before after : List Label}
    (execution : Execution step start (before ++ after) finish) :
    ∃ middle,
      Execution step start before middle ∧
        Execution step middle after finish := by
  induction before generalizing start with
  | nil => exact ⟨start, refl start, execution⟩
  | cons label rest inductionHypothesis =>
      cases execution with
      | cons first tail =>
          obtain ⟨middle, left, right⟩ := inductionHypothesis tail
          exact ⟨middle, cons first left, right⟩

/-- Two executions in a row. -/
theorem append
    {start middle finish : State} {before after : List Label}
    (first : Execution step start before middle)
    (rest : Execution step middle after finish) :
    Execution step start (before ++ after) finish := by
  induction first with
  | refl state => exact rest
  | cons head _ inductionHypothesis =>
      exact cons head (inductionHypothesis rest)

/-- A property kept by every step holds at the end of every execution. -/
theorem invariant
    (Good : State → Prop)
    (kept : ∀ before label after,
      Good before → step before label after → Good after)
    {start finish : State} {labels : List Label}
    (execution : Execution step start labels finish)
    (initial : Good start) :
    Good finish := by
  induction execution with
  | refl state => exact initial
  | cons first _ inductionHypothesis =>
      exact inductionHypothesis (kept _ _ _ initial first)

/-- A property of the past and the state that every step keeps holds at the end
of every execution. -/
theorem history
    (Good : List Label → State → Prop)
    (kept : ∀ past before label after,
      Good past before → step before label after →
        Good (past ++ [label]) after)
    {start finish : State} {labels : List Label}
    (execution : Execution step start labels finish)
    (initial : Good [] start) :
    Good labels finish := by
  suffices general : ∀ past, Good past start → Good (past ++ labels) finish
    from general [] initial
  clear initial
  induction execution with
  | refl state =>
      intro past holds
      rw [List.append_nil]
      exact holds
  | @cons start middle finish label labels first _ inductionHypothesis =>
      intro past holds
      have next :=
        inductionHypothesis (past ++ [label]) (kept _ _ _ _ holds first)
      rw [List.append_assoc] at next
      exact next

/-- Inside an invariant, a property kept by every step whose label is not
breaking holds at the end unless a breaking label occurred. -/
theorem until_break
    (Good Held : State → Prop) (Break : Label → Prop)
    (keptGood : ∀ before label after,
      Good before → step before label after → Good after)
    (keptHeld : ∀ before label after,
      Good before → Held before → step before label after →
        ¬ Break label → Held after)
    {start finish : State} {labels : List Label}
    (execution : Execution step start labels finish)
    (initial : Good start) (held : Held start) :
    Held finish ∨ ∃ label ∈ labels, Break label := by
  induction execution with
  | refl state => exact Or.inl held
  | @cons start middle finish label labels first _ inductionHypothesis =>
      by_cases breaks : Break label
      · exact Or.inr ⟨label, List.mem_cons_self .., breaks⟩
      · rcases inductionHypothesis
            (keptGood _ _ _ initial first)
            (keptHeld _ _ _ initial held first breaks) with
          atEnd | ⟨later, member, laterBreaks⟩
        · exact Or.inl atEnd
        · exact Or.inr
            ⟨later, List.mem_cons_of_mem _ member, laterBreaks⟩

/-- A step-by-step simulation inside an invariant carries over to whole
executions with the same labels. -/
theorem simulate
    {abstractStep : Abstract → Label → Abstract → Prop}
    {Good : State → Prop} (view : State → Abstract)
    (keptGood : ∀ before label after,
      Good before → step before label after → Good after)
    (simulates : ∀ before label after,
      Good before → step before label after →
        abstractStep (view before) label (view after))
    {start finish : State} {labels : List Label}
    (execution : Execution step start labels finish)
    (initial : Good start) :
    Execution abstractStep (view start) labels (view finish) := by
  induction execution with
  | refl state => exact refl _
  | cons first _ inductionHypothesis =>
      exact cons (simulates _ _ _ initial first)
        (inductionHypothesis (keptGood _ _ _ initial first))

end Execution

/-- Some label happened after the last one that ends its effect. -/
def Since (happens ends : Label → Prop) (labels : List Label) : Prop :=
  ∃ earlier label later,
    labels = earlier ++ label :: later ∧ happens label ∧
      ∀ other ∈ later, ¬ ends other

namespace Since

variable {happens ends : Label → Prop}

theorem not_nil : ¬ Since happens ends [] := by
  rintro ⟨earlier, label, later, shape, _, _⟩
  simp at shape

theorem of_last {labels : List Label} {label : Label}
    (now : happens label) :
    Since happens ends (labels ++ [label]) :=
  ⟨labels, label, [], rfl, now, by simp⟩

theorem append {labels : List Label} {label : Label}
    (held : Since happens ends labels) (kept : ¬ ends label) :
    Since happens ends (labels ++ [label]) := by
  obtain ⟨earlier, cause, later, rfl, now, after⟩ := held
  refine ⟨earlier, cause, later ++ [label], by simp, now, ?_⟩
  intro other member
  rcases List.mem_append.mp member with inLater | last
  · exact after other inLater
  · rw [List.mem_singleton.mp last]
    exact kept

theorem of_append {labels : List Label} {label : Label}
    (held : Since happens ends (labels ++ [label])) :
    happens label ∨ (¬ ends label ∧ Since happens ends labels) := by
  obtain ⟨earlier, cause, later, shape, now, after⟩ := held
  rcases List.eq_nil_or_concat later with rfl | ⟨rest, last, rfl⟩
  · obtain ⟨_, same⟩ := List.append_inj' shape rfl
    cases same
    exact Or.inl now
  · have regrouped :
        labels ++ [label] = (earlier ++ cause :: rest) ++ [last] := by
      rw [shape]
      simp
    obtain ⟨rfl, same⟩ := List.append_inj' regrouped rfl
    cases same
    refine Or.inr ⟨after _ (by simp), earlier, cause, rest, rfl, now, ?_⟩
    intro other member
    exact after other (by simp [member])

end Since

end Transition
