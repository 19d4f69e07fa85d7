import Mathlib.Data.List.Basic

/-!
# Lists searched by name

Items kept in insertion order, found by the first one that carries a name.  An
amendment rewrites that first item in place; as long as it keeps the name, the
list behaves as a partial map from names to items.
-/

namespace Keyed

universe u v

variable {Item : Type u} {Name : Type v} [DecidableEq Name]

/-- Whether an item carries a name. -/
def carries (name : Item → Name) (sought : Name) (item : Item) : Bool :=
  name item = sought

/-- The position of the first item of a name. -/
def position
    (name : Item → Name) (items : List Item) (sought : Name) :
    Option Nat :=
  items.findIdx? (carries name sought)

/-- The first item of a name. -/
def find (name : Item → Name) (items : List Item) (sought : Name) :
    Option Item :=
  items.find? (carries name sought)

variable {name : Item → Name}

theorem find_eq_position (items : List Item) (sought : Name) :
    find name items sought =
      (position name items sought).bind fun index => items[index]? :=
  List.find?_eq_bind_findIdx?_getElem?

@[simp]
theorem find_nil (sought : Name) : find name [] sought = none := rfl

/-- A new item is found where no item of its name was. -/
theorem find_append_one
    (items : List Item) (item : Item) (sought : Name) :
    find name (items ++ [item]) sought =
      (find name items sought).or
        (if name item = sought then some item else none) := by
  unfold find
  rw [List.find?_append]
  congr 1
  unfold carries
  by_cases same : name item = sought
  · simp [same]
  · simp [same]

/-- Rewriting the first item of a name changes the map there only. -/
theorem find_modify
    {items : List Item} {target : Name} {index : Nat}
    (placed : position name items target = some index)
    {change : Item → Item} (kept : ∀ item, name (change item) = name item)
    (sought : Name) :
    find name (items.modify index change) sought =
      if sought = target then (find name items target).map change
      else find name items sought := by
  induction items generalizing index with
  | nil => cases placed
  | cons item rest inductionHypothesis =>
      unfold position at placed
      rw [List.findIdx?_cons] at placed
      by_cases here : name item = target
      · have carried : carries name target item = true := by
          simp [carries, here]
        rw [if_pos carried] at placed
        cases placed
        by_cases same : sought = target
        · subst same
          simp [find, carries, here, kept]
        · have other : target ≠ sought := fun equal => same equal.symm
          simp [find, carries, here, kept, same, other]
      · have passed : carries name target item = false := by
          simp [carries, here]
        rw [if_neg (by rw [passed]; exact Bool.false_ne_true)] at placed
        obtain ⟨earlier, found, rfl⟩ := Option.map_eq_some_iff.mp placed
        have later := inductionHypothesis found
        unfold find at later ⊢
        rw [List.modify_succ_cons, List.find?_cons, List.find?_cons,
          List.find?_cons, later, passed]
        by_cases same : sought = target
        · subst same
          simp [passed]
        · simp [same]

end Keyed
