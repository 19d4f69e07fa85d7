import Mathlib.Computability.Language

/-!
# Traces judged phrase by phrase

A language of traces is prefix free when no word of it can be continued to
another one.  A program that reads a trace phrase by phrase, and judges each
phrase as it ends, judges the whole trace: a verdict accepts words of the
language only, and rejects a trace only when no continuation of it could have
continued a word.  Verdicts compose along concatenation, whether the program
stops at the first rejected phrase or not.
-/

namespace Phrase

variable {α : Type*} {L M : Language α}

/-- No word continues another one. -/
def PrefixFree (L : Language α) : Prop :=
  ∀ word ∈ L, ∀ other ∈ L, ∀ rest tail,
    word ++ rest = other ++ tail → word = other

/-- No word agrees with the trace as far as both go. -/
def Clashes (L : Language α) (trace : List α) : Prop :=
  ∀ word ∈ L, ∀ rest tail, word ++ rest ≠ trace ++ tail

/-- Acceptance means membership, rejection a clash. -/
structure Verdict
    (L : Language α) (accepted : Prop) (trace : List α) : Prop where
  member : accepted → trace ∈ L
  clash : ¬ accepted → Clashes L trace

theorem Verdict.iff
    {accepted : Prop} {trace : List α}
    (verdict : Verdict L accepted trace) : accepted ↔ trace ∈ L := by
  refine ⟨verdict.member, fun member => ?_⟩
  by_contra rejected
  exact verdict.clash rejected trace member [] [] rfl

theorem Verdict.congr
    {accepted other : Prop} {trace : List α}
    (verdict : Verdict L accepted trace) (same : accepted ↔ other) :
    Verdict L other trace :=
  { member := fun held => verdict.member (same.mpr held)
    clash := fun fails => verdict.clash fun held => fails (same.mp held) }

/-! ## Single letters and concatenation -/

theorem PrefixFree.single (letter : α) :
    PrefixFree ({[letter]} : Language α) := by
  rintro word rfl other rfl _ _ _
  rfl

theorem PrefixFree.one : PrefixFree (1 : Language α) := by
  intro word member other otherMember _ _ _
  rw [Language.mem_one] at member otherMember
  rw [member, otherMember]

theorem PrefixFree.mul
    (first : PrefixFree L) (second : PrefixFree M) :
    PrefixFree (L * M) := by
  intro word member other otherMember rest tail same
  obtain ⟨left, leftMember, right, rightMember, rfl⟩ :=
    Language.mem_mul.mp member
  obtain ⟨otherLeft, otherLeftMember, otherRight, otherRightMember, rfl⟩ :=
    Language.mem_mul.mp otherMember
  rw [List.append_assoc, List.append_assoc] at same
  have sameLeft :=
    first left leftMember otherLeft otherLeftMember _ _ same
  rw [sameLeft, List.append_cancel_left_eq] at same
  have sameRight :=
    second right rightMember otherRight otherRightMember _ _ same
  rw [sameLeft, sameRight]

/-- One letter, accepted when it is the expected one. -/
theorem Verdict.single (expected letter : α) :
    Verdict ({[expected]} : Language α) (letter = expected) [letter] := by
  constructor
  · rintro rfl
    rfl
  · rintro different word rfl rest tail same
    injection same with head _
    exact different head.symm

/-- One letter that carries an answer. -/
theorem Verdict.letter
    {β : Type*} {letter : β → α} (injective : Function.Injective letter)
    (expected answer : β) :
    Verdict ({[letter expected]} : Language α) (answer = expected)
      [letter answer] :=
  (Verdict.single _ _).congr injective.eq_iff

/-- Nothing is expected and nothing was read. -/
theorem Verdict.one : Verdict (1 : Language α) True [] :=
  { member := fun _ => Language.nil_mem_one
    clash := fun impossible => (impossible trivial).elim }

/-- A rejected beginning rejects every continuation. -/
theorem Clashes.mul
    {trace : List α} (clashes : Clashes L trace) (more : List α) :
    Clashes (L * M) (trace ++ more) := by
  intro word member rest tail same
  obtain ⟨left, leftMember, right, _, rfl⟩ := Language.mem_mul.mp member
  rw [List.append_assoc, List.append_assoc] at same
  exact clashes left leftMember _ _ same

/-- Two phrases in a row.  The second need only be judged when the first was
accepted. -/
theorem Verdict.mul
    {accepted next : Prop} {trace more : List α}
    (first : Verdict L accepted trace) (free : PrefixFree L)
    (second : accepted → Verdict M next more) :
    Verdict (L * M) (accepted ∧ next) (trace ++ more) := by
  constructor
  · rintro ⟨held, nextHeld⟩
    exact Language.append_mem_mul (first.member held)
      ((second held).member nextHeld)
  · intro rejected
    by_cases held : accepted
    · have nextRejected : ¬ next := fun nextHeld =>
        rejected ⟨held, nextHeld⟩
      intro word member rest tail same
      obtain ⟨left, leftMember, right, rightMember, rfl⟩ :=
        Language.mem_mul.mp member
      rw [List.append_assoc, List.append_assoc] at same
      have sameLeft :=
        free left leftMember trace (first.member held) _ _ same
      rw [sameLeft, List.append_cancel_left_eq] at same
      exact (second held).clash nextRejected right rightMember _ _ same
    · exact (first.clash held).mul more

/-- Whatever follows a rejected phrase is not judged. -/
theorem Verdict.cut
    {accepted : Prop} {trace : List α}
    (first : Verdict L accepted trace) (rejected : ¬ accepted)
    (more : List α) : Verdict (L * M) False (trace ++ more) :=
  { member := False.elim
    clash := fun _ => (first.clash rejected).mul more }

end Phrase
