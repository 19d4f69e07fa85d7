import Zio.Library.Json.Parser

/-!
# Soundness of the JSON parser

Every parser splits its text into what the grammar derives and the rest.
-/

namespace Json

namespace Parser

/-- A text begins with a derivation of this kind. -/
def Begins
    (derives : List Char → Prop) (text rest : List Char) : Prop :=
  ∃ used, text = used ++ rest ∧ derives used

/-! ## Tokens -/

theorem skipWhitespace_spec (text : List Char) :
    Begins Grammar.Whitespace text (skipWhitespace text) :=
  ⟨text.takeWhile isWhitespace, List.takeWhile_append_dropWhile.symm,
    fun _ member => List.mem_takeWhile_imp member⟩

theorem after_spec
    {word text rest : List Char} (found : after word text = some rest) :
    text = word ++ rest := by
  induction word generalizing text with
  | nil => exact Option.some.inj found
  | cons character word inductionHypothesis =>
      cases text with
      | nil => cases found
      | cons first text =>
          simp only [after] at found
          split at found
          · rename_i same
            rw [same, inductionHypothesis found, List.cons_append]
          · cases found

theorem closed_spec
    {close : Char} {text rest : List Char}
    (found : closed close text = some rest) :
    ∃ between, text = between ++ close :: rest ∧
      Grammar.Whitespace between := by
  obtain ⟨between, split, blank⟩ := skipWhitespace_spec text
  rw [after_spec found] at split
  exact ⟨between, split, blank⟩

theorem unit_spec
    {text rest : List Char} {value : Nat}
    (found : unit text = some (value, rest)) :
    Begins (Grammar.Unit · value) text rest := by
  unfold unit at found
  split at found
  · rename_i first second third fourth more
    split at found
    · rename_i a b c d isFirst isSecond isThird isFourth
      cases found
      exact ⟨[first, second, third, fourth], rfl,
        .intro isFirst isSecond isThird isFourth⟩
    · cases found
  · cases found

theorem lowUnit_spec
    {text rest : List Char} {low : Nat}
    (found : lowUnit text = some (low, rest)) :
    isLowSurrogate low = true ∧
      ∃ used, text = '\\' :: 'u' :: (used ++ rest) ∧
        Grammar.Unit used low := by
  unfold lowUnit at found
  split at found
  · rename_i more
    split at found
    · rename_i value later read
      split at found
      · rename_i isLow
        cases found
        obtain ⟨used, rfl, derived⟩ := unit_spec read
        exact ⟨isLow, used, rfl, derived⟩
      · cases found
    · cases found
  · cases found

theorem unicodeEscape_spec
    {text rest : List Char} {character : Char}
    (found : unicodeEscape text = some (character, rest)) :
    ∃ used, text = used ++ rest ∧
      Grammar.StringChar ('\\' :: 'u' :: used) character := by
  unfold unicodeEscape at found
  split at found
  · cases found
  · rename_i value more read
    obtain ⟨first, rfl, derived⟩ := unit_spec read
    split at found
    · rename_i isHigh
      split at found
      · cases found
      · rename_i low later readLow
        obtain ⟨rfl, rfl⟩ := Prod.mk.inj (Option.some.inj found)
        obtain ⟨isLow, second, rfl, derivedLow⟩ := lowUnit_spec readLow
        refine ⟨first ++ '\\' :: 'u' :: second, ?_,
          .pair derived derivedLow isHigh isLow⟩
        simp
    · rename_i notHigh
      split at found
      · cases found
      · rename_i notLow
        cases found
        exact ⟨first, rfl,
          .unit derived (eq_false_of_ne_true notHigh)
            (eq_false_of_ne_true notLow)⟩

theorem stringChar_spec
    {text rest : List Char} {character : Char}
    (found : stringChar text = some (character, rest)) :
    Begins (Grammar.StringChar · character) text rest := by
  cases text with
  | nil => cases found
  | cons first more =>
      simp only [stringChar] at found
      split at found
      · rename_i backslash
        subst backslash
        cases more with
        | nil => cases found
        | cons escape more =>
            simp only [escapeSequence] at found
            split at found
            · rename_i isUnit
              subst isUnit
              obtain ⟨used, rfl, derived⟩ := unicodeEscape_spec found
              exact ⟨_, rfl, derived⟩
            · split at found
              · cases found
              · rename_i read
                cases found
                exact ⟨_, rfl, .escaped read⟩
      · split at found
        · rename_i plain
          cases found
          exact ⟨_, rfl, .unescaped plain⟩
        · cases found

theorem stringBody_spec
    {fuel : Nat} {text characters rest : List Char}
    (found : stringBody fuel text = some (characters, rest)) :
    ∃ body, text = body ++ '"' :: rest ∧
      Grammar.StringBody body characters := by
  induction fuel generalizing text characters with
  | zero => cases found
  | succ fuel inductionHypothesis =>
      unfold stringBody at found
      split at found
      · cases found
        exact ⟨[], rfl, .nil⟩
      · split at found
        · cases found
        · rename_i character more read
          split at found
          · cases found
          · rename_i later end_ readLater
            cases found
            obtain ⟨first, rfl, derived⟩ := stringChar_spec read
            obtain ⟨body, rfl, derivedLater⟩ :=
              inductionHypothesis readLater
            exact ⟨first ++ body, (List.append_assoc ..).symm,
              .cons derived derivedLater⟩

theorem stringText_spec
    {text rest : List Char} {value : String}
    (found : stringText text = some (value, rest)) :
    Begins (Grammar.StringText · value) text rest := by
  unfold stringText at found
  split at found
  · rename_i more
    split at found
    · cases found
    · rename_i characters later read
      cases found
      obtain ⟨body, rfl, derived⟩ := stringBody_spec read
      exact ⟨'"' :: (body ++ ['"']), by simp, .quoted derived⟩
  · cases found

/-! ## Numbers -/

theorem digits_spec
    {text found rest : List Char} (read : digits text = some (found, rest)) :
    text = found ++ rest ∧ Grammar.Digits found := by
  unfold digits at read
  split at read
  · cases read
  · rename_i digit more taken
    cases read
    refine ⟨?_, by simp, ?_⟩
    · rw [← taken]
      exact List.takeWhile_append_dropWhile.symm
    · intro character member
      rw [← taken] at member
      exact List.mem_takeWhile_imp member

theorem integer_spec
    {text found rest : List Char}
    (read : integer text = some (found, rest)) :
    text = found ++ rest ∧ Grammar.Integer found := by
  unfold integer at read
  split at read
  · cases read
  · rename_i accepted more readDigits
    split at read
    · rename_i leading
      cases read
      obtain ⟨split, derived⟩ := digits_spec readDigits
      exact ⟨split, derived, leading⟩
    · cases read

theorem fraction_spec
    {text found rest : List Char}
    (read : fraction text = some (found, rest)) :
    Begins (Grammar.Fraction · found) text rest := by
  unfold fraction at read
  split at read
  · obtain ⟨rfl, derived⟩ := digits_spec read
    exact ⟨'.' :: found, rfl, .present derived⟩
  · cases read
    exact ⟨[], rfl, .absent⟩

theorem power_spec
    {text rest : List Char} {value : Int} {letter : Char}
    (isLetter : letter = 'e' ∨ letter = 'E')
    (read : power text = some (value, rest)) :
    Begins (Grammar.Exponent · value) (letter :: text) rest := by
  unfold power at read
  split at read <;>
    obtain ⟨⟨found, more⟩, readDigits, same⟩ :=
      Option.map_eq_some_iff.mp read <;>
    cases same <;>
    obtain ⟨rfl, derived⟩ := digits_spec readDigits
  · exact ⟨letter :: '+' :: found, rfl, .positive isLetter derived⟩
  · exact ⟨letter :: '-' :: found, rfl, .negative isLetter derived⟩
  · exact ⟨letter :: found, rfl, .unsigned isLetter derived⟩

theorem exponent_spec
    {text rest : List Char} {value : Int}
    (read : exponent text = some (value, rest)) :
    Begins (Grammar.Exponent · value) text rest := by
  unfold exponent at read
  split at read
  · cases read
    exact ⟨[], rfl, .absent⟩
  · split at read
    · rename_i isLetter
      exact power_spec isLetter read
    · cases read
      exact ⟨[], rfl, .absent⟩

theorem magnitude_spec
    {text rest : List Char} {mantissa : Nat} {exponentValue : Int}
    (read : magnitude text = some (mantissa, exponentValue, rest)) :
    ∃ used, text = used ++ rest ∧
      Grammar.Number used mantissa exponentValue ∧
      Grammar.Number ('-' :: used) (-mantissa) exponentValue := by
  unfold magnitude at read
  split at read
  · cases read
  · rename_i whole more readInteger
    split at read
    · cases read
    · rename_i part later readFraction
      split at read
      · cases read
      · rename_i power_ last readExponent
        cases read
        obtain ⟨rfl, isInteger⟩ := integer_spec readInteger
        obtain ⟨fraction_, rfl, isFraction⟩ := fraction_spec readFraction
        obtain ⟨exponent_, rfl, isExponent⟩ := exponent_spec readExponent
        refine ⟨whole ++ fraction_ ++ exponent_, ?_,
          .positive isInteger isFraction isExponent,
          .negative isInteger isFraction isExponent⟩
        simp

theorem number_spec
    {text rest : List Char} {found : Json}
    (read : number text = some (found, rest)) :
    Begins (Grammar.Value · found) text rest := by
  unfold number at read
  split at read
  · split at read
    · cases read
    · rename_i readMagnitude
      cases read
      obtain ⟨used, rfl, _, negative⟩ := magnitude_spec readMagnitude
      exact ⟨'-' :: used, rfl, .number negative⟩
  · split at read
    · cases read
    · rename_i readMagnitude
      cases read
      obtain ⟨used, rfl, positive, _⟩ := magnitude_spec readMagnitude
      exact ⟨used, rfl, .number positive⟩

/-! ## Values -/

theorem literal_spec
    {text rest : List Char} {found : Json}
    (read : literal text = some (found, rest)) :
    Begins (Grammar.Value · found) text rest := by
  unfold literal at read
  split at read
  · rename_i isNull
    cases read
    exact ⟨_, after_spec isNull, .null⟩
  · split at read
    · rename_i isFalse
      cases read
      exact ⟨_, after_spec isFalse, .false⟩
    · split at read
      · rename_i isTrue
        cases read
        exact ⟨_, after_spec isTrue, .true⟩
      · cases read

theorem scalar_spec
    {text rest : List Char} {found : Json}
    (read : scalar text = some (found, rest)) :
    Begins (Grammar.Value · found) text rest := by
  unfold scalar at read
  split at read
  · rename_i result isLiteral
    cases read
    exact literal_spec isLiteral
  · split at read
    · rename_i isString
      cases read
      obtain ⟨used, split, derived⟩ := stringText_spec isString
      exact ⟨used, split, .string derived⟩
    · exact number_spec read

/-- The three mutual parsers, with the same fuel. -/
structure Sound (fuel : Nat) : Prop where
  value : ∀ {text rest : List Char} {found : Json},
    value fuel text = some (found, rest) →
      Begins (Grammar.Value · found) text rest
  items : ∀ {text rest : List Char} {found : List Json},
    items fuel text = some (found, rest) →
      ∃ used, text = used ++ ']' :: rest ∧ Grammar.Items used found
  members : ∀ {text rest : List Char} {found : List (String × Json)},
    members fuel text = some (found, rest) →
      ∃ used, text = used ++ '\x7d' :: rest ∧ Grammar.Members used found

namespace Sound

variable {fuel : Nat} (sound : Sound fuel)
include sound

theorem value_succ
    {text rest : List Char} {found : Json}
    (read : Parser.value (fuel + 1) text = some (found, rest)) :
    Begins (Grammar.Value · found) text rest := by
  unfold Parser.value at read
  split at read
  · rename_i more opened
    rw [after_spec opened]
    split at read
    · rename_i empty
      cases read
      obtain ⟨between, rfl, blank⟩ := closed_spec empty
      exact ⟨'[' :: (between ++ [']']), by simp, .emptyArray blank⟩
    · split at read
      · cases read
      · rename_i readItems
        cases read
        obtain ⟨used, rfl, derived⟩ := sound.items readItems
        exact ⟨'[' :: (used ++ [']']), by simp, .array derived⟩
  · split at read
    · rename_i more opened
      rw [after_spec opened]
      split at read
      · rename_i empty
        cases read
        obtain ⟨between, rfl, blank⟩ := closed_spec empty
        exact ⟨'\x7b' :: (between ++ ['\x7d']), by simp,
          .emptyObject blank⟩
      · split at read
        · cases read
        · rename_i readMembers
          cases read
          obtain ⟨used, rfl, derived⟩ := sound.members readMembers
          exact ⟨'\x7b' :: (used ++ ['\x7d']), by simp, .object derived⟩
    · exact scalar_spec read

theorem items_succ
    {text rest : List Char} {found : List Json}
    (read : Parser.items (fuel + 1) text = some (found, rest)) :
    ∃ used, text = used ++ ']' :: rest ∧ Grammar.Items used found := by
  unfold Parser.items at read
  obtain ⟨before, split, blankBefore⟩ := skipWhitespace_spec text
  split at read
  · cases read
  · rename_i first more readFirst
    obtain ⟨inner, sameInner, derived⟩ := sound.value readFirst
    rw [sameInner] at split
    split at read
    · rename_i last
      cases read
      obtain ⟨between, rfl, blank⟩ := closed_spec last
      exact ⟨before ++ inner ++ between, by simp [split],
        .one blankBefore derived blank⟩
    · split at read
      · cases read
      · rename_i separated
        obtain ⟨between, rfl, blank⟩ := closed_spec separated
        split at read
        · cases read
        · rename_i readLater
          cases read
          obtain ⟨used, rfl, derivedLater⟩ := sound.items readLater
          exact ⟨before ++ inner ++ between ++ ',' :: used,
            by simp [split],
            .more blankBefore derived blank derivedLater⟩

theorem members_succ
    {text rest : List Char} {found : List (String × Json)}
    (read : Parser.members (fuel + 1) text = some (found, rest)) :
    ∃ used, text = used ++ '\x7d' :: rest ∧
      Grammar.Members used found := by
  unfold Parser.members at read
  obtain ⟨before, split, blankBefore⟩ := skipWhitespace_spec text
  split at read
  · cases read
  · rename_i name afterName readName
    obtain ⟨key, sameKey, named⟩ := stringText_spec readName
    rw [sameKey] at split
    split at read
    · cases read
    · rename_i afterColon colon
      obtain ⟨middle, rfl, blankMiddle⟩ := closed_spec colon
      obtain ⟨opening, sameOpening, blankOpening⟩ :=
        skipWhitespace_spec afterColon
      split at read
      · cases read
      · rename_i first more readFirst
        obtain ⟨inner, sameInner, derived⟩ := sound.value readFirst
        rw [sameInner] at sameOpening
        rw [sameOpening] at split
        split at read
        · rename_i last
          cases read
          obtain ⟨between, rfl, blank⟩ := closed_spec last
          exact ⟨before ++ key ++ middle ++
              ':' :: (opening ++ inner ++ between),
            by simp [split],
            .one blankBefore named blankMiddle blankOpening derived blank⟩
        · split at read
          · cases read
          · rename_i separated
            obtain ⟨between, rfl, blank⟩ := closed_spec separated
            split at read
            · cases read
            · rename_i readLater
              cases read
              obtain ⟨used, rfl, derivedLater⟩ := sound.members readLater
              exact ⟨before ++ key ++ middle ++
                  ':' :: (opening ++ inner ++ between ++ ',' :: used),
                by simp [split],
                .more blankBefore named blankMiddle blankOpening derived
                  blank derivedLater⟩

end Sound

theorem sound (fuel : Nat) : Sound fuel := by
  induction fuel with
  | zero =>
      refine ⟨?_, ?_, ?_⟩ <;> intro text rest found read
      · unfold value at read
        cases read
      · unfold items at read
        cases read
      · unfold members at read
        cases read
  | succ fuel inductionHypothesis =>
      exact
        { value := inductionHypothesis.value_succ
          items := inductionHypothesis.items_succ
          members := inductionHypothesis.members_succ }

end Parser

/-- What the parser accepts is a JSON text with this value. -/
theorem parse_sound
    {text : List Char} {found : Json} (read : parse text = some found) :
    Grammar.Text text found := by
  unfold parse at read
  obtain ⟨before, split, blankBefore⟩ := Parser.skipWhitespace_spec text
  split at read
  · cases read
  · rename_i value rest readValue
    split at read
    · rename_i finished
      cases read
      obtain ⟨inner, same, derived⟩ :=
        (Parser.sound _).value readValue
      obtain ⟨after, sameRest, blankAfter⟩ :=
        Parser.skipWhitespace_spec rest
      rw [finished, List.append_nil] at sameRest
      rw [same] at split
      exact ⟨before, inner, rest, by simp [split], blankBefore, derived,
        sameRest ▸ blankAfter⟩
    · cases read

end Json
