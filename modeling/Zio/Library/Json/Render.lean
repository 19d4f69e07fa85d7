import Zio.Library.Json.Soundness

/-!
# Compact JSON texts

A writer without whitespace, over any escaping of characters that the parser
undoes.  Parsing what it writes gives back the value, and it writes no control
character.
-/

namespace Json

/-- How the characters of a string are written. -/
structure Escaping where
  escape : Char → List Char
  decoded : ∀ character rest,
    Parser.stringChar (escape character ++ rest) = some (character, rest)
  visible : ∀ character, ∀ written ∈ escape character, 0x20 ≤ written.toNat

def renderInt (value : Int) : List Char :=
  if value < 0 then '-' :: Nat.toDigits 10 value.natAbs
  else Nat.toDigits 10 value.natAbs

def renderNumber (mantissa exponent : Int) : List Char :=
  if exponent = 0 then renderInt mantissa
  else renderInt mantissa ++ 'e' :: renderInt exponent

/-! ## Digits -/

theorem digitsValue_append (first second : List Char) :
    digitsValue (first ++ second) =
      second.foldl (fun value digit => 10 * value + (digit.toNat - 48))
        (digitsValue first) :=
  List.foldl_append

theorem digitsValue_toDigits (number : Nat) :
    digitsValue (Nat.toDigits 10 number) = number := by
  induction number using Nat.strongRecOn with
  | ind number inductionHypothesis =>
      rw [Nat.toDigits_eq_if (by decide)]
      split
      · rename_i small
        simp only [digitsValue, List.foldl_cons, List.foldl_nil]
        rw [Nat.toNat_digitChar_sub_48_of_lt_ten small]
        omega
      · rename_i large
        rw [digitsValue_append, inductionHypothesis (number / 10) (by omega)]
        simp only [List.foldl_cons, List.foldl_nil]
        rw [Nat.toNat_digitChar_sub_48_of_lt_ten
          (Nat.mod_lt number (by decide))]
        omega

theorem toDigits_isDigit
    (number : Nat) :
    ∀ digit ∈ Nat.toDigits 10 number, digit.isDigit = true :=
  fun _ member =>
    Nat.isDigit_of_mem_toDigits (by decide) (by decide) member

/-- A written number has no leading zero. -/
theorem toDigits_leading (number : Nat) :
    Nat.toDigits 10 number = ['0'] ∨
      (Nat.toDigits 10 number).head? ≠ some '0' := by
  by_cases zero : number = 0
  · rw [zero]
    exact Or.inl rfl
  · refine Or.inr ?_
    induction number using Nat.strongRecOn with
    | ind number inductionHypothesis =>
        rw [Nat.toDigits_eq_if (by decide)]
        split
        · rw [List.head?_cons]
          intro leading
          rw [Option.some.injEq, Nat.digitChar_eq_zero] at leading
          exact zero leading
        · rename_i large
          have leading :=
            inductionHypothesis (number / 10) (by omega) (by omega)
          cases shorter : Nat.toDigits 10 (number / 10) with
          | nil => exact absurd shorter Nat.toDigits_ne_nil
          | cons digit more =>
              rw [shorter] at leading
              exact leading

/-- What may follow a number. -/
def Follows (rest : List Char) : Prop :=
  ∀ first ∈ rest.head?, first.isDigit = false ∧ first ≠ '.' ∧
    first ≠ 'e' ∧ first ≠ 'E'

theorem follows_cons
    {first : Char}
    (apart : first.isDigit = false ∧ first ≠ '.' ∧ first ≠ 'e' ∧
      first ≠ 'E') (rest : List Char) :
    Follows (first :: rest) := by
  intro other member
  cases member
  exact apart

theorem follows_nil : Follows [] := by
  intro other member
  cases member

namespace Parser

theorem digits_append
    {found rest : List Char} (nonempty : found ≠ [])
    (all : ∀ digit ∈ found, digit.isDigit = true)
    (ends : ∀ first ∈ rest.head?, first.isDigit = false) :
    digits (found ++ rest) = some (found, rest) := by
  have stops : rest.takeWhile Char.isDigit = [] ∧
      rest.dropWhile Char.isDigit = rest := by
    cases rest with
    | nil => exact ⟨rfl, rfl⟩
    | cons first more =>
        have apart := ends first rfl
        constructor
        · rw [List.takeWhile_cons_of_neg (by rw [apart]; decide)]
        · rw [List.dropWhile_cons_of_neg (by rw [apart]; decide)]
  have taken : (found ++ rest).takeWhile Char.isDigit = found := by
    rw [List.takeWhile_append_of_pos all, stops.1, List.append_nil]
  have dropped : (found ++ rest).dropWhile Char.isDigit = rest := by
    rw [List.dropWhile_append_of_pos all, stops.2]
  unfold digits
  rw [taken, dropped]
  cases found with
  | nil => exact (nonempty rfl).elim
  | cons digit more => rfl

theorem magnitude_render
    (number : Nat) {tail rest : List Char} {exponentValue : Int}
    (ends : ∀ first ∈ tail.head?, first.isDigit = false ∧ first ≠ '.')
    (read : exponent tail = some (exponentValue, rest)) :
    magnitude (Nat.toDigits 10 number ++ tail) =
      some (number, exponentValue, rest) := by
  have whole : integer (Nat.toDigits 10 number ++ tail) =
      some (Nat.toDigits 10 number, tail) := by
    unfold integer
    rw [digits_append Nat.toDigits_ne_nil (toDigits_isDigit number)
      (fun first member => (ends first member).1)]
    simp only
    rw [if_pos (toDigits_leading number)]
  have part : fraction tail = some ([], tail) := by
    unfold fraction
    split
    · exact ((ends '.' rfl).2 rfl).elim
    · rfl
  unfold magnitude
  simp only [whole, part, read]
  rw [List.append_nil, digitsValue_toDigits]
  simp

theorem ne_of_isDigit
    {digit other : Char} (isDigit : digit.isDigit = true)
    (apart : other.isDigit = false) : digit ≠ other := by
  rintro rfl
  rw [isDigit] at apart
  cases apart

theorem toDigits_cons (number : Nat) :
    ∃ digit more, Nat.toDigits 10 number = digit :: more ∧
      digit.isDigit = true := by
  cases written : Nat.toDigits 10 number with
  | nil => exact absurd written Nat.toDigits_ne_nil
  | cons digit more =>
      refine ⟨digit, more, rfl, toDigits_isDigit number digit ?_⟩
      rw [written]
      exact List.mem_cons_self

theorem renderInt_cases (value : Int) :
    renderInt value = '-' :: Nat.toDigits 10 value.natAbs ∧
        value = -(value.natAbs : Int) ∨
      renderInt value = Nat.toDigits 10 value.natAbs ∧
        value = value.natAbs := by
  unfold renderInt
  split
  · exact Or.inl ⟨rfl, by omega⟩
  · exact Or.inr ⟨rfl, by omega⟩

theorem power_render
    (value : Int) {rest : List Char}
    (ends : ∀ first ∈ rest.head?, first.isDigit = false) :
    power (renderInt value ++ rest) = some (value, rest) := by
  have read := @digits_append (Nat.toDigits 10 value.natAbs) rest
    Nat.toDigits_ne_nil (toDigits_isDigit value.natAbs) ends
  rcases renderInt_cases value with ⟨written, same⟩ | ⟨written, same⟩
  · rw [written, List.cons_append, power, read, Option.map_some,
      digitsValue_toDigits, ← same]
  · obtain ⟨digit, more, first, isDigit⟩ := toDigits_cons value.natAbs
    rw [written]
    unfold power
    split
    · rename_i more' starts
      rw [first, List.cons_append, List.cons.injEq] at starts
      exact (ne_of_isDigit isDigit (by decide) starts.1).elim
    · rename_i more' starts
      rw [first, List.cons_append, List.cons.injEq] at starts
      exact (ne_of_isDigit isDigit (by decide) starts.1).elim
    · rw [read, Option.map_some, digitsValue_toDigits, ← same]

/-- The part of a written number after its mantissa. -/
theorem exponent_render
    (value : Int) {rest : List Char} (follows : Follows rest) :
    ∃ tail,
      (∀ mantissa, renderNumber mantissa value ++ rest =
        renderInt mantissa ++ tail) ∧
        (∀ first ∈ tail.head?, first.isDigit = false ∧ first ≠ '.') ∧
        exponent tail = some (value, rest) := by
  by_cases zero : value = 0
  · refine ⟨rest, fun mantissa => ?_, fun first member => ?_, ?_⟩
    · rw [renderNumber, if_pos zero]
    · exact ⟨(follows first member).1, (follows first member).2.1⟩
    · rw [zero]
      cases rest with
      | nil => rfl
      | cons first more =>
          obtain ⟨_, _, lower, upper⟩ := follows first rfl
          rw [exponent, if_neg (not_or.mpr ⟨lower, upper⟩)]
  · refine ⟨'e' :: (renderInt value ++ rest), fun mantissa => ?_,
      fun first member => ?_, ?_⟩
    · rw [renderNumber, if_neg zero, List.append_assoc]
      rfl
    · cases member
      decide
    · rw [exponent, if_pos (Or.inl rfl)]
      exact power_render value fun first member =>
        (follows first member).1

theorem number_render
    (mantissa value : Int) {rest : List Char} (follows : Follows rest) :
    number (renderNumber mantissa value ++ rest) =
      some (.number mantissa value, rest) := by
  obtain ⟨tail, written, ends, read⟩ := exponent_render value follows
  have unsigned := magnitude_render mantissa.natAbs ends read
  rw [written]
  rcases renderInt_cases mantissa with ⟨shape, same⟩ | ⟨shape, same⟩
  · rw [shape, List.cons_append, number, unsigned]
    simp only [← same]
  · obtain ⟨digit, more, first, isDigit⟩ := toDigits_cons mantissa.natAbs
    rw [shape]
    unfold number
    split
    · rename_i more' starts
      rw [first, List.cons_append, List.cons.injEq] at starts
      exact (ne_of_isDigit isDigit (by decide) starts.1).elim
    · rw [unsigned]
      simp only [← same]

/-- A written number begins with a digit or a minus. -/
theorem renderNumber_cons (mantissa value : Int) :
    ∃ first more, renderNumber mantissa value = first :: more ∧
      (first.isDigit = true ∨ first = '-') := by
  have start : ∃ first more, renderInt mantissa = first :: more ∧
      (first.isDigit = true ∨ first = '-') := by
    rcases renderInt_cases mantissa with ⟨shape, _⟩ | ⟨shape, _⟩
    · exact ⟨'-', _, shape, Or.inr rfl⟩
    · obtain ⟨digit, more, first, isDigit⟩ :=
        toDigits_cons mantissa.natAbs
      exact ⟨digit, more, shape.trans first, Or.inl isDigit⟩
  obtain ⟨first, more, shape, kind⟩ := start
  unfold renderNumber
  split
  · exact ⟨first, more, shape, kind⟩
  · exact ⟨first, more ++ 'e' :: renderInt value, by rw [shape]; rfl, kind⟩

end Parser

def renderBool (value : Bool) : List Char :=
  if value then ['t', 'r', 'u', 'e'] else ['f', 'a', 'l', 's', 'e']

namespace Escaping

variable (self : Escaping)

def renderString (value : String) : List Char :=
  '"' :: (value.toList.flatMap self.escape ++ ['"'])

mutual

def render : Json → List Char
  | .null => ['n', 'u', 'l', 'l']
  | .bool value => renderBool value
  | .number mantissa exponent => renderNumber mantissa exponent
  | .string value => self.renderString value
  | .array items => '[' :: (renderItems items ++ [']'])
  | .object members => '\x7b' :: (renderMembers members ++ ['\x7d'])

def renderItems : List Json → List Char
  | [] => []
  | [last] => render last
  | first :: second :: rest =>
      render first ++ ',' :: renderItems (second :: rest)

def renderMembers : List (String × Json) → List Char
  | [] => []
  | [(name, value)] => self.renderString name ++ ':' :: render value
  | (name, value) :: second :: rest =>
      self.renderString name ++ ':' :: (render value ++
        ',' :: renderMembers (second :: rest))

end

/-! ## Members -/

def renderMember (member : String × Json) : List Char :=
  self.renderString member.1 ++ ':' :: self.render member.2

/-- Members that are each followed by a separator. -/
def renderFields (members : List (String × Json)) : List Char :=
  members.flatMap fun member => self.renderMember member ++ [',']

theorem renderMembers_one (member : String × Json) :
    self.renderMembers [member] = self.renderMember member := by
  rcases member with ⟨name, value⟩
  rw [renderMembers, renderMember]

theorem renderMembers_cons
    (member : String × Json) {rest : List (String × Json)}
    (more : rest ≠ []) :
    self.renderMembers (member :: rest) =
      self.renderMember member ++ ',' :: self.renderMembers rest := by
  rcases member with ⟨name, value⟩
  cases rest with
  | nil => exact (more rfl).elim
  | cons second rest =>
      rw [renderMembers, renderMember, List.append_assoc]
      rfl

theorem renderMembers_append
    (members : List (String × Json)) {rest : List (String × Json)}
    (more : rest ≠ []) :
    self.renderMembers (members ++ rest) =
      self.renderFields members ++ self.renderMembers rest := by
  induction members with
  | nil => rfl
  | cons member members inductionHypothesis =>
      rw [List.cons_append, self.renderMembers_cons member
        (List.append_ne_nil_of_right_ne_nil members more),
        inductionHypothesis, renderFields, renderFields,
        List.flatMap_cons, List.append_assoc, List.append_assoc]
      rfl

/-- Members that each follow a separator. -/
def renderLater (members : List (String × Json)) : List Char :=
  members.flatMap fun member => ',' :: self.renderMember member

theorem renderMembers_later
    (first : String × Json) (rest : List (String × Json)) :
    self.renderMembers (first :: rest) =
      self.renderMember first ++ self.renderLater rest := by
  induction rest generalizing first with
  | nil => rw [self.renderMembers_one, renderLater, List.flatMap_nil,
      List.append_nil]
  | cons second rest inductionHypothesis =>
      rw [self.renderMembers_cons first (List.cons_ne_nil second rest),
        inductionHypothesis, renderLater, renderLater,
        List.flatMap_cons]
      rfl

/-! ## Integers -/

theorem render_int (value : Int) :
    self.render (int value) = renderInt value := by
  rw [int, render, renderNumber, if_pos rfl]

/-! ## Strings -/

theorem stringBody_escape
    (characters rest : List Char) {fuel : Nat}
    (enough : characters.length < fuel) :
    Parser.stringBody fuel
        (characters.flatMap self.escape ++ '"' :: rest) =
      some (characters, rest) := by
  induction characters generalizing fuel with
  | nil =>
      obtain ⟨fuel, rfl⟩ := Nat.exists_eq_add_of_lt enough
      rfl
  | cons character more inductionHypothesis =>
      cases fuel with
      | zero => cases enough
      | succ fuel =>
          rw [List.length_cons] at enough
          rw [List.flatMap_cons, List.append_assoc]
          have decoded := self.decoded character
            (more.flatMap self.escape ++ '"' :: rest)
          unfold Parser.stringBody
          split
          · rename_i quoted
            rw [quoted] at decoded
            cases decoded
          · rw [decoded]
            simp only [inductionHypothesis (Nat.lt_of_succ_lt_succ enough)]

theorem escape_ne_nil (character : Char) : self.escape character ≠ [] := by
  intro empty
  have decoded := self.decoded character []
  rw [empty] at decoded
  cases decoded

theorem length_flatMap_escape (characters : List Char) :
    characters.length ≤ (characters.flatMap self.escape).length := by
  induction characters with
  | nil => exact Nat.le_refl 0
  | cons character more inductionHypothesis =>
      have positive :=
        List.length_pos_iff.mpr (self.escape_ne_nil character)
      rw [List.flatMap_cons, List.length_append, List.length_cons]
      omega

theorem stringText_render (value : String) (rest : List Char) :
    Parser.stringText (self.renderString value ++ rest) =
      some (value, rest) := by
  have longer := self.length_flatMap_escape value.toList
  have body := self.stringBody_escape value.toList rest
    (show value.toList.length <
      (value.toList.flatMap self.escape ++ '"' :: rest).length + 1 by
        rw [List.length_append]; omega)
  have shape : self.renderString value ++ rest =
      '"' :: (value.toList.flatMap self.escape ++ '"' :: rest) := by
    simp [renderString]
  rw [shape, Parser.stringText, body]
  simp only [String.ofList_toList]

/-! ## Values -/

theorem after_cons_ne
    {first character : Char} (apart : first ≠ character)
    (word rest : List Char) :
    Parser.after (character :: word) (first :: rest) = none := by
  rw [Parser.after, if_neg apart]

theorem after_cons
    (character : Char) (rest : List Char) :
    Parser.after [character] (character :: rest) = some rest := by
  rw [Parser.after, if_pos rfl]
  rfl

/-- A text whose first character is none that a parser skips or closes. -/
def Starts (text : List Char) : Prop :=
  ∃ first more, text = first :: more ∧ isWhitespace first = false ∧
    first ≠ ']'

theorem Starts.append {text : List Char} (starts : Starts text)
    (rest : List Char) : Starts (text ++ rest) := by
  obtain ⟨first, more, rfl, kind⟩ := starts
  exact ⟨first, more ++ rest, rfl, kind⟩

theorem Starts.skipWhitespace {text : List Char} (starts : Starts text) :
    Parser.skipWhitespace text = text := by
  obtain ⟨first, more, rfl, visible, _⟩ := starts
  exact List.dropWhile_cons_of_neg (by rw [visible]; decide)

theorem Starts.unclosed {text : List Char} (starts : Starts text) :
    Parser.closed ']' text = none := by
  unfold Parser.closed
  rw [starts.skipWhitespace]
  obtain ⟨first, more, rfl, _, apart⟩ := starts
  exact after_cons_ne apart [] more

theorem closed_cons
    {close : Char} (visible : isWhitespace close = false)
    (rest : List Char) :
    Parser.closed close (close :: rest) = some rest := by
  unfold Parser.closed Parser.skipWhitespace
  rw [List.dropWhile_cons_of_neg (by rw [visible]; decide)]
  exact after_cons close rest

theorem closed_cons_ne
    {close first : Char} (visible : isWhitespace first = false)
    (apart : first ≠ close) (rest : List Char) :
    Parser.closed close (first :: rest) = none := by
  unfold Parser.closed Parser.skipWhitespace
  rw [List.dropWhile_cons_of_neg (by rw [visible]; decide)]
  exact after_cons_ne apart [] rest

theorem starts_renderString (value : String) :
    Starts (self.renderString value) :=
  ⟨'"', _, rfl, by decide, by decide⟩

theorem starts_renderNumber (mantissa exponent : Int) :
    Starts (renderNumber mantissa exponent) := by
  obtain ⟨first, more, shape, kind⟩ :=
    Parser.renderNumber_cons mantissa exponent
  refine ⟨first, more, shape, ?_⟩
  rcases kind with isDigit | rfl
  · have apart : ∀ other : Char, other.isDigit = false → first ≠ other :=
      fun other => Parser.ne_of_isDigit isDigit
    refine ⟨?_, apart ']' (by decide)⟩
    simp [isWhitespace, apart ' ' (by decide), apart '\t' (by decide),
      apart '\n' (by decide), apart '\r' (by decide)]
  · exact ⟨by decide, by decide⟩

theorem starts_render (value : Json) : Starts (self.render value) := by
  cases value with
  | null => exact ⟨'n', _, rfl, by decide, by decide⟩
  | bool value =>
      cases value with
      | false => exact ⟨'f', _, rfl, by decide, by decide⟩
      | true => exact ⟨'t', _, rfl, by decide, by decide⟩
  | number mantissa exponent =>
      rw [render]
      exact starts_renderNumber mantissa exponent
  | string value =>
      rw [render]
      exact self.starts_renderString value
  | array items =>
      rw [render]
      exact ⟨'[', _, rfl, by decide, by decide⟩
  | object members =>
      rw [render]
      exact ⟨'\x7b', _, rfl, by decide, by decide⟩

/-- A text that begins neither an array nor an object. -/
theorem value_scalar
    {fuel : Nat} {first : Char} {more : List Char}
    (noArray : first ≠ '[') (noObject : first ≠ '\x7b') :
    Parser.value (fuel + 1) (first :: more) =
      Parser.scalar (first :: more) := by
  unfold Parser.value
  rw [after_cons_ne noArray, after_cons_ne noObject]

/-- A text that begins no literal. -/
theorem literal_none
    {first : Char} {more : List Char} (noNull : first ≠ 'n')
    (noFalse : first ≠ 'f') (noTrue : first ≠ 't') :
    Parser.literal (first :: more) = none := by
  unfold Parser.literal
  rw [after_cons_ne noNull, after_cons_ne noFalse, after_cons_ne noTrue]

theorem value_number
    {fuel : Nat} (mantissa exponent : Int) {rest : List Char}
    (follows : Follows rest) :
    Parser.value (fuel + 1) (renderNumber mantissa exponent ++ rest) =
      some (.number mantissa exponent, rest) := by
  have read := Parser.number_render mantissa exponent follows
  obtain ⟨first, more, shape, kind⟩ :=
    Parser.renderNumber_cons mantissa exponent
  rw [shape, List.cons_append] at read ⊢
  have apart : ∀ other : Char, other.isDigit = false → other ≠ '-' →
      first ≠ other := by
    intro other noDigit noMinus
    rcases kind with isDigit | rfl
    · exact Parser.ne_of_isDigit isDigit noDigit
    · exact noMinus.symm
  rw [value_scalar (apart '[' (by decide) (by decide))
    (apart '\x7b' (by decide) (by decide)), Parser.scalar,
    literal_none (apart 'n' (by decide) (by decide))
      (apart 'f' (by decide) (by decide))
      (apart 't' (by decide) (by decide))]
  simp only
  have noString : Parser.stringText (first :: (more ++ rest)) = none := by
    unfold Parser.stringText
    split
    · rename_i starts
      exact (apart '"' (by decide) (by decide)
        (List.cons.inj starts).1).elim
    · rfl
  rw [noString]
  exact read

theorem value_string
    {fuel : Nat} (value : String) (rest : List Char) :
    Parser.value (fuel + 1) (self.renderString value ++ rest) =
      some (.string value, rest) := by
  have read := self.stringText_render value rest
  have shape : self.renderString value ++ rest =
      '"' :: (value.toList.flatMap self.escape ++ ['"'] ++ rest) := rfl
  rw [shape] at read ⊢
  rw [value_scalar (by decide) (by decide), Parser.scalar,
    literal_none (by decide) (by decide) (by decide)]
  simp only [read]

theorem starts_items (first : Json) (more : List Json) :
    Starts (self.renderItems (first :: more)) := by
  cases more with
  | nil =>
      rw [renderItems]
      exact self.starts_render first
  | cons second more =>
      rw [renderItems]
      exact (self.starts_render first).append _

theorem members_quoted
    (member : String × Json) (more : List (String × Json)) :
    ∃ later, self.renderMembers (member :: more) = '"' :: later := by
  rcases member with ⟨name, value⟩
  cases more <;> exact ⟨_, by rw [renderMembers]; rfl⟩

/-- With this fuel, the parsers give back what fits into it. -/
structure Reads (escaping : Escaping) (fuel : Nat) : Prop where
  value : ∀ (found : Json) {rest : List Char}, Follows rest →
    2 * (escaping.render found).length ≤ fuel →
      Parser.value fuel (escaping.render found ++ rest) = some (found, rest)
  items : ∀ (first : Json) (more : List Json) {rest : List Char},
    2 * (escaping.renderItems (first :: more)).length + 1 ≤ fuel →
      Parser.items fuel
          (escaping.renderItems (first :: more) ++ ']' :: rest) =
        some (first :: more, rest)
  members : ∀ (first : String × Json) (more : List (String × Json))
    {rest : List Char},
    2 * (escaping.renderMembers (first :: more)).length + 1 ≤ fuel →
      Parser.members fuel
          (escaping.renderMembers (first :: more) ++ '\x7d' :: rest) =
        some (first :: more, rest)

namespace Reads

variable {self} {fuel : Nat} (reads : self.Reads fuel)
include reads

theorem value_succ
    (found : Json) {rest : List Char} (follows : Follows rest)
    (enough : 2 * (self.render found).length ≤ fuel + 1) :
    Parser.value (fuel + 1) (self.render found ++ rest) =
      some (found, rest) := by
  cases found with
  | null => rfl
  | bool value => cases value <;> rfl
  | number mantissa exponent =>
      rw [render]
      exact value_number mantissa exponent follows
  | string value =>
      rw [render]
      exact self.value_string value rest
  | array items =>
      rw [render, List.length_cons, List.length_append] at enough
      rw [render, List.cons_append, List.append_assoc]
      cases items with
      | nil => rfl
      | cons first more =>
          have read := @items _ _ reads first more rest (by omega)
          have unclosed := ((self.starts_items first more).append
            (']' :: rest)).unclosed
          unfold Parser.value
          simp only [after_cons, List.cons_append, List.nil_append, unclosed,
            read]
  | object members =>
      rw [render, List.length_cons, List.length_append] at enough
      rw [render, List.cons_append, List.append_assoc]
      cases members with
      | nil => rfl
      | cons first more =>
          have read := @members _ _ reads first more rest (by omega)
          obtain ⟨later, quoted⟩ := self.members_quoted first more
          have unclosed := @closed_cons_ne '\x7d' '"' (by decide)
            (by decide) (later ++ '\x7d' :: rest)
          rw [← List.cons_append, ← quoted] at unclosed
          unfold Parser.value
          simp only [after_cons_ne (show '\x7b' ≠ '[' by decide),
            after_cons, List.cons_append, List.nil_append, unclosed, read]

theorem items_succ
    (first : Json) (more : List Json) {rest : List Char}
    (enough :
      2 * (self.renderItems (first :: more)).length + 1 ≤ fuel + 1) :
    Parser.items (fuel + 1)
        (self.renderItems (first :: more) ++ ']' :: rest) =
      some (first :: more, rest) := by
  cases more with
  | nil =>
      rw [renderItems] at enough ⊢
      have read := reads.value first
        (@follows_cons ']' (by decide) rest) (by omega)
      unfold Parser.items
      rw [((self.starts_render first).append _).skipWhitespace, read]
      simp only [closed_cons (show isWhitespace ']' = false by decide)]
  | cons second more =>
      rw [renderItems, List.length_append, List.length_cons] at enough
      have later := @items _ _ reads second more rest (by omega)
      have read := reads.value first
        (@follows_cons ',' (by decide)
          (self.renderItems (second :: more) ++ ']' :: rest)) (by omega)
      unfold Parser.items
      rw [renderItems, List.append_assoc, List.cons_append,
        ((self.starts_render first).append _).skipWhitespace, read]
      simp only [closed_cons (show isWhitespace ',' = false by decide),
        closed_cons_ne (show isWhitespace ',' = false by decide)
          (show ',' ≠ ']' by decide), later]

theorem members_succ
    (first : String × Json) (more : List (String × Json))
    {rest : List Char}
    (enough :
      2 * (self.renderMembers (first :: more)).length + 1 ≤ fuel + 1) :
    Parser.members (fuel + 1)
        (self.renderMembers (first :: more) ++ '\x7d' :: rest) =
      some (first :: more, rest) := by
  rcases first with ⟨name, value⟩
  cases more with
  | nil =>
      rw [renderMembers, List.length_append, List.length_cons] at enough
      have read := reads.value value
        (@follows_cons '\x7d' (by decide) rest) (by omega)
      unfold Parser.members
      rw [renderMembers, List.append_assoc, List.cons_append,
        ((self.starts_renderString name).append _).skipWhitespace,
        self.stringText_render]
      simp only [closed_cons (show isWhitespace ':' = false by decide),
        ((self.starts_render value).append _).skipWhitespace, read,
        closed_cons (show isWhitespace '\x7d' = false by decide)]
  | cons second more =>
      rw [renderMembers, List.length_append, List.length_cons,
        List.length_append, List.length_cons] at enough
      have later := @members _ _ reads second more rest (by omega)
      have read := reads.value value
        (@follows_cons ',' (by decide)
          (self.renderMembers (second :: more) ++ '\x7d' :: rest))
        (by omega)
      unfold Parser.members
      rw [renderMembers, List.append_assoc, List.cons_append,
        List.append_assoc, List.cons_append,
        ((self.starts_renderString name).append _).skipWhitespace,
        self.stringText_render]
      simp only [closed_cons (show isWhitespace ':' = false by decide),
        ((self.starts_render value).append _).skipWhitespace, read,
        closed_cons (show isWhitespace ',' = false by decide),
        closed_cons_ne (show isWhitespace ',' = false by decide)
          (show ',' ≠ '\x7d' by decide), later]

end Reads

theorem reads (fuel : Nat) : self.Reads fuel := by
  induction fuel with
  | zero =>
      refine ⟨fun found rest _ enough => ?_, fun _ _ _ enough => ?_,
        fun _ _ _ enough => ?_⟩
      · obtain ⟨first, more, shape, _⟩ := self.starts_render found
        rw [shape, List.length_cons] at enough
        omega
      · omega
      · omega
  | succ fuel inductionHypothesis =>
      exact
        { value := inductionHypothesis.value_succ
          items := inductionHypothesis.items_succ
          members := inductionHypothesis.members_succ }

/-- Parsing a written text gives back its value. -/
theorem parse_render (value : Json) :
    parse (self.render value) = some value := by
  have read := (self.reads (2 * (self.render value).length + 1)).value
    value follows_nil (by omega)
  rw [List.append_nil] at read
  unfold parse
  rw [(self.starts_render value).skipWhitespace, read]
  rfl

/-! ## Control characters -/

/-- A text without a control character. -/
def Visible (text : List Char) : Prop :=
  ∀ character ∈ text, 0x20 ≤ character.toNat

instance (text : List Char) : Decidable (Visible text) :=
  List.decidableBAll (fun character : Char => 0x20 ≤ character.toNat) text

theorem visible_nil : Visible [] := fun _ member => by cases member

theorem visible_cons
    {first : Char} {rest : List Char} (printable : 0x20 ≤ first.toNat)
    (visible : Visible rest) : Visible (first :: rest) := by
  intro character member
  rcases List.mem_cons.mp member with rfl | later
  · exact printable
  · exact visible character later

theorem visible_append
    {first second : List Char} (before : Visible first)
    (after : Visible second) : Visible (first ++ second) := by
  intro character member
  rcases List.mem_append.mp member with left | right
  · exact before character left
  · exact after character right

theorem visible_renderString (value : String) :
    Visible (self.renderString value) := by
  refine visible_cons (by decide)
    (visible_append ?_ (visible_cons (by decide) visible_nil))
  intro written member
  obtain ⟨character, _, inside⟩ := List.mem_flatMap.mp member
  exact self.visible character written inside

theorem visible_renderInt (value : Int) : Visible (renderInt value) := by
  have digits : Visible (Nat.toDigits 10 value.natAbs) := by
    intro digit member
    have isDigit := toDigits_isDigit value.natAbs digit member
    rw [Char.isDigit_iff_toNat] at isDigit
    have zero : '0'.toNat = 48 := rfl
    omega
  rcases Parser.renderInt_cases value with ⟨shape, _⟩ | ⟨shape, _⟩
  · rw [shape]
    exact visible_cons (by decide) digits
  · rw [shape]
    exact digits

theorem visible_renderNumber (mantissa exponent : Int) :
    Visible (renderNumber mantissa exponent) := by
  unfold renderNumber
  split
  · exact visible_renderInt mantissa
  · exact visible_append (visible_renderInt mantissa)
      (visible_cons (by decide) (visible_renderInt exponent))

theorem visible_renderItems
    {items : List Json} (each : ∀ item ∈ items, Visible (self.render item)) :
    Visible (self.renderItems items) := by
  induction items with
  | nil =>
      rw [renderItems]
      exact visible_nil
  | cons first more inductionHypothesis =>
      have head := each first List.mem_cons_self
      have tail := inductionHypothesis fun item member =>
        each item (List.mem_cons_of_mem _ member)
      cases more with
      | nil =>
          rw [renderItems]
          exact head
      | cons second rest =>
          rw [renderItems]
          exact visible_append head (visible_cons (by decide) tail)

theorem visible_renderMembers
    {members : List (String × Json)}
    (each : ∀ member ∈ members, Visible (self.render member.2)) :
    Visible (self.renderMembers members) := by
  induction members with
  | nil =>
      rw [renderMembers]
      exact visible_nil
  | cons first more inductionHypothesis =>
      rcases first with ⟨name, value⟩
      have key := self.visible_renderString name
      have head := each (name, value) List.mem_cons_self
      have tail := inductionHypothesis fun item member =>
        each item (List.mem_cons_of_mem _ member)
      cases more with
      | nil =>
          rw [renderMembers]
          exact visible_append key (visible_cons (by decide) head)
      | cons second rest =>
          rw [renderMembers]
          exact visible_append key (visible_cons (by decide)
            (visible_append head (visible_cons (by decide) tail)))

/-- A written text has no control character. -/
theorem visible_render (value : Json) : Visible (self.render value) := by
  induction value using Json.induct with
  | null =>
      rw [render]
      decide
  | bool value =>
      rw [render]
      cases value <;> decide
  | number mantissa exponent =>
      rw [render]
      exact visible_renderNumber mantissa exponent
  | string value =>
      rw [render]
      exact self.visible_renderString value
  | array items inductionHypothesis =>
      rw [render]
      exact visible_cons (by decide)
        (visible_append (self.visible_renderItems inductionHypothesis)
          (visible_cons (by decide) visible_nil))
  | object members inductionHypothesis =>
      rw [render]
      exact visible_cons (by decide)
        (visible_append (self.visible_renderMembers inductionHypothesis)
          (visible_cons (by decide) visible_nil))

end Escaping

end Json
