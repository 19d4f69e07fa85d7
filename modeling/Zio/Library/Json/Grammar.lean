import Mathlib.Data.List.TakeWhile

/-!
# JSON values and the JSON grammar

The values that a JSON text stands for, and the grammar of RFC 8259 with the
value of every production.  Numbers are exact decimals.  A string may escape a
character outside of the basic plane as a surrogate pair; a lone surrogate
stands for no string.
-/

/-- A JSON value.  A number is its mantissa times a power of ten. -/
inductive Json where
  | null
  | bool (value : Bool)
  | number (mantissa exponent : Int)
  | string (value : String)
  | array (items : List Json)
  | object (members : List (String × Json))

namespace Json

/-- A JSON value that is an integer. -/
def int (value : Int) : Json := .number value 0

/-- An integer, or no value. -/
def optionalInt (value : Option Int) : Json :=
  match value with
  | none => .null
  | some value => int value

/-- A truth value, or no value. -/
def optionalBool (value : Option Bool) : Json :=
  match value with
  | none => .null
  | some value => .bool value

/-- An array of integers. -/
def integers (values : List Int) : Json := .array (values.map int)

/-- No object of a value has a key twice. -/
inductive UniqueKeys : Json → Prop
  | null : UniqueKeys .null
  | bool (value : Bool) : UniqueKeys (.bool value)
  | number (mantissa exponent : Int) : UniqueKeys (.number mantissa exponent)
  | string (value : String) : UniqueKeys (.string value)
  | array {items : List Json} :
      (∀ item ∈ items, UniqueKeys item) → UniqueKeys (.array items)
  | object {members : List (String × Json)} :
      (members.map Prod.fst).Nodup →
      (∀ member ∈ members, UniqueKeys member.2) →
      UniqueKeys (.object members)

namespace UniqueKeys

theorem optionalInt (value : Option Int) :
    UniqueKeys (optionalInt value) := by
  cases value with
  | none => exact null
  | some value => exact number value 0

theorem optionalBool (value : Option Bool) :
    UniqueKeys (optionalBool value) := by
  cases value with
  | none => exact null
  | some value => exact bool value

theorem integers (values : List Int) : UniqueKeys (integers values) := by
  refine array fun item member => ?_
  obtain ⟨value, _, rfl⟩ := List.mem_map.mp member
  exact number value 0

end UniqueKeys

/-- Induction over values, with the items and members of a value. -/
theorem induct
    {motive : Json → Prop} (null : motive .null)
    (bool : ∀ value, motive (.bool value))
    (number : ∀ mantissa exponent, motive (.number mantissa exponent))
    (string : ∀ value, motive (.string value))
    (array : ∀ items, (∀ item ∈ items, motive item) →
      motive (.array items))
    (object : ∀ members : List (String × Json),
      (∀ member ∈ members, motive member.2) → motive (.object members))
    (value : Json) : motive value :=
  match value with
  | .null => null
  | .bool value => bool value
  | .number mantissa exponent => number mantissa exponent
  | .string value => string value
  | .array items =>
      array items fun item _ =>
        induct null bool number string array object item
  | .object members =>
      object members fun entry _ =>
        induct null bool number string array object entry.2
termination_by sizeOf value
decreasing_by
  · rename_i member
    have smaller := List.sizeOf_lt_of_mem member
    simp only [Json.array.sizeOf_spec]
    omega
  · rename_i member
    have smaller := List.sizeOf_lt_of_mem member
    rcases entry with ⟨name, inner⟩
    simp only [Json.object.sizeOf_spec, Prod.mk.sizeOf_spec] at smaller ⊢
    omega

/-! ## Characters -/

def isWhitespace (character : Char) : Bool :=
  character = ' ' || character = '\t' || character = '\n' ||
    character = '\r'

/-- `unescaped = %x20-21 / %x23-5B / %x5D-10FFFF`. -/
def isUnescaped (character : Char) : Bool :=
  0x20 ≤ character.toNat && character != '"' && character != '\\'

/-- The two-character escapes. -/
def simpleEscape (escape : Char) : Option Char :=
  if escape = '"' then some '"'
  else if escape = '\\' then some '\\'
  else if escape = '/' then some '/'
  else if escape = 'b' then some (Char.ofNat 0x08)
  else if escape = 'f' then some (Char.ofNat 0x0c)
  else if escape = 'n' then some '\n'
  else if escape = 'r' then some '\r'
  else if escape = 't' then some '\t'
  else none

def hexValue (digit : Char) : Option Nat :=
  if '0' ≤ digit ∧ digit ≤ '9' then some (digit.toNat - 48)
  else if 'a' ≤ digit ∧ digit ≤ 'f' then some (digit.toNat - 87)
  else if 'A' ≤ digit ∧ digit ≤ 'F' then some (digit.toNat - 55)
  else none

def isHighSurrogate (unit : Nat) : Bool := 0xd800 ≤ unit && unit < 0xdc00

def isLowSurrogate (unit : Nat) : Bool := 0xdc00 ≤ unit && unit < 0xe000

/-- The character of a surrogate pair. -/
def pairedChar (high low : Nat) : Char :=
  Char.ofNat (0x10000 + (high - 0xd800) * 0x400 + (low - 0xdc00))

/-- The number that decimal digits stand for. -/
def digitsValue (digits : List Char) : Nat :=
  digits.foldl (fun value digit => 10 * value + (digit.toNat - 48)) 0

/-! ## Grammar -/

namespace Grammar

def Whitespace (text : List Char) : Prop :=
  ∀ character ∈ text, isWhitespace character = true

/-- `1*DIGIT`. -/
def Digits (text : List Char) : Prop :=
  text ≠ [] ∧ ∀ character ∈ text, character.isDigit = true

/-- `zero / (digit1-9 *DIGIT)`. -/
def Integer (text : List Char) : Prop :=
  Digits text ∧ (text = ['0'] ∨ text.head? ≠ some '0')

/-- `[decimal-point 1*DIGIT]`, with its digits. -/
inductive Fraction : List Char → List Char → Prop
  | absent : Fraction [] []
  | present {digits : List Char} :
      Digits digits → Fraction ('.' :: digits) digits

/-- `[e [minus / plus] 1*DIGIT]`, with its value. -/
inductive Exponent : List Char → Int → Prop
  | absent : Exponent [] 0
  | unsigned {letter : Char} {digits : List Char} :
      letter = 'e' ∨ letter = 'E' → Digits digits →
      Exponent (letter :: digits) (digitsValue digits)
  | positive {letter : Char} {digits : List Char} :
      letter = 'e' ∨ letter = 'E' → Digits digits →
      Exponent (letter :: '+' :: digits) (digitsValue digits)
  | negative {letter : Char} {digits : List Char} :
      letter = 'e' ∨ letter = 'E' → Digits digits →
      Exponent (letter :: '-' :: digits) (-digitsValue digits)

/-- `[minus] int [frac] [exp]`, as a mantissa and an exponent. -/
inductive Number : List Char → Int → Int → Prop
  | positive
      {integer fraction fractionDigits exponent : List Char} {power : Int} :
      Integer integer → Fraction fraction fractionDigits →
      Exponent exponent power →
      Number (integer ++ fraction ++ exponent)
        (digitsValue (integer ++ fractionDigits))
        (power - fractionDigits.length)
  | negative
      {integer fraction fractionDigits exponent : List Char} {power : Int} :
      Integer integer → Fraction fraction fractionDigits →
      Exponent exponent power →
      Number ('-' :: (integer ++ fraction ++ exponent))
        (-digitsValue (integer ++ fractionDigits))
        (power - fractionDigits.length)

/-- `4HEXDIG`. -/
inductive Unit : List Char → Nat → Prop
  | intro {first second third fourth : Char} {a b c d : Nat} :
      hexValue first = some a → hexValue second = some b →
      hexValue third = some c → hexValue fourth = some d →
      Unit [first, second, third, fourth]
        (((a * 16 + b) * 16 + c) * 16 + d)

/-- One character of a string. -/
inductive StringChar : List Char → Char → Prop
  | unescaped {character : Char} :
      isUnescaped character = true → StringChar [character] character
  | escaped {escape character : Char} :
      simpleEscape escape = some character →
      StringChar ['\\', escape] character
  | unit {text : List Char} {value : Nat} :
      Unit text value → isHighSurrogate value = false →
      isLowSurrogate value = false →
      StringChar ('\\' :: 'u' :: text) (Char.ofNat value)
  | pair {first second : List Char} {high low : Nat} :
      Unit first high → Unit second low → isHighSurrogate high = true →
      isLowSurrogate low = true →
      StringChar ('\\' :: 'u' :: (first ++ '\\' :: 'u' :: second))
        (pairedChar high low)

inductive StringBody : List Char → List Char → Prop
  | nil : StringBody [] []
  | cons {first rest characters : List Char} {character : Char} :
      StringChar first character → StringBody rest characters →
      StringBody (first ++ rest) (character :: characters)

/-- `quotation-mark *char quotation-mark`. -/
inductive StringText : List Char → String → Prop
  | quoted {body characters : List Char} :
      StringBody body characters →
      StringText ('"' :: (body ++ ['"'])) (String.ofList characters)

mutual

inductive Value : List Char → Json → Prop
  | null : Value ['n', 'u', 'l', 'l'] .null
  | false : Value ['f', 'a', 'l', 's', 'e'] (.bool false)
  | true : Value ['t', 'r', 'u', 'e'] (.bool true)
  | number {text : List Char} {mantissa exponent : Int} :
      Number text mantissa exponent →
      Value text (.number mantissa exponent)
  | string {text : List Char} {value : String} :
      StringText text value → Value text (.string value)
  | emptyArray {between : List Char} :
      Whitespace between → Value ('[' :: (between ++ [']'])) (.array [])
  | array {text : List Char} {items : List Json} :
      Items text items → Value ('[' :: (text ++ [']'])) (.array items)
  | emptyObject {between : List Char} :
      Whitespace between → Value ('\x7b' :: (between ++ ['\x7d'])) (.object [])
  | object {text : List Char} {members : List (String × Json)} :
      Members text members →
      Value ('\x7b' :: (text ++ ['\x7d'])) (.object members)

/-- Values and the separators between them. -/
inductive Items : List Char → List Json → Prop
  | one {before text after : List Char} {value : Json} :
      Whitespace before → Value text value → Whitespace after →
      Items (before ++ text ++ after) [value]
  | more {before text after rest : List Char} {value : Json}
      {items : List Json} :
      Whitespace before → Value text value → Whitespace after →
      Items rest items →
      Items (before ++ text ++ after ++ ',' :: rest) (value :: items)

/-- Members and the separators between them. -/
inductive Members : List Char → List (String × Json) → Prop
  | one {before key between opening text after : List Char} {name : String}
      {value : Json} :
      Whitespace before → StringText key name → Whitespace between →
      Whitespace opening → Value text value → Whitespace after →
      Members
        (before ++ key ++ between ++ ':' :: (opening ++ text ++ after))
        [(name, value)]
  | more
      {before key between opening text after rest : List Char}
      {name : String} {value : Json} {members : List (String × Json)} :
      Whitespace before → StringText key name → Whitespace between →
      Whitespace opening → Value text value → Whitespace after →
      Members rest members →
      Members
        (before ++ key ++ between ++
          ':' :: (opening ++ text ++ after ++ ',' :: rest))
        ((name, value) :: members)

end

/-- `ws value ws`. -/
def Text (text : List Char) (value : Json) : Prop :=
  ∃ before inner after, text = before ++ inner ++ after ∧
    Whitespace before ∧ Value inner value ∧ Whitespace after

end Grammar

end Json
