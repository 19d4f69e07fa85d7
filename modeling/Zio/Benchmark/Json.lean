import Zio.Library.Json.Render
import Zio.Benchmark.Measure

/-!
# JSON encoding of receipts

The pieces of text that receipts are pushed together from.  An escaped string is
one that every JSON parser reads back.
-/

namespace Zio.Benchmark

/-! ## Strings -/

def hexDigits : List Char :=
  ['0', '1', '2', '3', '4', '5', '6', '7', '8', '9', 'a', 'b', 'c', 'd',
    'e', 'f']

def hexDigit (value : Nat) : Char := hexDigits.getD value '0'

def control (value : Char) : List Char :=
  let byte := value.toNat
  ['\\', 'u', '0', '0', hexDigit (byte / 16 % 16), hexDigit (byte % 16)]

/-- The text of one character of a string. -/
def escaped (character : Char) : List Char :=
  if character = '"' then ['\\', '"']
  else if character = '\\' then ['\\', '\\']
  else if character = '\n' then ['\\', 'n']
  else if character = '\r' then ['\\', 'r']
  else if character = '\t' then ['\\', 't']
  else if character = Char.ofNat 0x08 then ['\\', 'b']
  else if character = Char.ofNat 0x0c then ['\\', 'f']
  else if character.toNat ≤ 0x1f then control character
  else [character]

def jsonString (value : String) : List Char :=
  '"' :: (value.toList.flatMap escaped ++ ['"'])

/-! ## Fields -/

/-- `ToString` of an integer. -/
def decimal (value : Int) : List Char := (toString value).toList

def jsonKey (name : String) : List Char := jsonString name ++ [':']

def commaIf (comma : Bool) : List Char := if comma then [','] else []

def fieldString (name value : String) (comma : Bool) : List Char :=
  jsonKey name ++ jsonString value ++ commaIf comma

def fieldNumber (name : String) (value : Int) (comma : Bool) : List Char :=
  jsonKey name ++ decimal value ++ commaIf comma

/-- The loop of the arrays, with the flag of its first item. -/
def separated : Bool → List Int → List Char
  | _, [] => []
  | first, value :: rest =>
      commaIf (!first) ++ decimal value ++ separated false rest

def jsonArray (values : List Int) : List Char :=
  '[' :: (separated true values ++ [']'])

def arrayU128 (values : List U128) : List Char :=
  jsonArray (values.map fun value => (value.val : Int))

def arrayU64 (values : List UInt64) : List Char :=
  jsonArray (values.map fun value => (value.toNat : Int))

def arrayI64 (values : List Int64) : List Char :=
  jsonArray (values.map Int64.toInt)

def arrayUsize (values : List Nat) : List Char :=
  jsonArray (values.map fun value => (value : Int))

/-- A key, and a number or `null`. -/
def optionalNumberText (value : Option Int) : List Char :=
  match value with
  | some value => decimal value
  | none => ['n', 'u', 'l', 'l']

def optionalBoolText (value : Option Bool) : List Char :=
  match value with
  | some true => ['t', 'r', 'u', 'e']
  | some false => ['f', 'a', 'l', 's', 'e']
  | none => ['n', 'u', 'l', 'l']

/-! ## Texts of values -/

open Json

theorem hexValue_hexDigit :
    ∀ value < 16, hexValue (hexDigit value) = some value := by
  decide

theorem stringChar_control
    {character : Char} (isControl : character.toNat ≤ 0x1f)
    (rest : List Char) :
    Parser.stringChar (control character ++ rest) =
      some (character, rest) := by
  have high := hexValue_hexDigit (character.toNat / 16 % 16)
    (Nat.mod_lt _ (by decide))
  have low := hexValue_hexDigit (character.toNat % 16)
    (Nat.mod_lt _ (by decide))
  have zero : hexValue '0' = some 0 := by decide
  have value : ((0 * 16 + 0) * 16 + character.toNat / 16 % 16) * 16 +
      character.toNat % 16 = character.toNat := by
    omega
  have notHigh : isHighSurrogate character.toNat = false := by
    unfold isHighSurrogate
    rw [Bool.and_eq_false_iff]
    exact Or.inl (decide_eq_false (by omega))
  have notLow : isLowSurrogate character.toNat = false := by
    unfold isLowSurrogate
    rw [Bool.and_eq_false_iff]
    exact Or.inl (decide_eq_false (by omega))
  simp only [control, List.cons_append, List.nil_append,
    Parser.stringChar, Parser.escapeSequence, if_true,
    Parser.unicodeEscape, Parser.unit, zero, high, low, value, notHigh,
    notLow, Bool.false_eq_true, if_false, Char.ofNat_toNat]

/-- A parser reads every escaped character back. -/
theorem stringChar_escaped (character : Char) (rest : List Char) :
    Parser.stringChar (escaped character ++ rest) =
      some (character, rest) := by
  unfold escaped
  split
  · rename_i same
    rw [same]
    rfl
  · rename_i notQuote
    split
    · rename_i same
      rw [same]
      rfl
    · rename_i notBackslash
      split
      · rename_i same
        rw [same]
        rfl
      · split
        · rename_i same
          rw [same]
          rfl
        · split
          · rename_i same
            rw [same]
            rfl
          · split
            · rename_i same
              rw [same]
              rfl
            · split
              · rename_i same
                rw [same]
                rfl
              · split
                · rename_i isControl
                  exact stringChar_control isControl rest
                · rename_i printable
                  have plain : isUnescaped character = true := by
                    simp only [isUnescaped, Bool.and_eq_true,
                      decide_eq_true_eq, bne_iff_ne]
                    exact ⟨⟨by omega, notQuote⟩, notBackslash⟩
                  rw [List.singleton_append, Parser.stringChar,
                    if_neg notBackslash, if_pos plain]

theorem visible_hexDigit :
    ∀ value < 16, 0x20 ≤ (hexDigit value).toNat := by
  decide

theorem visible_control (character : Char) :
    Escaping.Visible (control character) := by
  have digit : ∀ value, 0x20 ≤ (hexDigit (value % 16)).toNat :=
    fun value => visible_hexDigit _ (Nat.mod_lt value (by decide))
  exact Escaping.visible_append
    (show Escaping.Visible ['\\', 'u', '0', '0'] by decide)
    (Escaping.visible_cons (digit _)
      (Escaping.visible_cons (digit _) Escaping.visible_nil))

theorem visible_escaped (character : Char) :
    Escaping.Visible (escaped character) := by
  unfold escaped
  split
  · decide
  · split
    · decide
    · split
      · decide
      · split
        · decide
        · split
          · decide
          · split
            · decide
            · split
              · decide
              · split
                · exact visible_control character
                · rename_i printable
                  exact Escaping.visible_cons (by omega)
                    Escaping.visible_nil

/-- The escaping of receipts. -/
def escaping : Escaping :=
  { escape := escaped
    decoded := stringChar_escaped
    visible := visible_escaped }

end Zio.Benchmark
