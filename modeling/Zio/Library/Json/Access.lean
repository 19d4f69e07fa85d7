import Zio.Library.Json.Grammar

/-!
# Access to JSON values

What a reader takes from a value, which may be of another shape.
-/

namespace Json

/-- The first member of a name. -/
def member (name : String) : Json → Option Json
  | .object members => members.lookup name
  | _ => none

def asString : Json → Option String
  | .string value => some value
  | _ => none

def asInt : Json → Option Int
  | .number mantissa exponent =>
      if exponent = 0 then some mantissa else none
  | _ => none

def asIntegers : Json → Option (List Int)
  | .array items => items.mapM asInt
  | _ => none

@[simp]
theorem member_object (name : String) (members : List (String × Json)) :
    (Json.object members).member name = members.lookup name := rfl

@[simp]
theorem asString_string (value : String) :
    (Json.string value).asString = some value := rfl

@[simp]
theorem asInt_int (value : Int) : (int value).asInt = some value := by
  simp [int, asInt]

@[simp]
theorem asIntegers_integers (values : List Int) :
    (integers values).asIntegers = some values := by
  unfold integers asIntegers
  induction values with
  | nil => rfl
  | cons value rest inductionHypothesis =>
      simp only at inductionHypothesis
      simp [inductionHypothesis]

end Json
