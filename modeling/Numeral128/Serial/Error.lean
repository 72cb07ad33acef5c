import Numeral128.Datum

/-!
# Errors of serialized forms
-/

namespace Numeral128

/-- Why a datum is no serialized form. -/
inductive SerialError where
  /-- Something was found where something else was expected. -/
  | wrongKind (found : Found) (expected : String)
  /-- An integer below zero stands for a size. -/
  | negativeSize (n : Int)
  /-- An alternative is a map without a single key. -/
  | notSingleKey
  /-- No alternative is spelled `name`. -/
  | unknownName (name : String) (known : List String)
  /-- A list has more elements than the structure has fields. -/
  | tooManyElements (count : Nat)
  /-- An error in the words of those who read the form. -/
  | custom (text : String)
  deriving DecidableEq, Repr

namespace SerialError

/-- Serialized forms write numbers positionally unless they are very large or small. -/
def names : FoundNames where
  null := "null"
  integer := "integer"
  float := { plainFrom := -5, plainTo := 15, tie := .even }

/-- The `name` in back quotes. -/
def quoteName (name : String) : String := "`" ++ name ++ "`"

/-- The wording of an error. -/
def message : SerialError → String
  | wrongKind found expected =>
    "invalid type: " ++ found.describe names ++ ", expected " ++ expected
  | negativeSize n => "invalid value: integer `" ++ toString n ++ "`, expected usize"
  | notSingleKey => "invalid value: map, expected map with a single key"
  | unknownName name known =>
    "unknown variant " ++ quoteName name ++ ", expected one of " ++
      ", ".intercalate (known.map quoteName)
  | tooManyElements count =>
    "invalid length " ++ toString count ++ ", expected fewer elements in array"
  | custom text => text

end SerialError

end Numeral128
