import Numeral128.Datum

/-!
# Errors of loading settings
-/

namespace Numeral128

/-- Why settings could not be loaded. -/
inductive LoadError where
  /-- The document is no TOML. -/
  | malformed
  /-- There is no file to read. -/
  | unavailable
  /-- The value under `key` cannot be converted. -/
  | wrongType (found : Found) (expected : String) (key : Option String) (origin : Option String)
  /-- A structure is given by something else than a table or a list. -/
  | notStructure (found : Found) (name : String)
  /-- An alternative is neither a text nor a table with one entry. -/
  | notChoice (typeName : String)
  /-- No alternative has this name. -/
  | unknownChoice (typeName : String) (name : String)
  /-- An error in the words of those who read the settings. -/
  | custom (text : String)
  deriving DecidableEq, Repr

namespace LoadError

/-- Conversions name integers by their size. -/
def valueNames : FoundNames where
  null := "unit value"
  integer := "64-bit integer"
  float := { plainFrom := -400, plainTo := 400, tie := .up }

/-- Structures name integers as such. -/
def structureNames : FoundNames := { valueNames with integer := "integer" }

/-- The wording of an error. Malformed documents and missing files are told by their kind only. -/
def message : LoadError → String
  | malformed => "the document is not well-formed"
  | unavailable => "the configuration file cannot be read"
  | wrongType found expected key origin =>
    "invalid type: " ++ found.describe valueNames ++ ", expected " ++ expected ++
      (match key with
        | some key => " for key `" ++ key ++ "`"
        | none => "") ++
      (match origin with
        | some origin => " in " ++ origin
        | none => "")
  | notStructure found name =>
    "invalid type: " ++ found.describe structureNames ++ ", expected struct " ++ name
  | notChoice typeName =>
    "value of enum " ++ typeName ++
      " should be represented by either string or table with exactly one key"
  | unknownChoice typeName name =>
    "enum " ++ typeName ++ " does not have variant constructor " ++ name
  | custom text => text

/-- The error of a value under `name`, where `e` is that of the value alone. The keys of values in
lists are written without a point before the bracket. -/
def under (name : String) : (e : LoadError) → LoadError
  | wrongType found expected none origin => wrongType found expected (some name) origin
  | wrongType found expected (some key) origin =>
    let separator := if key.toList.head? = some '[' then "" else "."
    wrongType found expected (some (name ++ separator ++ key)) origin
  | e => e

end LoadError

end Numeral128
