import Numeral128.Decimal.Notation
import Numeral128.Text.Quoted

/-!
# Structured data

The values that serialized forms and settings are made of, and how messages name what was found
where something else was expected.
-/

namespace Numeral128

/-- A value without parts. -/
inductive Scalar where
  | null
  | bool (b : Bool)
  | int (n : Int)
  | float (x : Binary64)
  | text (s : String)
  deriving DecidableEq, Repr

/-- A value, a list of values, or named values in order. -/
inductive Datum where
  | scalar (value : Scalar)
  | list (items : List Datum)
  | map (entries : List (String × Datum))

namespace Datum

/-- The number that `cs` denotes in a serialized form: an integer if it has neither point nor
exponent and fits in 64 bits, with or without sign, else a binary number. Negative zero is no
integer. -/
def ofNumeral? (cs : List Char) : Option Datum :=
  let integer := match cs with
    | '-' :: _ => (Decimal.int64? cs).filter (· ≠ 0)
    | _ => (Decimal.unsigned? (Nat.pow 2 64 - 1) cs).map Int.ofNat
  match integer with
  | some n => some (.scalar (.int n))
  | none => (Binary64.ofText? cs).map fun x => .scalar (.float x)

end Datum

/-- What was found, as far as messages tell it. -/
inductive Found where
  | scalar (value : Scalar)
  | list
  | map
  deriving DecidableEq, Repr

/-- What a datum is. -/
def Datum.found : Datum → Found
  | scalar value => .scalar value
  | list _ => .list
  | map _ => .map

/-- The datum under a name in a map, if there is one. -/
def Datum.member? : Datum → String → Option Datum
  | map entries, name => entries.lookup name
  | _, _ => none

/-- How a format of data names what was found. -/
structure FoundNames where
  null : String
  integer : String
  float : Decimal.FloatNotation

/-- The words for what was found, where `names` are those for values. -/
def Found.describe (names : FoundNames) : Found → String
  | .scalar .null => names.null
  | .scalar (.bool b) => "boolean `" ++ toString b ++ "`"
  | .scalar (.int n) => names.integer ++ " `" ++ toString n ++ "`"
  | .scalar (.float x) => "floating point `" ++ names.float.render x ++ "`"
  | .scalar (.text s) => "string " ++ Text.quoteText s
  | .list => "sequence"
  | .map => "map"

end Numeral128
