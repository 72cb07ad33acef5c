import Numeral128.Decimal.Binary64
import Numeral128.Settings.Tree

/-!
# Settings from environment variables

A variable whose name begins in a certain way, in any case, is a setting. The rest of its name is
the key of the setting, where a separator stands for the point between a table and its entry. Its
text is a truth value, an integer or a number if it reads as one.
-/

namespace Numeral128

/-- How the variables of an environment name settings. -/
structure VariableNames where
  /-- What the names begin with, in any case. -/
  start : String
  /-- What stands between that and the key. -/
  startSeparator : String
  /-- What stands for a point in the key. -/
  separator : String
  /-- Whether texts become truth values and numbers if they read as such. -/
  inferred : Bool
  deriving DecidableEq, Repr

namespace Environment

/-- Writes a point for each occurrence of `separator`. The next `skip` characters belong to an
occurrence for which there is a point already. -/
def withPoints (separator : List Char) : (skip : Nat) → List Char → List Char
  | _, [] => []
  | skip + 1, _ :: cs => withPoints separator skip cs
  | 0, c :: cs =>
    if separator ≠ [] ∧ separator.isPrefixOf (c :: cs) then
      '.' :: withPoints separator (separator.length - 1) cs
    else c :: withPoints separator 0 cs

/-- The value that the `text` of a variable stands for. -/
def infer (text : String) : Scalar :=
  let lower := Text.lowercase text
  if lower = "true" then .bool true
  else if lower = "false" then .bool false
  else match Decimal.int64? text.toList with
    | some n => .int n
    | none =>
      match Binary64.ofText? text.toList with
      | some x => .float x
      | none => .text text

end Environment

namespace VariableNames

/-- What the names of variables for settings begin with, in lower case. -/
def lead (names : VariableNames) : List Char :=
  (Text.lowercase (names.start ++ names.startSeparator)).toList

/-- The key of the setting that the variable `name` holds, if it holds one. -/
def key? (names : VariableNames) (name : String) : Option String :=
  let name := (Text.lowercase name).toList
  if names.lead.isPrefixOf name then
    let key := name.drop names.lead.length
    some (String.ofList (Environment.withPoints names.separator.toList 0 key))
  else none

/-- The value of a variable with this `text`. -/
def value (names : VariableNames) (text : String) : Scalar :=
  if names.inferred then Environment.infer text else .text text

/-- The setting that the variable `v` holds, with its key, if it holds one. -/
def keyed? (names : VariableNames) (origin : Option String) (v : String × String) :
    Option (String × Setting) :=
  (names.key? v.1).map fun key => (key, .scalar (names.value v.2) origin)

end VariableNames

end Numeral128
