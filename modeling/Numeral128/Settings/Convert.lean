import Numeral128.DataFormat
import Numeral128.Settings.Error
import Numeral128.Settings.Tree

/-!
# Settings as a format of data

Values are converted to the type of their field where that makes sense: words and numbers are truth
values, truth values and texts of digits are sizes. A structure is a table, where missing fields
have their defaults and unknown names are ignored, or a list of its fields in order. Errors tell the
key of the value.
-/

namespace Numeral128.Setting

/-- The error for a value `s` that does not convert to what was `expected`. -/
def mismatch {α : Type} (s : Setting) (expected : String) : Except LoadError α :=
  .error (.wrongType s.found expected none s.origin)

/-- The truth value that `word`, in lower case, stands for. -/
def boolOfWord? (word : String) : Option Bool :=
  if word = "1" ∨ word = "true" ∨ word = "on" ∨ word = "yes" then some true
  else if word = "0" ∨ word = "false" ∨ word = "off" ∨ word = "no" then some false
  else none

/-- Converts `s` to a truth value: numbers are false if they are zero. A text that stands for none
is shown in lower case. -/
def toBool (s : Setting) : Except LoadError Bool :=
  match s with
  | scalar (.bool b) _ => .ok b
  | scalar (.int n) _ => .ok (n ≠ 0)
  | scalar (.float x) _ => .ok !x.isZero
  | scalar (.text text) origin =>
    let word := Text.lowercase text
    match boolOfWord? word with
    | some b => .ok b
    | none => mismatch (scalar (.text word) origin) "a boolean"
  | s => mismatch s "a boolean"

/-- The size that `text` stands for. -/
def sizeOfText? (text : String) : Option Nat :=
  let word := Text.lowercase text
  if word = "true" ∨ word = "on" ∨ word = "yes" then some 1
  else if word = "false" ∨ word = "off" ∨ word = "no" then some 0
  else Decimal.unsigned? (sizeBound - 1) text.toList

/-- Converts `s` to a size: fractions are rounded. -/
def toSize (s : Setting) : Except LoadError Nat :=
  match s with
  | scalar (.int (.ofNat n)) _ =>
    if n < sizeBound then .ok n else mismatch s "an unsigned 64 bit or less integer"
  | scalar (.int _) _ => mismatch s "an unsigned 64 bit or less integer"
  | scalar (.bool b) _ => .ok b.toNat
  | scalar (.float x) _ => .ok x.toNat64
  | scalar (.text text) _ =>
    match sizeOfText? text with
    | some n => .ok n
    | none => mismatch s "an integer"
  | s => mismatch s "an integer"

/-- Tells apart what a fill character is made from in `s`. -/
def toPayload (s : Setting) : Except LoadError FillPayload :=
  match s.found.payload? with
  | some payload => .ok payload
  | none => .error (.custom FillPayload.mismatchMessage)

/-- The alternative whose spelling is `name` in any case. -/
def choiceNamed (α : Type) [Spelled α] (name : String) : Except LoadError α :=
  match (Spelled.spellings (α := α)).lookup (Text.lowercase name) with
  | some a => .ok a
  | none => .error (.unknownChoice (Spelled.typeName α) name)

/-- Converts to an alternative of `α`. The content of a table with one entry is not looked at. -/
def toChoice (α : Type) [Spelled α] : Setting → Except LoadError α
  | scalar (.text name) _ => choiceNamed α name
  | table [(name, _)] _ => choiceNamed α name
  | _ => .error (.notChoice (Spelled.typeName α))

section Structures

variable {α : Type}

/-- The reader of a field that tells `key` in its errors. -/
def located (key : String) (f : FieldReader Setting LoadError α) :
    FieldReader Setting LoadError α where
  name := f.name
  read s := (f.read s).mapError (.under key)

/-- The readers of fields in a list, from position `n` on. -/
def locatedItems : (n : Nat) → List (FieldReader Setting LoadError α) →
    List (FieldReader Setting LoadError α)
  | _, [] => []
  | n, f :: fields => located ("[" ++ toString n ++ "]") f :: locatedItems (n + 1) fields

/-- Converts to a structure with these `fields`. Elements of a list after the last field are
ignored. -/
def toRecord (name : String) (fields : List (FieldReader Setting LoadError α)) (default : α) :
    Setting → Except LoadError α
  | table entries _ =>
    readRecord (fun key => entries.lookup key) (fields.map fun f => located f.name f) default
  | list items _ => readItems (locatedItems 0 fields) items default
  | s => .error (.notStructure s.found name)

end Structures

/-- Settings as a format of data. -/
def format : DataFormat Setting LoadError where
  found := found
  member? := find?
  custom := .custom
  bool := toBool
  size := toSize
  payload := toPayload
  choice := toChoice
  record := toRecord

end Numeral128.Setting
