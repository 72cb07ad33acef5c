import Numeral128.Serial.Error
import Numeral128.Serial.Format
import Numeral128.Settings.Sources

/-!
# Serialized layouts and settings

`Serial.format` is the format that layouts and settings are serialized in. A structure is a map from
field names to values, where missing fields have their defaults and unknown ones are ignored, or a
list of the fields in order, where the missing ones are the last. An alternative is its spelling, or
a map from it to null.
-/

namespace Numeral128.Serial

/-- Reads a truth value. -/
def bool? : Datum → Except SerialError Bool
  | .scalar (.bool b) => .ok b
  | d => .error (.wrongKind d.found "a boolean")

/-- Reads a size. -/
def size? : Datum → Except SerialError Nat
  | .scalar (.int (.ofNat n)) =>
    if n < sizeBound then .ok n else .error (.wrongKind (.scalar (.int n)) "usize")
  | .scalar (.int n) => .error (.negativeSize n)
  | d => .error (.wrongKind d.found "usize")

/-- Tells apart what a fill character is made from in `d`. -/
def payload? (d : Datum) : Except SerialError FillPayload :=
  match d.found.payload? with
  | some payload => .ok payload
  | none => .error (.custom FillPayload.mismatchMessage)

/-- The alternative with the spelling `name`. -/
def named? (α : Type) [Spelled α] (name : String) : Except SerialError α :=
  match (Spelled.spellings (α := α)).lookup name with
  | some a => .ok a
  | none => .error (.unknownName name ((Spelled.spellings (α := α)).map (·.1)))

/-- Reads an alternative of `α`. -/
def choice? (α : Type) [Spelled α] : Datum → Except SerialError α
  | .scalar (.text name) => named? α name
  | .map [(name, content)] => do
    let a ← named? α name
    match content with
    | .scalar .null => return a
    | d => .error (.wrongKind d.found "unit")
  | .map _ => .error .notSingleKey
  | d => .error (.wrongKind d.found "string or map")

/-- Reads a structure. A list has at most as many elements as there are fields. -/
def record? {α : Type} (name : String) (fields : List (FieldReader Datum SerialError α))
    (default : α) : Datum → Except SerialError α
  | .map entries => readRecord (fun key => entries.lookup key) fields default
  | .list items =>
    match readItems fields items default with
    | .ok a =>
      if items.length ≤ fields.length then .ok a else .error (.tooManyElements items.length)
    | .error e => .error e
  | d => .error (.wrongKind d.found ("struct " ++ name))

/-- The serialized form of the alternative `a`. -/
def ofChoice {α : Type} [Spelled α] (a : α) : Datum := .scalar (.text (Spelled.spelling a))

/-- The format of serialized forms. -/
def format : SerialFormat Datum SerialError where
  found := Datum.found
  member? := Datum.member?
  custom := .custom
  bool := bool?
  size := size?
  payload := payload?
  choice := choice?
  record := record?
  ofBool b := .scalar (.bool b)
  ofSize n := .scalar (.int n)
  ofChar c := .scalar (.text (String.singleton c))
  ofChoice := ofChoice
  ofEntries := .map
  ofRecord _ := .map

/-- Reads a layout. -/
def layout? : Datum → Except SerialError Layout := Layout.read format.toDataFormat

/-- Reads settings. Their bounds are not looked at. -/
def settings? : Datum → Except SerialError Settings := Settings.read format.toDataFormat

/-- The serialized form of a layout. -/
def ofLayout : Layout → Datum := Layout.write format

/-- The serialized form of the settings `s`. -/
def ofSettings (s : Settings) : Datum :=
  .map [("format", ofLayout s.layout), ("parse", ofChoice s.choice)]

end Numeral128.Serial
