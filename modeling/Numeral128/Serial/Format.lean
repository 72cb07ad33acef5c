import Numeral128.LayoutField

/-!
# Formats that are written and read

A `SerialFormat` also writes data: truth values, sizes, characters, alternatives and structures.
`SerialFormat.Lawful` says what is found in data that were written. It does not say that they are
read back: a character, for instance, is written as a text, and texts are no characters for those
who read them.
-/

namespace Numeral128

/-- What a format of data in `δ` with errors in `ε` does for those who write and read them. -/
structure SerialFormat (δ ε : Type) extends DataFormat δ ε where
  ofBool : Bool → δ
  ofSize : Nat → δ
  ofChar : Char → δ
  ofChoice : {α : Type} → [Spelled α] → α → δ
  /-- The map with given entries. -/
  ofEntries : List (String × δ) → δ
  /-- The form of a structure, by its name and the forms of its fields in order. -/
  ofRecord : (name : String) → List (String × δ) → δ

namespace SerialFormat

variable {δ ε : Type}

/-- What is known of every format `F` that is written and read. -/
structure Lawful (F : SerialFormat δ ε) : Prop where
  lawful : F.toDataFormat.Lawful
  /-- An alternative is read by its spelling. -/
  choice_of_found : ∀ {α} [Spelled α] {d name} {a : α}, F.found d = .scalar (.text name) →
    Spelled.spellings.lookup name = some a → F.choice α d = .ok a
  found_ofBool : ∀ b, F.found (F.ofBool b) = .scalar (.bool b)
  found_ofSize : ∀ {n : Nat}, n < sizeBound → F.found (F.ofSize n) = .scalar (.int n)
  /-- A character is written as a text. -/
  found_ofChar : ∀ c, F.found (F.ofChar c) = .scalar (.text (String.singleton c))
  /-- An alternative is written as its spelling. -/
  found_ofChoice : ∀ {α} [Spelled α] (a : α),
    F.found (F.ofChoice a) = .scalar (.text (Spelled.spelling a))
  found_ofEntries : ∀ entries, F.found (F.ofEntries entries) = .map
  /-- In a map an entry is found under its name, unless there are several with this name. -/
  member?_ofEntries : ∀ {entries name}, (entries.map Prod.fst).count name ≤ 1 →
    F.member? (F.ofEntries entries) name = entries.lookup name
  /-- A structure is written as the map of its fields. -/
  ofRecord_eq : ∀ name entries, F.ofRecord name entries = F.ofEntries entries

end SerialFormat

variable {δ ε : Type}

/-- The serialized form of a value of a field in the format `F`. -/
def LayoutField.write (F : SerialFormat δ ε) : (f : LayoutField) → f.Value → δ
  | base, (b : Base) => F.ofChoice b
  | uppercase, (b : Bool) => F.ofBool b
  | showPrefix, (b : Bool) => F.ofBool b
  | showPlus, (b : Bool) => F.ofBool b
  | width, (n : Nat) => F.ofSize n
  | fill, (c : Char) => F.ofChar c
  | alignment, (a : Alignment) => F.ofChoice a

/-- The entry of the field `f` in the serialized form of the layout `l`. -/
def LayoutField.entry (F : SerialFormat δ ε) (l : Layout) (f : LayoutField) : String × δ :=
  (f.name, f.write F (f.get l))

/-- The serialized form of the layout `l`. -/
def Layout.write (F : SerialFormat δ ε) (l : Layout) : δ :=
  F.ofRecord "FormatMode" (LayoutField.all.map (LayoutField.entry F l))

end Numeral128
