import Numeral128.Fill
import Numeral128.Spelling

/-!
# Formats of structured data

Layouts and settings are read from data of more than one format. A `DataFormat` is what the reading
asks of a format: what a datum is (`found`, `member?`), and how it is read as a truth value, a size,
an alternative or a structure. The fields of a structure are given as `FieldReader`s.

`DataFormat.Lawful` is what every format promises. It leaves open what a format converts beyond
this, in which order a structure is read, and how errors are worded.
-/

namespace Numeral128

/-- How a field of a structure in `α` is read from data in `δ`: under its name, by a reader that
gives the change which the field makes to the structure. -/
structure FieldReader (δ ε α : Type) where
  name : String
  read : δ → Except ε (α → α)

/-- The reader of a field whose values are read by `read` and put into the structure by `set`. -/
def FieldReader.of {δ ε α β : Type} (name : String) (read : δ → Except ε β) (set : β → α → α) :
    FieldReader δ ε α where
  name := name
  read d := (read d).map set

/-! ### Reading fields -/

section Fields

variable {δ ε α : Type}

/-- Reads the fields that have an entry, in order. The other fields of `a` stay as they are. -/
def readEntries (member? : String → Option δ) : List (FieldReader δ ε α) → (a : α) → Except ε α
  | [], a => .ok a
  | f :: fields, a =>
    match member? f.name with
    | none => readEntries member? fields a
    | some d =>
      match f.read d with
      | .ok change => readEntries member? fields (change a)
      | .error e => .error e

/-- Why the field of `f` cannot be read, if it has an entry that cannot. -/
def FieldReader.fault? (member? : String → Option δ) (f : FieldReader δ ε α) : Option ε :=
  match member? f.name with
  | none => none
  | some d =>
    match f.read d with
    | .ok _ => none
    | .error e => some e

/-- Puts the field of `f` in its place among fields in the order of their names. -/
def FieldReader.insert (f : FieldReader δ ε α) :
    List (FieldReader δ ε α) → List (FieldReader δ ε α)
  | [] => [f]
  | g :: rest => if f.name < g.name then f :: g :: rest else g :: insert f rest

/-- The `fields` in the order of their names. -/
def sortedByName (fields : List (FieldReader δ ε α)) : List (FieldReader δ ε α) :=
  fields.foldr FieldReader.insert []

/-- Reads the `fields` that have an entry, into `a`. Of several faults the one of the first name
counts. -/
def readRecord (member? : String → Option δ) (fields : List (FieldReader δ ε α)) (a : α) :
    Except ε α :=
  match (sortedByName fields).findSome? (·.fault? member?) with
  | some e => .error e
  | none => readEntries member? fields a

/-- Reads the fields from the items of a list, one after the other, into `a`. Fields past the end of
the list stay as they are, and so do items past the last field. -/
def readItems : List (FieldReader δ ε α) → List δ → (a : α) → Except ε α
  | f :: fields, d :: items, a =>
    match f.read d with
    | .ok change => readItems fields items (change a)
    | .error e => .error e
  | _, _, a => .ok a

end Fields

/-! ### Formats -/

/-- What a format of data in `δ` with errors in `ε` does for those who read them. -/
structure DataFormat (δ ε : Type) where
  /-- What a datum is. -/
  found : δ → Found
  /-- The datum under a name, if there is one. -/
  member? : δ → String → Option δ
  /-- The error with a wording of the reader's own. -/
  custom : String → ε
  bool : δ → Except ε Bool
  size : δ → Except ε Nat
  payload : δ → Except ε FillPayload
  /-- Reads an alternative by its spelling. -/
  choice : (α : Type) → [Spelled α] → δ → Except ε α
  /-- Reads a structure by its name, its fields and what it is if nothing is given. -/
  record : {α : Type} → (name : String) → List (FieldReader δ ε α) → (default : α) → δ → Except ε α

namespace DataFormat

variable {δ ε : Type}

/-- What is known of every format `F`. -/
structure Lawful (F : DataFormat δ ε) : Prop where
  /-- Truth values are read as such. -/
  bool_of_found : ∀ {d b}, F.found d = .scalar (.bool b) → F.bool d = .ok b
  /-- Natural numbers of 64 bits are sizes. -/
  size_of_found : ∀ {d} {n : Nat}, n < sizeBound → F.found d = .scalar (.int n) → F.size d = .ok n
  /-- Sizes have 64 bits. -/
  size_lt : ∀ {d n}, F.size d = .ok n → n < sizeBound
  /-- Of the two kinds of payload a text is the first one. -/
  payload_of_text : ∀ {d s}, F.found d = .scalar (.text s) → F.payload d = .ok (.text s)
  /-- Natural numbers of 64 bits are the second one. -/
  payload_of_int : ∀ {d} {n : Nat}, n < sizeBound → F.found d = .scalar (.int n) →
    F.payload d = .ok (.digit n)
  /-- Nothing else is a payload. -/
  payload_of_other : ∀ {d}, (∀ s, F.found d ≠ .scalar (.text s)) →
    (∀ n : Nat, n < sizeBound → F.found d ≠ .scalar (.int n)) → ∃ e, F.payload d = .error e
  /-- A structure is read from a map just in case each of its fields that has an entry is read.
  The others have their defaults, and entries with other names are passed over. -/
  record_of_map : ∀ {α} (name : String) (fields : List (FieldReader δ ε α)) (default : α) {d a},
    F.found d = .map → (F.record name fields default d = .ok a ↔
      readEntries (F.member? d) fields default = .ok a)
  /-- A structure consists of what the readers of its fields gave and of defaults. -/
  record_induction : ∀ {α} (P : α → Prop) (name : String) (fields : List (FieldReader δ ε α))
    (default : α) {d a}, P default →
    (∀ f ∈ fields, ∀ d change, f.read d = .ok change → ∀ a, P a → P (change a)) →
    F.record name fields default d = .ok a → P a

/-- Reads a fill character from `d`: a payload that is one. -/
def fill (F : DataFormat δ ε) (d : δ) : Except ε Char :=
  match F.payload d with
  | .ok payload => payload.toChar?.mapError fun e => F.custom e.message
  | .error e => .error e

end DataFormat

end Numeral128
