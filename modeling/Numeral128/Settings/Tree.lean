import Numeral128.Datum
import Numeral128.Text.Lowercase

/-!
# Trees of settings

Settings from several sources are merged into one tree. A value remembers the source it comes from.
Names are matched in lower case; tables are merged entry by entry, and every other value replaces
what was there.
-/

namespace Numeral128

/-- A value, a list or a table of settings, each with its origin. -/
inductive Setting where
  | scalar (value : Scalar) (origin : Option String)
  | list (items : List Setting) (origin : Option String)
  | table (entries : List (String × Setting)) (origin : Option String)

namespace Setting

/-- What a setting is. -/
def found : Setting → Found
  | scalar value _ => .scalar value
  | list .. => .list
  | table .. => .map

theorem exists_eq_scalar {s : Setting} {value : Scalar} (h : s.found = .scalar value) :
    ∃ origin, s = scalar value origin := by
  cases s with
  | scalar x origin =>
    obtain rfl := Found.scalar.inj h
    exact ⟨origin, rfl⟩
  | list items origin => cases h
  | table entries origin => cases h

/-- Where a setting comes from. -/
def origin : Setting → Option String
  | scalar _ origin => origin
  | list _ origin => origin
  | table _ origin => origin

/-- A table without entries. -/
def empty : Setting := table [] none

/-- A setting without a value. -/
def null : Setting := scalar .null none

/-- The setting itself if it is a table, else an empty one. -/
def asTable : Setting → List (String × Setting) × Option String
  | table entries origin => (entries, origin)
  | _ => ([], none)

/-- What the table `s` holds under `name`. Other settings hold nothing. -/
def find? (s : Setting) (name : String) : Option Setting := s.asTable.1.lookup name

/-- Whether a setting is a table. -/
def isTable : Setting → Bool
  | table .. => true
  | _ => false

/-- Whether a setting is a value without parts. -/
def isScalar : Setting → Bool
  | scalar .. => true
  | _ => false

/-- Puts `s` under `name` in place of what was there. -/
def put (entries : List (String × Setting)) (name : String) (s : Setting) :
    List (String × Setting) :=
  if (entries.lookup name).isSome then
    entries.map fun entry => if entry.1 = name then (name, s) else entry
  else entries ++ [(name, s)]

mutual

/-- Sets a name of the table `root`. Something else than a table gives way to one. -/
def assign (root : Setting) (name : String) : Setting → Setting
  | table children _ =>
    let (entries, origin) := root.asTable
    let name := Text.lowercase name
    table (put entries name (assignAll ((entries.lookup name).getD empty) children)) origin
  | s =>
    let (entries, origin) := root.asTable
    table (put entries (Text.lowercase name) s) origin

/-- Sets names of the table `root` one after the other. -/
def assignAll (root : Setting) : List (String × Setting) → Setting
  | [] => root
  | (name, s) :: rest => assignAll (assign root name s) rest

end

end Setting

end Numeral128
