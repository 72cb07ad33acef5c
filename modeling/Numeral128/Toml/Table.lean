import Numeral128.Toml.Value

/-!
# Tables under construction

A document fills its tables by headers and by dotted keys, which may each name tables that are not
there yet. What may still be added to a table depends on how it came to be: a header opens a table
once, and neither reopens what a dotted key made nor adds to a value.
-/

namespace Numeral128.Toml

/-- How a table came to be. -/
inductive Origin where
  /-- By a header of its own, or as the document itself. -/
  | header
  /-- On the way to a table that a header names. -/
  | implied
  /-- On the way to a value that a dotted key names. -/
  | dotted
  deriving DecidableEq, Repr

/-- An entry of a table under construction. -/
inductive Node where
  | leaf (v : Value)
  | table (origin : Origin) (entries : List (String × Node))
  /-- The tables that headers in double brackets have added. -/
  | series (tables : List (List (String × Node)))

/-- The entries of a table, the earliest first. -/
abbrev Entries := List (String × Node)

/-- Replaces the entry of `key` by `node`. -/
def Entries.replace (entries : Entries) (key : String) (node : Node) : Entries :=
  entries.map fun entry => if entry.1 = key then (key, node) else entry

/-- Changes the table at a path below a table by `f`, and makes the tables on the way that are
missing. A dotted key does not lead into a table that has a header. -/
def Entries.update (made : Origin) (f : Origin → Entries → Option Entries) :
    List String → Origin → Entries → Option Entries
  | [], origin, entries => f origin entries
  | key :: path, _, entries =>
    match entries.lookup key with
    | none => (update made f path made []).map fun sub => entries ++ [(key, .table made sub)]
    | some (.leaf _) => none
    | some (.table origin sub) =>
      if made = .dotted ∧ origin = .header then none
      else (update made f path origin sub).map fun sub => entries.replace key (.table origin sub)
    | some (.series tables) =>
      match tables.getLast? with
      | none => none
      | some sub =>
        (update made f path .header sub).map fun sub =>
          entries.replace key (.series (tables.dropLast ++ [sub]))

/-- Opens the table that a header names `key`, below its parent. A table that was implied before
moves to the end. -/
def Entries.openTable (key : String) (entries : Entries) : Option Entries :=
  match entries.lookup key with
  | none => some (entries ++ [(key, .table .header [])])
  | some (.table .implied sub) =>
    some (entries.filter (fun entry => entry.1 ≠ key) ++ [(key, .table .header sub)])
  | some _ => none

/-- Adds an empty table to the series that a header in double brackets names `key`. -/
def Entries.openSeries (key : String) (entries : Entries) : Option Entries :=
  match entries.lookup key with
  | none => some (entries ++ [(key, .series [[]])])
  | some (.series tables) => some (entries.replace key (.series (tables ++ [[]])))
  | some _ => none

/-- Adds `v` under the dotted key of `path` and `key`. A key of several parts adds to tables made by
dotted keys only. -/
def Entries.insert (path : List String) (key : String) (v : Value) (origin : Origin)
    (entries : Entries) : Option Entries :=
  let add (origin : Origin) (entries : Entries) : Option Entries :=
    if decide (origin = .dotted) = path.isEmpty then none
    else if (entries.lookup key).isSome then none
    else some (entries ++ [(key, .leaf v)])
  entries.update .dotted add path origin

mutual

/-- The value of a finished entry. -/
def Node.toValue : Node → Value
  | .leaf v => v
  | .table _ entries => .table (entriesToValues entries)
  | .series tables => .array (seriesToValues tables)

/-- The values of finished entries. -/
def entriesToValues : List (String × Node) → List (String × Value)
  | [] => []
  | (key, node) :: entries => (key, node.toValue) :: entriesToValues entries

/-- The values of the tables of a series. -/
def seriesToValues : List (List (String × Node)) → List Value
  | [] => []
  | entries :: tables => .table (entriesToValues entries) :: seriesToValues tables

end

end Numeral128.Toml
