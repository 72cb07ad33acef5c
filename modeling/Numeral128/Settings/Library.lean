import Numeral128.DataFormat
import Numeral128.Settings.Environment
import Numeral128.Settings.Error

/-!
# Libraries of layered configurations

Settings are loaded by way of a library that reads sources and merges them. `ConfigLibrary` is what
loading asks of it: to collect the entries of a source, to build one tree from defaults and sources,
and to convert trees. What is promised of these operations is stated apart, one promise for each of
them (`ConfigLibrary.Collects`, `Merges`, `Converts` and `KeepsOrigins`).
-/

namespace Numeral128

/-- What a program finds where it runs. -/
structure Host where
  /-- The content of the file that a path names, if there is one. -/
  read? : String → Option String := fun _ => none
  /-- The names and texts of the environment's variables. -/
  environment : List (String × String) := []

/-- Where settings come from. -/
inductive ConfigSource where
  /-- A document, given as a text. -/
  | document (text : String)
  /-- A document in a file. -/
  | file (path : String)
  /-- The variables of the environment that are named so. -/
  | environment (names : VariableNames)

/-- The operations of a library of layered configurations. -/
structure ConfigLibrary where
  /-- Reads a document. Each value remembers the origin. -/
  parse? : (origin : Option String) → (text : String) → Option (List (String × Setting))
  /-- The entries of a source, each with its key. -/
  collect : Host → ConfigSource → Except LoadError (List (String × Setting))
  /-- Puts the setting `s` into the tree `root`, at the place that a key leads to. -/
  set : (key : String) → (s root : Setting) → Setting
  /-- The tree of defaults and of sources, as they were collected. -/
  build : (defaults : List (String × Scalar)) →
    (sources : List (Except LoadError (List (String × Setting)))) → Except LoadError Setting
  /-- How trees are converted. -/
  format : DataFormat Setting LoadError

namespace ConfigLibrary

/-- What a document comes to, of which `entries` were read, or nothing. -/
def ofParsed (entries : Option (List (String × Setting))) :
    Except LoadError (List (String × Setting)) :=
  match entries with
  | some entries => .ok entries
  | none => .error .malformed

/-- Puts `entries` into the tree `root`, one after the other. -/
def setAll (L : ConfigLibrary) (entries : List (String × Setting)) (root : Setting) : Setting :=
  entries.foldl (fun root entry => L.set entry.1 entry.2 root) root

end ConfigLibrary

/-- The settings that `defaults` stand for. They have no origin. -/
def defaultEntries (defaults : List (String × Scalar)) : List (String × Setting) :=
  defaults.map fun entry => (entry.1, .scalar entry.2 none)

/-- The entries of sources in order, unless one of them could not be collected. -/
def allEntries : List (Except LoadError (List (String × Setting))) →
    Except LoadError (List (String × Setting))
  | [] => .ok []
  | source :: sources => do
    let entries ← source
    let later ← allEntries sources
    return entries ++ later

end Numeral128
