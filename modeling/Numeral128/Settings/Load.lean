import Numeral128.Settings.Convert
import Numeral128.Settings.Files
import Numeral128.Settings.KeyPath
import Numeral128.Settings.Sources
import Numeral128.Toml.Document

/-!
# Loading settings

`ConfigLibrary.standard` is the library that settings are loaded with. Documents are TOML, keys are
paths, and the entries of a later source are put over those of an earlier one.
-/

namespace Numeral128

namespace Settings

mutual

/-- A value of a document from `origin`. Dates are texts. -/
def ofValue (origin : Option String) : Toml.Value → Setting
  | .text s => .scalar (.text s) origin
  | .integer n => .scalar (.int n) origin
  | .float x => .scalar (.float x) origin
  | .boolean b => .scalar (.bool b) origin
  | .moment m => .scalar (.text m.toText) origin
  | .array items => .list (ofValues origin items) origin
  | .table entries => .table (ofEntries origin entries) origin

/-- Values of a document from `origin`. -/
def ofValues (origin : Option String) : List Toml.Value → List Setting
  | [] => []
  | v :: vs => ofValue origin v :: ofValues origin vs

/-- Entries of a table of a document from `origin`. -/
def ofEntries (origin : Option String) : List (String × Toml.Value) → List (String × Setting)
  | [] => []
  | (name, v) :: entries => (name, ofValue origin v) :: ofEntries origin entries

end

end Settings

namespace ConfigLibrary

/-- Reads the document `text` in TOML. -/
def parseToml? (origin : Option String) (text : String) : Option (List (String × Setting)) :=
  (Toml.parse? text.toList).map (Settings.ofEntries origin)

/-- The `text` without a byte order mark at its start. -/
def withoutMark (text : String) : String :=
  match text.toList with
  | '\ufeff' :: cs => String.ofList cs
  | _ => text

/-- The origin of settings from variables. -/
def environmentOrigin : String := "the environment"

/-- The library that settings are loaded with. -/
def standard : ConfigLibrary where
  parse? := parseToml?
  collect host
    | .document text => ofParsed (parseToml? none text)
    | .file path =>
      match FilePath.find? host.read? path with
      | some (origin, content) => ofParsed (parseToml? (some origin) (withoutMark content))
      | none => .error .unavailable
    | .environment names => .ok (host.environment.filterMap (names.keyed? (some environmentOrigin)))
  set key s root := (KeyPath.ofName key).set s root
  build defaults sources := do
    let entries ← allEntries sources
    return (defaultEntries defaults ++ entries).foldl
      (fun root entry => (KeyPath.ofName entry.1).set entry.2 root) .empty
  format := Setting.format

end ConfigLibrary

namespace Settings

/-- The settings of a `document` and an `environment`. -/
def ofToml (document : String) (environment : List (String × String)) :
    Except LoadError Settings :=
  ofDocument .standard { environment } document

/-- The settings of the file at `path`, if one is given, and of an `environment`. -/
def load (files : Files) (path : Option String) (environment : List (String × String)) :
    Except LoadError Settings :=
  ofFile .standard { read? := files.content?, environment } path

end Settings

end Numeral128
