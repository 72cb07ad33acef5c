import Numeral128.LayoutField
import Numeral128.Settings.Basic
import Numeral128.Settings.Library

/-!
# Settings from their sources

Settings come from defaults, then a document, then the environment. A library merges them; the tree
is converted, and the settings have to keep their bounds.
-/

namespace Numeral128.Settings

variable {δ ε : Type}

/-- The fields of settings as a structure. -/
def fields (F : DataFormat δ ε) : List (FieldReader δ ε Settings) :=
  [.of "format" (Layout.read F) fun layout s => { s with layout },
    .of "parse" (F.choice BaseChoice) fun choice s => { s with choice }]

/-- Reads settings. Their bounds are not looked at. -/
def read (F : DataFormat δ ε) : δ → Except ε Settings := F.record "Settings" (fields F) {}

/-- The defaults that a library is told. Fields that are not among them have their defaults, too. -/
def defaults : List (String × Scalar) :=
  let layout : Layout := {}
  [("format.width", .int layout.width), ("format.fill", .text (String.singleton layout.fill)),
    ("parse", .text "auto")]

/-- How variables name settings: two underscores stand between a table and its entry. -/
def variableNames : VariableNames where
  start := "INT128IO"
  startSeparator := "_"
  separator := "__"
  inferred := true

variable (L : ConfigLibrary) (host : Host)

/-- The settings that `sources` and the environment stand for, whether or not they are in bounds. -/
def merged (sources : List ConfigSource) : Except LoadError Settings := do
  let tree ← L.build defaults
    ((sources ++ [ConfigSource.environment variableNames]).map (L.collect host))
  read L.format tree

/-- The settings of `sources` and of the environment, checked. -/
def finish (sources : List ConfigSource) : Except LoadError Settings := do
  let s ← merged L host sources
  s.checked.mapError fun fault => .custom fault.message

/-- The settings of the document `text`. -/
def ofDocument (text : String) : Except LoadError Settings := finish L host [.document text]

/-- The settings of the file at `path`, if one is given. -/
def ofFile (path : Option String) : Except LoadError Settings :=
  finish L host (path.toList.map .file)

end Numeral128.Settings
