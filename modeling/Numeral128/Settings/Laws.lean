import Numeral128.Settings.Files
import Numeral128.Settings.Library

/-!
# Promises of configuration libraries

What is relied on of a `ConfigLibrary`, in four parts. `Collects` is about reading sources,
`Merges` about putting their entries into one tree, `Converts` about what becomes of the values in
it, and `KeepsOrigins` says that nothing but messages depends on where a setting comes from.

The order of the entries in tables is left open, and so is what happens with keys that are no plain
names or paths of two.
-/

namespace Numeral128

/-! ### Trees without origins -/

namespace Setting

mutual

/-- The setting without any origins. -/
def anonymous : Setting → Setting
  | scalar value _ => scalar value none
  | list items _ => list (anonymousItems items) none
  | table entries _ => table (anonymousEntries entries) none

/-- The settings of a list without any origins. -/
def anonymousItems : List Setting → List Setting
  | [] => []
  | s :: items => s.anonymous :: anonymousItems items

/-- The entries of a table without any origins. -/
def anonymousEntries : List (String × Setting) → List (String × Setting)
  | [] => []
  | (name, s) :: entries => (name, s.anonymous) :: anonymousEntries entries

end

/-- Whether `name` consists of small letters and low lines only, so that it is the same in lower
case and a path of its own. -/
def isPlainName (name : String) : Bool :=
  !name.isEmpty && name.toList.all fun c => c = '_' || c.isLower

end Setting

/-- The error without the origin of the value that is told of. -/
def LoadError.anonymous : LoadError → LoadError
  | wrongType found expected key _ => wrongType found expected key none
  | e => e

namespace ConfigLibrary

open Setting

/-- What is known of the entries that `L` collects from sources. -/
structure Collects (L : ConfigLibrary) : Prop where
  /-- A document that is given as a text has no origin. -/
  collect_document : ∀ host text, L.collect host (.document text) = ofParsed (L.parse? none text)
  /-- A file with the extension of a settings file is read as a document in UTF-8, and is the origin
  of its values. Byte order marks are left open. -/
  collect_file : ∀ {host : Host} {path content}, host.read? path = some content →
    FilePath.hasExtension path = true → content.toList.head? ≠ some '\ufeff' →
    ∃ origin, L.collect host (.file path) = ofParsed (L.parse? origin content)
  /-- Each variable for settings is an entry, if no two of them have the same key. -/
  collect_environment : ∀ {host : Host} {names : VariableNames},
    (host.environment.filterMap fun v => names.key? v.1).Nodup →
    ∃ origin entries, L.collect host (.environment names) = .ok entries ∧
      entries.Perm (host.environment.filterMap (names.keyed? origin))
  /-- A document may be empty. -/
  parse?_empty : ∀ origin, L.parse? origin "" = some []
  /-- No two keys of a document are the same. -/
  nodup_keys : ∀ {origin text entries}, L.parse? origin text = some entries →
    (entries.map Prod.fst).Nodup
  /-- No two keys in a table of a document are the same. -/
  nodup_keys_of_table : ∀ {origin text entries name fields origin'},
    L.parse? origin text = some entries → (name, table fields origin') ∈ entries →
    (fields.map Prod.fst).Nodup

/-- What is known of how `L` puts settings into trees. -/
structure Merges (L : ConfigLibrary) : Prop where
  /-- Defaults come first, and then the sources as they were added. Each entry is put into the tree
  of those before it. -/
  build_eq : ∀ defaults sources, L.build defaults sources =
    (allEntries sources).map fun entries => L.setAll (defaultEntries defaults ++ entries) empty
  /-- What a name is put into becomes a table. -/
  isTable_set : ∀ {name}, isPlainName name = true → ∀ s root, (L.set name s root).isTable = true
  /-- A value takes the place of what was there. -/
  find?_set_scalar : ∀ {name s}, isPlainName name = true → s.isScalar = true → ∀ root key,
    (L.set name s root).find? key = if key = name then some s else root.find? key
  /-- A table is put into the one that was there, entry by entry. -/
  find?_set_table : ∀ {name children}, isPlainName name = true →
    (∀ child ∈ children, isPlainName child.1 = true) → ∀ origin root key,
    (L.set name (table children origin) root).find? key =
      if key = name then some (L.setAll children ((root.find? name).getD empty))
      else root.find? key
  /-- A path of two names leads to an entry of an entry. -/
  find?_set_path : ∀ {outer name}, isPlainName outer = true → isPlainName name = true →
    ∀ s root key, (L.set (outer ++ "." ++ name) s root).find? key =
      if key = outer then some (L.set name s ((root.find? outer).getD null))
      else root.find? key

/-- What is known of how `L` converts settings. -/
structure Converts (L : ConfigLibrary) : Prop where
  lawful : L.format.Lawful
  found_eq : ∀ s, L.format.found s = s.found
  member?_eq : ∀ s name, L.format.member? s name = s.find? name
  /-- An alternative is read by its spelling, in any case. -/
  choice_of_text : ∀ {α} [Spelled α] {name origin} {a : α},
    Spelled.spellings.lookup (Text.lowercase name) = some a →
    L.format.choice α (scalar (.text name) origin) = .ok a
  /-- Every number but zero is true. -/
  bool_of_int : ∀ (n : Int) origin, L.format.bool (scalar (.int n) origin) = .ok (n ≠ 0)
  /-- Some words are true, in any case. -/
  bool_of_true : ∀ {text origin}, Text.lowercase text ∈ ["true", "on", "yes"] →
    L.format.bool (scalar (.text text) origin) = .ok true
  /-- Some words are false, in any case. -/
  bool_of_false : ∀ {text origin}, Text.lowercase text ∈ ["false", "off", "no"] →
    L.format.bool (scalar (.text text) origin) = .ok false

/-- The reader `read` gives the same without origins, but for the origin that an error tells of. -/
def Anonymous {α : Type} (read : Setting → Except LoadError α) : Prop :=
  ∀ s, read s.anonymous = (read s).mapError LoadError.anonymous

/-- What is known of origins in `L`: only errors of conversions tell of them. -/
structure KeepsOrigins (L : ConfigLibrary) : Prop where
  anonymous_parse? : ∀ origin text,
    (L.parse? origin text).map anonymousEntries = (L.parse? none text).map anonymousEntries
  anonymous_set : ∀ key s root,
    (L.set key s root).anonymous = L.set key s.anonymous root.anonymous
  anonymous_custom : ∀ text, (L.format.custom text).anonymous = L.format.custom text
  anonymous_bool : Anonymous L.format.bool
  anonymous_size : Anonymous L.format.size
  anonymous_payload : Anonymous L.format.payload
  anonymous_choice : ∀ (α) [Spelled α], Anonymous (L.format.choice α)
  /-- A structure is, if its fields are. -/
  anonymous_record : ∀ {α} name (fields : List (FieldReader Setting LoadError α)) default,
    (∀ f ∈ fields, Anonymous f.read) → Anonymous (L.format.record name fields default)

end ConfigLibrary

end Numeral128
