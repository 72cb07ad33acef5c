import Mathlib.Data.List.Basic
import Numeral128.Proofs.Collecting
import Numeral128.Proofs.Conversion
import Numeral128.Proofs.Fill
import Numeral128.Proofs.Loading
import Numeral128.Proofs.Merging
import Numeral128.Proofs.SettingsField

/-!
# Origins of settings

Settings remember where they come from, but only messages tell of it.  `Setting.anonymous` forgets
all origins in a tree.  In the library this commutes with every way of changing a tree, and
converting an anonymous tree gives the same, or the same error without its origin
(`ConfigLibrary.standard_keepsOrigins`).

A document has the same entries whether it is given as a text or read from a file, up to the origin.
So `Settings.ofFile_eq_ofDocument`: with a library that keeps origins apart, loading a file and
loading its content give the same settings, or both fail for the same reason.
-/

namespace Numeral128

/-! ### Errors -/

theorem mapError_bind {ε α β : Type} (g : ε → ε) (x : Except ε α) (f : α → Except ε β) :
    (x >>= f).mapError g = x.mapError g >>= fun a => (f a).mapError g := by
  cases x with
  | error e => rfl
  | ok a => rfl

/-- The outcomes `x` and `y` are the same up to the origin that an error tells of. -/
def SameUpToOrigin {α : Type} (x y : Except LoadError α) : Prop :=
  x.mapError LoadError.anonymous = y.mapError LoadError.anonymous

namespace SameUpToOrigin

variable {α β : Type} {x y : Except LoadError α}

/-- If one outcome is the value `a`, so is the other. -/
theorem eq_ok_iff (h : SameUpToOrigin x y) (a : α) : x = .ok a ↔ y = .ok a := by
  cases x with
  | error e =>
    cases y with
    | error e' => exact ⟨nofun, nofun⟩
    | ok b => exact absurd h nofun
  | ok b =>
    cases y with
    | error e' => exact absurd h nofun
    | ok b' => rw [show b = b' from Except.ok.inj h]

/-- An error `e` that tells of no origin is the same in both outcomes. -/
theorem eq_error_iff (h : SameUpToOrigin x y) {e : LoadError}
    (he : ∀ found expected key origin, e ≠ .wrongType found expected key origin) :
    x = .error e ↔ y = .error e := by
  -- only errors about a type change when they forget their origin
  have hfixed : ∀ e', e'.anonymous = e → e' = e := by
    rintro e' rfl
    cases e' with
    | wrongType found expected key origin => exact absurd rfl (he found expected key none)
    | malformed | unavailable | notStructure | notChoice | unknownChoice | custom => rfl
  have hanonymous : e.anonymous = e := by
    cases e with
    | wrongType found expected key origin => exact absurd rfl (he found expected key origin)
    | malformed | unavailable | notStructure | notChoice | unknownChoice | custom => rfl
  have hmap : ∀ z : Except LoadError α,
      z = .error e ↔ z.mapError LoadError.anonymous = .error e := by
    intro z
    constructor
    · rintro rfl
      exact congrArg Except.error hanonymous
    · intro hz
      cases z with
      | error e' => exact congrArg Except.error (hfixed e' (Except.error.inj hz))
      | ok a => exact absurd hz nofun
  rw [hmap x, hmap y, h]

/-- What is done by `f` with a value that was found is not told apart. -/
theorem bind (h : SameUpToOrigin x y) (f : α → Except LoadError β) :
    SameUpToOrigin (x >>= f) (y >>= f) := by
  unfold SameUpToOrigin
  rw [mapError_bind, mapError_bind, h]

end SameUpToOrigin

/-! ### Trees -/

namespace Setting

theorem anonymousItems_eq_map (items : List Setting) :
    anonymousItems items = items.map anonymous := by
  induction items with
  | nil => rfl
  | cons s items ih => rw [anonymousItems, ih, List.map_cons]

theorem anonymousEntries_eq_map (entries : List (String × Setting)) :
    anonymousEntries entries = entries.map fun entry => (entry.1, entry.2.anonymous) := by
  induction entries with
  | nil => rfl
  | cons entry entries ih => rw [anonymousEntries, ih, List.map_cons]

theorem lookup_anonymousEntries (entries : List (String × Setting)) (name : String) :
    (anonymousEntries entries).lookup name = (entries.lookup name).map anonymous := by
  rw [anonymousEntries_eq_map, lookup_map_values]

theorem found_anonymous (s : Setting) : s.anonymous.found = s.found := by cases s <;> rfl

theorem asTable_anonymous (s : Setting) :
    s.anonymous.asTable = (anonymousEntries s.asTable.1, none) := by
  cases s <;> rfl

/-- Origins may be forgotten before `s` is put under its name. -/
theorem anonymousEntries_put (entries : List (String × Setting)) (name : String) (s : Setting) :
    anonymousEntries (put entries name s) = put (anonymousEntries entries) name s.anonymous := by
  unfold put
  rw [lookup_anonymousEntries, Option.isSome_map]
  split_ifs
  · rw [anonymousEntries_eq_map, anonymousEntries_eq_map, List.map_map, List.map_map]
    refine List.map_congr_left fun entry _ => ?_
    dsimp only [Function.comp_apply]
    split_ifs
    · rfl
    · rfl
  · rw [anonymousEntries_eq_map, anonymousEntries_eq_map, List.map_append, List.map_singleton]

/-! ### Changes of trees -/

/-- Origins may be forgotten before a value or a list `s` is set. -/
theorem anonymous_assign_of_not_table {s : Setting} (hs : s.isTable = false) (root : Setting)
    (name : String) : (root.assign name s).anonymous = root.anonymous.assign name s.anonymous := by
  cases s with
  | table children origin => exact absurd hs Bool.noConfusion
  | scalar value origin =>
    simp only [assign, anonymous, asTable_anonymous, anonymousEntries_put]
  | list items origin =>
    simp only [assign, anonymous, asTable_anonymous, anonymousEntries_put]

mutual

/-- Origins may be forgotten before a `name` is set. -/
theorem anonymous_assign (root : Setting) (name : String) : (s : Setting) →
    (root.assign name s).anonymous = root.anonymous.assign name s.anonymous
  | scalar _ _ => anonymous_assign_of_not_table rfl root name
  | list _ _ => anonymous_assign_of_not_table rfl root name
  | table children _ => by
    have hentry : (((root.asTable.1.lookup (Text.lowercase name)).getD empty).anonymous) =
        ((root.asTable.1.lookup (Text.lowercase name)).map anonymous).getD empty := by
      cases root.asTable.1.lookup (Text.lowercase name) <;> rfl
    -- the table that is merged with is the one under this name, or an empty one
    simp only [assign, anonymous, asTable_anonymous, anonymousEntries_put, anonymous_assignAll,
      lookup_anonymousEntries, hentry]

theorem anonymous_assignAll (root : Setting) : (children : List (String × Setting)) →
    (root.assignAll children).anonymous = root.anonymous.assignAll (anonymousEntries children)
  | [] => rfl
  | (name, s) :: rest => by
    rw [assignAll, anonymousEntries, assignAll, anonymous_assignAll, anonymous_assign]

end

end Setting

namespace KeyPath

open Setting

variable {f g : Setting → Setting}

/-- Origins may be forgotten before an item is changed, if they may before `f` changes it. -/
theorem anonymous_changeItem (h : ∀ s, (f s).anonymous = g s.anonymous) (index : Int)
    (s : Setting) : (changeItem f index s).anonymous = changeItem g index s.anonymous := by
  -- something else than a list gives way to an empty list first
  have hitems : ∀ items origin, (changeItem f index (.list items origin)).anonymous =
      changeItem g index (.list (anonymousItems items) none) := by
    intro items origin
    simp only [changeItem, anonymousItems_eq_map, List.length_map]
    cases position? items.length index with
    | none => rw [anonymous, anonymousItems_eq_map]
    | some n =>
      have hnull : null.anonymous = null := rfl
      -- a list that is too short is extended by empty values, which have no origins
      have hextended : (items ++ List.replicate (n + 1 - items.length) null).map anonymous =
          items.map anonymous ++ List.replicate (n + 1 - items.length) null := by
        rw [List.map_append, List.map_replicate, hnull]
      simp only [anonymous, anonymousItems_eq_map, List.map_set, h, hextended]
      rw [← hextended, List.getD_eq_getElem?_getD, List.getD_eq_getElem?_getD, List.getElem?_map]
      cases (items ++ List.replicate (n + 1 - items.length) null)[n]? <;> rfl
  cases s with
  | list items origin => exact hitems items origin
  | scalar value origin => exact hitems [] none
  | table entries origin => exact hitems [] none

/-- Origins may be forgotten before an entry is changed, if they may before `f` changes it. -/
theorem anonymous_changeEntry (h : ∀ s, (f s).anonymous = g s.anonymous) (name : String)
    (s : Setting) : (changeEntry f name s).anonymous = changeEntry g name s.anonymous := by
  have hentry : (((s.asTable.1.lookup (Text.lowercase name)).getD null).anonymous) =
      ((s.asTable.1.lookup (Text.lowercase name)).map anonymous).getD null := by
    cases s.asTable.1.lookup (Text.lowercase name) <;> rfl
  simp only [changeEntry, anonymous, asTable_anonymous, anonymousEntries_put,
    lookup_anonymousEntries, h, hentry]

/-- Origins may be forgotten before what a `path` leads to is changed. -/
theorem anonymous_change (h : ∀ s, (f s).anonymous = g s.anonymous) (path : KeyPath)
    (root : Setting) : (change f path root).anonymous = change g path root.anonymous := by
  induction path generalizing f g with
  | name n => exact anonymous_changeEntry h n root
  | child parent n ih => exact ih (anonymous_changeEntry h n)
  | item parent index ih => exact ih (anonymous_changeItem h index)

/-- Origins may be forgotten before `value` is put where a `path` leads. -/
theorem anonymous_set (path : KeyPath) (value root : Setting) :
    (path.set value root).anonymous = path.set value.anonymous root.anonymous := by
  cases path with
  | name n => exact anonymous_assign root n value
  | child parent n => exact anonymous_change (fun s => anonymous_assign s n value) parent root
  | item parent index =>
    apply anonymous_change
    exact anonymous_changeItem (f := fun _ => value) (g := fun _ => value.anonymous)
      (fun _ => rfl) index

end KeyPath

namespace Settings

mutual

/-- A document has the same values whatever its `origin` is. -/
theorem anonymous_ofValue (origin : Option String) : (v : Toml.Value) →
    (ofValue origin v).anonymous = ofValue none v
  | .text _ | .integer _ | .float _ | .boolean _ | .moment _ => rfl
  | .array items => by rw [ofValue, ofValue, Setting.anonymous, anonymous_ofValues]
  | .table entries => by rw [ofValue, ofValue, Setting.anonymous, anonymous_ofEntries]

theorem anonymous_ofValues (origin : Option String) : (vs : List Toml.Value) →
    Setting.anonymousItems (ofValues origin vs) = ofValues none vs
  | [] => rfl
  | v :: vs => by
    rw [ofValues, ofValues, Setting.anonymousItems, anonymous_ofValue, anonymous_ofValues]

theorem anonymous_ofEntries (origin : Option String) : (entries : List (String × Toml.Value)) →
    Setting.anonymousEntries (ofEntries origin entries) = ofEntries none entries
  | [] => rfl
  | (name, v) :: entries => by
    rw [ofEntries, ofEntries, Setting.anonymousEntries, anonymous_ofValue, anonymous_ofEntries]

end

end Settings

/-! ### Conversion -/

namespace LoadError

/-- An error is located under its `key` with an origin or without. -/
theorem anonymous_under (key : String) (e : LoadError) :
    (e.under key).anonymous = e.anonymous.under key := by
  cases e with
  | wrongType found expected key' origin => cases key' <;> rfl
  | malformed | unavailable | notStructure | notChoice | unknownChoice | custom => rfl

end LoadError

namespace Setting

open ConfigLibrary (Anonymous)

theorem anonymous_toBool : Anonymous Setting.toBool := by
  intro s
  cases s with
  | list items origin => rfl
  | table entries origin => rfl
  | scalar value origin =>
    cases value with
    | null | bool | int | float => rfl
    | text text =>
      simp only [anonymous, Setting.toBool]
      cases boolOfWord? (Text.lowercase text) <;> rfl

theorem anonymous_toSize : Anonymous toSize := by
  intro s
  cases s with
  | list items origin => rfl
  | table entries origin => rfl
  | scalar value origin =>
    cases value with
    | null | bool | float => rfl
    | int n =>
      cases n with
      | ofNat n =>
        simp only [anonymous, toSize]
        split_ifs <;> rfl
      | negSucc n => rfl
    | text text =>
      simp only [anonymous, toSize]
      cases sizeOfText? text <;> rfl

theorem anonymous_toPayload : Anonymous toPayload := by
  intro s
  rw [toPayload, toPayload, found_anonymous]
  cases s.found.payload? <;> rfl

/-- Errors of alternatives in `α` tell of no origin. -/
theorem anonymous_toChoice (α : Type) [Spelled α] : Anonymous (toChoice α) := by
  have hnamed : ∀ name,
      choiceNamed α name = (choiceNamed α name).mapError LoadError.anonymous := by
    intro name
    unfold choiceNamed
    cases (Spelled.spellings (α := α)).lookup (Text.lowercase name) <;> rfl
  intro s
  cases s with
  | list items origin => rfl
  | scalar value origin =>
    cases value with
    | null | bool | int | float => rfl
    | text name => exact hnamed name
  | table entries origin =>
    match entries with
    | [] => rfl
    | [(name, s)] => exact hnamed name
    | _ :: _ :: _ => rfl

/-! ### Structures -/

section Structures

variable {α : Type} {fields : List (FieldReader Setting LoadError α)} {a : α}

/-- A field `f` that tells its `key` may forget origins, too. -/
theorem anonymous_located {f : FieldReader Setting LoadError α} (h : Anonymous f.read)
    (key : String) : Anonymous (located key f).read := by
  intro s
  show (f.read s.anonymous).mapError (.under key) =
    ((f.read s).mapError (.under key)).mapError LoadError.anonymous
  rw [h s]
  cases f.read s with
  | ok change => rfl
  | error e => exact congrArg Except.error (LoadError.anonymous_under key e).symm

/-- A field `f` has the same fault, but for its origin. -/
theorem fault?_anonymous {f : FieldReader Setting LoadError α} (h : Anonymous f.read)
    (entries : List (String × Setting)) :
    f.fault? (fun key => (anonymousEntries entries).lookup key) =
      (f.fault? fun key => entries.lookup key).map LoadError.anonymous := by
  rw [FieldReader.fault?, FieldReader.fault?, lookup_anonymousEntries]
  cases entries.lookup f.name with
  | none => rfl
  | some s =>
    dsimp only [Option.map_some]
    rw [h s]
    cases f.read s <;> rfl

/-- Fields are read from `entries` without origins as they are with them. -/
theorem readEntries_anonymous (h : ∀ f ∈ fields, Anonymous f.read)
    (entries : List (String × Setting)) :
    readEntries (fun key => (anonymousEntries entries).lookup key) fields a =
      (readEntries (fun key => entries.lookup key) fields a).mapError LoadError.anonymous := by
  induction fields generalizing a with
  | nil => rfl
  | cons f fields ih =>
    rw [List.forall_mem_cons] at h
    rw [readEntries, readEntries, lookup_anonymousEntries]
    cases entries.lookup f.name with
    | none => exact ih h.2
    | some s =>
      dsimp only [Option.map_some]
      rw [h.1 s]
      cases f.read s with
      | error e => rfl
      | ok change => exact ih h.2

/-- So they are from the `items` of a list. -/
theorem readItems_anonymous (h : ∀ f ∈ fields, Anonymous f.read) (items : List Setting) :
    readItems fields (anonymousItems items) a =
      (readItems fields items a).mapError LoadError.anonymous := by
  induction fields generalizing a items with
  | nil => rfl
  | cons f fields ih =>
    rw [List.forall_mem_cons] at h
    cases items with
    | nil => rfl
    | cons s items =>
      rw [anonymousItems, readItems, readItems, h.1 s]
      cases f.read s with
      | error e => rfl
      | ok change => exact ih h.2 items

theorem findSome?_map {β γ : Type} {g : β → β} {p p' : γ → Option β} {cs : List γ}
    (h : ∀ c ∈ cs, p' c = (p c).map g) : cs.findSome? p' = (cs.findSome? p).map g := by
  induction cs with
  | nil => rfl
  | cons c cs ih =>
    rw [List.forall_mem_cons] at h
    rw [List.findSome?_cons, List.findSome?_cons, h.1, ih h.2]
    cases p c <;> rfl

/-- The first fault of `fields` is the same without origins, but for its own. -/
theorem readRecord_anonymous (h : ∀ f ∈ fields, Anonymous f.read)
    (entries : List (String × Setting)) :
    readRecord (fun key => (anonymousEntries entries).lookup key) fields a =
      (readRecord (fun key => entries.lookup key) fields a).mapError LoadError.anonymous := by
  rw [readRecord, readRecord, readEntries_anonymous h,
    findSome?_map fun f hf => fault?_anonymous (h f (mem_sortedByName.mp hf)) entries]
  cases (sortedByName fields).findSome? _ <;> rfl

/-- A structure may forget origins, if all of its `fields` may. -/
theorem anonymous_toRecord (name : String) (fields : List (FieldReader Setting LoadError α))
    (default : α) (h : ∀ f ∈ fields, Anonymous f.read) :
    Anonymous (toRecord name fields default) := by
  intro s
  cases s with
  | scalar value origin => rfl
  | table entries origin =>
    refine readRecord_anonymous ?_ entries
    exact List.forall_mem_map.mpr fun f hf => anonymous_located (h f hf) f.name
  | list items origin =>
    refine readItems_anonymous (fun f hf => ?_) items
    obtain ⟨key, g, hg, rfl⟩ := exists_eq_located hf
    exact anonymous_located (h g hg) key

end Structures

end Setting

/-- **Origins.**  Only the errors of `ConfigLibrary.standard` tell where settings come from. -/
theorem ConfigLibrary.standard_keepsOrigins : standard.KeepsOrigins where
  anonymous_parse? origin text := by
    show ((Toml.parse? text.toList).map (Settings.ofEntries origin)).map Setting.anonymousEntries =
      ((Toml.parse? text.toList).map (Settings.ofEntries none)).map Setting.anonymousEntries
    rw [Option.map_map, Option.map_map]
    congr 1
    funext entries
    exact (Settings.anonymous_ofEntries origin entries).trans
      (Settings.anonymous_ofEntries none entries).symm
  anonymous_set key s root := (KeyPath.ofName key).anonymous_set s root
  anonymous_custom text := rfl
  anonymous_bool := Setting.anonymous_toBool
  anonymous_size := Setting.anonymous_toSize
  anonymous_payload := Setting.anonymous_toPayload
  anonymous_choice α _ := Setting.anonymous_toChoice α
  anonymous_record name fields default h := Setting.anonymous_toRecord name fields default h

/-! ### Libraries that keep origins apart -/

section Library

variable {L : ConfigLibrary} {α β : Type}

namespace ConfigLibrary

open Setting

theorem anonymousEntries_append (entries entries' : List (String × Setting)) :
    anonymousEntries (entries ++ entries') =
      anonymousEntries entries ++ anonymousEntries entries' := by
  rw [anonymousEntries_eq_map, anonymousEntries_eq_map, anonymousEntries_eq_map, List.map_append]

/-- Origins may be forgotten before `entries` are put into a tree, one after the other. -/
theorem anonymous_setAll (hL : L.KeepsOrigins) (entries : List (String × Setting))
    (root : Setting) :
    (L.setAll entries root).anonymous = L.setAll (anonymousEntries entries) root.anonymous := by
  induction entries generalizing root with
  | nil => rfl
  | cons entry entries ih =>
    obtain ⟨key, s⟩ := entry
    rw [SettingsField.setAll_cons, ih, hL.anonymous_set, anonymousEntries,
      SettingsField.setAll_cons]

/-- A fill is made from its payload, and a payload that makes none has an error in the reader's own
words. -/
theorem anonymous_fill (hL : L.KeepsOrigins) : Anonymous L.format.fill := by
  intro s
  rw [DataFormat.fill, DataFormat.fill, hL.anonymous_payload s]
  cases L.format.payload s with
  | error e => rfl
  | ok payload =>
    show payload.toChar?.mapError _ = (payload.toChar?.mapError _).mapError _
    cases payload.toChar? with
    | ok c => rfl
    | error e => exact congrArg Except.error (hL.anonymous_custom e.message).symm

/-- What `set` does with the value of a field makes no difference. -/
theorem anonymous_of (name : String) {read : Setting → Except LoadError β} (set : β → α → α)
    (h : Anonymous read) : Anonymous (FieldReader.of name read set).read := by
  intro s
  show (read s.anonymous).map set = ((read s).map set).mapError LoadError.anonymous
  rw [h s]
  cases read s <;> rfl

/-- Each of the seven fields may forget origins, and so may a layout. -/
theorem anonymous_readLayout (hL : L.KeepsOrigins) : Anonymous (Layout.read L.format) := by
  apply hL.anonymous_record
  intro reader hreader
  obtain ⟨f, -, rfl⟩ := List.mem_map.mp hreader
  apply anonymous_of
  cases f with
  | base => exact hL.anonymous_choice Base
  | alignment => exact hL.anonymous_choice Alignment
  | uppercase | showPrefix | showPlus => exact hL.anonymous_bool
  | width => exact hL.anonymous_size
  | fill => exact anonymous_fill hL

/-- **Conversion.**  A tree without origins is converted to the same settings, or there is the same
error without its origin. -/
theorem anonymous_readSettings (hL : L.KeepsOrigins) : Anonymous (Settings.read L.format) := by
  apply hL.anonymous_record
  refine List.forall_mem_cons.mpr ⟨?_, List.forall_mem_singleton.mpr ?_⟩
  · exact anonymous_of _ _ (anonymous_readLayout hL)
  · exact anonymous_of _ _ (hL.anonymous_choice BaseChoice)

/-- Trees `root` and `root'` that are the same but for origins stand for the same settings. -/
theorem sameUpToOrigin_read (hL : L.KeepsOrigins) {root root' : Setting}
    (h : root.anonymous = root'.anonymous) :
    SameUpToOrigin (Settings.read L.format root) (Settings.read L.format root') := by
  rw [SameUpToOrigin, ← anonymous_readSettings hL, ← anonymous_readSettings hL, h]

/-- A document, in `entries` or in `entries'`, and another source, `later`, stand for the same
settings whatever the origin of the document is. -/
theorem sameUpToOrigin_build (hM : L.Merges) (hO : L.KeepsOrigins)
    {entries entries' : List (String × Setting)}
    (h : anonymousEntries entries = anonymousEntries entries')
    (later : Except LoadError (List (String × Setting))) :
    SameUpToOrigin (L.build Settings.defaults [.ok entries, later] >>= Settings.read L.format)
      (L.build Settings.defaults [.ok entries', later] >>= Settings.read L.format) := by
  rw [hM.build_eq, hM.build_eq]
  cases later with
  | error e => rfl
  | ok vars =>
    -- the entries of the environment are the same on both sides
    have hlater : anonymousEntries (entries ++ (vars ++ [])) =
        anonymousEntries (entries' ++ (vars ++ [])) := by
      rw [anonymousEntries_append entries, anonymousEntries_append entries', h]
    apply sameUpToOrigin_read hO
    rw [anonymous_setAll hO, anonymous_setAll hO, anonymousEntries_append,
      anonymousEntries_append _ (entries' ++ _)]
    exact congrArg (fun later => L.setAll (_ ++ later) _) hlater

end ConfigLibrary

/-! ### Files and texts -/

namespace SettingsSource

variable {host : Host} {path content : String}

/-- A document is built from two sources, the `text` and the environment. -/
theorem deserialized_document_eq (L : ConfigLibrary) (host : Host) (text : String) :
    (document text).deserialized L host =
      L.build Settings.defaults [L.collect host (.document text),
        L.collect host (.environment Settings.variableNames)] >>= Settings.read L.format :=
  rfl

/-- So is a file, from what the library collects under its `path`. -/
theorem deserialized_file_eq (L : ConfigLibrary) (host : Host) (path : String) :
    (file (some path)).deserialized L host =
      L.build Settings.defaults [L.collect host (.file path),
        L.collect host (.environment Settings.variableNames)] >>= Settings.read L.format :=
  rfl

/-- A file and its `content` stand for the same, but for the name of the file. -/
theorem sameUpToOrigin_deserialized (hS : L.Collects) (hM : L.Merges) (hO : L.KeepsOrigins)
    (hcontent : host.read? path = some content) (hextension : FilePath.hasExtension path = true)
    (hmark : content.toList.head? ≠ some '\ufeff') :
    SameUpToOrigin ((file (some path)).deserialized L host)
      ((document content).deserialized L host) := by
  obtain ⟨origin, hfile⟩ := hS.collect_file hcontent hextension hmark
  have hparse := hO.anonymous_parse? origin content
  rw [deserialized_file_eq, deserialized_document_eq, hfile, hS.collect_document]
  -- the document is parsed in both cases, or in neither
  cases hentries : L.parse? origin content with
  | none =>
    rw [hentries, Option.map_none, eq_comm, Option.map_eq_none_iff] at hparse
    rw [hparse]
    rfl
  | some entries =>
    rw [hentries, Option.map_some, eq_comm, Option.map_eq_some_iff] at hparse
    obtain ⟨entries', hentries', hsame⟩ := hparse
    rw [hentries']
    exact ConfigLibrary.sameUpToOrigin_build hM hO hsame.symm _

/-- Without a file the settings are those of the document `""`. -/
theorem deserialized_none (hS : L.Collects) (hM : L.Merges) (host : Host) :
    (file none).deserialized L host = (document "").deserialized L host := by
  have hempty : L.collect host (.document "") = .ok [] := by
    rw [hS.collect_document, hS.parse?_empty]
    rfl
  rw [deserialized_document_eq, hempty]
  show L.build Settings.defaults [L.collect host (.environment Settings.variableNames)] >>= _ = _
  rw [hM.build_eq, hM.build_eq]
  cases L.collect host (.environment Settings.variableNames) <;> rfl

end SettingsSource

end Library

/-- **Files and texts.**  Let `L` be a library that collects and merges as promised and keeps
origins apart.  Loading a file and loading its `content`, a text without a byte order mark, give the
same settings, or both fail, and then the errors differ in the origin that they tell of at most.  So
either both are malformed or neither is, and if the merged values convert, then the check refuses
both for the same reason or passes both.  Without a file the settings are those of the empty text.
-/
theorem Settings.ofFile_eq_ofDocument {L : ConfigLibrary} (hS : L.Collects) (hM : L.Merges)
    (hO : L.KeepsOrigins) :
    (∀ (host : Host) (path content : String), host.read? path = some content →
      FilePath.hasExtension path = true → content.toList.head? ≠ some '\ufeff' →
      let fromFile := ofFile L host (some path)
      let fromText := ofDocument L host content
      (∀ s, fromFile = .ok s ↔ fromText = .ok s) ∧
      (fromFile = .error .malformed ↔ fromText = .error .malformed) ∧
      SameUpToOrigin fromFile fromText ∧
      ∀ s, ((SettingsSource.file (some path)).deserialized L host = .ok s ↔
          (SettingsSource.document content).deserialized L host = .ok s) ∧
        ((SettingsSource.document content).deserialized L host = .ok s → fromFile = fromText)) ∧
    ∀ host : Host, ofFile L host none = ofDocument L host "" := by
  constructor
  · intro host path content hcontent hextension hmark fromFile fromText
    have hsame :=
      SettingsSource.sameUpToOrigin_deserialized hS hM hO hcontent hextension hmark
    have hfile := SettingsSource.load_eq L host (.file (some path))
    have htext := SettingsSource.load_eq L host (.document content)
    -- the check comes after all that tells of origins
    have hload : SameUpToOrigin fromFile fromText := by
      have hbind := hsame.bind fun s => s.checked.mapError SettingsSource.refusal
      rwa [← hfile, ← htext] at hbind
    refine ⟨hload.eq_ok_iff, hload.eq_error_iff nofun, hload, fun s => ⟨hsame.eq_ok_iff s, ?_⟩⟩
    intro hs
    calc fromFile = s.checked.mapError SettingsSource.refusal :=
          SettingsSource.load_of_deserialized ((hsame.eq_ok_iff s).mpr hs)
      _ = fromText := (SettingsSource.load_of_deserialized hs).symm
  · intro host
    have hfile := SettingsSource.load_eq L host (.file none)
    rw [SettingsSource.deserialized_none hS hM, ← SettingsSource.load_eq] at hfile
    exact hfile

/-- A file whose fill is refused, as that of its content is, and a variable that does not convert,
without a file. -/
theorem Settings.ofFile_eq_ofDocument_tab :
    let content := "[format]\nfill = \"\\t\""
    let host : Host := { read? := Files.content? ⟨[("/tmp/a.toml", content)]⟩ }
    let wide : Host := { environment := [("INT128IO_FORMAT__WIDTH", "wide")] }
    host.read? "/tmp/a.toml" = some content ∧ FilePath.hasExtension "/tmp/a.toml" = true ∧
      content.toList.head? ≠ some '\ufeff' ∧
      (SettingsSource.document content).deserialized .standard host =
        .ok { layout := { fill := '\t' } } ∧
      ofFile .standard host (some "/tmp/a.toml") = ofDocument .standard host content ∧
      ofFile .standard wide none = ofDocument .standard wide "" := by
  intro content host wide
  have hcontent : host.read? "/tmp/a.toml" = some content := by decide +kernel
  have hextension : FilePath.hasExtension "/tmp/a.toml" = true := by decide +kernel
  have hmark : content.toList.head? ≠ some '\ufeff' := by decide +kernel
  have hdeserialized : (SettingsSource.document content).deserialized .standard host =
      .ok { layout := { fill := '\t' } } := eq_ok_of_toOption (by decide +kernel)
  -- nothing of the load itself is computed
  obtain ⟨hload, hnone⟩ := ofFile_eq_ofDocument ConfigLibrary.standard_collects
    ConfigLibrary.standard_merges ConfigLibrary.standard_keepsOrigins
  obtain ⟨-, -, -, hrefused⟩ := hload host "/tmp/a.toml" content hcontent hextension hmark
  exact ⟨hcontent, hextension, hmark, hdeserialized, (hrefused _).2 hdeserialized, hnone wide⟩

end Numeral128
