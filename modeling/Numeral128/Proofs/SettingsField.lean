import Numeral128.Proofs.LayoutField
import Numeral128.Proofs.Lookup
import Numeral128.Settings.Laws
import Numeral128.Settings.Sources

/-!
# Fields of settings

Settings have eight fields, those of the layout and the base choice.  Each has a type, a key, and a
place in the merged tree (`SettingsField.at?`).

A value that a library puts under the key of one field changes this field only
(`SettingsField.at?_set`).  So whatever is put into a tree is a layer over it
(`SettingsField.Overlays`), and layers compose.

The tree is converted field by field: if every field converts to some value, then the tree converts
to the settings with these values (`SettingsField.read_eq`).
-/

namespace Numeral128

/-- A field of settings. -/
inductive SettingsField where
  | choice
  | layout (f : LayoutField)
  deriving DecidableEq, Repr

namespace SettingsField

/-- The type of the values of a field. -/
abbrev Value : SettingsField → Type
  | choice => BaseChoice
  | layout f => f.Value

/-- The value of a field in the settings `s`. -/
def get (s : Settings) : (f : SettingsField) → f.Value
  | choice => s.choice
  | layout f => f.get s.layout

/-- The settings with the values `v` of their fields. -/
def settings (v : (f : SettingsField) → f.Value) : Settings where
  layout := LayoutField.layout fun f => v (.layout f)
  choice := v .choice

theorem get_settings (v : (f : SettingsField) → f.Value) (f : SettingsField) :
    get (settings v) f = v f := by
  cases f with
  | choice => rfl
  | layout f => exact f.get_layout fun f => v (.layout f)

/-- Settings are determined by their fields. -/
theorem eq_of_get {s s' : Settings} (h : ∀ f, get s f = get s' f) : s = s' := by
  have hfields : ∀ s : Settings, settings (get s) = s := fun _ => rfl
  rw [← hfields s, ← hfields s', funext h]

/-- How a setting is converted to the value of a field by the format `F`. -/
def convert (F : DataFormat Setting LoadError) :
    (f : SettingsField) → Setting → Except LoadError f.Value
  | choice => F.choice BaseChoice
  | layout f => f.read F

/-! ### Places in a tree -/

/-- The key that a field is found under. -/
def key : SettingsField → String
  | choice => "parse"
  | layout f => "format" ++ "." ++ f.name

/-- What the tree `root` holds for a field. -/
def at? (root : Setting) : SettingsField → Option Setting
  | choice => root.find? "parse"
  | layout f => ((root.find? "format").getD .null).find? f.name

/-- Whether a tree has a table for the layout. -/
def HasLayout (root : Setting) : Prop := ∃ s, root.find? "format" = some s ∧ s.isTable = true

theorem isPlainName_parse : Setting.isPlainName "parse" = true := by decide

theorem isPlainName_format : Setting.isPlainName "format" = true := by decide

theorem isPlainName_name (f : LayoutField) : Setting.isPlainName f.name = true := by
  cases f <;> decide

/-- Different fields have different keys. -/
theorem key_injective {f g : SettingsField} (h : f.key = g.key) : f = g := by
  have hlayout : ∀ f g : LayoutField, (layout f).key = (layout g).key → f = g := by
    intro f g
    cases f <;> cases g <;> decide +kernel
  have hchoice : ∀ f : LayoutField, choice.key ≠ (layout f).key := by
    intro f
    cases f <;> decide +kernel
  cases f with
  | choice =>
    cases g with
    | choice => rfl
    | layout g => exact absurd h (hchoice g)
  | layout f =>
    cases g with
    | choice => exact absurd h.symm (hchoice f)
    | layout g => rw [hlayout f g h]

variable {L : ConfigLibrary} {root s : Setting}

/-- A value `s` that is put under the key of `f` is that of `f`, and no other field `g` changes. -/
theorem at?_set (hL : L.Merges) (f g : SettingsField) (root : Setting) (h : s.isScalar = true) :
    g.at? (L.set f.key s root) = if g = f then some s else g.at? root := by
  cases f with
  | choice =>
    have hentry := hL.find?_set_scalar isPlainName_parse h root
    cases g with
    | choice => exact (hentry "parse").trans (if_pos rfl)
    | layout g =>
      have hformat := (hentry "format").trans (if_neg (by decide))
      rw [if_neg nofun]
      exact congrArg (fun t : Option Setting => (t.getD .null).find? g.name) hformat
  | layout f =>
    -- the key of a field of the layout is a path through the table
    have hentry := hL.find?_set_path isPlainName_format (isPlainName_name f) s root
    cases g with
    | choice => exact (hentry "parse").trans (if_neg (by decide))
    | layout g =>
      rw [at?, key, hentry, if_pos rfl, Option.getD_some,
        hL.find?_set_scalar (isPlainName_name f) h]
      by_cases hgf : g = f
      · rw [if_pos (congrArg LayoutField.name hgf), if_pos (congrArg layout hgf)]
      · have hname : g.name ≠ f.name := fun h => hgf (LayoutField.name_injective h)
        have hfield : layout g ≠ layout f := fun h => hgf (SettingsField.layout.inj h)
        rw [if_neg hname, if_neg hfield]
        rfl

/-- A field `f` of the layout is put into a table, which is made if there is none. -/
theorem hasLayout_set_layout (hL : L.Merges) (root : Setting) (f : LayoutField) (s : Setting) :
    HasLayout (L.set (layout f).key s root) := by
  refine ⟨_, ?_, hL.isTable_set (isPlainName_name f) s ((root.find? "format").getD .null)⟩
  rw [key, hL.find?_set_path isPlainName_format (isPlainName_name f), if_pos rfl]

/-- No value of a field `f` takes the table for the layout away. -/
theorem hasLayout_set (hL : L.Merges) (hroot : HasLayout root) (f : SettingsField)
    (h : s.isScalar = true) : HasLayout (L.set f.key s root) := by
  cases f with
  | choice =>
    obtain ⟨t, ht, htable⟩ := hroot
    refine ⟨t, ?_, htable⟩
    rw [key, hL.find?_set_scalar isPlainName_parse h, if_neg (by decide), ht]
  | layout f => exact hasLayout_set_layout hL root f s

/-! ### Entries one after the other -/

section Entries

variable {children : List (String × Setting)}

theorem setAll_cons (L : ConfigLibrary) (key : String) (s : Setting)
    (rest : List (String × Setting)) (root : Setting) :
    L.setAll ((key, s) :: rest) root = L.setAll rest (L.set key s root) :=
  rfl

/-- Entries are put into a tree from left to right, so that `entries'` win. -/
theorem setAll_append (L : ConfigLibrary) (entries entries' : List (String × Setting))
    (root : Setting) : L.setAll (entries ++ entries') root =
      L.setAll entries' (L.setAll entries root) :=
  List.foldl_append

theorem isTable_setAll (hL : L.Merges)
    (hplain : ∀ child ∈ children, Setting.isPlainName child.1 = true)
    (h : root.isTable = true) : (L.setAll children root).isTable = true := by
  induction children generalizing root with
  | nil => exact h
  | cons child children ih =>
    rw [List.forall_mem_cons] at hplain
    exact ih hplain.2 (hL.isTable_set hplain.1 child.2 root)

/-- After the values of different names have been put into `root`, what the name `key` holds is its
value, or else what it held before. -/
theorem find?_setAll (hL : L.Merges)
    (hplain : ∀ child ∈ children, Setting.isPlainName child.1 = true)
    (hscalar : ∀ child ∈ children, child.2.isScalar = true)
    (hnodup : (children.map Prod.fst).Nodup) (root : Setting) (key : String) :
    (L.setAll children root).find? key = (children.lookup key).or (root.find? key) := by
  induction children generalizing root with
  | nil => rfl
  | cons child children ih =>
    obtain ⟨name, s⟩ := child
    rw [List.forall_mem_cons] at hplain hscalar
    rw [List.map_cons, List.nodup_cons] at hnodup
    rw [setAll_cons, ih hplain.2 hscalar.2 hnodup.2, hL.find?_set_scalar hplain.1 hscalar.1,
      lookup_cons_eq_ite]
    by_cases hkey : key = name
    · -- the names are distinct, so no later entry replaces this one
      have hnone : children.lookup key = none :=
        lookup_eq_none_iff_not_mem.mpr (hkey ▸ hnodup.1)
      rw [if_pos hkey, if_pos hkey, hnone, Option.none_or, Option.some_or]
    · rw [if_neg hkey, if_neg hkey]

end Entries

/-! ### Layers -/

/-- The function `change`, on trees that have a table for the layout, lays what is `given` for some
fields over what there was before. -/
def Overlays (change : Setting → Setting) (given : SettingsField → Option Setting) : Prop :=
  ∀ root, HasLayout root →
    HasLayout (change root) ∧ ∀ f, at? (change root) f = (given f).or (at? root f)

variable {change change' : Setting → Setting} {given given' : SettingsField → Option Setting}

theorem overlays_id : Overlays (fun root => root) fun _ => none :=
  fun _ hroot => ⟨hroot, fun _ => rfl⟩

/-- Of two layers the later one, `change'`, goes before `change`. -/
theorem Overlays.comp (h : Overlays change given) (h' : Overlays change' given') :
    Overlays (fun root => change' (change root)) fun f => (given' f).or (given f) := by
  intro root hroot
  obtain ⟨hlayout, hat⟩ := h root hroot
  obtain ⟨hlayout', hat'⟩ := h' (change root) hlayout
  refine ⟨hlayout', fun f => ?_⟩
  rw [hat', hat, Option.or_assoc]

theorem Overlays.congr (h : Overlays change given) (hgiven : ∀ f, given f = given' f) :
    Overlays change given' := by
  rwa [← funext hgiven]

/-- The value `s` of the field `f` is a layer. -/
theorem overlays_set (hL : L.Merges) (f : SettingsField) (h : s.isScalar = true) :
    Overlays (L.set f.key s) fun g => if g = f then some s else none := by
  intro root hroot
  refine ⟨hasLayout_set hL hroot f h, fun g => ?_⟩
  rw [at?_set hL f g root h]
  dsimp only
  split_ifs with hgf
  · rw [Option.some_or]
  · rw [Option.none_or]

/-- Each entry that is put into a tree is a layer under those in `rest`. -/
theorem overlays_setAll_cons {key : String} {rest : List (String × Setting)}
    (h : Overlays (L.set key s) given) (hrest : Overlays (L.setAll rest) given') :
    Overlays (L.setAll ((key, s) :: rest)) fun f => (given' f).or (given f) :=
  h.comp hrest

/-- What the table `table` for the layout gives. -/
def ofTable (table : Setting) : SettingsField → Option Setting
  | choice => none
  | layout f => table.find? f.name

/-- A table for the layout is laid over the one before, entry by entry.  The keys of its `children`
differ, so that the order of the entries does not matter. -/
theorem overlays_table (hL : L.Merges) {children : List (String × Setting)}
    {origin : Option String} (hscalar : ∀ child ∈ children, child.2.isScalar = true)
    (hname : ∀ child ∈ children, ∃ f : LayoutField, child.1 = f.name)
    (hnodup : (children.map Prod.fst).Nodup) :
    Overlays (L.set "format" (.table children origin)) (ofTable (.table children origin)) := by
  -- names of fields have no dots or brackets, so no key is taken for a path
  have hplain : ∀ child ∈ children, Setting.isPlainName child.1 = true := by
    intro child hchild
    obtain ⟨f, hf⟩ := hname child hchild
    rw [hf, isPlainName_name]
  rintro root ⟨t, ht, htable⟩
  have hentry := hL.find?_set_table isPlainName_format hplain origin root
  have hformat := (hentry "format").trans (if_pos rfl)
  rw [ht, Option.getD_some] at hformat
  refine ⟨⟨_, hformat, isTable_setAll hL hplain htable⟩, fun f => ?_⟩
  cases f with
  | choice => exact (hentry "parse").trans (if_neg (by decide))
  | layout f =>
    rw [at?, at?, ofTable, hformat, ht, Option.getD_some, Option.getD_some,
      find?_setAll hL hplain hscalar hnodup]
    rfl

/-! ### Conversion -/

/-- What the tree `root` holds for a field, converted, or the default. -/
def valueIn (F : DataFormat Setting LoadError) (root : Setting) (f : SettingsField) :
    Except LoadError f.Value :=
  match f.at? root with
  | some s => f.convert F s
  | none => .ok (f.get {})

theorem isTable_of_find? {name : String} (h : root.find? name = some s) : root.isTable = true := by
  cases root with
  | table entries origin => rfl
  | scalar x origin => exact absurd h nofun
  | list items origin => exact absurd h nofun

theorem found_of_isTable (h : root.isTable = true) : root.found = .map := by
  cases root with
  | table entries origin => rfl
  | scalar x origin => exact absurd h Bool.false_ne_true
  | list items origin => exact absurd h Bool.false_ne_true

variable {F : DataFormat Setting LoadError}

/-- The table `table` for the layout is converted field by field. -/
theorem layoutRead_eq (hL : L.Converts) {table : Setting} (htable : table.isTable = true)
    (ht : root.find? "format" = some table) {v : (f : SettingsField) → f.Value}
    (h : ∀ f, valueIn L.format root f = .ok (v f)) :
    Layout.read L.format table = .ok (LayoutField.layout fun f => v (.layout f)) := by
  -- a table is read as a map, and a map is read entry by entry
  have hfound : L.format.found table = .map := by rw [hL.found_eq, found_of_isTable htable]
  apply (hL.lawful.record_of_map _ _ _ hfound).mpr
  apply LayoutField.readEntries_eq
  intro f
  rw [LayoutField.readOr, hL.member?_eq, ← h (.layout f), valueIn, at?, ht, Option.getD_some]
  cases table.find? f.name <;> rfl

/-- **Conversion.**  If every field of the tree `root` converts to its value in `v`, the tree
converts to the settings with these values. -/
theorem read_eq (hL : L.Converts) {v : (f : SettingsField) → f.Value} (hroot : HasLayout root)
    (h : ∀ f, valueIn L.format root f = .ok (v f)) :
    Settings.read L.format root = .ok (settings v) := by
  obtain ⟨table, ht, htable⟩ := hroot
  have hfound : L.format.found root = .map := by
    rw [hL.found_eq, found_of_isTable (isTable_of_find? ht)]
  have hlayout := layoutRead_eq hL htable ht h
  have hchoice := h choice
  rw [valueIn, at?] at hchoice
  apply (hL.lawful.record_of_map _ _ _ hfound).mpr
  have hparse : L.format.member? root "parse" = root.find? "parse" := hL.member?_eq root "parse"
  have hformat : L.format.member? root "format" = some table := by rw [hL.member?_eq, ht]
  simp only [Settings.fields, FieldReader.of, readEntries, hformat, hlayout, Except.map, hparse]
  -- a missing entry and one that is there are both converted as `valueIn` says
  cases hentry : root.find? "parse" with
  | none =>
    rw [hentry] at hchoice
    obtain hdefault := Except.ok.inj hchoice
    rw [settings, ← hdefault]
    rfl
  | some s =>
    rw [hentry] at hchoice
    have hconvert : L.format.choice BaseChoice s = .ok (v choice) := hchoice
    dsimp only
    rw [hconvert]
    rfl

end SettingsField

end Numeral128
