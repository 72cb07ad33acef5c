import Mathlib.Data.List.Pairwise
import Mathlib.Data.Option.Basic
import Numeral128.Proofs.Collecting
import Numeral128.Proofs.Conversion
import Numeral128.Proofs.Loading
import Numeral128.Proofs.Merging
import Numeral128.Proofs.SettingsValue

/-!
# Layers of settings

Settings are merged from defaults, a document and an environment.  A document that gives some of the
fields is a layer over the defaults (`SettingsField.overlays_document`): the keys of its tables
differ, so that no entry hides another.  So is an environment that gives some of the fields over the
document (`SettingsField.overlays_environment`), in whatever order its variables come.

Whatever a document or a variable gives for a field is converted to the value it was meant to have:
of a variable this takes that its text survives being read as a truth value or a number
(`SettingsField.convert_of_spells`).  `Settings.ofDocument_layered` puts the layers together: every
field has the value of the environment, else that of the document, else the default, whatever the
other fields are.  This is so with every library that collects, merges and converts as promised.
-/

namespace Numeral128

/-- What `Option.Rel` pairs with `some a` is there. -/
theorem exists_eq_some_of_rel {α β : Type} {r : α → β → Prop} {a : α} {b? : Option β}
    (h : Option.Rel r (some a) b?) : ∃ b, b? = some b ∧ r a b := by
  cases h with
  | some hr => exact ⟨_, rfl, hr⟩

theorem eq_none_of_rel {α β : Type} {r : α → β → Prop} {b? : Option β}
    (h : Option.Rel r none b?) : b? = none := by
  cases h
  rfl

namespace SettingsField

variable {L : ConfigLibrary}

/-! ### Documents -/

/-- What the `entries` of a document have for a field. -/
def inDocument (entries : List (String × Setting)) : SettingsField → Option Setting
  | choice => entries.lookup "parse"
  | layout f => (entries.lookup "format").bind fun table => table.find? f.name

/-- The `entries` of a document are those of the fields in `values` and no others, each with a value
of its type. -/
structure DocumentHolds (entries : List (String × Setting))
    (values : (f : SettingsField) → Option f.Value) : Prop where
  /-- There are a base choice and a table for the layout at most, and the table has fields of the
  layout at most. -/
  known : ∀ entry ∈ entries, entry.1 = "parse" ∨
    entry.1 = "format" ∧ ∃ fields origin, entry.2 = .table fields origin ∧
      ∀ child ∈ fields, ∃ f : LayoutField, child.1 = f.name
  /-- The values are those of the fields. -/
  writes : ∀ f, Option.Rel (fun s a => f.Writes s.found a) (inDocument entries f) (values f)

section Document

variable {entries fields : List (String × Setting)} {s : Setting} {origin : Option String}

/-- A first entry for the base choice counts for that field, as there is no other. -/
theorem inDocument_cons_choice (s : Setting) (entries : List (String × Setting))
    (hnew : "parse" ∉ entries.map Prod.fst) (f : SettingsField) :
    inDocument (("parse", s) :: entries) f =
      (inDocument entries f).or (if f = choice then some s else none) := by
  cases f with
  | choice =>
    rw [inDocument, inDocument, lookup_eq_none_iff_not_mem.mpr hnew, if_pos rfl,
      List.lookup_cons_self, Option.none_or]
  | layout f =>
    rw [inDocument, inDocument, lookup_cons_eq_ite, if_neg (by decide), if_neg nofun,
      Option.or_none]

/-- A first entry for the layout counts for the fields in its table `s`. -/
theorem inDocument_cons_layout (s : Setting) (entries : List (String × Setting))
    (hnew : "format" ∉ entries.map Prod.fst) (f : SettingsField) :
    inDocument (("format", s) :: entries) f = (inDocument entries f).or (ofTable s f) := by
  cases f with
  | choice =>
    rw [inDocument, inDocument, ofTable, lookup_cons_eq_ite, if_neg (by decide), Option.or_none]
  | layout f =>
    rw [inDocument, inDocument, ofTable, lookup_eq_none_iff_not_mem.mpr hnew,
      List.lookup_cons_self, Option.bind_none, Option.bind_some, Option.none_or]

/-- The `entries` of a document are a layer, one by one: each sets fields that those after it leave
alone. -/
theorem overlays_entries (hL : L.Merges)
    (hknown : ∀ entry ∈ entries, entry.1 = "parse" ∧ entry.2.isScalar = true ∨
      entry.1 = "format" ∧ ∃ fields origin, entry.2 = .table fields origin ∧
        (fields.map Prod.fst).Nodup ∧
        ∀ child ∈ fields, child.2.isScalar = true ∧ ∃ f : LayoutField, child.1 = f.name)
    (hnodup : (entries.map Prod.fst).Nodup) :
    Overlays (L.setAll entries) (inDocument entries) := by
  induction entries with
  | nil => exact overlays_id.congr fun f => by cases f <;> rfl
  | cons entry entries ih =>
    rw [List.forall_mem_cons] at hknown
    rw [List.map_cons, List.nodup_cons] at hnodup
    have hrest := ih hknown.2 hnodup.2
    obtain ⟨name, s⟩ := entry
    -- an entry is either the choice of a base or the table with the layout
    obtain ⟨hname, hscalar⟩ | ⟨hname, fields, origin, hs, hfields, hchildren⟩ := hknown.1
    · obtain rfl : name = "parse" := hname
      exact (overlays_setAll_cons (overlays_set hL choice hscalar) hrest).congr fun f =>
        (inDocument_cons_choice s entries hnodup.1 f).symm
    · obtain rfl : name = "format" := hname
      obtain rfl : s = .table fields origin := hs
      have htable : Overlays (L.set "format" (.table fields origin))
          (ofTable (.table fields origin)) :=
        overlays_table hL (fun child hchild => (hchildren child hchild).1)
          (fun child hchild => (hchildren child hchild).2) hfields
      exact (overlays_setAll_cons htable hrest).congr fun f =>
        (inDocument_cons_layout _ entries hnodup.1 f).symm

variable {values : (f : SettingsField) → Option f.Value}

/-- What a document has for the field `f` is no table or list. -/
theorem DocumentHolds.isScalar (hL : L.Converts) (h : DocumentHolds entries values)
    {f : SettingsField} (hs : inDocument entries f = some s) : s.isScalar = true := by
  obtain ⟨a, -, hwrites⟩ := exists_eq_some_of_rel (hs ▸ h.writes f)
  exact (convert_of_writes hL hwrites).1

/-- A document that has `values` for some fields is a layer.  That its keys differ is what
`ConfigLibrary.Collects` promises. -/
theorem overlays_document (hC : L.Converts) (hM : L.Merges)
    (hnodup : (entries.map Prod.fst).Nodup)
    (hfields : ∀ {name fields origin}, (name, Setting.table fields origin) ∈ entries →
      (fields.map Prod.fst).Nodup)
    (h : DocumentHolds entries values) : Overlays (L.setAll entries) (inDocument entries) := by
  -- each entry is the one that is found under its key, and so has a value of its field
  refine overlays_entries hM (fun entry hentry => ?_) hnodup
  have hlookup := lookup_eq_some_of_mem hnodup hentry
  refine (h.known entry hentry).imp ?_ ?_
  · intro hname
    rw [hname] at hlookup
    exact ⟨hname, h.isScalar hC (f := choice) hlookup⟩
  · rintro ⟨hname, fields, origin, hs, hknown⟩
    rw [hname, hs] at hlookup
    have hmem : (entry.1, Setting.table fields origin) ∈ entries := by rwa [← hs]
    have hfieldsNodup := hfields hmem
    refine ⟨hname, fields, origin, hs, hfieldsNodup, fun child hchild => ⟨?_, hknown child hchild⟩⟩
    obtain ⟨f, hf⟩ := hknown child hchild
    have hchildLookup := lookup_eq_some_of_mem hfieldsNodup hchild
    refine h.isScalar hC (f := layout f) ?_
    rw [inDocument, hlookup, Option.bind_some, ← hf]
    exact hchildLookup

end Document

/-! ### Environments -/

/-- The name of the variable of a field. -/
def variableName : SettingsField → String
  | choice => "INT128IO_PARSE"
  | layout .base => "INT128IO_FORMAT__RADIX"
  | layout .uppercase => "INT128IO_FORMAT__UPPERCASE"
  | layout .showPrefix => "INT128IO_FORMAT__SHOW_BASE"
  | layout .showPlus => "INT128IO_FORMAT__SHOW_POSITIVE_SIGN"
  | layout .width => "INT128IO_FORMAT__WIDTH"
  | layout .fill => "INT128IO_FORMAT__FILL"
  | layout .alignment => "INT128IO_FORMAT__ALIGNMENT"

/-- Whether `name` and `name'` are the same in lower case. -/
def SameName (name name' : String) : Prop := Text.lowercase name = Text.lowercase name'

instance (name name' : String) : Decidable (SameName name name') :=
  inferInstanceAs (Decidable (_ = _))

/-- Whether `name` begins like those of variables for settings, in any case. -/
def HasPrefix (name : String) : Prop :=
  Settings.variableNames.lead.isPrefixOf (Text.lowercase name).toList = true

instance (name : String) : Decidable (HasPrefix name) := inferInstanceAs (Decidable (_ = _))

/-- The text of the variable of the field `f`, if it is in the environment. -/
def inEnvironment (environment : List (String × String)) (f : SettingsField) : Option String :=
  (environment.find? fun v => SameName v.1 f.variableName).map (·.2)

/-- An environment has variables for the fields in `values`, each with a text for a value of its
type, and variables whose names begin otherwise. -/
structure EnvironmentHolds (environment : List (String × String))
    (values : (f : SettingsField) → Option f.Value) : Prop where
  /-- There are no other variables for settings. -/
  known : ∀ v ∈ environment, HasPrefix v.1 → ∃ f : SettingsField, SameName v.1 f.variableName
  /-- No two variables for settings have the same name up to case. -/
  distinct : environment.Pairwise fun v w => HasPrefix v.1 → ¬ SameName v.1 w.1
  /-- The texts are those of values of the fields. -/
  spells : ∀ f, Option.Rel f.Spells (inEnvironment environment f) (values f)

section Environment

open Settings (variableNames)

variable {name name' text key : String} {f : SettingsField} {origin : Option String}
variable {environment : List (String × String)} {values : (f : SettingsField) → Option f.Value}

theorem key?_congr (h : SameName name name') :
    variableNames.key? name = variableNames.key? name' := by
  unfold VariableNames.key?
  rw [h]

/-- The variable of each field has the key of that field. -/
theorem key?_variableName (f : SettingsField) :
    variableNames.key? f.variableName = some f.key := by
  cases f with
  | choice => decide +kernel
  | layout f => cases f <;> decide +kernel

theorem key?_of_sameName (h : SameName name f.variableName) :
    variableNames.key? name = some f.key :=
  (key?_congr h).trans (key?_variableName f)

theorem key?_eq_none (h : ¬ HasPrefix name) : variableNames.key? name = none := if_neg h

theorem hasPrefix_of_key? (h : variableNames.key? name = some key) : HasPrefix name := by
  by_contra hother
  rw [key?_eq_none hother] at h
  cases h

theorem EnvironmentHolds.exists_key (h : EnvironmentHolds environment values)
    {v : String × String} (hv : v ∈ environment) (hkey : variableNames.key? v.1 = some key) :
    ∃ f : SettingsField, SameName v.1 f.variableName ∧ key = f.key := by
  obtain ⟨f, hf⟩ := h.known v hv (hasPrefix_of_key? hkey)
  rw [key?_of_sameName hf] at hkey
  exact ⟨f, hf, (Option.some.inj hkey).symm⟩

/-- No two variables of the `environment` have the same key. -/
theorem EnvironmentHolds.nodup_keys (h : EnvironmentHolds environment values) :
    (environment.filterMap fun v => variableNames.key? v.1).Nodup := by
  rw [List.Nodup, List.pairwise_filterMap]
  -- equal keys would make the names equal up to case
  refine h.distinct.imp_of_mem ?_
  rintro v w hv hw hdistinct key hkey key' hkey' rfl
  obtain ⟨f, hvf, rfl⟩ := h.exists_key hv hkey
  obtain ⟨g, hwg, hfg⟩ := h.exists_key hw hkey'
  obtain rfl := key_injective hfg
  exact hdistinct (hasPrefix_of_key? hkey) (hvf.trans hwg.symm)

/-- The keys of the entries are those of the variables in the `environment`. -/
theorem map_fst_entries (environment : List (String × String)) :
    (environment.filterMap (variableNames.keyed? origin)).map Prod.fst =
      environment.filterMap fun v => variableNames.key? v.1 := by
  rw [List.map_filterMap]
  congr 1
  funext v
  rw [VariableNames.keyed?, Option.map_map]
  exact Option.map_id'

/-- What the variables of `environment` have for the field `f` is found under its key. -/
theorem lookup_entries (environment : List (String × String))
    (hknown : ∀ v ∈ environment, HasPrefix v.1 → ∃ f : SettingsField, SameName v.1 f.variableName)
    (f : SettingsField) :
    (environment.filterMap (variableNames.keyed? origin)).lookup f.key =
      (inEnvironment environment f).map fun text => .scalar (Environment.infer text) origin := by
  induction environment with
  | nil => rfl
  | cons v environment ih =>
    rw [List.forall_mem_cons] at hknown
    have hrest := ih hknown.2
    obtain ⟨name, text⟩ := v
    by_cases hprefix : HasPrefix name
    · obtain ⟨g, hg⟩ := hknown.1 hprefix
      have hentry : variableNames.keyed? origin (name, text) =
          some (g.key, .scalar (Environment.infer text) origin) := by
        rw [VariableNames.keyed?, key?_of_sameName hg]
        rfl
      rw [List.filterMap_cons_some hentry, lookup_cons_eq_ite, inEnvironment]
      by_cases hfg : f = g
      · subst hfg
        rw [if_pos rfl, List.find?_cons_of_pos (by exact decide_eq_true hg)]
        rfl
      · -- one name cannot be that of two fields, since their keys differ
        have hother : ¬ SameName name f.variableName := by
          intro hf
          have hkeys := (key?_of_sameName hf).symm.trans (key?_of_sameName hg)
          exact hfg (key_injective (Option.some.inj hkeys))
        rw [if_neg fun h => hfg (key_injective h), List.find?_cons_of_neg (by simpa using hother)]
        exact hrest
    · have hentry : variableNames.keyed? origin (name, text) = none := by
        rw [VariableNames.keyed?, key?_eq_none hprefix]
        rfl
      have hother : ¬ SameName name f.variableName := fun hf =>
        hprefix (hasPrefix_of_key? (key?_of_sameName hf))
      rw [List.filterMap_cons_none hentry, inEnvironment,
        List.find?_cons_of_neg (by simpa using hother)]
      exact hrest

/-- Such `entries`, with the keys of different fields, are a layer. -/
theorem overlays_keys (hL : L.Merges) {entries : List (String × Setting)}
    (hknown : ∀ entry ∈ entries, entry.2.isScalar = true ∧ ∃ f : SettingsField, entry.1 = f.key)
    (hnodup : (entries.map Prod.fst).Nodup) :
    Overlays (L.setAll entries) fun f => entries.lookup f.key := by
  induction entries with
  | nil => exact overlays_id
  | cons entry entries ih =>
    rw [List.forall_mem_cons] at hknown
    rw [List.map_cons, List.nodup_cons] at hnodup
    obtain ⟨name, s⟩ := entry
    obtain ⟨hscalar, g, hg⟩ := hknown.1
    obtain rfl : name = g.key := hg
    -- the first entry sets the field `g`, and the rest have nothing for `g`
    refine (overlays_setAll_cons (overlays_set hL g hscalar) (ih hknown.2 hnodup.2)).congr
      fun f => ?_
    rw [lookup_cons_eq_ite]
    by_cases hfg : f = g
    · subst hfg
      rw [if_pos rfl, if_pos rfl, lookup_eq_none_iff_not_mem.mpr hnodup.1, Option.none_or]
    · rw [if_neg hfg, if_neg fun h => hfg (key_injective h), Option.or_none]

/-- The variables of an environment are a layer, in whatever order `entries` they come. -/
theorem overlays_environment (hL : L.Merges) {entries : List (String × Setting)}
    (h : EnvironmentHolds environment values)
    (hperm : entries.Perm (environment.filterMap (variableNames.keyed? origin))) :
    Overlays (L.setAll entries) fun f =>
      (inEnvironment environment f).map fun text => .scalar (Environment.infer text) origin := by
  have hnodup : (entries.map Prod.fst).Nodup := by
    rw [(hperm.map Prod.fst).nodup_iff, map_fst_entries]
    exact h.nodup_keys
  have hknown : ∀ entry ∈ entries,
      entry.2.isScalar = true ∧ ∃ f : SettingsField, entry.1 = f.key := by
    intro entry hentry
    obtain ⟨v, hv, hentry⟩ := List.mem_filterMap.mp (hperm.mem_iff.mp hentry)
    obtain ⟨key, hkey, rfl⟩ := Option.map_eq_some_iff.mp hentry
    obtain ⟨f, -, hf⟩ := h.exists_key hv hkey
    exact ⟨rfl, f, hf⟩
  refine (overlays_keys hL hknown hnodup).congr fun f => ?_
  rw [lookup_of_perm hnodup hperm, lookup_entries environment h.known]

end Environment

/-! ### All layers -/

theorem defaultEntries_eq :
    defaultEntries Settings.defaults =
      [((layout .width).key, .scalar (.int 0) none), ((layout .fill).key, .scalar (.text " ") none),
        (choice.key, .scalar (.text "auto") none)] := by
  rfl

theorem hasLayout_defaults (hL : L.Merges) :
    HasLayout (L.setAll (defaultEntries Settings.defaults) .empty) := by
  have hwidth := hasLayout_set_layout hL .empty .width (.scalar (.int 0) none)
  have hfill := hasLayout_set hL hwidth (layout .fill) (s := .scalar (.text " ") none) rfl
  rw [defaultEntries_eq]
  exact hasLayout_set hL hfill choice rfl

/-- Of all fields `f` three have defaults that a library is told. -/
theorem at?_defaults (hL : L.Merges) (f : SettingsField) :
    at? (L.setAll (defaultEntries Settings.defaults) .empty) f =
      if f = choice then some (.scalar (.text "auto") none)
      else if f = layout .fill then some (.scalar (.text " ") none)
      else if f = layout .width then some (.scalar (.int 0) none)
      else none := by
  -- read from the last default that was set to the first
  have hempty : at? .empty f = none := by cases f <;> rfl
  rw [defaultEntries_eq, setAll_cons, setAll_cons, setAll_cons]
  show at? (L.set _ _ (L.set _ _ (L.set _ _ .empty))) f = _
  rw [at?_set hL _ _ _ rfl, at?_set hL _ _ _ rfl, at?_set hL _ _ _ rfl, hempty]

/-- The other fields are missing in the tree, and so have the default of the field `f` all the same.
-/
theorem valueIn_defaults (hC : L.Converts) (hM : L.Merges) (f : SettingsField) :
    valueIn L.format (L.setAll (defaultEntries Settings.defaults) .empty) f = .ok (f.get {}) := by
  have hauto : Names "auto" BaseChoice.detect :=
    show Text.lowercase "auto" = "auto" by decide +kernel
  rw [valueIn, at?_defaults hM]
  cases f with
  | choice => exact choice_of_names hC hauto none
  | layout f =>
    cases f with
    | fill => exact fill_of_isFill hC (Or.inl rfl)
    | width => exact (size_of_writes (n := 0) hC (by decide) rfl).2
    | base | uppercase | showPrefix | showPlus | alignment => rfl

/-- The tree that `document` and the variables `vars` are built into: the defaults, then the
document, then the variables. -/
theorem build_eq (hL : L.Merges) (document vars : List (String × Setting)) :
    L.build Settings.defaults [.ok document, .ok vars] =
      .ok (L.setAll vars
        (L.setAll document (L.setAll (defaultEntries Settings.defaults) .empty))) := by
  have hall : allEntries [.ok document, .ok vars] = .ok (document ++ (vars ++ [])) := rfl
  rw [hL.build_eq, hall, List.append_nil]
  show Except.ok (L.setAll (defaultEntries Settings.defaults ++ (document ++ vars)) .empty) = _
  rw [setAll_append, setAll_append]

section Layers

variable {host : Host} {text : String} {entries : List (String × Setting)}
variable {document values : (f : SettingsField) → Option f.Value}

/-- The value of the field `f`: that of the environment, or else that of the document, or else the
default. -/
def layered (document values : (f : SettingsField) → Option f.Value) (f : SettingsField) :
    f.Value :=
  ((values f).or (document f)).getD (f.get {})

/-- Whatever the uppermost layer of the field `f` is, it is converted to the value of `f`. -/
theorem valueIn_layers (hC : L.Converts) (hM : L.Merges) {root : Setting} {origin : Option String}
    (hdocument : DocumentHolds entries document)
    (henvironment : EnvironmentHolds host.environment values) {f : SettingsField}
    (hroot : at? root f = (((inEnvironment host.environment f).map fun text =>
        Setting.scalar (Environment.infer text) origin).or (inDocument entries f)).or
      (at? (L.setAll (defaultEntries Settings.defaults) .empty) f)) :
    valueIn L.format root f = .ok (layered document values f) := by
  rw [valueIn, hroot, layered]
  -- the uppermost layer that has the field decides
  cases hvariable : inEnvironment host.environment f with
  | some text =>
    obtain ⟨a, hvalue, hspells⟩ := exists_eq_some_of_rel (hvariable ▸ henvironment.spells f)
    rw [hvalue]
    exact convert_of_spells hC hspells origin
  | none =>
    have hunset : values f = none := eq_none_of_rel (hvariable ▸ henvironment.spells f)
    rw [hunset, Option.none_or]
    cases hentry : inDocument entries f with
    | some s =>
      obtain ⟨a, hvalue, hwrites⟩ := exists_eq_some_of_rel (hentry ▸ hdocument.writes f)
      rw [hvalue]
      exact (convert_of_writes hC hwrites).2
    | none =>
      have hmissing : document f = none := eq_none_of_rel (hentry ▸ hdocument.writes f)
      rw [hmissing]
      exact valueIn_defaults hC hM f

/-- The sources stand for the settings with the values of the layers, `document` and `values`,
whether or not these are in bounds. -/
theorem deserialized_layered (hS : L.Collects) (hM : L.Merges) (hC : L.Converts)
    (hparse : L.parse? none text = some entries) (hdocument : DocumentHolds entries document)
    (henvironment : EnvironmentHolds host.environment values) :
    (SettingsSource.document text).deserialized L host =
      .ok (settings (layered document values)) := by
  -- the two sources are collected first, the document as it stands and the variables in some order
  obtain ⟨origin, vars, hvariables, hperm⟩ :=
    @hS.collect_environment host _ henvironment.nodup_keys
  have htext : L.collect host (.document text) = .ok entries := by
    rw [hS.collect_document, hparse]
    rfl
  -- then they are layers over the defaults, so that each field can be told by itself
  have hlayers := (overlays_document hC hM (hS.nodup_keys hparse) (hS.nodup_keys_of_table hparse)
    hdocument).comp (overlays_environment hM henvironment hperm)
  obtain ⟨hlayout, hat⟩ := hlayers _ (hasLayout_defaults hM)
  have htree := read_eq hC hlayout fun f => valueIn_layers hC hM hdocument henvironment (hat f)
  show (L.build Settings.defaults [L.collect host (.document text),
    L.collect host (.environment Settings.variableNames)] >>= Settings.read L.format) = _
  rw [htext, hvariables, build_eq hM]
  exact htree

end Layers

end SettingsField

end Numeral128
