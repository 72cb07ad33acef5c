import Numeral128.Proofs.Field
import Numeral128.Settings.Load

/-!
# Settings that are loaded

Settings are loaded from a document or a file and from the environment.  All ways end in the same
steps (`SettingsSource.load_eq`): a library merges the defaults and the sources into a tree, the
tree is converted, and the settings are checked.  The check passes them on as they are, or refuses
them (`Settings.checked_of_control` and the two lemmas after it).

`SettingsSource.load_bounds` puts this beside the bounds of a field: whatever the library and the
sources are, a numeral in a layout that has been loaded has a bounded length and no control
characters, and settings that convert are refused for their fill or their width only.  Nothing is
relied on of the library for this.
-/

namespace Numeral128

theorem eq_ok_of_toOption {ε α : Type} {x : Except ε α} {a : α} (h : x.toOption = some a) :
    x = .ok a := by
  cases x with
  | error e => cases h
  | ok a' => rw [Option.some.inj h]

/-! ### The check -/

namespace Settings

variable {s : Settings}

theorem checked_of_control (h : Text.isControl s.layout.fill = true) :
    s.checked = .error (.controlFill s.layout.fill) :=
  if_pos h

theorem checked_of_too_wide (hfill : Text.isControl s.layout.fill = false)
    (hwidth : widthLimit < s.layout.width) :
    s.checked = .error (.widthTooLarge s.layout.width) := by
  unfold checked
  simp [hfill, hwidth]

theorem checked_of_bounded (hfill : Text.isControl s.layout.fill = false)
    (hwidth : s.layout.width ≤ widthLimit) : s.checked = .ok s := by
  unfold checked
  simp [hfill, hwidth]

/-- Settings `s` that pass the check are bounded, and they are not changed by it. -/
theorem bounded_of_checked {s' : Settings} (h : s.checked = .ok s') :
    s' = s ∧ Text.isControl s.layout.fill = false ∧ s.layout.width ≤ widthLimit := by
  unfold checked at h
  split_ifs at h with hfill hwidth
  cases h
  exact ⟨rfl, by simpa using hfill, by omega⟩

end Settings

/-! ### Sources -/

/-- What settings are loaded from, besides the environment. -/
inductive SettingsSource where
  | document (text : String)
  /-- A file by its path, or none. -/
  | file (path : Option String)

namespace SettingsSource

/-- The sources that a library is told. -/
def sources : SettingsSource → List ConfigSource
  | document text => [.document text]
  | file path => path.toList.map .file

/-- The settings that the merged sources stand for, whether or not they are in bounds. -/
def deserialized (L : ConfigLibrary) (host : Host) (source : SettingsSource) :
    Except LoadError Settings :=
  Settings.merged L host source.sources

/-- What loading the source gives on `host`. -/
def load (L : ConfigLibrary) (host : Host) : SettingsSource → Except LoadError Settings
  | document text => Settings.ofDocument L host text
  | file path => Settings.ofFile L host path

/-- What settings are refused with. -/
def refusal (fault : SettingsFault) : LoadError := .custom fault.message

variable {L : ConfigLibrary} {host : Host} {source : SettingsSource} {s : Settings}

/-- Every `source` is merged and converted by `L`, and then checked. -/
theorem load_eq (L : ConfigLibrary) (host : Host) (source : SettingsSource) :
    source.load L host = source.deserialized L host >>= fun s => s.checked.mapError refusal := by
  cases source <;> rfl

theorem load_of_deserialized (h : source.deserialized L host = .ok s) :
    source.load L host = s.checked.mapError refusal := by
  rw [load_eq, h]
  rfl

/-- What is loaded is what the `source` stands for, and it is in bounds. -/
theorem deserialized_of_load (h : source.load L host = .ok s) :
    source.deserialized L host = .ok s ∧
      Text.isControl s.layout.fill = false ∧ s.layout.width ≤ widthLimit := by
  cases hsource : source.deserialized L host with
  | error e =>
    rw [load_eq, hsource] at h
    cases h
  | ok s' =>
    rw [load_of_deserialized hsource] at h
    -- the check returns the settings it was given, or none
    cases hchecked : s'.checked with
    | error e =>
      rw [hchecked] at h
      cases h
    | ok s'' =>
      rw [hchecked] at h
      cases h
      obtain ⟨rfl, hbounds⟩ := Settings.bounded_of_checked hchecked
      exact ⟨rfl, hbounds⟩

/-- The settings `s` that were converted are loaded unless they are refused, the fill first. -/
theorem load_eq_ite (h : source.deserialized L host = .ok s) :
    source.load L host =
      if Text.isControl s.layout.fill = true then .error (refusal (.controlFill s.layout.fill))
      else if widthLimit < s.layout.width then .error (refusal (.widthTooLarge s.layout.width))
      else .ok s := by
  rw [load_of_deserialized h, Settings.checked]
  split_ifs
  · rfl
  · rfl
  · rfl

/-- **Loaded settings keep fields in bounds.**  Whatever the library and the sources are, a numeral
`value` in the layout of loaded settings `s` is as long as its width, or as the numeral itself,
which has 45 characters at most, so that there are 4096 at most, and no control character.  Settings
that the sources stand for are refused for a control character as fill, else for a width above the
limit, and else they are loaded as they are. -/
theorem load_bounds (L : ConfigLibrary) (host : Host) (source : SettingsSource) :
    (∀ s, source.load L host = .ok s → ∀ t : IntType, ∀ value, t.InRange value →
      (s.layout.render value).length = max s.layout.width (s.layout.bare value).length ∧
      (s.layout.bare value).length ≤ 45 ∧ (s.layout.render value).length ≤ 4096 ∧
      ∀ c ∈ s.layout.render value, Text.isControl c = false) ∧
    (∀ s, source.deserialized L host = .ok s →
      (Text.isControl s.layout.fill = true →
        source.load L host = .error (refusal (.controlFill s.layout.fill))) ∧
      (Text.isControl s.layout.fill = false → widthLimit < s.layout.width →
        source.load L host = .error (refusal (.widthTooLarge s.layout.width))) ∧
      (Text.isControl s.layout.fill = false → s.layout.width ≤ widthLimit →
        source.load L host = .ok s)) := by
  constructor
  · intro s hload t value hv
    obtain ⟨-, hfill, hwidth⟩ := deserialized_of_load hload
    have hlength := s.layout.length_render value
    -- neither the width nor the numeral is above the limit
    have hbare := s.layout.length_bare_le hv
    have htotal : (s.layout.render value).length ≤ 4096 := by
      unfold widthLimit at hwidth
      omega
    exact ⟨hlength, hbare, htotal, fun c hc => Layout.isControl_of_mem_render hv hfill hc⟩
  · intro s hsource
    -- the fill is looked at before the width
    have hload := load_of_deserialized hsource
    refine ⟨fun hfill => ?_, fun hfill hwidth => ?_, fun hfill hwidth => ?_⟩
    · rw [hload, Settings.checked_of_control hfill]
      rfl
    · rw [hload, Settings.checked_of_too_wide hfill hwidth]
      rfl
    · rw [hload, Settings.checked_of_bounded hfill hwidth]
      rfl

/-- The widest layout that is loaded, from a file, and a document whose fill is refused although the
width, which the environment sets, is too large as well. -/
theorem load_bounds_widest :
    let host : Host := {
      read? := Files.content? ⟨[("/etc/numerals.toml", "[format]\nwidth = 4096\nfill = \"é\"")]⟩
      environment := [("INT128IO_FORMAT__RADIX", "octal")] }
    let source := file (some "/etc/numerals.toml")
    let s : Settings := { layout := { base := .eight, width := 4096, fill := 'é' } }
    let tabbed := document "[format]\nfill = \"\\t\""
    let wide : Host := { environment := [("INT128IO_FORMAT__WIDTH", "4097")] }
    let refused : Settings := { layout := { width := 4097, fill := '\t' } }
    source.load .standard host = .ok s ∧ IntType.unsigned.InRange (2 ^ 128 - 1) ∧
      (s.layout.render (2 ^ 128 - 1)).length = 4096 ∧
      tabbed.deserialized .standard wide = .ok refused ∧ widthLimit < refused.layout.width ∧
      tabbed.load .standard wide = .error (refusal (.controlFill '\t')) := by
  intro host source s tabbed wide refused
  -- the settings are computed, but the width of what they render is the theorem's
  have hload : source.load .standard host = .ok s := eq_ok_of_toOption (by decide +kernel)
  have hv : IntType.unsigned.InRange (2 ^ 128 - 1) := by decide
  obtain ⟨hlength, hbare, -, -⟩ := (load_bounds .standard host source).1 s hload .unsigned _ hv
  have htabbed : tabbed.deserialized .standard wide = .ok refused :=
    eq_ok_of_toOption (by decide +kernel)
  obtain ⟨hcontrol, -, -⟩ := (load_bounds .standard wide tabbed).2 refused htabbed
  have hwidth : s.layout.width = 4096 := rfl
  exact ⟨hload, hv, by omega, htabbed, by decide, hcontrol (by decide)⟩

end SettingsSource

end Numeral128
