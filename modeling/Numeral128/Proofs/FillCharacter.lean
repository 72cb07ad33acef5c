import Mathlib.Logic.Function.Basic
import Numeral128.Proofs.Escapes
import Numeral128.Proofs.Layering

/-!
# The fill character

The text of a variable may be taken for a number before it is known to be a fill, but a text of one
character is then the number of this digit, and a fill is read from both
(`DataFormat.Lawful.fill_eq_ok_iff`).  So every character survives.

`Settings.fill_survives_loading` puts this beside the layers of settings: a document with a fill,
and a variable with the same fill beside a document that is otherwise the same, are loaded alike.
For every character there is such a document (`Settings.ofToml_fillDocument`).
-/

namespace Numeral128

namespace SettingsField

/-! ### One more variable -/

section Environment

variable {environment before after : List (String × String)} {f : SettingsField} {text : String}
variable {values : (f : SettingsField) → Option f.Value}

theorem not_sameName_of_unset (hunset : inEnvironment environment f = none) :
    ∀ v ∈ environment, ¬ SameName v.1 f.variableName := by
  rw [inEnvironment, Option.map_eq_none_iff, List.find?_eq_none] at hunset
  intro v hv hsame
  exact hunset v hv (decide_eq_true hsame)

theorem eq_of_sameName {f g : SettingsField} (h : SameName f.variableName g.variableName) :
    f = g := by
  have hkeys := (key?_variableName f).symm.trans (key?_of_sameName h)
  exact key_injective (Option.some.inj hkeys)

/-- A variable for the field `f`, which has none yet, is found for `f` and for no other field `g`.
-/
theorem inEnvironment_insert (hunset : inEnvironment (before ++ after) f = none) (text : String)
    (g : SettingsField) :
    inEnvironment (before ++ (f.variableName, text) :: after) g =
      if g = f then some text else inEnvironment (before ++ after) g := by
  rw [inEnvironment, inEnvironment, List.find?_append, List.find?_append]
  -- no variable before the new one is found for `f`
  by_cases hgf : g = f
  · have hbefore : before.find? (fun v => decide (SameName v.1 f.variableName)) = none := by
      rw [List.find?_eq_none]
      intro v hv
      rw [decide_eq_true_eq]
      exact not_sameName_of_unset hunset v (List.mem_append_left _ hv)
    have hsame : SameName f.variableName f.variableName := rfl
    rw [if_pos hgf, hgf, hbefore, List.find?_cons_of_pos (by exact decide_eq_true hsame)]
    rfl
  · have hother : ¬ SameName f.variableName g.variableName := fun h => hgf (eq_of_sameName h).symm
    rw [if_neg hgf, List.find?_cons_of_neg (by simpa using hother)]

/-- A variable for the field `f`, which has none yet, changes the value of `f` and of no other
field. -/
theorem EnvironmentHolds.insert (h : EnvironmentHolds (before ++ after) values)
    (hunset : values f = none) {a : f.Value} (htext : f.Spells text a) :
    EnvironmentHolds (before ++ (f.variableName, text) :: after)
      (Function.update values f (some a)) := by
  have hunset' : inEnvironment (before ++ after) f = none := by
    have hspells := h.spells f
    rw [hunset] at hspells
    cases hvariable : inEnvironment (before ++ after) f with
    | none => rfl
    | some text' =>
      rw [hvariable] at hspells
      cases hspells
  have hother := not_sameName_of_unset hunset'
  have hdistinct := h.distinct
  rw [List.pairwise_append] at hdistinct
  -- the new name differs from those before it and from those after it
  obtain ⟨hbefore, hafter, hacross⟩ := hdistinct
  refine ⟨?_, ?_, fun g => ?_⟩
  · intro v hv hprefix
    obtain hv | hv := List.mem_append.mp hv
    · exact h.known v (List.mem_append_left _ hv) hprefix
    · obtain rfl | hv := List.mem_cons.mp hv
      · exact ⟨f, rfl⟩
      · exact h.known v (List.mem_append_right _ hv) hprefix
  · rw [List.pairwise_append, List.pairwise_cons]
    refine ⟨hbefore, ⟨?_, hafter⟩, ?_⟩
    · intro w hw _ hsame
      exact hother w (List.mem_append_right _ hw) hsame.symm
    · intro v hv w hw hprefix
      obtain rfl | hw := List.mem_cons.mp hw
      · exact hother v (List.mem_append_left _ hv)
      · exact hacross v hv w hw hprefix
  · rw [inEnvironment_insert hunset']
    by_cases hgf : g = f
    · subst hgf
      rw [if_pos rfl, Function.update_self]
      exact .some htext
    · rw [if_neg hgf, Function.update_of_ne hgf]
      exact h.spells g

end Environment

end SettingsField

open SettingsField

/-! ### A document and a variable -/

section Sources

variable {L : ConfigLibrary} {text text' : String} {entries entries' : List (String × Setting)}
variable {c : Char} {document document' values : (f : SettingsField) → Option f.Value}

/-- The values of a variable for the fill `c`, over a document that may lack it, are those of a
document with this fill. -/
theorem SettingsField.layered_update (hfill : document (.layout .fill) = some c)
    (hdocument : ∀ f, f ≠ .layout .fill → document' f = document f)
    (hunset : values (.layout .fill) = none) :
    layered document' (Function.update values (.layout .fill) (some c)) =
      layered document values := by
  funext f
  rw [layered, layered]
  by_cases hf : f = .layout .fill
  · subst hf
    rw [Function.update_self, hunset, hfill]
    rfl
  · rw [Function.update_of_ne hf, hdocument f hf]

/-- A fill `c` in a variable is loaded as one in a document is. -/
theorem Settings.ofDocument_fill (hS : L.Collects) (hM : L.Merges) (hC : L.Converts)
    (before after : List (String × String)) (read? : String → Option String)
    (hparse : L.parse? none text = some entries) (hholds : DocumentHolds entries document)
    (hfill : document (.layout .fill) = some c)
    (hparse' : L.parse? none text' = some entries') (hholds' : DocumentHolds entries' document')
    (hdocument : ∀ f, f ≠ .layout .fill → document' f = document f)
    (henvironment : EnvironmentHolds (before ++ after) values)
    (hunset : values (.layout .fill) = none) :
    let s := settings (layered document values)
    let extra := ("INT128IO_FORMAT__FILL", String.singleton c)
    let fromText := ofDocument L { read?, environment := before ++ after } text
    let fromVariable := ofDocument L { read?, environment := before ++ extra :: after } text'
    s.layout.fill = c ∧ fromVariable = fromText ∧ fromText =
      if Text.isControl c = true then .error (.custom (SettingsFault.controlFill c).message)
      else if widthLimit < s.layout.width then
        .error (.custom (SettingsFault.widthTooLarge s.layout.width).message)
      else .ok s := by
  intro s extra fromText fromVariable
  have hs : s.layout.fill = c := by
    show layered document values (.layout .fill) = c
    rw [layered, hunset, hfill]
    rfl
  have hspells : (SettingsField.layout .fill).Spells (String.singleton c) c := rfl
  have hinsert := henvironment.insert hunset hspells
  have htext : (SettingsSource.document text).deserialized L
      { read?, environment := before ++ after } = .ok s :=
    deserialized_layered hS hM hC hparse hholds henvironment
  have hvariable : (SettingsSource.document text').deserialized L
      { read?, environment := before ++ extra :: after } = .ok s := by
    rw [deserialized_layered hS hM hC hparse' hholds' hinsert,
      layered_update hfill hdocument hunset]
  have hload := SettingsSource.load_eq_ite htext
  rw [hs] at hload
  -- both stand for the same settings, so that the same check decides on them
  have hsame : fromVariable = fromText :=
    (SettingsSource.load_of_deserialized hvariable).trans
      (SettingsSource.load_of_deserialized htext).symm
  exact ⟨hs, hsame, hload⟩

end Sources

/-- The values of a document with the fill `c` and nothing else. -/
def SettingsField.onlyFill (c : Char) : (f : SettingsField) → Option f.Value
  | .layout .fill => some c
  | _ => none

theorem SettingsField.onlyFill_of_ne (c : Char) (f : SettingsField) (hf : f ≠ .layout .fill) :
    none = onlyFill c f := by
  rcases f with _ | f
  · rfl
  · cases f with
    | fill => exact absurd rfl hf
    | base | uppercase | showPrefix | showPlus | width | alignment => rfl

theorem SettingsField.documentHolds_nil : DocumentHolds [] fun _ => none :=
  ⟨fun _ h => absurd h List.not_mem_nil, fun f => by cases f <;> exact .none⟩

theorem SettingsField.environmentHolds_nil : EnvironmentHolds [] fun _ => none :=
  ⟨fun _ h => absurd h List.not_mem_nil, .nil, fun _ => .none⟩

/-- The document for the fill `c` holds `c` and nothing else. -/
theorem SettingsField.exists_fillDocument (c : Char) :
    ∃ entries, ConfigLibrary.standard.parse? none (Toml.fillDocument c) = some entries ∧
      DocumentHolds entries (onlyFill c) := by
  have hparse : ConfigLibrary.standard.parse? none (Toml.fillDocument c) =
      some [("format", .table [("fill", .scalar (.text (String.singleton c)) none)] none)] :=
    congrArg (Option.map (Settings.ofEntries none)) (Toml.parse?_fillDocument c)
  refine ⟨_, hparse, ?_, ?_⟩
  · refine List.forall_mem_singleton.mpr (Or.inr ⟨rfl, _, none, rfl, ?_⟩)
    exact List.forall_mem_singleton.mpr ⟨.fill, rfl⟩
  · rintro (_ | f)
    · exact .none
    · cases f with
      | fill => exact .some rfl
      | base | uppercase | showPrefix | showPlus | width | alignment => exact .none

theorem SettingsField.settings_onlyFill (c : Char) :
    settings (layered (onlyFill c) fun _ => none) = { layout := { fill := c } } := by
  refine eq_of_get fun f => ?_
  rw [get_settings]
  rcases f with _ | f
  · rfl
  · cases f <;> rfl

/-- **Every character.**  A variable with the fill `c`, whatever `c` looks like, is loaded like the
document for `c`. -/
theorem Settings.ofToml_fillDocument (c : Char) :
    ofToml "" [("INT128IO_FORMAT__FILL", String.singleton c)] =
      ofToml (Toml.fillDocument c) [] ∧
    ofToml (Toml.fillDocument c) [] =
      if Text.isControl c = true then .error (.custom (SettingsFault.controlFill c).message)
      else .ok { layout := { fill := c } } := by
  obtain ⟨entries, hparse, hholds⟩ := exists_fillDocument c
  obtain ⟨-, hvariable, hload⟩ := ofDocument_fill ConfigLibrary.standard_collects
    ConfigLibrary.standard_merges ConfigLibrary.standard_converts [] [] (fun _ => none) hparse
    hholds rfl (ConfigLibrary.standard_collects.parse?_empty none) documentHolds_nil
    (onlyFill_of_ne c) environmentHolds_nil rfl
  rw [settings_onlyFill] at hload
  exact ⟨hvariable, hload⟩

end Numeral128
