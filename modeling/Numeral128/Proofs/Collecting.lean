import Numeral128.Proofs.DistinctKeys
import Numeral128.Settings.Laws
import Numeral128.Settings.Load

/-!
# Collecting settings

`ConfigLibrary.standard` reads documents in TOML, in which no two keys of a table are the same
(`Toml.distinct_of_parse?`), and an environment variable by variable.  So it collects sources as
`ConfigLibrary.Collects` says (`ConfigLibrary.standard_collects`).
-/

namespace Numeral128

theorem Settings.ofEntries_eq_map (origin : Option String)
    (entries : List (String × Toml.Value)) :
    ofEntries origin entries = entries.map fun entry => (entry.1, ofValue origin entry.2) := by
  induction entries with
  | nil => rfl
  | cons entry entries ih => rw [ofEntries, ih, List.map_cons]

theorem Settings.map_fst_ofEntries (origin : Option String)
    (entries : List (String × Toml.Value)) :
    (ofEntries origin entries).map Prod.fst = entries.map Prod.fst := by
  rw [ofEntries_eq_map, List.map_map]
  rfl

/-- Only tables become tables, with the entries of a document converted one by one. -/
theorem Settings.exists_eq_table {origin origin' : Option String} {v : Toml.Value}
    {fields : List (String × Setting)} (h : ofValue origin v = .table fields origin') :
    ∃ entries, v = .table entries ∧ fields = ofEntries origin entries := by
  cases v with
  | table entries =>
    rw [ofValue] at h
    exact ⟨entries, rfl, (Setting.table.inj h).1.symm⟩
  | text | integer | float | boolean | moment | array =>
    rw [ofValue] at h
    cases h

namespace ConfigLibrary

variable {origin : Option String} {text : String} {entries : List (String × Setting)}

theorem exists_parse?_of_parseToml? (h : parseToml? origin text = some entries) :
    ∃ values, Toml.parse? text.toList = some values ∧
      Settings.ofEntries origin values = entries :=
  Option.map_eq_some_iff.mp h

theorem withoutMark_of_head? (h : text.toList.head? ≠ some '\ufeff') : withoutMark text = text := by
  unfold withoutMark
  split
  next cs hcs =>
    rw [hcs] at h
    exact absurd rfl h
  next => rfl

/-- A file with the extension of a settings file is found under its `path`. -/
theorem find?_of_read? {read? : String → Option String} {path content : String}
    (hcontent : read? path = some content) (hextension : FilePath.hasExtension path = true) :
    FilePath.find? read? path = some (FilePath.normal path, content) := by
  rw [FilePath.find?, hcontent]
  exact if_pos hextension

/-- **Collecting.**  `ConfigLibrary.standard` reads documents, files and environments. -/
theorem standard_collects : standard.Collects where
  collect_document host text := rfl
  collect_file {host path content} hcontent hextension hmark := by
    refine ⟨some (FilePath.normal path), ?_⟩
    have hfind := find?_of_read? hcontent hextension
    simp only [standard, hfind, withoutMark_of_head? hmark]
  collect_environment {host names} _ := ⟨some environmentOrigin, _, rfl, .refl _⟩
  parse?_empty origin := rfl
  nodup_keys h := by
    obtain ⟨values, hvalues, rfl⟩ := exists_parse?_of_parseToml? h
    rw [Settings.map_fst_ofEntries]
    exact (Toml.distinct_of_parse? hvalues).of_table.1
  nodup_keys_of_table {origin text entries name fields origin'} h hmem := by
    obtain ⟨values, hvalues, rfl⟩ := exists_parse?_of_parseToml? h
    rw [Settings.ofEntries_eq_map] at hmem
    obtain ⟨entry, hentry, htable⟩ := List.mem_map.mp hmem
    -- a table of settings comes of a table of the document, whose keys differ
    obtain ⟨inner, hinner, rfl⟩ := Settings.exists_eq_table (Prod.mk.inj htable).2
    have hdistinct := (Toml.distinct_of_parse? hvalues).of_table.2 entry hentry
    rw [hinner] at hdistinct
    rw [Settings.map_fst_ofEntries]
    exact hdistinct.of_table.1

end ConfigLibrary

end Numeral128
