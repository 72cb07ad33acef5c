import Numeral128.Proofs.DigitString
import Numeral128.Proofs.Lookup
import Numeral128.Settings.Laws
import Numeral128.Settings.Load

/-!
# Merging trees of settings

What a tree holds is told by the entries of its tables (`Setting.find?`).  Every way of changing a
table puts one entry in place and leaves the others (`Setting.lookup_put`), so that it is enough to
say which entry, and what it becomes.

Names in a tree are in lower case, and a key may be a path.  A plain name is its own lower case
(`Setting.lowercase_of_isPlainName`) and a path of its own (`KeyPath.ofName_of_isPlainName`).  So
`ConfigLibrary.standard` merges as `ConfigLibrary.Merges` says (`standard_merges`).
-/

namespace Numeral128

namespace Setting

/-- A value `s` that is put in place changes the entry of one `name`. -/
theorem lookup_put (entries : List (String × Setting)) (name : String) (s : Setting)
    (key : String) :
    (put entries name s).lookup key = if key = name then some s else entries.lookup key := by
  unfold put
  -- the entry is replaced if there is one, and appended if not
  by_cases h : (entries.lookup name).isSome = true
  · rw [if_pos h]
    by_cases hkey : key = name
    · rw [if_pos hkey, hkey]
      exact lookup_replaced_self s h
    · rw [if_neg hkey]
      exact lookup_replaced_of_ne s hkey
  · rw [if_neg h, List.lookup_append, lookup_cons_eq_ite, List.lookup_nil]
    by_cases hkey : key = name
    · subst hkey
      rw [if_pos rfl, if_pos rfl, Option.not_isSome_iff_eq_none.mp h, Option.none_or]
    · rw [if_neg hkey, if_neg hkey, Option.or_none]

/-! ### Entries of a table -/

variable {root s : Setting}

theorem isTable_assign (root : Setting) (name : String) (s : Setting) :
    (root.assign name s).isTable = true := by
  cases s <;> rfl

/-- A value `s` takes the place of what a table held under its `name`. -/
theorem find?_assign_scalar (root : Setting) (name : String) (h : s.isScalar = true)
    (key : String) :
    (root.assign name s).find? key =
      if key = Text.lowercase name then some s else root.find? key := by
  cases s with
  | scalar x origin => exact lookup_put root.asTable.1 (Text.lowercase name) _ key
  | list items origin => exact absurd h Bool.false_ne_true
  | table entries origin => exact absurd h Bool.false_ne_true

/-- A table of `children` is merged with the one that was held under its `name`. -/
theorem find?_assign_table (root : Setting) (name : String) (children : List (String × Setting))
    (origin : Option String) (key : String) :
    (root.assign name (table children origin)).find? key =
      if key = Text.lowercase name then
        some (((root.find? (Text.lowercase name)).getD empty).assignAll children)
      else root.find? key :=
  lookup_put root.asTable.1 (Text.lowercase name) _ key

/-! ### Plain names -/

/-- A character `c` of plain names may stand in a path, and it is its own lower case. -/
theorem isNameChar_of_plain {c : Char} (h : (c = '_' || c.isLower) = true) :
    KeyPath.isNameChar c = true ∧ c ≠ 'Σ' ∧ c ≠ 'İ' ∧ Text.lowerChar c = c := by
  have hall : ∀ n < 123, (Char.ofNat n = '_' || (Char.ofNat n).isLower) = true →
      KeyPath.isNameChar (Char.ofNat n) = true ∧ Char.ofNat n ≠ 'Σ' ∧ Char.ofNat n ≠ 'İ' ∧
        Text.lowerChar (Char.ofNat n) = Char.ofNat n := by
    decide +kernel
  -- small letters end before code point 123, so the rest is a finite check
  have hc : c.toNat < 123 := by
    rw [Bool.or_eq_true, decide_eq_true_eq] at h
    obtain rfl | hlower := h
    · decide
    · obtain ⟨-, hle⟩ := Bool.and_eq_true_iff.mp hlower
      exact Nat.lt_succ_of_le (of_decide_eq_true hle)
  exact forall_char_of_lt (P := fun c => (c = '_' || c.isLower) = true →
    KeyPath.isNameChar c = true ∧ c ≠ 'Σ' ∧ c ≠ 'İ' ∧ Text.lowerChar c = c) hall hc h

theorem isPlainName_iff {name : String} : isPlainName name = true ↔
    name.toList ≠ [] ∧ ∀ c ∈ name.toList, (c = '_' || c.isLower) = true := by
  rw [isPlainName, Bool.and_eq_true, List.all_eq_true, Bool.not_eq_true', ← Bool.not_eq_true,
    String.isEmpty_iff, ← String.toList_eq_nil_iff]

/-- The lower case of `cs`, whatever comes before, is `cs` itself. -/
theorem lowerAfter_of_plain {before cs : List Char}
    (h : ∀ c ∈ cs, (c = '_' || c.isLower) = true) : Text.lowerAfter before cs = cs := by
  induction cs generalizing before with
  | nil => rfl
  | cons c cs ih =>
    rw [List.forall_mem_cons] at h
    obtain ⟨-, hsigma, hdotted, hlower⟩ := isNameChar_of_plain h.1
    rw [Text.lowerAfter, if_neg hsigma, if_neg hdotted, hlower, ih h.2, List.singleton_append]

/-- A plain `name` is its own lower case. -/
theorem lowercase_of_isPlainName {name : String} (h : isPlainName name = true) :
    Text.lowercase name = name := by
  rw [Text.lowercase, lowerAfter_of_plain (isPlainName_iff.mp h).2, String.ofList_toList]

end Setting

namespace KeyPath

open Setting

theorem isNameChar_of_mem {name : String} (h : isPlainName name = true) :
    ∀ c ∈ name.toList, isNameChar c = true :=
  fun c hc => (isNameChar_of_plain ((isPlainName_iff.mp h).2 c hc)).1

/-- What is read of `name` and what is left, if a path goes on with `rest`. -/
theorem takeWhile_name {name : String} (h : isPlainName name = true) (rest : List Char)
    (hrest : rest.takeWhile isNameChar = []) :
    (name.toList ++ rest).takeWhile isNameChar = name.toList ∧
      (name.toList ++ rest).dropWhile isNameChar = rest := by
  have hname := isNameChar_of_mem h
  have hsplit := List.takeWhile_append_dropWhile (p := isNameChar) (l := rest)
  rw [hrest, List.nil_append] at hsplit
  rw [List.takeWhile_append_of_pos hname, List.dropWhile_append_of_pos hname, hrest, hsplit,
    List.append_nil]
  exact ⟨rfl, rfl⟩

theorem isEmpty_toList {name : String} (h : isPlainName name = true) :
    name.toList.isEmpty = false := by
  rw [List.isEmpty_eq_false_iff]
  exact (isPlainName_iff.mp h).1

theorem ofName_of_isPlainName {name : String} (h : isPlainName name = true) :
    ofName name = .name name := by
  obtain ⟨htake, hdrop⟩ := takeWhile_name h [] rfl
  rw [List.append_nil] at htake hdrop
  rw [ofName, parse?, htake, hdrop, isEmpty_toList h, String.ofList_toList]
  -- nothing is left of the text, whatever budget is left
  cases name.toList.length <;> rfl

/-- Two plain names with a point between them are a path of two names, `outer` and then `name`. -/
theorem ofName_path {outer name : String} (houter : isPlainName outer = true)
    (hname : isPlainName name = true) :
    ofName (outer ++ "." ++ name) = .child (.name outer) name := by
  have htext : (outer ++ "." ++ name).toList = outer.toList ++ '.' :: name.toList := by
    simp [String.toList_append]
  obtain ⟨htake, hdrop⟩ := takeWhile_name houter ('.' :: name.toList) rfl
  obtain ⟨htake', hdrop'⟩ := takeWhile_name hname [] rfl
  rw [List.append_nil] at htake' hdrop'
  -- the point is a part, so that one name at least may follow
  have hlength : (outer.toList ++ '.' :: name.toList).length =
      outer.toList.length + name.toList.length + 1 := by
    rw [List.length_append, List.length_cons, Nat.add_assoc]
  rw [ofName, parse?, htext, htake, hdrop, isEmpty_toList houter, hlength, String.ofList_toList]
  simp only [Bool.false_eq_true, if_false, parts?, htake', hdrop', isEmpty_toList hname,
    String.ofList_toList]
  cases outer.toList.length + name.toList.length <;> rfl

theorem find?_set_child (value : Setting) (outer inner : String) (root : Setting) (key : String) :
    (((KeyPath.name outer).child inner).set value root).find? key =
      if key = Text.lowercase outer then
        some (((root.find? (Text.lowercase outer)).getD .null).assign inner value)
      else root.find? key :=
  lookup_put root.asTable.1 (Text.lowercase outer) _ key

end KeyPath

/-! ### The library -/

namespace ConfigLibrary

open Setting

theorem set_of_isPlainName {name : String} (h : isPlainName name = true) (s root : Setting) :
    standard.set name s root = root.assign name s := by
  show (KeyPath.ofName name).set s root = root.assign name s
  rw [KeyPath.ofName_of_isPlainName h, KeyPath.set]

/-- Entries with plain names are put into a tree as the `children` of a table are. -/
theorem assignAll_eq_setAll {children : List (String × Setting)}
    (h : ∀ child ∈ children, isPlainName child.1 = true) (root : Setting) :
    root.assignAll children = standard.setAll children root := by
  induction children generalizing root with
  | nil => rfl
  | cons child children ih =>
    rw [List.forall_mem_cons] at h
    rw [assignAll, ih h.2, ← set_of_isPlainName h.1]
    rfl

/-- **Merging.**  The library `standard` puts defaults and sources into one tree, entry by entry. -/
theorem standard_merges : standard.Merges where
  build_eq defaults sources := by
    show (allEntries sources >>= fun entries => _) = _
    cases allEntries sources with
    | error e => rfl
    | ok entries => rfl
  isTable_set hname s root := by
    rw [set_of_isPlainName hname]
    exact isTable_assign root _ s
  find?_set_scalar hname hs root key := by
    rw [set_of_isPlainName hname, find?_assign_scalar root _ hs, lowercase_of_isPlainName hname]
  find?_set_table hname hchildren origin root key := by
    rw [set_of_isPlainName hname, find?_assign_table, lowercase_of_isPlainName hname,
      assignAll_eq_setAll hchildren]
  -- a path with a dot is a name and a child of it
  find?_set_path {outer name} houter hname s root key := by
    have hset : standard.set (outer ++ "." ++ name) s root =
        ((KeyPath.name outer).child name).set s root := by
      show (KeyPath.ofName (outer ++ "." ++ name)).set s root = _
      rw [KeyPath.ofName_path houter hname]
    rw [hset, KeyPath.find?_set_child, lowercase_of_isPlainName houter, set_of_isPlainName hname]

end ConfigLibrary

end Numeral128
