import Mathlib.Data.List.Basic

/-!
# Entries by name

Tables are lists of entries, each with its name.  These are facts on what `List.lookup` finds in
them, also if the entry of a name is replaced in place (`replaced`).
-/

namespace Numeral128

variable {α : Type} {entries : List (String × α)} {name key : String}

/-- The first entry with the name `key` is the one that is found. -/
theorem lookup_cons_eq_ite (name : String) (a : α) (entries : List (String × α)) (key : String) :
    ((name, a) :: entries).lookup key = if key = name then some a else entries.lookup key := by
  by_cases h : key = name
  · rw [if_pos h, h, List.lookup_cons_self]
  · rw [if_neg h, List.lookup_cons, beq_false_of_ne h]

/-- What is found among values changed by `f` is the changed value. -/
theorem lookup_map_values {β : Type} (f : α → β) (entries : List (String × α)) (key : String) :
    (entries.map fun entry => (entry.1, f entry.2)).lookup key = (entries.lookup key).map f := by
  induction entries with
  | nil => rfl
  | cons entry entries ih =>
    obtain ⟨name, a⟩ := entry
    rw [List.map_cons, lookup_cons_eq_ite, lookup_cons_eq_ite, ih]
    split_ifs
    · rfl
    · rfl

/-- Nothing is found just in case no entry has the name `key`. -/
theorem lookup_eq_none_iff_not_mem : entries.lookup key = none ↔ key ∉ entries.map Prod.fst := by
  rw [List.lookup_eq_none_iff]
  constructor
  · intro h hmem
    obtain ⟨entry, hentry, rfl⟩ := List.mem_map.mp hmem
    exact bne_iff_ne.mp (h entry hentry) rfl
  · intro h entry hentry
    rw [bne_iff_ne]
    rintro rfl
    exact h (List.mem_map_of_mem hentry)

theorem mem_of_lookup_eq_some {a : α} (h : entries.lookup key = some a) : (key, a) ∈ entries := by
  obtain ⟨before, after, rfl, -⟩ := List.lookup_eq_some_iff.mp h
  exact List.mem_append_right _ List.mem_cons_self

/-- An entry is found under its name `key` if no other value has this name. -/
theorem lookup_eq_some_of_forall {a : α} (hmem : (key, a) ∈ entries)
    (h : ∀ entry ∈ entries, entry.1 = key → entry.2 = a) : entries.lookup key = some a := by
  cases hlookup : entries.lookup key with
  | none => exact absurd (List.mem_map_of_mem hmem) (lookup_eq_none_iff_not_mem.mp hlookup)
  | some b => exact congrArg some (h _ (mem_of_lookup_eq_some hlookup) rfl)

/-- If the names of `entries` differ, each entry is found under its name. -/
theorem lookup_eq_some_of_mem (hnodup : (entries.map Prod.fst).Nodup) {entry : String × α}
    (h : entry ∈ entries) : entries.lookup entry.1 = some entry.2 := by
  induction entries with
  | nil => exact absurd h List.not_mem_nil
  | cons first entries ih =>
    rw [List.map_cons, List.nodup_cons] at hnodup
    obtain ⟨name, a⟩ := first
    rw [lookup_cons_eq_ite]
    -- no other entry has the name of the first, so that it hides none
    obtain rfl | hmem := List.mem_cons.mp h
    · rw [if_pos rfl]
    · have hne : entry.1 ≠ name := fun hname =>
        hnodup.1 (List.mem_map.mpr ⟨entry, hmem, hname⟩)
      rw [if_neg hne, ih hnodup.2 hmem]

/-- What is found under `key` does not depend on the order of the entries, if their names differ. -/
theorem lookup_of_perm {entries' : List (String × α)} (hnodup : (entries.map Prod.fst).Nodup)
    (hperm : entries.Perm entries') (key : String) : entries.lookup key = entries'.lookup key := by
  -- the entry that is found in one list is an entry of the other
  cases hlookup : entries.lookup key with
  | none =>
    rw [lookup_eq_none_iff_not_mem, (hperm.map Prod.fst).mem_iff] at hlookup
    exact (lookup_eq_none_iff_not_mem.mpr hlookup).symm
  | some a =>
    have hmem := hperm.mem_iff.mp (mem_of_lookup_eq_some hlookup)
    have hnodup' := (hperm.map Prod.fst).nodup_iff.mp hnodup
    exact (lookup_eq_some_of_mem hnodup' hmem).symm

/-! ### Replacing an entry -/

/-- The `entries` with the value under one name replaced by `a`. -/
def replaced (entries : List (String × α)) (name : String) (a : α) : List (String × α) :=
  entries.map fun entry => if entry.1 = name then (name, a) else entry

theorem map_fst_replaced (entries : List (String × α)) (name : String) (a : α) :
    (replaced entries name a).map Prod.fst = entries.map Prod.fst := by
  rw [replaced, List.map_map]
  refine List.map_congr_left fun entry _ => ?_
  by_cases h : entry.1 = name
  · simp [h]
  · simp [h]

/-- What is found under the name is the new value. -/
theorem lookup_replaced_self (a : α) (h : (entries.lookup name).isSome = true) :
    (replaced entries name a).lookup name = some a := by
  unfold replaced
  induction entries with
  | nil => exact absurd h Bool.false_ne_true
  | cons entry entries ih =>
    obtain ⟨other, b⟩ := entry
    rw [List.map_cons]
    by_cases hother : other = name
    · rw [if_pos hother, List.lookup_cons_self]
    · rw [lookup_cons_eq_ite, if_neg (Ne.symm hother)] at h
      rw [if_neg hother, lookup_cons_eq_ite, if_neg (Ne.symm hother), ih h]

/-- Under another name, `key`, nothing changes. -/
theorem lookup_replaced_of_ne (a : α) (h : key ≠ name) :
    (replaced entries name a).lookup key = entries.lookup key := by
  unfold replaced
  induction entries with
  | nil => rfl
  | cons entry entries ih =>
    obtain ⟨other, b⟩ := entry
    rw [List.map_cons, lookup_cons_eq_ite other b]
    by_cases hother : other = name
    · rw [if_pos hother, lookup_cons_eq_ite, if_neg h, if_neg (hother ▸ h), ih]
    · rw [if_neg hother, lookup_cons_eq_ite, ih]

end Numeral128
