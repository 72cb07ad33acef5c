import Mathlib.Tactic.SplitIfs
import Mathlib.Data.List.Basic
import Numeral128.DataFormat

/-!
# Structures field by field

`readEntries` and `readItems` read a structure one field after the other, so that whatever every
field keeps is kept by the whole (`readEntries_induction`, `readItems_induction`).  `readRecord`
looks for a fault first, in the order of names.  As every field is looked at, it succeeds when
`readEntries` does (`readRecord_eq_ok_iff`).
-/

namespace Numeral128

variable {δ ε α : Type} {member? : String → Option δ} {fields : List (FieldReader δ ε α)} {a b : α}

theorem FieldReader.mem_insert {f g : FieldReader δ ε α} :
    g ∈ f.insert fields ↔ g = f ∨ g ∈ fields := by
  induction fields with
  | nil => rw [insert, List.mem_cons]
  | cons h rest ih =>
    unfold insert
    split_ifs
    · rw [List.mem_cons]
    · rw [List.mem_cons, List.mem_cons, ih, or_left_comm]

theorem mem_sortedByName {f : FieldReader δ ε α} : f ∈ sortedByName fields ↔ f ∈ fields := by
  induction fields with
  | nil => rfl
  | cons g fields ih =>
    rw [sortedByName, List.foldr_cons, FieldReader.mem_insert, List.mem_cons]
    exact or_congr_right ih

/-- If all entries are read, no field of the structure has a fault. -/
theorem fault?_eq_none (h : readEntries member? fields a = .ok b) :
    ∀ f ∈ fields, f.fault? member? = none := by
  induction fields generalizing a with
  | nil => exact fun _ hf => absurd hf List.not_mem_nil
  | cons f fields ih =>
    rw [List.forall_mem_cons]
    rw [readEntries] at h
    rw [FieldReader.fault?]
    cases hentry : member? f.name with
    | none =>
      rw [hentry] at h
      exact ⟨rfl, ih h⟩
    | some d =>
      rw [hentry] at h
      dsimp only at h ⊢
      cases hread : f.read d with
      | error e =>
        rw [hread] at h
        cases h
      | ok change =>
        rw [hread] at h
        exact ⟨rfl, ih h⟩

/-- The search for a fault comes first, but only to tell which error is given. -/
theorem readRecord_eq_ok_iff :
    readRecord member? fields a = .ok b ↔ readEntries member? fields a = .ok b := by
  unfold readRecord
  constructor
  · intro h
    split at h
    next => cases h
    next => exact h
  · intro h
    have hnone : (sortedByName fields).findSome? (·.fault? member?) = none := by
      rw [List.findSome?_eq_none_iff]
      exact fun f hf => fault?_eq_none h f (mem_sortedByName.mp hf)
    rw [hnone]
    exact h

/-- What every field of a structure keeps, `P`, is kept by reading its entries. -/
theorem readEntries_induction {P : α → Prop} (ha : P a)
    (hkeep : ∀ f ∈ fields, ∀ d change, f.read d = .ok change → ∀ a, P a → P (change a))
    (h : readEntries member? fields a = .ok b) : P b := by
  induction fields generalizing a with
  | nil =>
    obtain rfl := Except.ok.inj h
    exact ha
  | cons f fields ih =>
    rw [List.forall_mem_cons] at hkeep
    rw [readEntries] at h
    -- a field without an entry keeps its value
    cases hentry : member? f.name with
    | none =>
      rw [hentry] at h
      exact ih ha hkeep.2 h
    | some d =>
      rw [hentry] at h
      dsimp only at h
      cases hread : f.read d with
      | error e =>
        rw [hread] at h
        cases h
      | ok change =>
        rw [hread] at h
        exact ih (hkeep.1 d change hread a ha) hkeep.2 h

/-- What every field keeps, `P`, is also kept by reading a list of fields, which may be shorter than
the structure. -/
theorem readItems_induction {P : α → Prop} {items : List δ} (ha : P a)
    (hkeep : ∀ f ∈ fields, ∀ d change, f.read d = .ok change → ∀ a, P a → P (change a))
    (h : readItems fields items a = .ok b) : P b := by
  -- fields and items are taken in pairs, and the fields that are left without an item stay as they
  -- are
  induction fields generalizing a items with
  | nil =>
    obtain rfl := Except.ok.inj h
    exact ha
  | cons f fields ih =>
    rw [List.forall_mem_cons] at hkeep
    cases items with
    | nil =>
      obtain rfl := Except.ok.inj h
      exact ha
    | cons d items =>
      rw [readItems] at h
      cases hread : f.read d with
      | error e =>
        rw [hread] at h
        cases h
      | ok change =>
        rw [hread] at h
        exact ih (hkeep.1 d change hread a ha) hkeep.2 h

end Numeral128
