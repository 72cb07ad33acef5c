import Mathlib.Data.List.Nodup
import Numeral128.LayoutField

/-!
# Layouts field by field

A layout is determined by its fields, and `LayoutField.set` changes one of them only.  So a layout
is read from a map field by field: each field has what is read of its entry, or stays as it is
(`LayoutField.readEntries_eq`).
-/

namespace Numeral128.LayoutField

theorem mem_all (f : LayoutField) : f ∈ all := by cases f <;> decide

theorem name_injective {f g : LayoutField} (h : f.name = g.name) : f = g := by
  revert h
  cases f <;> cases g <;> decide

theorem get_layout (v : (f : LayoutField) → f.Value) (f : LayoutField) :
    get (layout v) f = v f := by
  cases f <;> rfl

/-- A change of the field `f` leaves every other field `g`. -/
theorem get_set_of_ne {f g : LayoutField} (h : g ≠ f) (a : f.Value) (l : Layout) :
    g.get (f.set a l) = g.get l := by
  cases f <;> cases g <;> first | rfl | exact absurd rfl h

theorem set_get (f : LayoutField) (l : Layout) : f.set (f.get l) l = l := by
  cases f <;> rfl

variable {δ ε : Type} {F : DataFormat δ ε} {member? : String → Option δ} {l : Layout}

/-- The value of the field `f` after its entry has been read: the one in `l` if there is none. -/
def readOr (F : DataFormat δ ε) (member? : String → Option δ) (l : Layout) (f : LayoutField) :
    Except ε f.Value :=
  match member? f.name with
  | some d => f.read F d
  | none => .ok (f.get l)

/-- Reading the field `f` first gives it the value that `readOr` tells. -/
theorem readEntries_cons {f : LayoutField} {a : f.Value} (h : f.readOr F member? l = .ok a)
    (fields : List LayoutField) :
    readEntries member? ((f :: fields).map (reader F)) l =
      readEntries member? (fields.map (reader F)) (f.set a l) := by
  unfold readOr at h
  rw [List.map_cons, readEntries]
  have hname : (f.reader F).name = f.name := rfl
  have hread : ∀ d, (f.reader F).read d = (f.read F d).map f.set := fun d => rfl
  rw [hname]
  -- a field without an entry is set to the value that it has
  cases hentry : member? f.name with
  | none =>
    rw [hentry] at h
    obtain rfl := Except.ok.inj h
    rw [set_get]
  | some d =>
    rw [hentry] at h
    dsimp only at h ⊢
    rw [hread, h]
    rfl

/-- Reading different fields one after the other gives each its value in `v`. -/
theorem readEntries_fields {v : (f : LayoutField) → f.Value} {fields : List LayoutField}
    (hnodup : fields.Nodup) (h : ∀ f ∈ fields, f.readOr F member? l = .ok (v f)) :
    readEntries member? (fields.map (reader F)) l =
      .ok (fields.foldl (fun l f => f.set (v f) l) l) := by
  induction fields generalizing l with
  | nil => rfl
  | cons f fields ih =>
    rw [List.forall_mem_cons] at h
    rw [List.nodup_cons] at hnodup
    rw [readEntries_cons h.1, List.foldl_cons]
    refine ih hnodup.2 fun g hg => ?_
    -- the fields that are still to be read are not touched
    have hne : g ≠ f := fun hgf => hnodup.1 (hgf ▸ hg)
    have hsame : g.readOr F member? (f.set (v f) l) = g.readOr F member? l := by
      rw [readOr, readOr, get_set_of_ne hne]
    rw [hsame, h.2 g hg]

/-- **Field by field.**  If reading every field gives its value in `v`, reading all fields gives the
layout with these values. -/
theorem readEntries_eq {v : (f : LayoutField) → f.Value}
    (h : ∀ f : LayoutField, f.readOr F member? {} = .ok (v f)) :
    readEntries member? (all.map (reader F)) {} = .ok (layout v) := by
  rw [readEntries_fields (by decide) fun f _ => h f]
  rfl

end Numeral128.LayoutField
