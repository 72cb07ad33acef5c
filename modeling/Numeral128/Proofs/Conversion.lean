import Mathlib.Tactic.SplitIfs
import Numeral128.Proofs.Fill
import Numeral128.Proofs.Record
import Numeral128.Settings.Laws
import Numeral128.Settings.Load

/-!
# Converting settings

`Setting.format` is a lawful format of data (`Setting.format_lawful`), and beyond this it converts
words and numbers to truth values and reads names in any case (`ConfigLibrary.standard_converts`).

Its structures tell the keys of fields in their errors (`Setting.located`).  This changes errors
only, so that structures are read as they are without it.
-/

namespace Numeral128

namespace Setting

variable {α : Type} {fields : List (FieldReader Setting LoadError α)} {a b : α} {s : Setting}

/-! ### Sizes -/

theorem toNat64_lt (x : Binary64) : x.toNat64 < sizeBound := by
  have hmax : Nat.pow 2 64 - 1 < sizeBound := by decide
  unfold Binary64.toNat64
  split
  next => exact Nat.lt_of_le_of_lt (Nat.min_le_right _ _) hmax
  next => exact hmax
  next => decide

theorem lt_of_unsigned? {limit n : Nat} {cs : List Char}
    (h : Decimal.unsigned? limit cs = some n) : n ≤ limit := by
  obtain ⟨-, hle⟩ := Option.filter_eq_some_iff.mp h
  exact of_decide_eq_true hle

theorem sizeOfText?_lt {text : String} {n : Nat} (h : sizeOfText? text = some n) :
    n < sizeBound := by
  unfold sizeOfText? at h
  dsimp only at h
  split_ifs at h
  · obtain rfl := Option.some.inj h
    decide
  · obtain rfl := Option.some.inj h
    decide
  · exact Nat.lt_of_le_of_lt (lt_of_unsigned? h) (by decide)

/-- Whatever is converted to a size has 64 bits: truth values, texts and floats are cut off there,
and integers are refused. -/
theorem toSize_lt {n : Nat} (h : toSize s = .ok n) : n < sizeBound := by
  unfold toSize at h
  split at h
  next m origin =>
    split_ifs at h with hm
    · obtain rfl := Except.ok.inj h
      exact hm
    · cases h
  next => cases h
  -- a truth value is zero or one, and a float is cut down to 64 bits
  next b origin =>
    obtain rfl := Except.ok.inj h
    exact Nat.lt_of_le_of_lt b.toNat_le (by decide)
  next x origin =>
    obtain rfl := Except.ok.inj h
    exact toNat64_lt x
  next text origin =>
    split at h
    next m hm =>
      obtain rfl := Except.ok.inj h
      exact sizeOfText?_lt hm
    next => cases h
  next => cases h

/-! ### Fields that tell their keys -/

theorem located_read_eq_ok {key : String} {f : FieldReader Setting LoadError α} {change : α → α} :
    (located key f).read s = .ok change ↔ f.read s = .ok change :=
  mapError_eq_ok_iff

/-- So the entries of a map are read alike with and without the keys in their errors. -/
theorem readEntries_located {member? : String → Option Setting} :
    readEntries member? (fields.map fun f => located f.name f) a = .ok b ↔
      readEntries member? fields a = .ok b := by
  induction fields generalizing a with
  | nil => rfl
  | cons f fields ih =>
    rw [List.map_cons, readEntries, readEntries]
    have hname : (located f.name f).name = f.name := rfl
    have hread : ∀ s, (located f.name f).read s = (f.read s).mapError (.under f.name) :=
      fun s => rfl
    rw [hname]
    -- only errors tell the difference, and those are not values
    cases member? f.name with
    | none => exact ih
    | some s =>
      dsimp only
      rw [hread]
      cases f.read s with
      | error e =>
        constructor
        · intro h
          cases h
        · intro h
          cases h
      | ok change => exact ih

/-- A field in a list tells its place, and is a field `g` of the structure but for that. -/
theorem exists_eq_located {n : Nat} {f : FieldReader Setting LoadError α}
    (h : f ∈ locatedItems n fields) : ∃ key, ∃ g ∈ fields, f = located key g := by
  induction fields generalizing n with
  | nil => exact absurd h List.not_mem_nil
  | cons g fields ih =>
    obtain rfl | h := List.mem_cons.mp h
    · exact ⟨_, g, List.mem_cons_self, rfl⟩
    · obtain ⟨key, f', hf', hf⟩ := ih h
      exact ⟨key, f', List.mem_cons_of_mem _ hf', hf⟩

/-- What every field of a structure keeps is kept by converting the setting `s` to it. -/
theorem toRecord_induction {P : α → Prop} {name : String} (ha : P a)
    (hkeep : ∀ f ∈ fields, ∀ s change, f.read s = .ok change → ∀ a, P a → P (change a))
    (h : toRecord name fields a s = .ok b) : P b := by
  cases s with
  | scalar value origin => cases h
  | table entries origin =>
    exact readEntries_induction ha hkeep (readEntries_located.mp (readRecord_eq_ok_iff.mp h))
  | list items origin =>
    refine readItems_induction ha (fun f hf s change hread => ?_) h
    obtain ⟨key, g, hg, rfl⟩ := exists_eq_located hf
    exact hkeep g hg s change (located_read_eq_ok.mp hread)

/-! ### The format -/

/-- **Settings as data.**  Settings are a lawful format. -/
theorem format_lawful : format.Lawful where
  bool_of_found h := by
    obtain ⟨origin, rfl⟩ := exists_eq_scalar h
    rfl
  size_of_found hn h := by
    obtain ⟨origin, rfl⟩ := exists_eq_scalar h
    exact if_pos hn
  size_lt h := toSize_lt h
  payload_of_text {s text} h := by
    have hpayload : s.found.payload? = some (.text text) := congrArg Found.payload? h
    show toPayload s = _
    rw [toPayload, hpayload]
  payload_of_int {s n} hn h := by
    have hpayload : s.found.payload? = some (.digit n) :=
      (congrArg Found.payload? h).trans (Found.payload?_int hn)
    show toPayload s = _
    rw [toPayload, hpayload]
  payload_of_other {s} htext hint := by
    have hpayload : s.found.payload? = none := Found.payload?_eq_none htext hint
    refine ⟨.custom FillPayload.mismatchMessage, ?_⟩
    show toPayload s = _
    rw [toPayload, hpayload]
  -- the keys stand in errors only, so that a table has the value of its fields
  record_of_map {_} _ _ _ {s _} h := by
    cases s with
    | table entries origin => exact readRecord_eq_ok_iff.trans readEntries_located
    | scalar value origin => cases h
    | list items origin => cases h
  record_induction _ _ _ _ _ _ ha hkeep h := toRecord_induction ha hkeep h

end Setting

namespace ConfigLibrary

open Setting

/-- **Conversion.**  The library converts words, numbers and names in any case. -/
theorem standard_converts : standard.Converts where
  lawful := format_lawful
  found_eq s := rfl
  member?_eq s name := rfl
  choice_of_text {α _ name origin a} h := by
    show choiceNamed α name = _
    rw [choiceNamed, h]
  bool_of_int n origin := rfl
  bool_of_true {text origin} h := by
    have hword : boolOfWord? (Text.lowercase text) = some true := if_pos (Or.inr (by simpa using h))
    show Setting.toBool (scalar (.text text) origin) = _
    rw [Setting.toBool, hword]
  bool_of_false {text origin} h := by
    have hfalse : ∀ word ∈ ["false", "off", "no"], boolOfWord? word = some false := by decide
    show Setting.toBool (scalar (.text text) origin) = _
    rw [Setting.toBool, hfalse _ h]

end ConfigLibrary

end Numeral128
