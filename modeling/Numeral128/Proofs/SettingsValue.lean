import Numeral128.Proofs.Inference
import Numeral128.Proofs.SettingsField

/-!
# Values of fields of settings

`SettingsField.Writes` says which values of a document stand for a value of a field, and
`SettingsField.Spells` which texts of variables do.  Both are converted to the value that they stand
for (`convert_of_writes`, `convert_of_spells`).  There are four kinds of fields, alternatives, truth
values, sizes and fills, and one lemma for each.

The text of a variable has to survive being read as a truth value or a number before its field is
known.  Names stay texts, widths become integers, and a fill is found again in either.
-/

namespace Numeral128

namespace SettingsField

/-! ### Values of fields -/

/-- A `text` is the name of the alternative `a`, in any case. -/
def Names {α : Type} [Spelled α] (text : String) (a : α) : Prop :=
  Text.lowercase text = Spelled.spelling a

/-- What was found, `v`, is the name of the alternative `a`. -/
def WritesName {α : Type} [Spelled α] (v : Found) (a : α) : Prop :=
  ∃ name, v = .scalar (.text name) ∧ Names name a

/-- What was found in a document, `v`, has the type of the field and stands for a value of it. -/
def Writes : (f : SettingsField) → (v : Found) → f.Value → Prop
  | choice, v, (a : BaseChoice) => WritesName v a
  | layout .base, v, (b : Base) => WritesName v b
  | layout .uppercase, v, (b : Bool) => v = .scalar (.bool b)
  | layout .showPrefix, v, (b : Bool) => v = .scalar (.bool b)
  | layout .showPlus, v, (b : Bool) => v = .scalar (.bool b)
  | layout .width, v, (n : Nat) => v = .scalar (.int n) ∧ n < sizeBound
  | layout .fill, v, (c : Char) => v = .scalar (.text (String.singleton c))
  | layout .alignment, v, (a : Alignment) => WritesName v a

/-- A `text` is a word for the truth value `b`, in any case, or its digit. -/
def SpellsBool (text : String) (b : Bool) : Prop :=
  Text.lowercase text ∈ (if b then ["true", "on", "yes"] else ["false", "off", "no"]) ∨
    text = if b then "1" else "0"

/-- The text of a variable stands for a value of the field: it is a name, a word for a truth value,
a width in digits that fits in 63 bits, or a fill. -/
def Spells : (f : SettingsField) → (text : String) → f.Value → Prop
  | choice, text, (a : BaseChoice) => Names text a
  | layout .base, text, (b : Base) => Names text b
  | layout .uppercase, text, (b : Bool) => SpellsBool text b
  | layout .showPrefix, text, (b : Bool) => SpellsBool text b
  | layout .showPlus, text, (b : Bool) => SpellsBool text b
  | layout .width, text, (n : Nat) => Base.ten.Denotes text.toList n ∧ n < 2 ^ 63
  | layout .fill, text, (c : Char) => text = String.singleton c
  | layout .alignment, text, (a : Alignment) => Names text a

section Conversion

variable {L : ConfigLibrary} {s : Setting} {text : String}

theorem isScalar_of_found {value : Scalar} (h : s.found = .scalar value) : s.isScalar = true := by
  obtain ⟨origin, rfl⟩ := Setting.exists_eq_scalar h
  rfl

/-! ### Values of documents -/

/-- A name in any case is looked up in lower case, where it is the spelling of `a` and of no other
alternative. -/
theorem choice_of_names (hL : L.Converts) {α : Type} [Spelled α] {name : String} {a : α}
    (h : Names name a) (origin : Option String) :
    L.format.choice α (.scalar (.text name) origin) = .ok a := by
  apply hL.choice_of_text
  rw [h, Spelled.lookup_spelling]

/-- An alternative `a` is converted from its name in a document. -/
theorem choice_of_writesName (hL : L.Converts) {α : Type} [Spelled α] {a : α}
    (h : WritesName s.found a) : s.isScalar = true ∧ L.format.choice α s = .ok a := by
  obtain ⟨name, hfound, hname⟩ := h
  obtain ⟨origin, rfl⟩ := Setting.exists_eq_scalar hfound
  exact ⟨rfl, choice_of_names hL hname origin⟩

theorem bool_of_writes (hL : L.Converts) {b : Bool} (h : s.found = .scalar (.bool b)) :
    s.isScalar = true ∧ L.format.bool s = .ok b :=
  ⟨isScalar_of_found h, hL.lawful.bool_of_found ((hL.found_eq s).trans h)⟩

theorem size_of_writes (hL : L.Converts) {n : Nat} (hn : n < sizeBound)
    (h : s.found = .scalar (.int n)) : s.isScalar = true ∧ L.format.size s = .ok n :=
  ⟨isScalar_of_found h, hL.lawful.size_of_found hn ((hL.found_eq s).trans h)⟩

/-- The laws tell exactly from what a fill `c` is converted. -/
theorem fill_of_isFill (hL : L.Converts) {c : Char} (h : s.found.IsFill c) :
    L.format.fill s = .ok c := by
  apply (hL.lawful.fill_eq_ok_iff s c).mpr
  rwa [hL.found_eq]

/-- A setting `s` that stands for the value `a` of a field in a document is converted to `a`. -/
theorem convert_of_writes (hL : L.Converts) {f : SettingsField} {a : f.Value}
    (h : f.Writes s.found a) : s.isScalar = true ∧ f.convert L.format s = .ok a := by
  cases f with
  | choice => exact choice_of_writesName hL h
  | layout f =>
    cases f with
    | base | alignment => exact choice_of_writesName hL h
    | uppercase | showPrefix | showPlus => exact bool_of_writes hL h
    | width => exact size_of_writes hL h.2 h.1
    | fill => exact ⟨isScalar_of_found h, fill_of_isFill hL (Or.inl h)⟩

/-! ### Texts of variables -/

/-- A `word` is no number and no truth value, whatever its case is. -/
def IsWord (word : String) : Prop :=
  ¬ word.toList ⊆ numberChars ∧ word ≠ "true" ∧ word ≠ "false"

instance (word : String) : Decidable (IsWord word) := inferInstanceAs (Decidable (_ ∧ _ ∧ _))

theorem infer_of_isWord {word : String} (hword : IsWord word) (h : Text.lowercase text = word) :
    Environment.infer text = .text text :=
  Environment.infer_of_word h hword.1 hword.2.1 hword.2.2

/-- An alternative is converted from the text of a variable, as names are words. -/
theorem choice_of_spells (hL : L.Converts) {α : Type} [Spelled α]
    (hword : ∀ a : α, IsWord (Spelled.spelling a)) {a : α} (h : Names text a)
    (origin : Option String) :
    L.format.choice α (.scalar (Environment.infer text) origin) = .ok a := by
  rw [infer_of_isWord (hword a) h]
  exact choice_of_names hL h origin

/-- The words that are no truth values by themselves are left to the conversion, which knows each
`word`. -/
theorem bool_of_word (hL : L.Converts) {word : String} {b : Bool} (hword : IsWord word)
    (h : Text.lowercase text = word)
    (hb : word ∈ if b then ["true", "on", "yes"] else ["false", "off", "no"])
    (origin : Option String) :
    L.format.bool (.scalar (Environment.infer text) origin) = .ok b := by
  rw [infer_of_isWord hword h]
  cases b with
  | true => exact hL.bool_of_true (h ▸ hb)
  | false => exact hL.bool_of_false (h ▸ hb)

/-- A truth value `b` is converted from its words and from its digit. -/
theorem bool_of_spells (hL : L.Converts) {b : Bool} (h : SpellsBool text b)
    (origin : Option String) :
    L.format.bool (.scalar (Environment.infer text) origin) = .ok b := by
  -- `true` and `false` become truth values at once, the other words only by conversion
  have hbool : Text.lowercase text = toString b →
      L.format.bool (.scalar (Environment.infer text) origin) = .ok b := by
    intro hlower
    rw [Environment.infer_of_bool hlower]
    exact hL.lawful.bool_of_found (hL.found_eq _)
  have hone : Environment.infer "1" = .int 1 := by decide +kernel
  have hzero : Environment.infer "0" = .int 0 := by decide +kernel
  cases b with
  | true =>
    obtain h | rfl := h
    · simp only [if_true, List.mem_cons, List.not_mem_nil, or_false] at h
      obtain h | h | h := h
      · exact hbool h
      · exact bool_of_word hL (by decide) h (by decide) origin
      · exact bool_of_word hL (by decide) h (by decide) origin
    · rw [if_pos rfl, hone, hL.bool_of_int]
      rfl
  | false =>
    obtain h | rfl := h
    · simp only [Bool.false_eq_true, if_false, List.mem_cons, List.not_mem_nil, or_false] at h
      obtain h | h | h := h
      · exact hbool h
      · exact bool_of_word hL (by decide) h (by decide) origin
      · exact bool_of_word hL (by decide) h (by decide) origin
    · rw [if_neg Bool.false_ne_true, hzero, hL.bool_of_int]
      rfl

theorem size_of_spells (hL : L.Converts) {n : Nat} (h : Base.ten.Denotes text.toList n)
    (hn : n < 2 ^ 63) (origin : Option String) :
    L.format.size (.scalar (Environment.infer text) origin) = .ok n := by
  rw [Environment.infer_of_denotes h hn]
  exact (size_of_writes hL (Nat.lt_trans hn (by decide)) rfl).2

theorem isWord_spelling_choice : ∀ c : BaseChoice, IsWord (Spelled.spelling c) := by
  rintro (_ | b)
  · decide
  · cases b <;> decide

theorem isWord_spelling_base (b : Base) : IsWord (Spelled.spelling b) := by
  cases b <;> decide

theorem isWord_spelling_alignment (a : Alignment) : IsWord (Spelled.spelling a) := by
  cases a <;> decide

/-- The text of a variable that stands for the value `a` of a field is converted to `a`, whatever
else it may look like. -/
theorem convert_of_spells (hL : L.Converts) {f : SettingsField} {a : f.Value}
    (h : f.Spells text a) (origin : Option String) :
    f.convert L.format (.scalar (Environment.infer text) origin) = .ok a := by
  cases f with
  | choice => exact choice_of_spells hL isWord_spelling_choice h origin
  | layout f =>
    cases f with
    | base => exact choice_of_spells hL isWord_spelling_base h origin
    | alignment => exact choice_of_spells hL isWord_spelling_alignment h origin
    | uppercase | showPrefix | showPlus => exact bool_of_spells hL h origin
    | width => exact size_of_spells hL h.1 h.2 origin
    | fill =>
      obtain rfl := h
      exact fill_of_isFill hL (Environment.isFill_infer a)

end Conversion

end SettingsField

end Numeral128
