import Mathlib.Data.Bool.AllAny
import Mathlib.Data.List.Induction
import Numeral128.Proofs.DigitString
import Numeral128.Proofs.Fill
import Numeral128.Settings.Environment

/-!
# Texts that look like numbers

The text of a variable becomes a truth value, an integer or a number if it reads as one, before it
is known what is expected.  Whatever reads as a number consists of a few characters only
(`numberChars`), and its lower case does, too.  So a text stays a text if its lower case has another
character (`Environment.infer_of_word`), which is so for the names of all alternatives.

Digits of base ten become the integer that they denote (`Environment.infer_of_denotes`), and a
single character that is no digit stays a text.
-/

namespace Numeral128

/-! ### Characters of numbers -/

/-- The characters of integers, of decimal numbers and of the names of special values, in either
case. -/
def numberChars : List Char := "0123456789+-.eEinftyaINFTYA".toList

theorem toNat_lt_of_isDigit {c : Char} (h : c.isDigit = true) : c.toNat < 58 := by
  rw [Char.isDigit, Bool.and_eq_true, decide_eq_true_eq, decide_eq_true_eq] at h
  exact Nat.lt_succ_of_le h.2

theorem mem_numberChars_of_isDigit {c : Char} (h : c.isDigit = true) : c ∈ numberChars := by
  -- up to the digit 9 there are few enough characters to try them all
  have hall : ∀ n < 58, (Char.ofNat n).isDigit = true → Char.ofNat n ∈ numberChars := by decide
  exact forall_char_of_lt (P := fun c => c.isDigit = true → c ∈ numberChars) hall
    (toNat_lt_of_isDigit h) h

theorem toNat_lt_of_mem_numberChars {c : Char} (h : c ∈ numberChars) : c.toNat < 128 := by
  have hall : ∀ c ∈ numberChars, c.toNat < 128 := List.all_iff_forall_prop.mp (by decide)
  exact hall c h

/-- Whatever `natural?` reads consists of digits. -/
theorem Decimal.isDigit_of_natural? {cs : List Char} {n : Nat} (h : natural? cs = some n) :
    ∀ c ∈ cs, c.isDigit = true := by
  unfold natural? at h
  split_ifs at h with hdigits
  exact List.all_eq_true.mp hdigits.2

theorem Decimal.subset_numberChars_of_natural? {cs : List Char} {n : Nat}
    (h : natural? cs = some n) : cs ⊆ numberChars :=
  fun c hc => mem_numberChars_of_isDigit (isDigit_of_natural? h c hc)

theorem Decimal.subset_numberChars_of_map {cs : List Char} {g : Nat → Int} {n : Int}
    (h : (natural? cs).map g = some n) : cs ⊆ numberChars := by
  obtain ⟨m, hm, -⟩ := Option.map_eq_some_iff.mp h
  exact subset_numberChars_of_natural? hm

theorem mem_numberChars_of_special {c : Char}
    (h : c = '.' ∨ c = 'e' ∨ c = 'E' ∨ c = '-' ∨ c = '+') : c ∈ numberChars := by
  obtain rfl | rfl | rfl | rfl | rfl := h <;> decide

/-- Whatever `int64?` reads consists of characters of numbers. -/
theorem Decimal.subset_numberChars_of_int64? {cs : List Char} {n : Int} (h : int64? cs = some n) :
    cs ⊆ numberChars := by
  unfold int64? at h
  obtain ⟨hread, -⟩ := Option.filter_eq_some_iff.mp h
  split at hread
  next cs => exact List.cons_subset.mpr ⟨by decide, subset_numberChars_of_map hread⟩
  next cs => exact List.cons_subset.mpr ⟨by decide, subset_numberChars_of_map hread⟩
  next => exact subset_numberChars_of_map hread

namespace Binary64

/-- A mantissa `cs` is made of digits and one point at most. -/
theorem subset_numberChars_of_mantissa {cs : List Char} {n : Nat}
    (h : Decimal.natural? (cs.takeWhile (· ≠ '.') ++ (cs.dropWhile (· ≠ '.')).drop 1) = some n) :
    cs ⊆ numberChars := by
  have hdigits := Decimal.subset_numberChars_of_natural? h
  have hsplit := List.takeWhile_append_dropWhile (p := fun c => decide (c ≠ '.')) (l := cs)
  intro c hc
  rw [← hsplit, List.mem_append] at hc
  -- what is dropped begins with the point, if there is one
  cases hrest : cs.dropWhile (fun c => decide (c ≠ '.')) with
  | nil =>
    rw [hrest] at hc
    exact hdigits (List.mem_append_left _ (hc.resolve_right List.not_mem_nil))
  | cons d ds =>
    have hd : d = '.' := by
      have hhead := List.head?_dropWhile_not (fun c => decide (c ≠ '.')) cs
      rw [hrest] at hhead
      simpa using hhead
    rw [hrest, List.mem_cons] at hc
    rw [hrest] at hdigits
    obtain hc | rfl | hc := hc
    · exact hdigits (List.mem_append_left _ hc)
    · exact mem_numberChars_of_special (Or.inl hd)
    · exact hdigits (List.mem_append_right _ hc)

/-- The exponent `cs` consists of characters of numbers after its letter. -/
theorem subset_numberChars_of_exponent? {cs : List Char} {n : Int} (h : exponent? cs = some n) :
    cs.drop 1 ⊆ numberChars := by
  unfold exponent? at h
  split at h
  next => exact List.nil_subset _
  next => exact List.cons_subset.mpr ⟨by decide, Decimal.subset_numberChars_of_map h⟩
  next => exact List.cons_subset.mpr ⟨by decide, Decimal.subset_numberChars_of_map h⟩
  next => exact Decimal.subset_numberChars_of_map h

/-- The parts of what reads as the unsigned part of a number: a mantissa up to the letter `e`, and
an exponent after it. -/
theorem parts_of_ofUnsignedText? {negative : Bool} {cs : List Char} {x : Binary64}
    (h : ofUnsignedText? negative cs = some x) :
    cs.takeWhile (fun c => c ≠ 'e' ∧ c ≠ 'E') ⊆ numberChars ∧
      (cs.dropWhile fun c => c ≠ 'e' ∧ c ≠ 'E').drop 1 ⊆ numberChars := by
  obtain ⟨exponent, hexponent, hmantissa⟩ := Option.bind_eq_some_iff.mp h
  obtain ⟨digits, hdigits, -⟩ := Option.bind_eq_some_iff.mp hmantissa
  exact ⟨subset_numberChars_of_mantissa hdigits, subset_numberChars_of_exponent? hexponent⟩

/-- Whatever `ofUnsignedText?` reads consists of characters of numbers. -/
theorem subset_numberChars_of_ofUnsignedText? {negative : Bool} {cs : List Char} {x : Binary64}
    (h : ofUnsignedText? negative cs = some x) : cs ⊆ numberChars := by
  obtain ⟨hmantissa, hexponent⟩ := parts_of_ofUnsignedText? h
  have hsplit :=
    List.takeWhile_append_dropWhile (p := fun c => decide (c ≠ 'e' ∧ c ≠ 'E')) (l := cs)
  have hhead := List.head?_dropWhile_not (fun c => decide (c ≠ 'e' ∧ c ≠ 'E')) cs
  intro c hc
  rw [← hsplit, List.mem_append] at hc
  refine hc.elim (fun hc => hmantissa hc) fun hc => ?_
  cases hrest : cs.dropWhile (fun c => decide (c ≠ 'e' ∧ c ≠ 'E')) with
  | nil =>
    rw [hrest] at hc
    exact absurd hc List.not_mem_nil
  | cons e es =>
    rw [hrest] at hhead hc hexponent
    -- what is dropped begins with the letter, and the exponent comes after it
    have he : e = 'e' ∨ e = 'E' := by simpa [or_iff_not_imp_left] using hhead
    obtain rfl | hc := List.mem_cons.mp hc
    · exact mem_numberChars_of_special (Or.inr (he.imp_right Or.inl))
    · exact hexponent hc

/-- A letter `c` that is lowered to one of the names of special values is a character of numbers. -/
theorem mem_numberChars_of_toLower {c : Char} (h : c.toLower ∈ "infinitynan".toList) :
    c ∈ numberChars := by
  have hall : ∀ n < 128, (Char.ofNat n).toLower ∈ "infinitynan".toList →
      Char.ofNat n ∈ numberChars := by decide +kernel
  have hc : c.toNat < 128 := by
    by_contra hc
    -- above the letters of the alphabet nothing is lowered
    have hsame : c.toLower = c := by
      unfold Char.toLower
      rw [dif_neg]
      rintro ⟨-, hle⟩
      exact hc (Nat.lt_of_le_of_lt hle (by decide))
    rw [hsame] at h
    have hsmall : "infinitynan".toList ⊆ numberChars := by decide
    exact hc (toNat_lt_of_mem_numberChars (hsmall h))
  exact forall_char_of_lt
    (P := fun c => c.toLower ∈ "infinitynan".toList → c ∈ numberChars) hall hc h

theorem subset_numberChars_of_name {cs : List Char} {name : String}
    (hname : name.toList ⊆ "infinitynan".toList)
    (h : String.ofList (cs.map Char.toLower) = name) : cs ⊆ numberChars := by
  intro c hc
  refine mem_numberChars_of_toLower (hname ?_)
  rw [← h, String.toList_ofList]
  exact List.mem_map_of_mem hc

/-- Whatever `ofText?` reads consists of characters of numbers: a sign, and the name of a special
value or the unsigned part of a number. -/
theorem subset_numberChars_of_ofText? {cs : List Char} {x : Binary64} (h : ofText? cs = some x) :
    cs ⊆ numberChars := by
  -- after the sign it is the same whichever sign it was
  have hunsigned : ∀ {negative : Bool} {ds : List Char},
      (if String.ofList (ds.map Char.toLower) = "inf" ∨
          String.ofList (ds.map Char.toLower) = "infinity" then some (infinite negative)
        else if String.ofList (ds.map Char.toLower) = "nan" then some nan
        else ofUnsignedText? negative ds) = some x → ds ⊆ numberChars := by
    intro negative ds hread
    split_ifs at hread with hinfinite hnan
    · exact hinfinite.elim (subset_numberChars_of_name (by decide))
        (subset_numberChars_of_name (by decide))
    · exact subset_numberChars_of_name (by decide) hnan
    · exact subset_numberChars_of_ofUnsignedText? hread
  unfold ofText? at h
  split at h
  next negative ds hsign =>
  split at hsign
  next =>
    obtain ⟨rfl, rfl⟩ := Prod.mk.inj hsign
    exact List.cons_subset.mpr ⟨by decide, hunsigned h⟩
  next =>
    obtain ⟨rfl, rfl⟩ := Prod.mk.inj hsign
    exact List.cons_subset.mpr ⟨by decide, hunsigned h⟩
  next =>
    obtain ⟨rfl, rfl⟩ := Prod.mk.inj hsign
    exact hunsigned h

end Binary64

/-! ### Lower case -/

namespace Text

theorem lowerChar_mem_numberChars :
    ∀ c ∈ numberChars, c ≠ 'Σ' ∧ c ≠ 'İ' ∧ lowerChar c ∈ numberChars :=
  List.all_iff_forall_prop.mp (by decide +kernel)

/-- Lowering, whatever stands `before`, leads from characters of numbers to such characters. -/
theorem lowerAfter_subset_numberChars {before cs : List Char} (h : cs ⊆ numberChars) :
    lowerAfter before cs ⊆ numberChars := by
  induction cs generalizing before with
  | nil => exact h
  | cons c cs ih =>
    rw [List.cons_subset] at h
    obtain ⟨hsigma, hdotted, hlower⟩ := lowerChar_mem_numberChars c h.1
    rw [lowerAfter, if_neg hsigma, if_neg hdotted, List.singleton_append]
    exact List.cons_subset.mpr ⟨hlower, ih h.2⟩

/-- A `word` with another character is not the lower case of what reads as a number. -/
theorem lowercase_ne_of_numberChars {text word : String} (h : text.toList ⊆ numberChars)
    (hword : ¬ word.toList ⊆ numberChars) : lowercase text ≠ word := by
  rintro rfl
  rw [lowercase, String.toList_ofList] at hword
  exact hword (lowerAfter_subset_numberChars h)

end Text

/-! ### Digits -/

namespace Decimal

/-- A digit `c` of base ten, and its value. -/
theorem isDigit_of_ten {c : Char} (h : Base.ten.isDigit c = true) :
    c.isDigit = true ∧ Base.ten.digitValue c = c.toNat - '0'.toNat := by
  have hc : c.toNat < 128 := Nat.lt_of_le_of_lt (Base.visible_of_isDigit h).2 (by decide)
  have hall : ∀ n < 128, Base.ten.isDigit (Char.ofNat n) = true →
      (Char.ofNat n).isDigit = true ∧
        Base.ten.digitValue (Char.ofNat n) = (Char.ofNat n).toNat - '0'.toNat := by
    decide +kernel
  exact forall_char_of_lt (P := fun c => Base.ten.isDigit c = true →
    c.isDigit = true ∧ Base.ten.digitValue c = c.toNat - '0'.toNat) hall hc h

/-- Both ways of reading digits `ds` from left to right give the same number. -/
theorem value_eq_valueOf {ds : List Char} (h : ∀ c ∈ ds, Base.ten.isDigit c = true) :
    value ds = Base.ten.valueOf ds := by
  induction ds using List.reverseRecOn with
  | nil => rfl
  | append_singleton ds c ih =>
    have hds := ih fun d hd => h d (List.mem_append_left _ hd)
    have hc := isDigit_of_ten (h c (List.mem_append_right _ (List.mem_singleton_self c)))
    rw [Base.valueOf_concat, ← hds, hc.2, value, List.foldl_append]
    show 10 * value ds + (c.toNat - '0'.toNat) = value ds * 10 + (c.toNat - '0'.toNat)
    omega

theorem natural?_of_denotes {ds : List Char} {n : Nat} (h : Base.ten.Denotes ds n) :
    natural? ds = some n := by
  have hdigits : ds.all Char.isDigit = true :=
    List.all_eq_true.mpr fun c hc => (isDigit_of_ten (h.isDigit_of_mem c hc)).1
  rw [natural?, if_pos ⟨h.ne_nil, hdigits⟩, value_eq_valueOf h.isDigit_of_mem, h.valueOf_eq]

/-- Digits of base ten are read as the integer `n` that they denote. -/
theorem int64?_of_denotes {ds : List Char} {n : Nat} (h : Base.ten.Denotes ds n)
    (hn : n < 2 ^ 63) : int64? ds = some (n : Int) := by
  unfold int64?
  split
  next cs =>
    have hminus := h.isDigit_of_mem '-' List.mem_cons_self
    rw [Base.isDigit_minus] at hminus
    exact absurd hminus Bool.false_ne_true
  next cs =>
    have hplus := h.isDigit_of_mem '+' List.mem_cons_self
    rw [Base.isDigit_plus] at hplus
    exact absurd hplus Bool.false_ne_true
  next =>
    rw [natural?_of_denotes h, Option.filter_eq_some_iff]
    refine ⟨rfl, ?_⟩
    have hpow : ((Nat.pow 2 63 : Nat) : Int) = 2 ^ 63 := rfl
    rw [hpow, Bool.and_eq_true, decide_eq_true_eq, decide_eq_true_eq]
    omega

end Decimal

/-! ### Texts of variables -/

namespace Environment

variable {text word : String}

/-- A `text` with another character stays a text, unless it is a truth value. -/
theorem infer_of_other (h : ¬ text.toList ⊆ numberChars) (htrue : Text.lowercase text ≠ "true")
    (hfalse : Text.lowercase text ≠ "false") : infer text = .text text := by
  unfold infer
  rw [if_neg htrue, if_neg hfalse]
  cases hint : Decimal.int64? text.toList with
  | some n => exact absurd (Decimal.subset_numberChars_of_int64? hint) h
  | none =>
    cases hfloat : Binary64.ofText? text.toList with
    | some x => exact absurd (Binary64.subset_numberChars_of_ofText? hfloat) h
    | none => rfl

theorem infer_of_word (h : Text.lowercase text = word) (hword : ¬ word.toList ⊆ numberChars)
    (htrue : word ≠ "true") (hfalse : word ≠ "false") : infer text = .text text := by
  refine infer_of_other (fun hchars => ?_) (h ▸ htrue) (h ▸ hfalse)
  exact Text.lowercase_ne_of_numberChars hchars hword h

/-- The name of the truth value `b`, in any case, is read as that value. -/
theorem infer_of_bool {b : Bool} (h : Text.lowercase text = toString b) :
    infer text = .bool b := by
  unfold infer
  rw [h]
  cases b <;> rfl

/-- Digits of base ten become the integer `n` that they denote. -/
theorem infer_of_denotes {n : Nat} (h : Base.ten.Denotes text.toList n)
    (hn : n < 2 ^ 63) : infer text = .int n := by
  have hchars : text.toList ⊆ numberChars := fun c hc =>
    mem_numberChars_of_isDigit (Decimal.isDigit_of_ten (h.isDigit_of_mem c hc)).1
  have htrue : Text.lowercase text ≠ "true" :=
    Text.lowercase_ne_of_numberChars hchars (by decide)
  have hfalse : Text.lowercase text ≠ "false" :=
    Text.lowercase_ne_of_numberChars hchars (by decide)
  unfold infer
  rw [if_neg htrue, if_neg hfalse, Decimal.int64?_of_denotes h hn]

theorem lowercase_singleton_ne (c : Char) (h : 2 < word.toList.length) :
    Text.lowercase (String.singleton c) ≠ word := by
  rintro rfl
  rw [Text.lowercase, String.toList_ofList, String.toList_singleton, Text.lowerAfter,
    Text.lowerAfter, List.append_nil] at h
  split_ifs at h <;> simp at h

/-- A text of the one character `c` stands for `c` as fill, also if it is a digit, which becomes a
number first. -/
theorem isFill_infer (c : Char) : Found.IsFill (.scalar (infer (String.singleton c))) c := by
  by_cases hc : c ∈ numberChars
  · have hall : ∀ c ∈ numberChars, infer (String.singleton c) = .text (String.singleton c) ∨
        ∃ d < 10, infer (String.singleton c) = .int (d : Nat) ∧ c = Nat.digitChar d :=
      List.all_iff_forall_prop.mp (by decide +kernel)
    obtain h | ⟨d, hd, h, hdigit⟩ := hall c hc
    · exact Or.inl (congrArg Found.scalar h)
    · exact Or.inr ⟨d, Nat.le_of_lt_succ hd, congrArg Found.scalar h, hdigit⟩
  · -- any other character makes the text no number, and it is too short for a truth value
    have hmem : c ∈ (String.singleton c).toList := by simp
    rw [infer_of_other (fun h => hc (h hmem)) (lowercase_singleton_ne c (by decide))
      (lowercase_singleton_ne c (by decide)), Found.isFill_text]

end Environment

end Numeral128
