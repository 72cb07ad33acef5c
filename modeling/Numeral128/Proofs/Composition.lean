import Mathlib.Data.Nat.Digits.Defs
import Numeral128.Proofs.Field

/-!
# The parts of a rendering

A rendering without padding is a sign, a base prefix and digits.  `Layout.NumeralParts layout value
s p d` says what each of the three has to be, without saying how it is computed: the sign and the
prefix by the conditions under which they are shown, and the digits as the canonical digit string of
the magnitude (`Base.Canonical`).  There is one such string only (`Base.Canonical.unique`), since it
is spelled like `Nat.digits` (`Base.Canonical.spelled`), so the parts are determined by the value
and the layout (`Layout.NumeralParts.unique`).

`Layout.render_eq_parts` is the reference layout of a numeral, and `Layout.render_eq_filled` says
what a width adds to it: one block of fill, at a place that only depends on the alignment.
-/

namespace Numeral128

/-! ### Canonical digit strings -/

namespace Base

/-- The character `c` is no letter of the other case than the one asked for. -/
def HasCase (uppercase : Bool) (c : Char) : Prop :=
  (if uppercase then c.isLower else c.isUpper) = false

instance (uppercase : Bool) (c : Char) : Decidable (HasCase uppercase c) :=
  inferInstanceAs (Decidable (_ = _))

/-- The string `ds` consists of digits of the base `b` in the case asked for and denotes `m`,
without a leading zero unless it is a single zero. -/
structure Canonical (b : Base) (uppercase : Bool) (ds : List Char) (m : Nat) : Prop
    extends b.Denotes ds m where
  hasCase_of_mem : ∀ c ∈ ds, HasCase uppercase c
  eq_zero_of_head? : ds.head? = some '0' → ds = ['0']

variable {b : Base} {uppercase : Bool} {c : Char} {ds ds' : List Char} {m : Nat}

/-- A digit `c` in the case asked for is the character that is written for its value. -/
theorem digitChar_digitValue (hdigit : b.isDigit c = true) (hcase : HasCase uppercase c) :
    digitChar uppercase (b.digitValue c) = c := by
  -- digits are below 128, where all characters can be tried
  have hwritten : ∀ n < 128, ∀ d ∈ hexValue? (Char.ofNat n), ∀ uppercase,
      HasCase uppercase (Char.ofNat n) → digitChar uppercase d = Char.ofNat n := by decide
  exact forall_digit (P := fun c d => ∀ uppercase, HasCase uppercase c →
    digitChar uppercase d = c) hwritten hdigit uppercase hcase

theorem digitValue_lt (hdigit : b.isDigit c = true) : b.digitValue c < b.toNat := by
  obtain ⟨d, hd⟩ := Option.isSome_iff_exists.mp hdigit
  rw [digitValue_of_digit? hd]
  exact digit?_lt hd

/-- A canonical string `ds` is a single zero, or spells the digits of a positive number. -/
theorem Canonical.spelled (h : b.Canonical uppercase ds m) :
    m = 0 ∧ ds = ['0'] ∨
      m ≠ 0 ∧ ds = (Nat.digits b.toNat m).reverse.map (digitChar uppercase) := by
  obtain ⟨c, cs, rfl⟩ := List.exists_cons_of_ne_nil h.ne_nil
  have hwritten : ∀ x ∈ c :: cs, digitChar uppercase (b.digitValue x) = x := fun x hx =>
    digitChar_digitValue (h.isDigit_of_mem x hx) (h.hasCase_of_mem x hx)
  -- a string that begins with a zero is that zero
  by_cases hzero : c = '0'
  · subst hzero
    have hds : '0' :: cs = ['0'] := h.eq_zero_of_head? rfl
    have hm : b.valueOf ('0' :: cs) = m := h.valueOf_eq
    rw [hds, valueOf_singleton, digitValue_zero] at hm
    exact Or.inl ⟨hm.symm, hds⟩
  · -- the values of the characters, the least first, end with one that is not zero
    have hdigits : Nat.digits b.toNat m = ((c :: cs).map b.digitValue).reverse := by
      rw [← h.valueOf_eq]
      refine Nat.digits_ofDigits b.toNat b.two_le_toNat _ ?_ ?_
      · intro d hd
        obtain ⟨x, hx, rfl⟩ := List.mem_map.mp (List.mem_reverse.mp hd)
        exact digitValue_lt (h.isDigit_of_mem x hx)
      · intro hne
        rw [List.getLast_reverse]
        intro hvalue
        have hhead := hwritten c List.mem_cons_self
        have hc : b.digitValue c = 0 := hvalue
        rw [hc] at hhead
        apply hzero
        rw [← hhead]
        cases uppercase <;> rfl
    refine Or.inr ⟨?_, ?_⟩
    · rintro rfl
      rw [Nat.digits_zero] at hdigits
      exact absurd (congrArg List.length hdigits) (by simp)
    · rw [hdigits, List.reverse_reverse, List.map_map]
      exact ((List.map_congr_left hwritten).trans (List.map_id _)).symm

theorem Canonical.unique (h : b.Canonical uppercase ds m) (h' : b.Canonical uppercase ds' m) :
    ds' = ds := by
  rcases h.spelled with ⟨hm, hds⟩ | ⟨hm, hds⟩ <;> rcases h'.spelled with ⟨hm', hds'⟩ | ⟨hm', hds'⟩
  · rw [hds, hds']
  · exact absurd hm hm'
  · exact absurd hm' hm
  · rw [hds, hds']

/-- The digit `d` is written in the case that is asked for. -/
theorem hasCase_digitChar {d : Nat} (hd : d < b.toNat) (uppercase : Bool) :
    HasCase uppercase (digitChar uppercase d) := by
  have hwritten : ∀ uppercase, ∀ d < 16, HasCase uppercase (digitChar uppercase d) := by decide
  exact hwritten uppercase d (hd.trans_le b.toNat_le_sixteen)

theorem hasCase_of_mem_digits (hm : m < 2 ^ 128) (hc : c ∈ digits b uppercase m) :
    HasCase uppercase c := by
  obtain ⟨d, hd, rfl⟩ := exists_digitChar_of_mem_digits b uppercase hm hc
  exact hasCase_digitChar hd uppercase

/-- The digits that are written for `m` are canonical. -/
theorem canonical_digits (b : Base) (uppercase : Bool) (hm : m < 2 ^ 128) :
    b.Canonical uppercase (digits b uppercase m) m where
  toDenotes := denotes_digits b uppercase hm
  hasCase_of_mem c hc := hasCase_of_mem_digits hm hc
  eq_zero_of_head? hhead := by
    by_cases hzero : m = 0
    · rw [hzero, digits_zero]
    · obtain ⟨c, ds, hdigits, hne⟩ := digits_eq_cons b uppercase hm hzero
      rw [hdigits] at hhead
      exact absurd (Option.some.inj hhead) hne

end Base

/-! ### Sign, prefix and digits -/

namespace Layout

/-- The numeral of `value` in `layout` consists of the sign `s`, the base prefix `p` and the digits
`d`. -/
structure NumeralParts (layout : Layout) (value : Int) (s p d : List Char) : Prop where
  sign_mem : s ∈ [[], ['-'], ['+']]
  minus_iff : s = ['-'] ↔ value < 0
  plus_iff : s = ['+'] ↔ 0 ≤ value ∧ layout.showPlus = true
  prefix_mem : p ∈ [[], ['0'], ['0', 'x'], ['0', 'X']]
  lower_iff : p = ['0', 'x'] ↔
    layout.base = .sixteen ∧ layout.showPrefix = true ∧ layout.uppercase = false
  upper_iff : p = ['0', 'X'] ↔
    layout.base = .sixteen ∧ layout.showPrefix = true ∧ layout.uppercase = true
  /-- The zero of base eight has no prefix. -/
  zero_iff : p = ['0'] ↔ layout.base = .eight ∧ layout.showPrefix = true ∧ value ≠ 0
  canonical : layout.base.Canonical layout.uppercase d value.natAbs

variable {layout : Layout} {t : IntType} {value : Int} {s p d s' p' d' : List Char}

/-- Two elements `x` and `y` of a list are equal if the same of its elements other than the first
are equal to them. -/
theorem eq_of_mem_cons_of_iff {α : Type} {a x y : α} {xs : List α} (hx : x ∈ a :: xs)
    (hy : y ∈ a :: xs) (h : ∀ z ∈ xs, x = z ↔ y = z) : x = y := by
  rcases List.mem_cons.mp hx with hxa | hx
  · rcases List.mem_cons.mp hy with hya | hy
    · rw [hxa, hya]
    · exact (h y hy).mpr rfl
  · exact ((h x hx).mp rfl).symm

/-- The value and the layout determine the parts, each by the conditions that `NumeralParts` lists
for it. -/
theorem NumeralParts.unique (h : layout.NumeralParts value s p d)
    (h' : layout.NumeralParts value s' p' d') : s' = s ∧ p' = p ∧ d' = d := by
  refine ⟨?_, ?_, h.canonical.unique h'.canonical⟩
  · -- the conditions tell each sign from the others
    refine eq_of_mem_cons_of_iff h'.sign_mem h.sign_mem ?_
    simp only [List.forall_mem_cons, h.minus_iff, h'.minus_iff, h.plus_iff, h'.plus_iff,
      List.not_mem_nil, false_implies, implies_true, and_self]
  · refine eq_of_mem_cons_of_iff h'.prefix_mem h.prefix_mem ?_
    simp only [List.forall_mem_cons, h.zero_iff, h'.zero_iff, h.lower_iff, h'.lower_iff,
      h.upper_iff, h'.upper_iff, List.not_mem_nil, false_implies, implies_true, and_self]

/-- The sign, the prefix and the digits that are written for `value` are such parts. -/
theorem numeralParts (layout : Layout) (hv : t.InRange value) :
    layout.NumeralParts value (layout.sign (value < 0)) (layout.basePrefix value.natAbs)
      (digits layout.base layout.uppercase value.natAbs) := by
  have hcanonical := Base.canonical_digits layout.base layout.uppercase hv.natAbs_lt
  constructor
  case canonical => exact hcanonical
  case sign_mem | minus_iff | plus_iff =>
    unfold sign
    by_cases hneg : value < 0
    · simp [hneg]
    · cases layout.showPlus <;> simp [hneg, not_lt.mp hneg]
  case prefix_mem | lower_iff | upper_iff | zero_iff =>
    unfold basePrefix
    cases layout.base <;> cases layout.showPrefix <;> cases layout.uppercase <;>
      by_cases hzero : value = 0 <;> simp [hzero]

/-- **The reference layout of a numeral.**  A rendering that its width does not fill up is the
sign, the base prefix and the digits of the value, and these three are determined. -/
theorem render_eq_parts (hv : t.InRange value)
    (hwidth : layout.width ≤ (layout.bare value).length) :
    ∃ s p d, layout.render value = s ++ p ++ d ∧ layout.NumeralParts value s p d ∧
      ∀ s' p' d', layout.NumeralParts value s' p' d' → s' = s ∧ p' = p ∧ d' = d := by
  have hparts := layout.numeralParts hv
  refine ⟨_, _, _, ?_, hparts, fun s' p' d' h => hparts.unique h⟩
  rw [render_of_width_le hwidth, bare_eq]

/-- The least signed value, whose magnitude is no signed value, in a field of `layout` that it just
fills. -/
theorem render_eq_parts_least :
    let layout : Layout := { base := .eight, showPrefix := true, showPlus := true, width := 45 }
    IntType.signed.InRange (-2 ^ 127) ∧
      layout.width ≤ (layout.bare (-2 ^ 127)).length ∧
      layout.render (-2 ^ 127) = ['-'] ++ ['0'] ++ '2' :: List.replicate 42 '0' ∧
      layout.NumeralParts (-2 ^ 127) ['-'] ['0'] ('2' :: List.replicate 42 '0') := by
  intro layout
  have hv : IntType.signed.InRange (-2 ^ 127) := by decide
  have hwidth : layout.width ≤ (layout.bare (-2 ^ 127)).length := by decide +kernel
  have hcomputed : layout.render (-2 ^ 127) = ['-'] ++ ['0'] ++ '2' :: List.replicate 42 '0' := by
    decide +kernel
  obtain ⟨s, p, d, hrender, hparts, -⟩ := render_eq_parts hv hwidth
  have hs : s = ['-'] := hparts.minus_iff.mpr (by decide)
  have hp : p = ['0'] := hparts.zero_iff.mpr (by decide)
  subst hs hp
  rw [hcomputed] at hrender
  have hd := List.append_cancel_left hrender
  exact ⟨hv, hwidth, hcomputed, hd ▸ hparts⟩

/-! ### Fill -/

/-- **Fill is one block at one place.**  A rendering is the numeral with as many fill characters as
it is shorter than the width, in one block: after it, before it, or before its digits.  So its
length is the greater of the width and that of the numeral, and a rendering that is not filled up is
the same whatever the fill and the alignment are. -/
theorem render_eq_filled (layout : Layout) (hv : t.InRange value) :
    let bare := layout.bare value
    let block := List.replicate (layout.width - bare.length) layout.fill
    (∃ s p d, layout.NumeralParts value s p d ∧ bare = s ++ p ++ d ∧
      layout.render value = match layout.alignment with
        | .left => bare ++ block
        | .right => block ++ bare
        | .internal => s ++ p ++ block ++ d) ∧
    (layout.render value).length = max layout.width bare.length ∧
    (layout.width ≤ bare.length → ∀ fill alignment,
      { layout with fill, alignment }.render value = layout.render value) := by
  intro bare block
  refine ⟨⟨_, _, _, layout.numeralParts hv, layout.bare_eq value, ?_⟩, layout.length_render value,
    ?_⟩
  · cases halign : layout.alignment with
    | left => exact render_left halign
    | right => exact render_right halign
    | internal => exact render_internal halign
  · intro hwidth fill alignment
    -- the numeral does not depend on the two
    have hbare : { layout with fill, alignment }.bare value = layout.bare value := by
      rw [bare_eq, bare_eq]
      rfl
    rw [render_of_width_le hwidth, render_of_width_le (hbare ▸ hwidth), hbare]

/-- In `wide`, fill of several bytes goes between the prefix and the digits.  In `narrow`, which the
numeral fills, no fill at all is seen. -/
theorem render_eq_filled_internal :
    let wide : Layout :=
      { base := .sixteen, showPrefix := true, width := 8, fill := '€', alignment := .internal }
    let narrow : Layout := { wide with width := 5 }
    IntType.signed.InRange (-255) ∧
      wide.render (-255) = ['-'] ++ ['0', 'x'] ++ ['€', '€', '€'] ++ ['f', 'f'] ∧
      (wide.render (-255)).length = 8 ∧ narrow.width ≤ (narrow.bare (-255)).length ∧
      { narrow with fill := '0', alignment := .left }.render (-255) = narrow.render (-255) := by
  intro wide narrow
  have hv : IntType.signed.InRange (-255) := by decide
  have hlength : (wide.bare (-255)).length = 5 := by decide +kernel
  -- sign and prefix follow from the layout, and then the digits are what is left of the bare
  -- numeral
  obtain ⟨⟨s, p, d, hparts, hbare, hrender⟩, hfull, -⟩ := render_eq_filled wide hv
  obtain ⟨-, -, hsame⟩ := render_eq_filled narrow hv
  have hs : s = ['-'] := hparts.minus_iff.mpr (by decide)
  have hp : p = ['0', 'x'] := hparts.lower_iff.mpr (by decide)
  subst hs hp
  have hcomputed : wide.bare (-255) = ['-'] ++ ['0', 'x'] ++ ['f', 'f'] := by decide +kernel
  rw [hcomputed] at hbare
  have hd : ['f', 'f'] = d := List.append_cancel_left hbare
  rw [hlength, ← hd] at hrender
  rw [hlength] at hfull
  have hwidth : narrow.width ≤ (narrow.bare (-255)).length := by decide +kernel
  exact ⟨hv, hrender, hfull, hwidth, hsame hwidth '0' .left⟩

end Layout

end Numeral128
