import Numeral128.Proofs.Accumulation
import Numeral128.Proofs.Padding
import Numeral128.Text.Printable

/-!
# The field that a numeral fills

A rendering is the numeral without padding and the fill, in some order (`Layout.render_perm`).  So
it has as many characters as the greater of the two says, its width and the numeral
(`Layout.length_render`), and a control character can only come from the fill
(`Layout.isControl_of_mem_render`).  The numeral of a 128-bit value has 45 characters at most
(`Layout.length_bare_le`).
-/

namespace Numeral128

/-! ### Control characters -/

/-- Characters from the space to `~` are no control characters. -/
theorem Text.isControl_of_visible {c : Char} (hlow : 0x20 ≤ c.toNat) (hhigh : c.toNat < 0x7f) :
    Text.isControl c = false := by
  unfold Text.isControl
  have h1 : ¬ c.toNat < 0x20 := by omega
  have h2 : ¬ 0x7f ≤ c.toNat := by omega
  simp [h1, h2]

theorem Base.isControl_of_isDigit {b : Base} {c : Char} (h : b.isDigit c = true) :
    Text.isControl c = false := by
  obtain ⟨hlow, hhigh⟩ := visible_of_isDigit h
  exact Text.isControl_of_visible (by omega) (by omega)

/-! ### Digits -/

/-- The number of digits of the greatest 128-bit magnitude. -/
def Base.maxDigits : Base → Nat
  | ten => 39
  | eight => 43
  | sixteen => 32

theorem Base.two_pow_le (b : Base) : 2 ^ 128 ≤ b.toNat ^ b.maxDigits := by cases b <;> decide

/-- A magnitude `m` is not written with more digits than it takes. -/
theorem length_digits_le {b : Base} {m k : Nat} (uppercase : Bool) (hm : m < 2 ^ 128) (hk : 0 < k)
    (hlt : m < b.toNat ^ k) : (digits b uppercase m).length ≤ k := by
  rw [length_digits b uppercase hm]
  exact (b.digitCount_le_iff hk).mpr hlt

theorem isDigit_of_mem_digits {b : Base} {uppercase : Bool} {m : Nat} {c : Char} (hm : m < 2 ^ 128)
    (hc : c ∈ digits b uppercase m) : b.isDigit c = true :=
  (denotes_digits b uppercase hm).isDigit_of_mem c hc

namespace Layout

variable {layout : Layout} {t : IntType} {value : Int} {c : Char}

theorem length_sign_le (layout : Layout) (negative : Bool) :
    (layout.sign negative).length ≤ 1 := by
  unfold sign
  split_ifs <;> simp

/-- The prefix is longest in base sixteen, where `maxDigits` is least. -/
theorem length_basePrefix_add_le (layout : Layout) (m : Nat) :
    (layout.basePrefix m).length + layout.base.maxDigits ≤ 44 := by
  unfold basePrefix
  cases layout.base with
  | ten => simp [Base.maxDigits]
  | eight => split_ifs <;> decide
  | sixteen => split_ifs <;> decide

/-- The numeral of a 128-bit `value` has 45 characters at most: a sign, and 44 of prefix and digits.
-/
theorem length_bare_le (layout : Layout) (hv : t.InRange value) :
    (layout.bare value).length ≤ 45 := by
  have hm : value.natAbs < 2 ^ 128 := hv.natAbs_lt
  have hsign := layout.length_sign_le (value < 0)
  have hprefix := layout.length_basePrefix_add_le value.natAbs
  have hpos : 0 < layout.base.maxDigits := by cases layout.base <;> decide
  have hdigits := length_digits_le layout.uppercase hm hpos (hm.trans_le layout.base.two_pow_le)
  rw [bare_eq, List.length_append, List.length_append]
  omega

theorem isControl_of_mem_sign {negative : Bool} (hc : c ∈ layout.sign negative) :
    Text.isControl c = false := by
  have hall : (layout.sign negative).all (!Text.isControl ·) = true := by
    unfold sign
    split_ifs <;> decide
  simpa using List.all_eq_true.mp hall c hc

theorem isControl_of_mem_basePrefix {m : Nat} (hc : c ∈ layout.basePrefix m) :
    Text.isControl c = false := by
  have hall : (layout.basePrefix m).all (!Text.isControl ·) = true := by
    unfold basePrefix
    cases layout.base with
    | ten => rfl
    | eight => split_ifs <;> decide
    | sixteen => split_ifs <;> decide
  simpa using List.all_eq_true.mp hall c hc

/-- A control character can only come from the fill, for there is none in the numeral of `value`. -/
theorem isControl_of_mem_bare (hv : t.InRange value) (hc : c ∈ layout.bare value) :
    Text.isControl c = false := by
  rw [bare_eq, List.mem_append, List.mem_append] at hc
  -- sign, prefix and digits one by one
  rcases hc with (hsign | hprefix) | hdigit
  · exact isControl_of_mem_sign hsign
  · exact isControl_of_mem_basePrefix hprefix
  · exact Base.isControl_of_isDigit (isDigit_of_mem_digits hv.natAbs_lt hdigit)

/-! ### Fields -/

/-- Wherever the fill goes, the rendering of `value` is the fill and the numeral. -/
theorem render_perm (layout : Layout) (value : Int) :
    (layout.render value).Perm (layout.padding value ++ layout.bare value) := by
  cases halign : layout.alignment with
  | left =>
    rw [render_left halign]
    exact List.perm_append_comm
  | right => rw [render_right halign]
  | internal =>
    rw [render_internal halign, bare_eq, ← List.append_assoc]
    exact List.perm_append_comm.append_right _

/-- A rendering is as wide as the `layout` asks for, or as long as the numeral if that is longer. -/
theorem length_render (layout : Layout) (value : Int) :
    (layout.render value).length = max layout.width (layout.bare value).length := by
  -- the subtraction is cut off at zero, which is where the maximum comes from
  have hpadding : (layout.padding value).length = layout.width - (layout.bare value).length :=
    List.length_replicate
  rw [(layout.render_perm value).length_eq, List.length_append, hpadding]
  omega

/-- If the fill is no control character, neither is a character `c` of the field. -/
theorem isControl_of_mem_render (hv : t.InRange value) (hfill : Text.isControl layout.fill = false)
    (hc : c ∈ layout.render value) : Text.isControl c = false := by
  rw [(layout.render_perm value).mem_iff, List.mem_append] at hc
  rcases hc with hc | hc
  · rw [eq_fill_of_mem_padding hc]
    exact hfill
  · exact isControl_of_mem_bare hv hc

end Layout

end Numeral128
