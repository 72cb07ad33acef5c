import Numeral128.Proofs.Accumulation
import Numeral128.Proofs.Padding

/-!
# Renderings in order

Digit characters order like the digits they stand for (`digitChar_lt_iff`), in either case: the
letters come after the ten figures.  So digit strings of one length order like the numbers they
denote (`lastDigits_lt_iff`), by induction on the length: the first digit decides unless it is the
same.  A number with fewer digits than another is less (`Base.lt_of_digitCount_lt`), and zeros
before the digits of a number only make it longer (`zeros_append_lastDigits`).

Hence values in a layout that shows digits only order like their numerals, the shorter ones first,
and if they are filled up with zeros to one width they order like texts
(`Layout.lt_iff_render_lt`).
-/

namespace Numeral128

/-! ### Digit strings of one length -/

/-- The characters of `d` and `e` in one case order like the digits themselves. -/
theorem digitChar_lt_iff {uppercase : Bool} {d e : Nat} (hd : d < 16) (he : e < 16) :
    digitChar uppercase d < digitChar uppercase e ↔ d < e := by
  have hall : ∀ uppercase, ∀ d < 16, ∀ e < 16,
      (digitChar uppercase d < digitChar uppercase e ↔ d < e) := by decide
  exact hall uppercase d hd e he

theorem digitChar_inj {uppercase : Bool} {d e : Nat} (hd : d < 16) (he : e < 16) :
    digitChar uppercase d = digitChar uppercase e ↔ d = e := by
  refine ⟨fun h => ?_, fun h => h ▸ rfl⟩
  have hread : Base.sixteen.digit? (digitChar uppercase d) = some d := Base.digit?_digitChar hd
  rw [h, Base.digit?_digitChar he] at hread
  exact (Option.some.inj hread).symm

/-- Numbers of two places compare by the place of weight `p`, and then by the other. -/
theorem add_mul_lt_add_mul_iff {p x y d e : Nat} (hx : x < p) (hy : y < p) :
    x + p * d < y + p * e ↔ d < e ∨ d = e ∧ x < y := by
  rcases Nat.lt_trichotomy d e with h | rfl | h
  · have hmul : p * d + p ≤ p * e := Nat.mul_le_mul_left p h
    omega
  · omega
  · have hmul : p * e + p ≤ p * d := Nat.mul_le_mul_left p h
    omega

section LastDigits

variable (b : Base) (uppercase : Bool) (m n : Nat)

/-- The last `k` digits of two numbers order like the numbers without the others. -/
theorem lastDigits_lt_iff (k : Nat) :
    lastDigits b uppercase m k < lastDigits b uppercase n k ↔
      m % b.toNat ^ k < n % b.toNat ^ k := by
  induction k with
  | zero => simp [lastDigits, Nat.mod_one]
  | succ k ih =>
    have hdigit : ∀ x, x / b.toNat ^ k % b.toNat < 16 := fun x =>
      (Nat.mod_lt _ b.toNat_pos).trans_le b.toNat_le_sixteen
    have hrest : ∀ x, x % b.toNat ^ k < b.toNat ^ k := fun x =>
      Nat.mod_lt x (Nat.pow_pos b.toNat_pos)
    -- the first digits compare, and where they are the same the rest does, as in the numbers
    rw [lastDigits, lastDigits, List.cons_lt_cons_iff, digitChar_lt_iff (hdigit m) (hdigit n),
      digitChar_inj (hdigit m) (hdigit n), ih, Nat.mod_pow_succ, Nat.mod_pow_succ,
      add_mul_lt_add_mul_iff (hrest m) (hrest n)]

variable {m n}

/-- If these are all digits of `m` and `n`, they order like the numbers themselves. -/
theorem lastDigits_lt_iff_of_lt {k : Nat} (hm : m < b.toNat ^ k) (hn : n < b.toNat ^ k) :
    lastDigits b uppercase m k < lastDigits b uppercase n k ↔ m < n := by
  rw [lastDigits_lt_iff, Nat.mod_eq_of_lt hm, Nat.mod_eq_of_lt hn]

theorem lastDigits_inj_of_lt {k : Nat} (hm : m < b.toNat ^ k) (hn : n < b.toNat ^ k) :
    lastDigits b uppercase m k = lastDigits b uppercase n k ↔ m = n := by
  refine ⟨fun h => ?_, fun h => h ▸ rfl⟩
  have hvalue := valueOf_lastDigits b uppercase m k
  rw [h, valueOf_lastDigits, Nat.mod_eq_of_lt hm, Nat.mod_eq_of_lt hn] at hvalue
  exact hvalue.symm

/-- `z` zeros before all digits of a number are digits, too. -/
theorem zeros_append_lastDigits {k : Nat} (hm : m < b.toNat ^ k) (z : Nat) :
    List.replicate z '0' ++ lastDigits b uppercase m k = lastDigits b uppercase m (z + k) := by
  induction z with
  | zero => rw [List.replicate_zero, List.nil_append, Nat.zero_add]
  | succ z ih =>
    have hlt : m < b.toNat ^ (z + k) :=
      hm.trans_le (Nat.pow_le_pow_right b.toNat_pos (Nat.le_add_left k z))
    have hzero : digitChar uppercase 0 = '0' := by cases uppercase <;> rfl
    rw [List.replicate_succ, List.cons_append, ih, Nat.add_right_comm, lastDigits,
      Nat.div_eq_of_lt hlt, Nat.zero_mod, hzero]

end LastDigits

/-! ### Digits of different lengths -/

section Digits

variable {b : Base} {m n : Nat}

/-- The number with fewer digits, `m`, is less than `n`. -/
theorem Base.lt_of_digitCount_lt (h : b.digitCount m < b.digitCount n) : m < n := by
  have hn : b.toNat ^ b.digitCount m ≤ n := by
    rw [← Nat.not_lt, ← b.digitCount_le_iff (b.digitCount_pos m), Nat.not_le]
    exact h
  exact (b.lt_pow_digitCount m).trans_le hn

/-- Of `m` and `n` the one with fewer digits is less, and of two with as many digits the one whose
digits come first. -/
theorem lt_iff_digits_lt (uppercase : Bool) (hm : m < 2 ^ 128) (hn : n < 2 ^ 128) :
    m < n ↔
      (digits b uppercase m).length < (digits b uppercase n).length ∨
        (digits b uppercase m).length = (digits b uppercase n).length ∧
          digits b uppercase m < digits b uppercase n := by
  rw [length_digits b uppercase hm, length_digits b uppercase hn, digits_eq b uppercase hm,
    digits_eq b uppercase hn]
  -- with as many digits the texts have one length, and compare digit by digit
  rcases Nat.lt_trichotomy (b.digitCount m) (b.digitCount n) with h | h | h
  · exact iff_of_true (Base.lt_of_digitCount_lt h) (Or.inl h)
  · have hsame : m < b.toNat ^ b.digitCount n := h ▸ b.lt_pow_digitCount m
    rw [h, lastDigits_lt_iff, Nat.mod_eq_of_lt hsame, Nat.mod_eq_of_lt (b.lt_pow_digitCount n)]
    simp
  · have hlt : n < m := Base.lt_of_digitCount_lt h
    exact iff_of_false (by omega) (by omega)

end Digits

/-! ### Numerals without sign and prefix -/

namespace Layout

/-- Neither a plus sign nor a base prefix is shown.  Base ten has no prefix. -/
structure ShowsDigitsOnly (layout : Layout) : Prop where
  showPlus_eq : layout.showPlus = false
  showPrefix_eq : layout.base = .ten ∨ layout.showPrefix = false

variable {layout : Layout} {x y : Int}

theorem ShowsDigitsOnly.sign_eq (h : layout.ShowsDigitsOnly) : layout.sign false = [] := by
  rw [sign, h.showPlus_eq]
  rfl

theorem ShowsDigitsOnly.basePrefix_eq (h : layout.ShowsDigitsOnly) (m : Nat) :
    layout.basePrefix m = [] := by
  rcases h.showPrefix_eq with hten | hnone
  · rw [basePrefix, hten]
  · rw [basePrefix, hnone]
    cases layout.base <;> rfl

/-- A value `x` that is not negative has no head before its digits. -/
theorem ShowsDigitsOnly.head_eq (h : layout.ShowsDigitsOnly) (hx : 0 ≤ x) :
    layout.sign (x < 0) ++ layout.basePrefix x.natAbs = [] := by
  rw [decide_eq_false (Int.not_lt.mpr hx), h.sign_eq, h.basePrefix_eq, List.append_nil]

/-- So the numeral of `x` is its digits. -/
theorem ShowsDigitsOnly.bare_eq_digits (h : layout.ShowsDigitsOnly) (hx : 0 ≤ x) :
    layout.bare x = digits layout.base layout.uppercase x.natAbs := by
  rw [bare_eq, h.head_eq hx, List.nil_append]

/-- A width that the numeral of `x` does not exceed has room for all digits. -/
theorem ShowsDigitsOnly.digitCount_le (h : layout.ShowsDigitsOnly)
    (hx : IntType.unsigned.InRange x) (hwidth : (layout.bare x).length ≤ layout.width) :
    layout.base.digitCount x.natAbs ≤ layout.width := by
  rwa [h.bare_eq_digits hx.1, length_digits _ _ hx.natAbs_lt] at hwidth

/-- With zeros for fill before or inside the numeral, a field is the last `layout.width` digits of
its value. -/
theorem ShowsDigitsOnly.render_eq_lastDigits (h : layout.ShowsDigitsOnly)
    (hx : IntType.unsigned.InRange x) (hfill : layout.fill = '0')
    (halign : layout.alignment = .right ∨ layout.alignment = .internal)
    (hwidth : (layout.bare x).length ≤ layout.width) :
    layout.render x = lastDigits layout.base layout.uppercase x.natAbs layout.width := by
  have hm : x.natAbs < 2 ^ 128 := hx.natAbs_lt
  have hbare := h.bare_eq_digits hx.1
  -- without a head the zeros come first, whichever of the two alignments it is
  have hrender : layout.render x = layout.padding x ++ layout.bare x := by
    rcases halign with halign | halign
    · exact render_right halign
    · rw [render_internal halign, hbare, h.head_eq hx.1, List.nil_append]
  rw [hrender, padding, hbare, length_digits _ _ hm, hfill, digits_eq _ _ hm,
    zeros_append_lastDigits _ _ (layout.base.lt_pow_digitCount _),
    Nat.sub_add_cancel (h.digitCount_le hx hwidth)]

theorem ShowsDigitsOnly.natAbs_lt_pow_width (h : layout.ShowsDigitsOnly)
    (hx : IntType.unsigned.InRange x) (hwidth : (layout.bare x).length ≤ layout.width) :
    x.natAbs < layout.base.toNat ^ layout.width :=
  (layout.base.lt_pow_digitCount _).trans_le
    (Nat.pow_le_pow_right layout.base.toNat_pos (h.digitCount_le hx hwidth))

/-- **Numerals order like their values.**  Of two numerals of digits only the shorter one has the
lesser value, and of two of one length the one that comes first.  Filled up with zeros to one width
they order like texts, and different values have different texts. -/
theorem lt_iff_render_lt (hshows : layout.ShowsDigitsOnly) (hx : IntType.unsigned.InRange x)
    (hy : IntType.unsigned.InRange y) :
    (x < y ↔
      (layout.bare x).length < (layout.bare y).length ∨
        (layout.bare x).length = (layout.bare y).length ∧ layout.bare x < layout.bare y) ∧
    (layout.fill = '0' → layout.alignment = .right ∨ layout.alignment = .internal →
      (layout.bare x).length ≤ layout.width → (layout.bare y).length ≤ layout.width →
      (x < y ↔ layout.render x < layout.render y) ∧
        (x = y ↔ layout.render x = layout.render y)) := by
  have hx0 : 0 ≤ x := hx.1
  have hy0 : 0 ≤ y := hy.1
  constructor
  · rw [hshows.bare_eq_digits hx0, hshows.bare_eq_digits hy0,
      ← lt_iff_digits_lt _ hx.natAbs_lt hy.natAbs_lt]
    omega
  · intro hfill halign hwx hwy
    -- both values fit into the width, so that their texts are digits of one fixed length
    have hmx := hshows.natAbs_lt_pow_width hx hwx
    have hmy := hshows.natAbs_lt_pow_width hy hwy
    rw [hshows.render_eq_lastDigits hx hfill halign hwx,
      hshows.render_eq_lastDigits hy hfill halign hwy, lastDigits_lt_iff_of_lt _ _ hmx hmy,
      lastDigits_inj_of_lt _ _ hmx hmy]
    omega

/-- A shorter numeral can come later as a text, but not when it is filled up. -/
theorem lt_iff_render_lt_shorter :
    let layout : Layout :=
      { base := .sixteen, uppercase := true, width := 3, fill := '0', alignment := .internal }
    layout.ShowsDigitsOnly ∧ IntType.unsigned.InRange 0xff ∧ IntType.unsigned.InRange 0x100 ∧
      (layout.bare 0xff).length ≤ layout.width ∧ (layout.bare 0x100).length ≤ layout.width ∧
      (layout.bare 0xff).length < (layout.bare 0x100).length ∧
      ¬ layout.bare 0xff < layout.bare 0x100 ∧ layout.render 0xff < layout.render 0x100 := by
  intro layout
  have hshows : layout.ShowsDigitsOnly := ⟨rfl, Or.inr rfl⟩
  have hx : IntType.unsigned.InRange 0xff := by decide
  have hy : IntType.unsigned.InRange 0x100 := by decide
  have hwx : (layout.bare 0xff).length ≤ layout.width := by decide +kernel
  have hwy : (layout.bare 0x100).length ≤ layout.width := by decide +kernel
  -- `f` comes after `1`
  have hlater : ¬ layout.bare 0xff < layout.bare 0x100 := by decide +kernel
  obtain ⟨hbare, hfilled⟩ := lt_iff_render_lt hshows hx hy
  have hshorter : (layout.bare 0xff).length < (layout.bare 0x100).length :=
    (hbare.mp (by decide)).resolve_right fun h => hlater h.2
  have hrender : layout.render 0xff < layout.render 0x100 :=
    (hfilled rfl (Or.inr rfl) hwx hwy).1.mp (by decide)
  exact ⟨hshows, hx, hy, hwx, hwy, hshorter, hlater, hrender⟩

end Layout

end Numeral128
