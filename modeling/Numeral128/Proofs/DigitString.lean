import Mathlib.Data.Nat.Digits.Defs
import Mathlib.Tactic.Ring
import Numeral128.Rendering
import Numeral128.Text.Blank

/-!
# Digit strings and what they denote

`Base.valueOf b ds` is the number that the digit string `ds` denotes in base `b`, the most
significant digit first.  It grows with every digit (`valueOf_concat`, `valueOf_le_append`), and
leading zeros do not change it (`Denotes.zeros_append`).

The characters that can stand beside a numeral (blanks, signs and the letter of the prefix of base
sixteen) are no digits in any base, and the character that is written for a digit is read as this
digit (`Base.digit?_digitChar`).
-/

namespace Numeral128

/-- A property `P` of all characters below `bound` is checked number by number. -/
theorem forall_char_of_lt {P : Char → Prop} {bound : Nat} (h : ∀ n < bound, P (Char.ofNat n))
    {c : Char} (hc : c.toNat < bound) : P c := by
  have hp := h c.toNat hc
  rwa [Char.ofNat_toNat] at hp

namespace Base

/-! ### Digit characters -/

/-- Whether `c` is a digit in base `b`. -/
def isDigit (b : Base) (c : Char) : Bool := (b.digit? c).isSome

/-- The value of the digit `c` in base `b`; zero if `c` is no digit. -/
def digitValue (b : Base) (c : Char) : Nat := (b.digit? c).getD 0

theorem digit?_zero (b : Base) : b.digit? '0' = some 0 := by cases b <;> decide

theorem isDigit_zero (b : Base) : b.isDigit '0' = true := by rw [isDigit, digit?_zero]; rfl

theorem digitValue_zero (b : Base) : b.digitValue '0' = 0 := by rw [digitValue, digit?_zero]; rfl

theorem isDigit_plus (b : Base) : b.isDigit '+' = false := by cases b <;> decide

theorem isDigit_minus (b : Base) : b.isDigit '-' = false := by cases b <;> decide

theorem isDigit_of_digit? {b : Base} {c : Char} {d : Nat} (h : b.digit? c = some d) :
    b.isDigit c = true := by
  rw [isDigit, h, Option.isSome_some]

theorem digitValue_of_digit? {b : Base} {c : Char} {d : Nat} (h : b.digit? c = some d) :
    b.digitValue c = d := by
  rw [digitValue, h, Option.getD_some]

/-- Digits are among the visible characters of ASCII, from `'0'` to `'f'`. -/
theorem visible_of_isDigit {b : Base} {c : Char} (h : b.isDigit c = true) :
    0x30 ≤ c.toNat ∧ c.toNat ≤ 0x66 := by
  obtain ⟨d, hd⟩ := Option.isSome_iff_exists.mp h
  have hhex := (Option.filter_eq_some_iff.mp hd).1
  -- a digit, a small letter or a capital letter, each between two bounds
  unfold hexValue? at hhex
  split_ifs at hhex with hdigit hlower hupper
  · have hlow : 0x30 ≤ c.toNat := hdigit.1
    have hhigh : c.toNat ≤ 0x39 := hdigit.2
    omega
  · have hlow : 0x61 ≤ c.toNat := hlower.1
    have hhigh : c.toNat ≤ 0x66 := hlower.2
    omega
  · have hlow : 0x41 ≤ c.toNat := hupper.1
    have hhigh : c.toNat ≤ 0x46 := hupper.2
    omega

/-- A property `P` of a digit and its value is checked on the characters of ASCII, whatever the base
`b` is. -/
theorem forall_digit {P : Char → Nat → Prop}
    (h : ∀ n < 128, ∀ d ∈ hexValue? (Char.ofNat n), P (Char.ofNat n) d) {b : Base} {c : Char}
    (hc : b.isDigit c = true) : P c (b.digitValue c) := by
  obtain ⟨d, hd⟩ := Option.isSome_iff_exists.mp hc
  -- all digits are visible characters, so that the table of ASCII is enough
  have hascii : c.toNat < 128 := Nat.lt_of_le_of_lt (visible_of_isDigit hc).2 (by decide)
  rw [digitValue_of_digit? hd]
  exact forall_char_of_lt (P := fun c => ∀ d ∈ hexValue? c, P c d) h hascii d
    (Option.filter_eq_some_iff.mp hd).1

/-- Blanks are no digits, so that they end a numeral in every base `b`. -/
theorem isDigit_of_isBlank {c : Char} (b : Base) (h : isBlank c = true) : b.isDigit c = false := by
  simp only [isBlank, Bool.or_eq_true, decide_eq_true_eq] at h
  -- six blanks in three bases
  rcases h with ((((rfl | rfl) | rfl) | rfl) | rfl) | rfl <;> cases b <;> decide

theorem isBlank_of_isDigit {b : Base} {c : Char} (h : b.isDigit c = true) : isBlank c = false := by
  cases hc : isBlank c with
  | false => rfl
  | true => rw [isDigit_of_isBlank b hc] at h; exact absurd h (by decide)

/-- Every digit of base `eight` is a digit of base `ten`. -/
theorem isDigit_ten_of_eight {c : Char} (h : eight.isDigit c = true) : ten.isDigit c = true := by
  obtain ⟨d, hd⟩ := Option.isSome_iff_exists.mp h
  rw [digit?, Option.filter_eq_some_iff] at hd
  have h8 : d < 8 := of_decide_eq_true hd.2
  have h10 : decide (d < ten.toNat) = true := decide_eq_true (show d < 10 by omega)
  exact isDigit_of_digit? (Option.filter_eq_some_iff.mpr ⟨hd.1, h10⟩)

/-- The letters of the prefix of base sixteen are no digits, not even there. -/
theorem not_letter_of_isDigit {b : Base} {c : Char} (h : b.isDigit c = true) :
    ¬ (c = 'x' ∨ c = 'X') := by
  have hletter : b.isDigit 'x' = false ∧ b.isDigit 'X' = false := by cases b <;> decide
  rintro (rfl | rfl)
  · rw [hletter.1] at h
    exact absurd h (by decide)
  · rw [hletter.2] at h
    exact absurd h (by decide)

/-- The character that is written for the digit `d` is read as `d`, in either case. -/
theorem digit?_digitChar {b : Base} {uppercase : Bool} {d : Nat} (h : d < b.toNat) :
    b.digit? (digitChar uppercase d) = some d := by
  -- the table is checked as a whole; no base has more digits than sixteen
  have hhex : ∀ uppercase, ∀ d < 16, hexValue? (digitChar uppercase d) = some d := by decide
  have hd : d < 16 := Nat.lt_of_lt_of_le h b.toNat_le_sixteen
  rw [digit?, Option.filter_eq_some_iff]
  exact ⟨hhex uppercase d hd, decide_eq_true h⟩

/-- Only the digit zero is written as `'0'`. -/
theorem digitChar_ne_zero {b : Base} {uppercase : Bool} {d : Nat} (h : d < b.toNat) (hd : d ≠ 0) :
    digitChar uppercase d ≠ '0' := by
  intro hc
  have h1 : b.digit? (digitChar uppercase d) = some d := digit?_digitChar h
  rw [hc, digit?_zero] at h1
  exact hd (Option.some.inj h1).symm

/-! ### Values -/

/-- The number that `ds` denotes in base `b`, the most significant digit first. -/
def valueOf (b : Base) (ds : List Char) : Nat :=
  Nat.ofDigits b.toNat (ds.map b.digitValue).reverse

theorem valueOf_nil (b : Base) : b.valueOf [] = 0 := rfl

/-- Digits `ys` after `xs` move the value of `xs` up by as many places. -/
theorem valueOf_append (b : Base) (xs ys : List Char) :
    b.valueOf (xs ++ ys) = b.valueOf xs * b.toNat ^ ys.length + b.valueOf ys := by
  simp only [valueOf, List.map_append, List.reverse_append, Nat.ofDigits_append,
    List.length_reverse, List.length_map]
  ring

theorem valueOf_singleton (b : Base) (c : Char) : b.valueOf [c] = b.digitValue c := by
  simp [valueOf]

/-- A further digit `c` multiplies the value by the base and adds its own. -/
theorem valueOf_concat (b : Base) (ds : List Char) (c : Char) :
    b.valueOf (ds ++ [c]) = b.valueOf ds * b.toNat + b.digitValue c := by
  rw [valueOf_append, valueOf_singleton, List.length_singleton, pow_one]

/-- The value never falls when further digits `ys` are read. -/
theorem valueOf_le_append (b : Base) (xs ys : List Char) : b.valueOf xs ≤ b.valueOf (xs ++ ys) := by
  have hpos : 0 < b.toNat ^ ys.length := Nat.pow_pos b.toNat_pos
  rw [valueOf_append]
  calc b.valueOf xs ≤ b.valueOf xs * b.toNat ^ ys.length := Nat.le_mul_of_pos_right _ hpos
    _ ≤ _ := Nat.le_add_right _ _

theorem valueOf_replicate_zero (b : Base) (n : Nat) : b.valueOf (List.replicate n '0') = 0 := by
  induction n with
  | zero => rfl
  | succ n ih =>
    rw [List.replicate_succ', valueOf_concat, ih, digitValue_zero, Nat.zero_mul]

/-- Leading zeros do not change the value of `ds`. -/
theorem valueOf_zeros_append (b : Base) (n : Nat) (ds : List Char) :
    b.valueOf (List.replicate n '0' ++ ds) = b.valueOf ds := by
  rw [valueOf_append, valueOf_replicate_zero, Nat.zero_mul, Nat.zero_add]

/-- The string `ds` consists of digits of base `b`, one at least, and denotes `m`. -/
structure Denotes (b : Base) (ds : List Char) (m : Nat) : Prop where
  ne_nil : ds ≠ []
  isDigit_of_mem : ∀ c ∈ ds, b.isDigit c = true
  valueOf_eq : b.valueOf ds = m

theorem denotes_zero (b : Base) : b.Denotes ['0'] 0 where
  ne_nil := List.cons_ne_nil _ _
  isDigit_of_mem := List.forall_mem_singleton.mpr b.isDigit_zero
  valueOf_eq := by rw [valueOf_singleton, digitValue_zero]

/-- With `n` zeros before it a digit string denotes the same number `m`. -/
theorem Denotes.zeros_append {b : Base} {ds : List Char} {m : Nat} (h : b.Denotes ds m) (n : Nat) :
    b.Denotes (List.replicate n '0' ++ ds) m where
  ne_nil := List.append_ne_nil_of_right_ne_nil _ h.ne_nil
  isDigit_of_mem := by
    intro c hc
    rcases List.mem_append.mp hc with hc | hc
    · rw [List.eq_of_mem_replicate hc, isDigit_zero]
    · exact h.isDigit_of_mem c hc
  valueOf_eq := by rw [valueOf_zeros_append, h.valueOf_eq]

end Base

end Numeral128
