import Mathlib.Order.Bounds.Defs
import Numeral128.IntType
import Numeral128.Proofs.DigitString
import Numeral128.Rejection

/-!
# Accumulating a numeral digit by digit

The bounds that are compared with before a digit is appended are exact: a digit is refused just in
case the integer that the longer numeral denotes leaves the range of the type (`append?_eq`).

`foldDigits` appends the digits at the start of a text.  While it runs, the accumulator is the value
of the digits read so far, so that it ends with the value of the whole run if that lies in the range
(`foldDigits_of_inRange`), and right after the digit with which the value leaves the range otherwise
(`foldDigits_of_not_inRange`).  Since the value of a digit string grows with its length, the range
is never entered again (`InRange.of_append`).
-/

namespace Numeral128

/-- The integer with the magnitude `n`, negative or not. -/
def applySign (negative : Bool) (n : Nat) : Int := if negative then -n else n

theorem applySign_true (n : Nat) : applySign true n = -n := rfl

theorem applySign_false (n : Nat) : applySign false n = n := rfl

theorem applySign_zero (negative : Bool) : applySign negative 0 = 0 := by cases negative <;> rfl

/-- An integer is made of its sign and its magnitude. -/
theorem applySign_natAbs (value : Int) : applySign (decide (value < 0)) value.natAbs = value := by
  by_cases h : value < 0
  · rw [decide_eq_true h, applySign_true]
    omega
  · rw [decide_eq_false h, applySign_false]
    omega

/-- The sign does not change the magnitude `n`. -/
theorem natAbs_applySign (negative : Bool) (n : Nat) : (applySign negative n).natAbs = n := by
  cases negative with
  | false => exact Int.natAbs_natCast n
  | true => rw [applySign_true, Int.natAbs_neg, Int.natAbs_natCast]

/-- The sign of `n` makes it negative, unless it is zero. -/
theorem applySign_neg_iff (negative : Bool) (n : Nat) :
    applySign negative n < 0 ↔ negative = true ∧ n ≠ 0 := by
  cases negative with
  | false =>
    rw [applySign_false]
    simp
  | true =>
    rw [applySign_true]
    simp only [true_and]
    omega

namespace IntType

variable {t : IntType} {b : Base} {negative : Bool}

/-! ### The range -/

theorem lower_signed : signed.lower = -2 ^ 127 := by decide

theorem upper_signed : signed.upper = 2 ^ 127 - 1 := by decide

theorem upper_unsigned : unsigned.upper = 2 ^ 128 - 1 := by decide

theorem lower_nonpos (t : IntType) : t.lower ≤ 0 := by cases t <;> decide

theorem upper_nonneg (t : IntType) : 0 ≤ t.upper := by cases t <;> decide

/-- Every base lies in the range of every type `t`, so that the guards do not leave it. -/
theorem toNat_le_upper (t : IntType) (b : Base) : (b.toNat : Int) ≤ t.upper := by
  cases t <;> cases b <;> decide

theorem lower_signed_le (b : Base) : signed.lower ≤ -(b.toNat : Int) := by cases b <;> decide

/-- The magnitude of a `value` of either type takes at most 128 bits. -/
theorem InRange.natAbs_lt {value : Int} (h : t.InRange value) : value.natAbs < 2 ^ 128 := by
  obtain ⟨hlower, hupper⟩ := h
  cases t with
  | signed =>
    rw [lower_signed] at hlower
    rw [upper_signed] at hupper
    omega
  | unsigned =>
    have hnonneg : 0 ≤ value := hlower
    rw [upper_unsigned] at hupper
    omega

/-- With the integer of magnitude `n`, the range contains all between it and zero. -/
theorem InRange.of_le {m n : Nat} (h : t.InRange (applySign negative n)) (hmn : m ≤ n) :
    t.InRange (applySign negative m) := by
  obtain ⟨hlower, hupper⟩ := h
  have h0 := t.lower_nonpos
  have h1 := t.upper_nonneg
  cases negative with
  | false =>
    rw [applySign_false] at hlower hupper ⊢
    exact ⟨by omega, by omega⟩
  | true =>
    rw [applySign_true] at hlower hupper ⊢
    exact ⟨by omega, by omega⟩

/-- The digits `xs` denote a value in the range if those with `ys` after them do. -/
theorem InRange.of_append {xs ys : List Char}
    (h : t.InRange (applySign negative (b.valueOf (xs ++ ys)))) :
    t.InRange (applySign negative (b.valueOf xs)) :=
  h.of_le (b.valueOf_le_append xs ys)

/-! ### One digit -/

/-- The guard of upward accumulation is exact: `acc` is above it just in case the value with the
digit `d` is above the greatest integer of `t`. -/
theorem upper_tdiv_lt_iff (t : IntType) (acc : Int) {d : Nat} (hd : d < b.toNat) :
    (t.upper - d).tdiv b.toNat < acc ↔ ¬ acc * b.toNat + d ≤ t.upper := by
  have hb : (0 : Int) < b.toNat := Int.natCast_pos.mpr b.toNat_pos
  have hroom : 0 ≤ t.upper - d := by have := t.toNat_le_upper b; omega
  -- nothing is rounded away: a quotient is below `acc` just in case the dividend is below the
  -- product
  rw [Int.tdiv_eq_ediv_of_nonneg hroom, Int.ediv_lt_iff_lt_mul hb]
  omega

/-- The guard of downward accumulation is exact for each digit `d`. -/
theorem lt_lower_tdiv_iff (acc : Int) {d : Nat} (hd : d < b.toNat) :
    acc < (signed.lower + d).tdiv b.toNat ↔ ¬ signed.lower ≤ acc * b.toNat - d := by
  have hb : (0 : Int) < b.toNat := Int.natCast_pos.mpr b.toNat_pos
  have hroom : 0 ≤ -(signed.lower + d) := by have := lower_signed_le b; omega
  -- rounding toward zero is rounding upward here: the magnitudes are divided
  have hneg : (signed.lower + d).tdiv b.toNat = -(-(signed.lower + d) / b.toNat) := by
    rw [← Int.tdiv_eq_ediv_of_nonneg hroom, ← Int.neg_tdiv, neg_neg]
  rw [hneg, lt_neg, Int.ediv_lt_iff_lt_mul hb, neg_mul]
  omega

/-- What is computed when `d` is appended upward: two intermediate results, and two more if the
guard lets the digit pass. -/
theorem appendUp_eq (t : IntType) {acc : Int} {d : Nat} (hd : d < b.toNat) :
    t.appendUp b acc d =
      if acc * b.toNat + d ≤ t.upper then
        ⟨[t.upper - d, (t.upper - d).tdiv b.toNat, acc * b.toNat, acc * b.toNat + d],
          some (acc * b.toNat + d)⟩
      else ⟨[t.upper - d, (t.upper - d).tdiv b.toNat], none⟩ := by
  have hguard := t.upper_tdiv_lt_iff acc hd
  rw [appendUp]
  by_cases h : acc * b.toNat + d ≤ t.upper
  · rw [if_neg (by rw [hguard, not_not]; exact h), if_pos h]
  · rw [if_pos (hguard.mpr h), if_neg h]

/-- What is computed when `d` is appended downward. -/
theorem appendDown_eq {acc : Int} {d : Nat} (hd : d < b.toNat) :
    signed.appendDown b acc d =
      if signed.lower ≤ acc * b.toNat - d then
        ⟨[signed.lower + d, (signed.lower + d).tdiv b.toNat, acc * b.toNat, acc * b.toNat - d],
          some (acc * b.toNat - d)⟩
      else ⟨[signed.lower + d, (signed.lower + d).tdiv b.toNat], none⟩ := by
  have hguard := lt_lower_tdiv_iff acc hd
  rw [appendDown]
  by_cases h : signed.lower ≤ acc * b.toNat - d
  · rw [if_neg (by rw [hguard, not_not]; exact h), if_pos h]
  · rw [if_pos (hguard.mpr h), if_neg h]

theorem accumulator_appendUp {acc : Int} {d : Nat} (hd : d < b.toNat) :
    (t.appendUp b acc d).accumulator =
      if acc * b.toNat + d ≤ t.upper then some (acc * b.toNat + d) else none := by
  rw [appendUp_eq t hd, apply_ite AppendStep.accumulator]

theorem accumulator_appendDown {acc : Int} {d : Nat} (hd : d < b.toNat) :
    (signed.appendDown b acc d).accumulator =
      if signed.lower ≤ acc * b.toNat - d then some (acc * b.toNat - d) else none := by
  rw [appendDown_eq hd, apply_ite AppendStep.accumulator]

/-- A digit `d` is appended just in case the integer stays in the range of `t`. -/
theorem append?_eq {n d : Nat} (hsign : negative = true → t = signed) (hd : d < b.toNat) :
    t.append? b negative (applySign negative n) d =
      if t.InRange (applySign negative (n * b.toNat + d)) then
        some (applySign negative (n * b.toNat + d))
      else none := by
  have hlower := t.lower_nonpos
  have hupper := t.upper_nonneg
  cases negative with
  | false =>
    -- without a minus sign both types accumulate upward
    have happend : t.append b false n d = t.appendUp b n d := by cases t <;> rfl
    have hrange : t.InRange (n * b.toNat + d : Nat) ↔ (n * b.toNat + d : Int) ≤ t.upper := by
      rw [InRange]
      push_cast
      have : (0 : Int) ≤ n * b.toNat + d := by positivity
      omega
    simp only [applySign_false, append?, happend, accumulator_appendUp hd, hrange]
    push_cast
    rfl
  | true =>
    -- only the signed type has negative integers
    obtain rfl := hsign rfl
    have hrange : signed.InRange (-(n * b.toNat + d : Nat)) ↔
        signed.lower ≤ -(n : Int) * b.toNat - d := by
      rw [InRange]
      push_cast
      have : (0 : Int) ≤ n * b.toNat + d := by positivity
      rw [neg_mul]
      omega
    -- subtracting the digit downward is adding it to the magnitude
    have heq : -(n : Int) * b.toNat - d = -((n * b.toNat + d : Nat) : Int) := by push_cast; ring
    simp only [applySign_true, append?, append, accumulator_appendDown hd, hrange]
    rw [heq]

end IntType

/-! ### A run of digits -/

open IntType

variable {t : IntType} {b : Base} {negative : Bool}

/-- Appends the digits at the start of a text to the accumulator `acc`.  Gives the outcome and the
text that is left: the first character that is no digit is left, a digit that is refused is not. -/
def foldDigits (t : IntType) (b : Base) (negative : Bool) (acc : Int) :
    List Char → Except Rejection Int × List Char
  | [] => (.ok acc, [])
  | c :: cs =>
    match b.digit? c with
    | none => (.ok acc, c :: cs)
    | some d =>
      match t.append? b negative acc d with
      | none => (.error (.outOfRange b), cs)
      | some acc => foldDigits t b negative acc cs

/-- One step of the run: after the digits `ds` the accumulator is their value, and it is so again
after the further digit `c`, or this digit is refused. -/
theorem foldDigits_cons {ds cs : List Char} {c : Char} (hsign : negative = true → t = .signed)
    (hc : b.isDigit c = true) :
    foldDigits t b negative (applySign negative (b.valueOf ds)) (c :: cs) =
      if t.InRange (applySign negative (b.valueOf (ds ++ [c]))) then
        foldDigits t b negative (applySign negative (b.valueOf (ds ++ [c]))) cs
      else (.error (.outOfRange b), cs) := by
  obtain ⟨d, hd⟩ := Option.isSome_iff_exists.mp hc
  have happend := append?_eq (n := b.valueOf ds) hsign (Base.digit?_lt hd)
  rw [← Base.digitValue_of_digit? hd, ← Base.valueOf_concat,
    Base.digitValue_of_digit? hd] at happend
  rw [foldDigits, hd]
  -- the step refuses a digit exactly when the value with it leaves the range
  by_cases h : t.InRange (applySign negative (b.valueOf (ds ++ [c])))
  · rw [if_pos h] at happend ⊢
    simp only [happend]
  · rw [if_neg h] at happend ⊢
    simp only [happend]

/-- If the digits `ds` and those that `cs` begins with have a value in the range, the run ends with
this value and leaves the characters after it. -/
theorem foldDigits_of_inRange (hsign : negative = true → t = .signed) :
    ∀ {cs ds : List Char},
      t.InRange (applySign negative (b.valueOf (ds ++ cs.takeWhile b.isDigit))) →
      foldDigits t b negative (applySign negative (b.valueOf ds)) cs =
        (.ok (applySign negative (b.valueOf (ds ++ cs.takeWhile b.isDigit))),
          cs.dropWhile b.isDigit) := by
  -- by induction on the text; the digits before it, whose value the accumulator is, vary
  intro cs
  induction cs with
  | nil =>
    intro ds _
    rw [foldDigits, List.takeWhile_nil, List.dropWhile_nil, List.append_nil]
  | cons c cs ih =>
    intro ds h
    by_cases hc : b.isDigit c = true
    · -- a digit goes to those before it; with the whole run its value is in the range
      rw [List.takeWhile_cons_of_pos hc, List.append_cons ds c] at h ⊢
      rw [List.dropWhile_cons_of_pos hc, foldDigits_cons hsign hc, if_pos h.of_append, ih h]
    · have hnone : b.digit? c = none := by
        rwa [Base.isDigit, Option.not_isSome_iff_eq_none] at hc
      rw [List.takeWhile_cons_of_neg hc, List.dropWhile_cons_of_neg hc, foldDigits, hnone,
        List.append_nil]

/-- A run of digits stops right after the digit `c` with which the value leaves the range, whatever
the characters `cs` after it are. -/
theorem foldDigits_of_not_inRange (hsign : negative = true → t = .signed) {c : Char}
    {cs : List Char} (hc : b.isDigit c = true) :
    ∀ {xs ds : List Char}, (∀ x ∈ xs, b.isDigit x = true) →
      t.InRange (applySign negative (b.valueOf (ds ++ xs))) →
      ¬ t.InRange (applySign negative (b.valueOf (ds ++ xs ++ [c]))) →
      foldDigits t b negative (applySign negative (b.valueOf ds)) (xs ++ c :: cs) =
        (.error (.outOfRange b), cs) := by
  intro xs
  induction xs with
  | nil =>
    intro ds _ _ hout
    -- the run is over, and `c` is refused
    rw [List.append_nil] at hout
    rw [List.nil_append, foldDigits_cons hsign hc, if_neg hout]
  | cons x xs ih =>
    intro ds hxs hin hout
    rw [List.append_cons ds x] at hin hout
    rw [List.cons_append, foldDigits_cons hsign (hxs x List.mem_cons_self), if_pos hin.of_append]
    exact ih (fun y hy => hxs y (List.mem_cons_of_mem x hy)) hin hout

end Numeral128
