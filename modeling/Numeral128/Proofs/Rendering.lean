import Mathlib.Algebra.Order.Ring.Nat
import Mathlib.Data.Nat.Digits.Lemmas
import Numeral128.Proofs.DigitString

/-!
# The digits of a magnitude

Digits are written from the end of a buffer.  `DigitBuffer.Holds b uppercase m k buffer` is the
invariant of the loop: after `k` rounds the buffer ends with the last `k` digits of `m`
(`lastDigits`), and what is left to be written is `m` without them.  A round keeps it
(`Holds.write`), and so do several (`Holds.rounds`).  Nothing is left just in case all digits of `m`
are written (`Base.digitCount`), so the loop stops after as many rounds (`rounds_digitCount`).
Forty-three digits suffice for every 128-bit magnitude (`digitCount_le_bufferSize`), and
`DigitBuffer.rounds_within_buffer` follows the loop round by round: it never leaves the buffer.

Hence the digits of a magnitude denote it (`denotes_digits`), and the first is not zero unless the
magnitude is (`digits_eq_cons`, `digits_zero`).
-/

namespace Numeral128

/-! ### The last digits of a number -/

/-- The last `k` digits of `m`, the most significant first. -/
def lastDigits (b : Base) (uppercase : Bool) (m : Nat) : Nat → List Char
  | 0 => []
  | k + 1 => digitChar uppercase (m / b.toNat ^ k % b.toNat) :: lastDigits b uppercase m k

section LastDigits

variable (b : Base) (uppercase : Bool) (m : Nat)

/-- The last `k` digits are as many, also if `m` has fewer: zeros stand before it. -/
theorem length_lastDigits (k : Nat) : (lastDigits b uppercase m k).length = k := by
  induction k with
  | zero => rfl
  | succ k ih => rw [lastDigits, List.length_cons, ih]

theorem digit?_lastDigit (k : Nat) :
    b.digit? (digitChar uppercase (m / b.toNat ^ k % b.toNat)) =
      some (m / b.toNat ^ k % b.toNat) :=
  Base.digit?_digitChar (Nat.mod_lt _ b.toNat_pos)

/-- All that is written are characters of digits in base `b`. -/
theorem exists_digitChar_of_mem_lastDigits {k : Nat} {c : Char}
    (h : c ∈ lastDigits b uppercase m k) : ∃ d, d < b.toNat ∧ c = digitChar uppercase d := by
  induction k with
  | zero => exact absurd h List.not_mem_nil
  | succ k ih =>
    rw [lastDigits, List.mem_cons] at h
    rcases h with rfl | h
    · exact ⟨_, Nat.mod_lt _ b.toNat_pos, rfl⟩
    · exact ih h

theorem isDigit_of_mem_lastDigits {k : Nat} {c : Char} (h : c ∈ lastDigits b uppercase m k) :
    b.isDigit c = true := by
  obtain ⟨d, hd, rfl⟩ := exists_digitChar_of_mem_lastDigits b uppercase m h
  exact Base.isDigit_of_digit? (Base.digit?_digitChar hd)

/-- The last `j` digits do not depend on digits before the last `k`. -/
theorem lastDigits_mod {j k : Nat} (hjk : j ≤ k) :
    lastDigits b uppercase (m % b.toNat ^ k) j = lastDigits b uppercase m j := by
  induction j with
  | zero => rfl
  | succ j ih =>
    -- the digit of weight `b ^ j` is among the last `k`
    have hpow : b.toNat ^ k = b.toNat ^ j * (b.toNat * b.toNat ^ (k - (j + 1))) := by
      rw [← pow_succ', ← pow_add]
      congr 1
      omega
    rw [lastDigits, lastDigits, ih (Nat.le_of_succ_le hjk), hpow, Nat.mod_mul_right_div_self,
      Nat.mod_mul_right_mod]

/-- The last `k` digits denote `m` without the others. -/
theorem valueOf_lastDigits (k : Nat) :
    b.valueOf (lastDigits b uppercase m k) = m % b.toNat ^ k := by
  induction k with
  | zero => rw [lastDigits, Base.valueOf_nil, pow_zero, Nat.mod_one]
  | succ k ih =>
    -- the first of them has the weight `b ^ k`
    rw [lastDigits, ← List.singleton_append, Base.valueOf_append, Base.valueOf_singleton,
      Base.digitValue_of_digit? (digit?_lastDigit b uppercase m k), length_lastDigits, ih,
      Nat.mod_pow_succ]
    ring

end LastDigits

/-! ### The number of digits -/

namespace Base

/-- The number of digits of `m` in base `b`.  Zero has one. -/
def digitCount (b : Base) (m : Nat) : Nat := if m = 0 then 1 else (Nat.digits b.toNat m).length

variable (b : Base) {m k : Nat}

/-- A number `m` has the least number of digits that suffices for it, and one at least. -/
theorem digitCount_le_iff (hk : 0 < k) : b.digitCount m ≤ k ↔ m < b.toNat ^ k := by
  rw [digitCount]
  split_ifs with hm
  · rw [hm]
    exact iff_of_true hk (Nat.pow_pos b.toNat_pos)
  · exact Nat.digits_length_le_iff b.two_le_toNat m

theorem digitCount_pos (m : Nat) : 0 < b.digitCount m := by
  rw [digitCount]
  split_ifs with hm
  · exact Nat.one_pos
  · exact List.length_pos_iff.mpr (Nat.digits_ne_nil_iff_ne_zero.mpr hm)

/-- As many digits as `m` has suffice for it. -/
theorem lt_pow_digitCount (m : Nat) : m < b.toNat ^ b.digitCount m :=
  (b.digitCount_le_iff (b.digitCount_pos m)).mp le_rfl

/-- Nothing is left of `m` without its last `k` digits just in case it has no more. -/
theorem div_pow_eq_zero_iff (hk : 0 < k) : m / b.toNat ^ k = 0 ↔ b.digitCount m ≤ k := by
  have hpow : b.toNat ^ k ≠ 0 := (Nat.pow_pos b.toNat_pos).ne'
  rw [digitCount_le_iff b hk, Nat.div_eq_zero_iff, or_iff_right hpow]

/-- Every 128-bit magnitude `m` has a cell for each of its digits. -/
theorem digitCount_le_bufferSize (hm : m < 2 ^ 128) : b.digitCount m ≤ bufferSize := by
  have hb : 8 ≤ b.toNat := by cases b <;> decide
  rw [digitCount_le_iff b (by decide)]
  -- the smallest base has the most digits
  calc m < 2 ^ 128 := hm
    _ ≤ 8 ^ bufferSize := by decide
    _ ≤ b.toNat ^ bufferSize := Nat.pow_le_pow_left hb bufferSize

end Base

/-! ### The loop -/

namespace DigitBuffer

variable {b : Base} {uppercase : Bool} {m j k : Nat} {buffer next last : DigitBuffer}

/-- The invariant of the loop: `k` digits of `m` have been written to the end of `buffer`. -/
structure Holds (b : Base) (uppercase : Bool) (m k : Nat) (buffer : DigitBuffer) : Prop where
  length_cells : buffer.cells.length = bufferSize
  start_add : buffer.start + k = bufferSize
  magnitude_eq : buffer.magnitude = m / b.toNat ^ k
  toList_eq : buffer.toList = lastDigits b uppercase m k

theorem holds_ofMagnitude (b : Base) (uppercase : Bool) (m : Nat) :
    (ofMagnitude m).Holds b uppercase m 0 where
  length_cells := List.length_replicate
  start_add := rfl
  magnitude_eq := by rw [pow_zero, Nat.div_one]; rfl
  toList_eq := rfl

/-- As long as there is a cell, a round writes one more digit. -/
theorem Holds.write (h : buffer.Holds b uppercase m k) (hk : k < bufferSize) :
    ∃ next, buffer.write? b uppercase = some next ∧ next.Holds b uppercase m (k + 1) := by
  have hadd := h.start_add
  obtain ⟨start, hstart⟩ : ∃ start, buffer.start = start + 1 := ⟨buffer.start - 1, by omega⟩
  have hlt : start < buffer.cells.length := by rw [h.length_cells]; omega
  refine ⟨_, by rw [write?, hstart], ?_, ?_, ?_, ?_⟩
  · rw [List.length_set, h.length_cells]
  · show start + (k + 1) = bufferSize
    omega
  · show buffer.magnitude / b.toNat = _
    rw [h.magnitude_eq, Nat.div_div_eq_div_mul, pow_succ]
  · -- the cells behind the new digit stay as they are
    have htail : buffer.cells.drop (start + 1) = lastDigits b uppercase m k := by
      rw [← hstart]
      exact h.toList_eq
    rw [toList, lastDigits, List.drop_eq_getElem_cons (by rwa [List.length_set]),
      List.getElem_set_self, List.drop_set_of_lt (Nat.lt_succ_self start), htail, h.magnitude_eq]

/-- The buffer after `k` rounds of the loop, if there is a cell for each. -/
def rounds? (b : Base) (uppercase : Bool) : Nat → DigitBuffer → Option DigitBuffer
  | 0, buffer => some buffer
  | k + 1, buffer => (buffer.write? b uppercase).bind (rounds? b uppercase k)

theorem rounds?_succ (h : buffer.write? b uppercase = some next) (k : Nat) :
    buffer.rounds? b uppercase (k + 1) = next.rounds? b uppercase k := by
  rw [rounds?, h, Option.bind_some]

/-- As long as there are cells, each round writes one more digit. -/
theorem Holds.rounds (h : buffer.Holds b uppercase m j) (hk : j + k ≤ bufferSize) :
    ∃ last, buffer.rounds? b uppercase k = some last ∧ last.Holds b uppercase m (j + k) := by
  induction k generalizing buffer j with
  | zero => exact ⟨buffer, rfl, h⟩
  | succ k ih =>
    obtain ⟨next, hnext, hholds⟩ := h.write (by omega)
    obtain ⟨last, hlast, hrounds⟩ := ih hholds (by omega)
    refine ⟨last, (rounds?_succ hnext k).trans hlast, ?_⟩
    rwa [← Nat.add_assoc, Nat.add_right_comm]

/-- One turn of the loop: the `buffer` is written, and it goes on from `next` unless nothing is
left. -/
theorem fill_of_write? (h : buffer.write? b uppercase = some next) :
    buffer.fill b uppercase = if next.magnitude = 0 then next else next.fill b uppercase := by
  rw [fill]
  split
  · rename_i hnone
    rw [h] at hnone
    cases hnone
  · rename_i next' hnext
    obtain rfl := Option.some.inj (h.symm.trans hnext)
    rfl

/-- The loop stops after the first round that leaves nothing: `k` rounds leave something, and the
one after them, with which `last` is reached, does not. -/
theorem fill_eq_of_rounds? (hlast : buffer.rounds? b uppercase (k + 1) = some last)
    (hzero : last.magnitude = 0)
    (hleft : ∀ i < k, ∀ x ∈ buffer.rounds? b uppercase (i + 1), x.magnitude ≠ 0) :
    buffer.fill b uppercase = last := by
  induction k generalizing buffer with
  | zero =>
    obtain ⟨next, hnext, hsome⟩ := Option.bind_eq_some_iff.mp hlast
    obtain rfl := Option.some.inj hsome
    rw [fill_of_write? hnext, if_pos hzero]
  | succ k ih =>
    obtain ⟨next, hnext, hrounds⟩ := Option.bind_eq_some_iff.mp hlast
    -- the first of the rounds leaves something, so that the loop goes on
    have hne : next.magnitude ≠ 0 := hleft 0 k.succ_pos next (rounds?_succ hnext 0)
    rw [fill_of_write? hnext, if_neg hne]
    refine ih hrounds fun i hi x hx => hleft (i + 1) (Nat.succ_lt_succ hi) x ?_
    rwa [rounds?_succ hnext]

/-- Something is left to be written until all digits of `m` are. -/
theorem Holds.magnitude_eq_zero_iff (h : buffer.Holds b uppercase m k) (hk : 0 < k) :
    buffer.magnitude = 0 ↔ b.digitCount m ≤ k := by
  rw [h.magnitude_eq, b.div_pow_eq_zero_iff hk]

end DigitBuffer

/-! ### All digits -/

section Digits

variable (b : Base) (uppercase : Bool) {m k : Nat}

/-- There is a cell for each of the first `k` digits, if `m` has as many. -/
theorem exists_rounds_ofMagnitude (hm : m < 2 ^ 128) (hk : k ≤ b.digitCount m) :
    ∃ buffer, (DigitBuffer.ofMagnitude m).rounds? b uppercase k = some buffer ∧
      buffer.Holds b uppercase m k := by
  have hsize : 0 + k ≤ bufferSize := by
    rw [Nat.zero_add]
    exact hk.trans (b.digitCount_le_bufferSize hm)
  have hrounds := (DigitBuffer.holds_ofMagnitude b uppercase m).rounds hsize
  rwa [Nat.zero_add] at hrounds

/-- The loop does a round for each digit of `m`. -/
theorem rounds_digitCount (hm : m < 2 ^ 128) :
    (DigitBuffer.ofMagnitude m).rounds? b uppercase (b.digitCount m) =
      some ((DigitBuffer.ofMagnitude m).fill b uppercase) := by
  obtain ⟨n, hn⟩ := Nat.exists_eq_add_one.mpr (b.digitCount_pos m)
  obtain ⟨last, hlast, hholds⟩ := exists_rounds_ofMagnitude b uppercase hm le_rfl
  have hzero : last.magnitude = 0 :=
    (hholds.magnitude_eq_zero_iff (b.digitCount_pos m)).mpr le_rfl
  rw [hn] at hlast
  rw [hn, hlast, DigitBuffer.fill_eq_of_rounds? hlast hzero]
  -- after any round before the last there are digits left
  intro i hi x hx
  obtain ⟨buffer, hbuffer, hbefore⟩ :=
    exists_rounds_ofMagnitude (k := i + 1) b uppercase hm (by omega)
  obtain rfl := Option.some.inj (hbuffer.symm.trans hx)
  rw [Ne, hbefore.magnitude_eq_zero_iff i.succ_pos]
  omega

/-- As many of the last digits are written as `m` has. -/
theorem digits_eq (hm : m < 2 ^ 128) :
    digits b uppercase m = lastDigits b uppercase m (b.digitCount m) := by
  obtain ⟨buffer, hbuffer, hholds⟩ := exists_rounds_ofMagnitude b uppercase hm le_rfl
  obtain rfl := Option.some.inj ((rounds_digitCount b uppercase hm).symm.trans hbuffer)
  exact hholds.toList_eq

theorem length_digits (hm : m < 2 ^ 128) : (digits b uppercase m).length = b.digitCount m := by
  rw [digits_eq b uppercase hm, length_lastDigits]

theorem exists_digitChar_of_mem_digits {c : Char} (hm : m < 2 ^ 128)
    (hc : c ∈ digits b uppercase m) : ∃ d, d < b.toNat ∧ c = digitChar uppercase d := by
  rw [digits_eq b uppercase hm] at hc
  exact exists_digitChar_of_mem_lastDigits b uppercase m hc

theorem digits_zero : digits b uppercase 0 = ['0'] := by
  rw [digits_eq b uppercase (Nat.two_pow_pos 128), Base.digitCount, if_pos rfl, lastDigits,
    lastDigits, Nat.zero_div, Nat.zero_mod]
  cases uppercase <;> rfl

/-- The digits of a positive magnitude do not begin with `'0'`. -/
theorem digits_eq_cons (hm : m < 2 ^ 128) (hpos : m ≠ 0) :
    ∃ c ds, digits b uppercase m = c :: ds ∧ c ≠ '0' := by
  obtain ⟨n, hn⟩ := Nat.exists_eq_add_one.mpr (b.digitCount_pos m)
  have hfirst : m / b.toNat ^ n < b.toNat := by
    rw [Nat.div_lt_iff_lt_mul (Nat.pow_pos b.toNat_pos), ← pow_succ', ← hn]
    exact b.lt_pow_digitCount m
  refine ⟨_, _, by rw [digits_eq b uppercase hm, hn, lastDigits],
    Base.digitChar_ne_zero (Nat.mod_lt _ b.toNat_pos) ?_⟩
  -- the first digit is all that is left of `m` without the others
  rw [Nat.mod_eq_of_lt hfirst]
  rcases Nat.eq_zero_or_pos n with rfl | hpos'
  · rwa [pow_zero, Nat.div_one]
  · rw [Ne, b.div_pow_eq_zero_iff hpos', hn]
    omega

/-- The digits of `m` denote `m`. -/
theorem denotes_digits (hm : m < 2 ^ 128) : b.Denotes (digits b uppercase m) m := by
  rw [digits_eq b uppercase hm]
  refine ⟨?_, fun c hc => isDigit_of_mem_lastDigits b uppercase m hc, ?_⟩
  · rw [← List.length_pos_iff, length_lastDigits]
    exact b.digitCount_pos m
  · rw [valueOf_lastDigits, Nat.mod_eq_of_lt (b.lt_pow_digitCount m)]

end Digits

/-! ### Round by round -/

namespace DigitBuffer

/-- The state `buffer` of the loop after `k` rounds of writing `m`. -/
structure AfterRounds (b : Base) (uppercase : Bool) (m k : Nat) (buffer : DigitBuffer) : Prop where
  length_cells : buffer.cells.length = bufferSize
  start_add : buffer.start + k = bufferSize
  /-- The last `k` cells hold the digits of `m` modulo `b ^ k`, the most significant first. -/
  cells_eq : buffer.cells.drop (bufferSize - k) = lastDigits b uppercase (m % b.toNat ^ k) k
  magnitude_eq : buffer.magnitude = m / b.toNat ^ k
  /-- The loop stops after as many rounds as `m` has digits. -/
  stops_iff : 0 < k → (buffer.magnitude = 0 ↔ k = b.digitCount m)
  /-- Before that, the next round finds a cell to write to and a digit to write. -/
  within_bounds : k < b.digitCount m →
    0 < buffer.start ∧ buffer.start - 1 < buffer.cells.length ∧
      buffer.magnitude % b.toNat < (digitTable uppercase).length

theorem length_digitTable (uppercase : Bool) : (digitTable uppercase).length = 16 := by
  cases uppercase <;> rfl

variable {b : Base} {uppercase : Bool} {m k : Nat} {buffer : DigitBuffer}

/-- As long as `m` has `k` digits, the invariant tells all there is to know of the state. -/
theorem Holds.afterRounds (h : buffer.Holds b uppercase m k) (hm : m < 2 ^ 128)
    (hk : k ≤ b.digitCount m) : buffer.AfterRounds b uppercase m k where
  length_cells := h.length_cells
  start_add := h.start_add
  cells_eq := by
    have hstart : bufferSize - k = buffer.start := by have := h.start_add; omega
    rw [hstart, lastDigits_mod b uppercase m le_rfl]
    exact h.toList_eq
  magnitude_eq := h.magnitude_eq
  stops_iff := by
    intro hpos
    rw [h.magnitude_eq_zero_iff hpos]
    exact ⟨hk.antisymm, fun heq => heq.ge⟩
  within_bounds := by
    intro hlt
    have hadd := h.start_add
    have hsize := b.digitCount_le_bufferSize hm
    rw [h.length_cells, length_digitTable]
    have hdigit := Nat.mod_lt buffer.magnitude b.toNat_pos
    exact ⟨by omega, by omega, hdigit.trans_le b.toNat_le_sixteen⟩

/-- **The digit buffer suffices.**  The loop ends after one round for each digit of the magnitude,
of which there are one at least and no more than cells.  After each round the digits written stand
at the end of the buffer, and what is left is the magnitude without them; the cell and the digit of
the next round are there. -/
theorem rounds_within_buffer (b : Base) (uppercase : Bool) (hm : m < 2 ^ 128) :
    1 ≤ b.digitCount m ∧ b.digitCount m ≤ bufferSize ∧
    (ofMagnitude m).rounds? b uppercase (b.digitCount m) =
      some ((ofMagnitude m).fill b uppercase) ∧
    ∀ k ≤ b.digitCount m, ∃ buffer, (ofMagnitude m).rounds? b uppercase k = some buffer ∧
      buffer.AfterRounds b uppercase m k := by
  refine ⟨b.digitCount_pos m, b.digitCount_le_bufferSize hm, rounds_digitCount b uppercase hm, ?_⟩
  intro k hk
  obtain ⟨buffer, hbuffer, hholds⟩ := exists_rounds_ofMagnitude b uppercase hm hk
  exact ⟨buffer, hbuffer, hholds.afterRounds hm hk⟩

/-- The greatest magnitude takes every cell in base eight. -/
theorem rounds_within_buffer_greatest :
    (2 ^ 128 - 1 < 2 ^ 128) ∧ Base.eight.digitCount (2 ^ 128 - 1) = bufferSize ∧
      ((ofMagnitude (2 ^ 128 - 1)).fill .eight false).start = 0 := by
  have hm : 2 ^ 128 - 1 < 2 ^ 128 := by decide
  obtain ⟨-, hle, hfill, hrounds⟩ := rounds_within_buffer .eight false hm
  -- forty-two digits do not suffice
  have hlt : ¬ Base.eight.digitCount (2 ^ 128 - 1) ≤ 42 := by
    rw [Base.digitCount_le_iff _ (by decide)]
    decide
  have hcount : Base.eight.digitCount (2 ^ 128 - 1) = bufferSize :=
    hle.antisymm (Nat.lt_of_not_le hlt)
  obtain ⟨buffer, hbuffer, hafter⟩ := hrounds _ le_rfl
  obtain rfl := Option.some.inj (hfill.symm.trans hbuffer)
  have hadd := hafter.start_add
  exact ⟨hm, hcount, by omega⟩

end DigitBuffer

end Numeral128
