import Mathlib.Tactic.SplitIfs
import Numeral128.DataFormat

/-!
# What a fill character is read from

A fill is read from the text of one character or from the number of a digit, and from nothing else
(`DataFormat.Lawful.fill_eq_ok_iff`).  This is so in every format of data that tells texts from
numbers.
-/

namespace Numeral128

/-- What was found, `v`, stands for the fill `c`: it is the text of this character, or the number
of this digit. -/
def Found.IsFill (v : Found) (c : Char) : Prop :=
  v = .scalar (.text (String.singleton c)) ∨
    ∃ d : Nat, d ≤ 9 ∧ v = .scalar (.int d) ∧ c = Nat.digitChar d

/-- A text stands for its only character. -/
theorem Found.isFill_text {s : String} {c : Char} :
    Found.IsFill (.scalar (.text s)) c ↔ s = String.singleton c := by
  constructor
  · rintro (h | ⟨d, -, h, -⟩)
    · exact Scalar.text.inj (Found.scalar.inj h)
    · cases h
  · rintro rfl
    exact Or.inl rfl

/-- The number `n` stands for its digit, if it has but one. -/
theorem Found.isFill_int {n : Nat} {c : Char} :
    Found.IsFill (.scalar (.int n)) c ↔ n ≤ 9 ∧ c = Nat.digitChar n := by
  constructor
  · rintro (h | ⟨d, hd, h, hc⟩)
    · cases h
    · obtain rfl := Int.ofNat.inj (Scalar.int.inj (Found.scalar.inj h))
      exact ⟨hd, hc⟩
  · rintro ⟨hn, hc⟩
    exact Or.inr ⟨n, hn, rfl, hc⟩

/-- Nothing else than texts and numbers below `sizeBound` stands for a fill. -/
theorem Found.not_isFill {v : Found} (htext : ∀ s, v ≠ .scalar (.text s))
    (hint : ∀ n : Nat, n < sizeBound → v ≠ .scalar (.int n)) (c : Char) : ¬ v.IsFill c := by
  rintro (h | ⟨d, hd, h, -⟩)
  · exact htext _ h
  · exact hint d (Nat.lt_of_le_of_lt hd (by decide)) h

theorem Found.payload?_int {n : Nat} (hn : n < sizeBound) :
    payload? (.scalar (.int n)) = some (.digit n) :=
  if_pos hn

theorem Found.payload?_eq_none {v : Found} (htext : ∀ s, v ≠ .scalar (.text s))
    (hint : ∀ n : Nat, n < sizeBound → v ≠ .scalar (.int n)) : v.payload? = none := by
  unfold payload?
  split
  next s => exact absurd rfl (htext s)
  next n => exact if_neg fun hn => hint n hn rfl
  next => rfl

namespace FillPayload

theorem decimalDigit?_eq : ∀ d < 10, decimalDigit? d = some (Nat.digitChar d) := by decide

/-- The text `s` is the fill that is its only character. -/
theorem toChar?_text {s : String} {c : Char} :
    (text s).toChar? = .ok c ↔ s = String.singleton c := by
  constructor
  · intro h
    unfold toChar? at h
    dsimp only at h
    split at h
    next d hs =>
      obtain rfl := Except.ok.inj h
      rw [← String.ofList_toList (s := s), hs, String.singleton_eq_ofList]
    next => cases h
  · rintro rfl
    rw [toChar?, String.toList_singleton]

/-- The number `n` is the fill whose digit it is.  It is not cut to 32 bits before it is looked
at. -/
theorem toChar?_digit {n : Nat} {c : Char} :
    (digit n).toChar? = .ok c ↔ n ≤ 9 ∧ c = Nat.digitChar n := by
  -- a number that is too great for 32 bits is refused like any other that is no digit
  by_cases hn : n < 10
  · have hdigit : (narrow? n).bind decimalDigit? = some (Nat.digitChar n) := by
      rw [narrow?, if_pos (Nat.lt_trans hn (by decide)), Option.bind_some, decimalDigit?_eq n hn]
    have hchar : (digit n).toChar? = .ok (Nat.digitChar n) := by rw [toChar?, hdigit]
    rw [hchar, Except.ok.injEq]
    exact ⟨fun h => ⟨Nat.le_of_lt_succ hn, h.symm⟩, fun h => h.2.symm⟩
  · have hdigit : (narrow? n).bind decimalDigit? = none := by
      unfold narrow?
      split_ifs
      · exact if_neg hn
      · rfl
    have hchar : (digit n).toChar? = .error (.notDigit n) := by rw [toChar?, hdigit]
    rw [hchar]
    exact ⟨nofun, fun h => absurd (Nat.lt_succ_of_le h.1) hn⟩

end FillPayload

/-- Mapping errors by `g` does not turn one into a value. -/
theorem mapError_eq_ok_iff {ε ε' α : Type} {g : ε → ε'} {x : Except ε α} {a : α} :
    x.mapError g = .ok a ↔ x = .ok a := by
  cases x with
  | error e =>
    constructor
    · intro h
      cases h
    · intro h
      cases h
  | ok a' => rw [Except.mapError, Except.ok.injEq, Except.ok.injEq]

namespace DataFormat

variable {δ ε : Type} {F : DataFormat δ ε} {d : δ}

theorem fill_of_payload {payload : FillPayload} (h : F.payload d = .ok payload) (c : Char) :
    F.fill d = .ok c ↔ payload.toChar? = .ok c := by
  rw [fill, h]
  exact mapError_eq_ok_iff

theorem Lawful.not_fill (hF : F.Lawful) (htext : ∀ s, F.found d ≠ .scalar (.text s))
    (hint : ∀ n : Nat, n < sizeBound → F.found d ≠ .scalar (.int n)) (c : Char) :
    F.fill d ≠ .ok c := by
  obtain ⟨e, he⟩ := hF.payload_of_other htext hint
  rw [fill, he]
  nofun

/-- **One value.**  In every format the texts of one character and the numbers of digits are read as
a fill `c`, and nothing else. -/
theorem Lawful.fill_eq_ok_iff (hF : F.Lawful) (d : δ) (c : Char) :
    F.fill d = .ok c ↔ (F.found d).IsFill c := by
  -- a text, a number, or what is no payload
  by_cases htext : ∃ s, F.found d = .scalar (.text s)
  · obtain ⟨s, hs⟩ := htext
    rw [fill_of_payload (hF.payload_of_text hs), FillPayload.toChar?_text, hs, Found.isFill_text]
  by_cases hint : ∃ n : Nat, n < sizeBound ∧ F.found d = .scalar (.int n)
  · obtain ⟨n, hn, hfound⟩ := hint
    rw [fill_of_payload (hF.payload_of_int hn hfound), FillPayload.toChar?_digit, hfound,
      Found.isFill_int]
  · have htext' : ∀ s, F.found d ≠ .scalar (.text s) := fun s hs => htext ⟨s, hs⟩
    have hint' : ∀ n : Nat, n < sizeBound → F.found d ≠ .scalar (.int n) :=
      fun n hn hfound => hint ⟨n, hn, hfound⟩
    exact iff_of_false (hF.not_fill htext' hint' c) (Found.not_isFill htext' hint' c)

end DataFormat

end Numeral128
