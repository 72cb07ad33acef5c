import Mathlib.Data.List.TakeWhile
import Mathlib.Order.Lattice.Nat
import Numeral128.Proofs.Reading

/-!
# The grammar of numerals

`NumeralShape choice b w s p d rest` says how a text `w ++ s ++ p ++ d ++ rest` divides into blanks,
a sign, a base prefix, digits of base `b` and what follows.  Each part is the longest that can stand
in its place, so a text divides in at most one way.  `parseNumeral_eq_ok_iff` is the grammar: a
value is read exactly from the texts of this shape whose digits denote it, sign included, if it lies
in the range of the type.

`Rejects t choice text e left` lists the other texts, each with the reason for which it is rejected
and with the text that is left; `readNumeral_eq_error_iff` says that the list is exact and that one
line of it applies to every text from which no value is read.  Both theorems are read off `readText`
(`readText_of_inRange`, `readText_of_isLeast`), whose digits are accumulated as long as their value
stays in the range.
-/

namespace Numeral128

/-! ### Division into parts -/

/-- The text `w ++ s ++ p ++ d ++ rest` is a numeral in base `b` with blanks `w` before it, sign
`s`, base prefix `p` and digits `d`, followed by `rest`. -/
structure NumeralShape (choice : BaseChoice) (b : Base) (w s p d rest : List Char) : Prop where
  /-- All blanks at the start. -/
  blanks_eq : w = (w ++ s ++ p ++ d ++ rest).takeWhile isBlank
  /-- The sign that follows them, if there is one. -/
  sign_eq : s = signOf (s ++ p ++ d ++ rest)
  /-- The base prefix that follows the sign, if the base is not fixed and there is one. -/
  prefix_eq : p = choice.prefixOf (p ++ d ++ rest)
  /-- The base that is fixed, or else the one that is seen after the sign. -/
  base_eq : b = choice.baseOf (p ++ d ++ rest)
  /-- All digits that follow. -/
  digits_eq : d = (d ++ rest).takeWhile b.isDigit
  /-- At least one. -/
  digits_ne_nil : d ≠ []

/-- A `text` is its sign and what follows it. -/
theorem signOf_append_afterSign (text : List Char) : signOf text ++ afterSign text = text := by
  cases text with
  | nil => rfl
  | cons c cs =>
    by_cases hc : c = '-' ∨ c = '+'
    · rw [signOf_of_sign hc, afterSign_of_sign hc, List.singleton_append]
    · rw [signOf_of_not_sign hc, afterSign_of_not_sign hc, List.nil_append]

/-- A `text` is its base prefix and what follows it. -/
theorem BaseChoice.prefixOf_append_afterPrefix (choice : BaseChoice) (text : List Char) :
    choice.prefixOf text ++ choice.afterPrefix text = text := by
  cases choice with
  | fixed b => rfl
  | detect =>
    match text with
    | [] => rfl
    | [c] => rfl
    | z :: x :: cs =>
      by_cases h : z = '0' ∧ (x = 'x' ∨ x = 'X')
      · obtain ⟨rfl, hx⟩ := h
        rw [afterPrefix_detect_of_letter hx, prefixOf, hexPrefixOf_of_letter hx]
        rfl
      · have hnil : hexPrefixOf (z :: x :: cs) = [] := if_neg h
        rw [afterPrefix_detect_of_nil hnil, prefixOf, hnil, List.nil_append]

/-- A prefix is that of base sixteen, with the letter `x` in either case, if there is one. -/
theorem BaseChoice.prefixOf_eq_nil_or (choice : BaseChoice) (text : List Char) :
    choice.prefixOf text = [] ∨ ∃ x, (x = 'x' ∨ x = 'X') ∧ choice.prefixOf text = ['0', x] := by
  cases choice with
  | fixed b => exact Or.inl rfl
  | detect =>
    match text with
    | [] => exact Or.inl rfl
    | [c] => exact Or.inl rfl
    | z :: x :: cs =>
      by_cases h : z = '0' ∧ (x = 'x' ∨ x = 'X')
      · obtain ⟨rfl, hx⟩ := h
        exact Or.inr ⟨x, hx, hexPrefixOf_of_letter hx cs⟩
      · exact Or.inl (if_neg h)

namespace NumeralShape

variable {choice : BaseChoice} {b : Base} {w s p d rest : List Char}

theorem isBlank_of_mem (h : NumeralShape choice b w s p d rest) : ∀ c ∈ w, isBlank c = true := by
  intro c hc
  rw [h.blanks_eq] at hc
  exact List.mem_takeWhile_imp hc

theorem dropWhile_isBlank (h : NumeralShape choice b w s p d rest) :
    (w ++ s ++ p ++ d ++ rest).dropWhile isBlank = s ++ p ++ d ++ rest := by
  have hsplit := List.takeWhile_append_dropWhile (p := isBlank) (l := w ++ s ++ p ++ d ++ rest)
  rw [← h.blanks_eq] at hsplit
  simpa only [List.append_assoc, List.append_cancel_left_eq] using hsplit

/-- After the sign `s` begins the prefix, or the digits without one. -/
theorem afterSign_eq (h : NumeralShape choice b w s p d rest) :
    afterSign (s ++ p ++ d ++ rest) = p ++ d ++ rest := by
  have hsplit := signOf_append_afterSign (s ++ p ++ d ++ rest)
  rw [← h.sign_eq] at hsplit
  simpa only [List.append_assoc, List.append_cancel_left_eq] using hsplit

/-- After the prefix `p` begin the digits. -/
theorem afterPrefix_eq (h : NumeralShape choice b w s p d rest) :
    choice.afterPrefix (p ++ d ++ rest) = d ++ rest := by
  have hsplit := choice.prefixOf_append_afterPrefix (p ++ d ++ rest)
  rw [← h.prefix_eq] at hsplit
  simpa only [List.append_assoc, List.append_cancel_left_eq] using hsplit

/-- After the digits `d` begins `rest`. -/
theorem dropWhile_isDigit (h : NumeralShape choice b w s p d rest) :
    (d ++ rest).dropWhile b.isDigit = rest := by
  have hsplit := List.takeWhile_append_dropWhile (p := b.isDigit) (l := d ++ rest)
  rw [← h.digits_eq] at hsplit
  exact List.append_cancel_left hsplit

theorem isDigit_of_mem (h : NumeralShape choice b w s p d rest) {c : Char} (hc : c ∈ d) :
    b.isDigit c = true := by
  rw [h.digits_eq] at hc
  exact List.mem_takeWhile_imp hc

/-- The digits `d` denote a number: there is one of them at least. -/
theorem denotes (h : NumeralShape choice b w s p d rest) : b.Denotes d (b.valueOf d) :=
  ⟨h.digits_ne_nil, fun _ hc => h.isDigit_of_mem hc, rfl⟩

/-- The character after the digits is no digit of base `b`. -/
theorem isDigit_head?_rest (h : NumeralShape choice b w s p d rest) :
    ∀ c ∈ rest.head?, b.isDigit c = false := by
  intro c hc
  obtain ⟨cs, rfl⟩ := List.head?_eq_some_iff.mp hc
  have hhead := List.head?_dropWhile_not b.isDigit (d ++ c :: cs)
  rw [h.dropWhile_isDigit] at hhead
  simpa using hhead

theorem minus_iff (h : NumeralShape choice b w s p d rest) :
    (s ++ p ++ d ++ rest).head? = some '-' ↔ s = ['-'] := by
  rw [← signOf_eq_minus_iff, ← h.sign_eq]

end NumeralShape

/-- A `text` divides into a numeral and what follows as soon as there is a digit `c` where the first
one should be. -/
theorem exists_numeralShape {choice : BaseChoice} {text ds : List Char} {c : Char}
    (hds : choice.afterPrefix (afterSign (text.dropWhile isBlank)) = c :: ds)
    (hc : (choice.baseOf (afterSign (text.dropWhile isBlank))).isDigit c = true) :
    ∃ b w s p d rest, text = w ++ s ++ p ++ d ++ rest ∧ NumeralShape choice b w s p d rest := by
  -- `u`, `v` and `c :: ds` are what is left after the blanks, the sign and the prefix
  set u := text.dropWhile isBlank with hu
  set v := afterSign u with hv
  set b := choice.baseOf v with hb
  have htext : text.takeWhile isBlank ++ u = text := List.takeWhile_append_dropWhile
  have hsign : signOf u ++ v = u := signOf_append_afterSign u
  have hpre : choice.prefixOf v ++ (c :: ds) = v := by
    rw [← hds]
    exact choice.prefixOf_append_afterPrefix v
  have hrun : (c :: ds).takeWhile b.isDigit ++ (c :: ds).dropWhile b.isDigit = c :: ds :=
    List.takeWhile_append_dropWhile
  refine ⟨b, text.takeWhile isBlank, signOf u, choice.prefixOf v, (c :: ds).takeWhile b.isDigit,
    (c :: ds).dropWhile b.isDigit, ?_, ?_⟩
  · simp only [List.append_assoc, hrun, hpre, hsign, htext]
  · refine ⟨?_, ?_, ?_, ?_, ?_, ?_⟩
    · simp only [List.append_assoc, hrun, hpre, hsign, htext]
    · simp only [List.append_assoc, hrun, hpre, hsign]
    · simp only [List.append_assoc, hrun, hpre]
    · rw [List.append_assoc, hrun, hpre]
    · rw [hrun]
    · rw [List.takeWhile_cons_of_pos hc]
      exact List.cons_ne_nil _ _

/-! ### Where the value leaves the range -/

section Leaving

variable {t : IntType} {b : Base} {negative : Bool} {ds : List Char}

/-- The lengths of the prefixes of `ds` whose value is out of the range of `t`. -/
def leavingLengths (t : IntType) (b : Base) (negative : Bool) (ds : List Char) : Set Nat :=
  {k | k ≤ ds.length ∧ ¬ t.InRange (applySign negative (b.valueOf (ds.take k)))}

theorem exists_isLeast_leavingLengths (h : ¬ t.InRange (applySign negative (b.valueOf ds))) :
    ∃ k, IsLeast (leavingLengths t b negative ds) k := by
  have hne : ∃ k, k ∈ leavingLengths t b negative ds := by
    refine ⟨ds.length, le_rfl, ?_⟩
    rwa [List.take_length]
  -- a set of natural numbers that is not empty has a least one
  classical exact ⟨Nat.find hne, Nat.isLeast_find hne⟩

/-- The least such length `k` ends with the first digit `c` that takes the value out of the range.
-/
theorem exists_split_of_isLeast {k : Nat} (h : IsLeast (leavingLengths t b negative ds) k) :
    ∃ xs c ys, ds = xs ++ c :: ys ∧ ds.drop k = ys ∧
      t.InRange (applySign negative (b.valueOf xs)) ∧
      ¬ t.InRange (applySign negative (b.valueOf (xs ++ [c]))) := by
  obtain ⟨⟨hk, hout⟩, hleast⟩ := h
  cases k with
  | zero =>
    rw [List.take_zero, Base.valueOf_nil, applySign_zero] at hout
    exact absurd ⟨t.lower_nonpos, t.upper_nonneg⟩ hout
  | succ j =>
    have hsplit : ds = ds.take j ++ ds[j] :: ds.drop (j + 1) := by
      rw [← List.drop_eq_getElem_cons hk, List.take_append_drop]
    refine ⟨ds.take j, ds[j], ds.drop (j + 1), hsplit, rfl, ?_, ?_⟩
    · -- otherwise `j` would be a smaller length
      by_contra hin
      have := hleast ⟨Nat.le_of_succ_le hk, hin⟩
      omega
    · rwa [List.take_append_getElem]

end Leaving

/-! ### Outcomes of reading -/

section Outcomes

variable {t : IntType} {choice : BaseChoice} {text : List Char}

theorem readText_of_nil (h : text.dropWhile isBlank = []) :
    readText t choice text = { outcome := .error .nothing, reader := [] } := by
  rw [readText, if_pos h]

theorem readText_of_minus {cs : List Char} (h : text.dropWhile isBlank = '-' :: cs) :
    readText .unsigned choice text = { outcome := .error .minusSign, reader := '-' :: cs } := by
  rw [readText, h, if_neg (List.cons_ne_nil _ _), if_pos ⟨rfl, rfl⟩]

theorem readText_of_afterPrefix_nil (hnil : text.dropWhile isBlank ≠ [])
    (hminus : ¬ (t = .unsigned ∧ (text.dropWhile isBlank).head? = some '-'))
    (hds : choice.afterPrefix (afterSign (text.dropWhile isBlank)) = []) :
    readText t choice text = { outcome := .error .cutOff, reader := [] } := by
  rw [readText, if_neg hnil, if_neg hminus, if_pos hds]

/-- From its first character `c` behind the prefix on, a `text` is read digit by digit. -/
theorem readText_of_afterPrefix_cons {c : Char} {cs : List Char}
    (hminus : ¬ (t = .unsigned ∧ (text.dropWhile isBlank).head? = some '-'))
    (hds : choice.afterPrefix (afterSign (text.dropWhile isBlank)) = c :: cs) :
    readText t choice text =
      let b := choice.baseOf (afterSign (text.dropWhile isBlank))
      let run := foldMagnitude t b ((text.dropWhile isBlank).head? = some '-') (c :: cs)
      { outcome := run.1, reader := run.2, detected := choice.found? b } := by
  have hnil : text.dropWhile isBlank ≠ [] := by
    intro h
    rw [h, afterSign, List.drop_nil, BaseChoice.afterPrefix, List.drop_nil] at hds
    exact List.cons_ne_nil _ _ hds.symm
  rw [readText, if_neg hnil, if_neg hminus, hds, if_neg (List.cons_ne_nil _ _)]

end Outcomes

namespace NumeralShape

variable {t : IntType} {choice : BaseChoice} {b : Base} {w s p d rest : List Char}

theorem signed_of_minus (hminus : ¬ (t = .unsigned ∧ s = ['-'])) (hs : decide (s = ['-']) = true) :
    t = .signed := by
  cases t with
  | signed => rfl
  | unsigned => exact absurd ⟨rfl, of_decide_eq_true hs⟩ hminus

/-- A text that divides into parts is read as its digits are accumulated, after a sign that `t`
allows. -/
theorem readText_eq (h : NumeralShape choice b w s p d rest)
    (hminus : ¬ (t = .unsigned ∧ s = ['-'])) :
    readText t choice (w ++ s ++ p ++ d ++ rest) =
      { outcome := (foldDigits t b (s = ['-']) 0 (d ++ rest)).1,
        reader := (foldDigits t b (s = ['-']) 0 (d ++ rest)).2,
        detected := choice.found? b } := by
  -- the first digit is looked at before any digit is accumulated
  obtain ⟨c, ds, rfl⟩ := List.exists_cons_of_ne_nil h.digits_ne_nil
  have hc : b.isDigit c = true := h.isDigit_of_mem List.mem_cons_self
  have hds : choice.afterPrefix (afterSign ((w ++ s ++ p ++ c :: ds ++ rest).dropWhile isBlank)) =
      c :: (ds ++ rest) := by
    rw [h.dropWhile_isBlank, h.afterSign_eq, h.afterPrefix_eq, List.cons_append]
  rw [← h.minus_iff, ← h.dropWhile_isBlank] at hminus
  rw [readText_of_afterPrefix_cons hminus hds, h.dropWhile_isBlank, h.afterSign_eq, ← h.base_eq]
  simp only [foldMagnitude, if_pos hc, h.minus_iff, List.cons_append]

/-- A value in the range of `t` is read, and `rest` is left. -/
theorem readText_of_inRange (h : NumeralShape choice b w s p d rest)
    (hminus : ¬ (t = .unsigned ∧ s = ['-']))
    (hin : t.InRange (applySign (s = ['-']) (b.valueOf d))) :
    readText t choice (w ++ s ++ p ++ d ++ rest) =
      { outcome := .ok (applySign (s = ['-']) (b.valueOf d)), reader := rest,
        detected := choice.found? b } := by
  -- accumulation starts with no digits, so that `d` is the whole run
  have hdigits : ([] : List Char) ++ (d ++ rest).takeWhile b.isDigit = d := by
    rw [List.nil_append, ← h.digits_eq]
  have hfold := foldDigits_of_inRange (signed_of_minus hminus) (hdigits.symm ▸ hin)
  rw [hdigits, Base.valueOf_nil, applySign_zero, h.dropWhile_isDigit] at hfold
  rw [h.readText_eq hminus, hfold]

/-- A value out of the range of `t` is rejected right after the digit with which it leaves the
range. -/
theorem readText_of_isLeast {k : Nat} (h : NumeralShape choice b w s p d rest)
    (hminus : ¬ (t = .unsigned ∧ s = ['-']))
    (hk : IsLeast (leavingLengths t b (s = ['-']) d) k) :
    readText t choice (w ++ s ++ p ++ d ++ rest) =
      { outcome := .error (.outOfRange b), reader := d.drop k ++ rest,
        detected := choice.found? b } := by
  have hsigned := signed_of_minus hminus
  have hfold : foldDigits t b (s = ['-']) 0 (d ++ rest) =
      (.error (.outOfRange b), d.drop k ++ rest) := by
    obtain ⟨xs, c, ys, hd, hdrop, hin, hout⟩ := exists_split_of_isLeast hk
    have hxs : ∀ x ∈ xs, b.isDigit x = true := fun x hx =>
      h.isDigit_of_mem (hd ▸ List.mem_append_left _ hx)
    have hc : b.isDigit c = true :=
      h.isDigit_of_mem (hd ▸ List.mem_append_right xs List.mem_cons_self)
    rw [hdrop, hd, List.append_assoc, List.cons_append, ← applySign_zero (s = ['-']),
      ← Base.valueOf_nil b]
    exact foldDigits_of_not_inRange hsigned hc hxs hin hout
  rw [h.readText_eq hminus, hfold]

end NumeralShape

/-! ### Rejected texts -/

/-- Why a text is rejected as a numeral of type `t`, from its first character on that is not blank,
and what is left of it then. -/
inductive Rejects (t : IntType) (choice : BaseChoice) :
    List Char → Rejection → List Char → Prop
  /-- There is nothing. -/
  | nothing : Rejects t choice [] .nothing []
  /-- An unsigned numeral starts with a minus sign.  It is left with all that follows. -/
  | minusSign {cs : List Char} : t = .unsigned →
      Rejects t choice ('-' :: cs) .minusSign ('-' :: cs)
  /-- The text ends after the sign, or after the prefix of base sixteen. -/
  | cutOff {text : List Char} : text ≠ [] → ¬ (t = .unsigned ∧ text.head? = some '-') →
      afterSign text = [] ∨
        choice = .detect ∧ (afterSign text = ['0', 'x'] ∨ afterSign text = ['0', 'X']) →
      Rejects t choice text .cutOff []
  /-- There is another character in place of the first digit.  It is left. -/
  | notDigit {text : List Char} {c : Char} {cs : List Char} :
      ¬ (t = .unsigned ∧ text.head? = some '-') → choice.afterPrefix (afterSign text) = c :: cs →
      (choice.baseOf (afterSign text)).isDigit c = false →
      Rejects t choice text (.notDigit c) (c :: cs)
  /-- The first `k` digits denote an integer out of range, and no fewer do.  What is left begins
  after them. -/
  | outOfRange {text : List Char} {b : Base} {k : Nat} :
      ¬ (t = .unsigned ∧ text.head? = some '-') → b = choice.baseOf (afterSign text) →
      IsLeast (leavingLengths t b (text.head? = some '-')
        ((choice.afterPrefix (afterSign text)).takeWhile b.isDigit)) k →
      Rejects t choice text (.outOfRange b) ((choice.afterPrefix (afterSign text)).drop k)

/-- Nothing follows the prefix just in case the `text` is empty or is a prefix that is looked for.
-/
theorem BaseChoice.afterPrefix_eq_nil_iff {choice : BaseChoice} {text : List Char} :
    choice.afterPrefix text = [] ↔
      text = [] ∨ choice = .detect ∧ (text = ['0', 'x'] ∨ text = ['0', 'X']) := by
  cases choice with
  | fixed b => simp [afterPrefix_fixed]
  | detect =>
    rw [eq_self_iff_true, true_and]
    -- two characters decide about a prefix, so shorter texts come first
    match text with
    | [] => exact iff_of_true rfl (Or.inl rfl)
    | [c] => simp [afterPrefix, prefixOf, hexPrefixOf]
    | z :: x :: cs =>
      by_cases h : z = '0' ∧ (x = 'x' ∨ x = 'X')
      · obtain ⟨rfl, hx⟩ := h
        rw [afterPrefix_detect_of_letter hx]
        rcases hx with rfl | rfl <;> simp
      · rw [afterPrefix_detect_of_nil (show hexPrefixOf (z :: x :: cs) = [] from if_neg h)]
        refine iff_of_false (List.cons_ne_nil _ _) ?_
        rintro (hnil | hx | hx)
        · exact List.cons_ne_nil _ _ hnil
        · obtain ⟨rfl, hx, -⟩ := by simpa using hx
          exact h ⟨rfl, Or.inl hx⟩
        · obtain ⟨rfl, hx, -⟩ := by simpa using hx
          exact h ⟨rfl, Or.inr hx⟩

section Rejected

variable {t : IntType} {choice : BaseChoice} {text : List Char}

/-- Each line of `Rejects` tells the outcome `e` of reading `text`, and what is `left`. -/
theorem readText_of_rejects {e : Rejection} {left : List Char}
    (h : Rejects t choice (text.dropWhile isBlank) e left) :
    (readText t choice text).outcome = .error e ∧ (readText t choice text).reader = left := by
  -- one line of the list after another
  generalize hu : text.dropWhile isBlank = u at h
  cases h with
  | nothing =>
    rw [readText_of_nil hu]
    exact ⟨rfl, rfl⟩
  | minusSign ht =>
    subst ht
    rw [readText_of_minus hu]
    exact ⟨rfl, rfl⟩
  | cutOff hne hminus hafter =>
    subst hu
    rw [readText_of_afterPrefix_nil hne hminus (BaseChoice.afterPrefix_eq_nil_iff.mpr hafter)]
    exact ⟨rfl, rfl⟩
  | notDigit hminus hds hc =>
    subst hu
    rw [readText_of_afterPrefix_cons hminus hds]
    simp only [foldMagnitude, hc, Bool.false_eq_true, if_false, and_self]
  | outOfRange hminus hb hk =>
    rename_i b k
    subst hu
    -- the value leaves the range with a digit, so there is one
    obtain ⟨xs, c, ys, hrun, -⟩ := exists_split_of_isLeast hk
    cases hds : choice.afterPrefix (afterSign (text.dropWhile isBlank)) with
    | nil =>
      rw [hds, List.takeWhile_nil] at hrun
      exact absurd hrun (by simp)
    | cons c' cs =>
      by_cases hc : b.isDigit c' = true
      · obtain ⟨b', w, s, p, d, rest, rfl, hshape⟩ := exists_numeralShape hds (hb ▸ hc)
        rw [hshape.dropWhile_isBlank, hshape.afterSign_eq, ← hshape.base_eq] at hb
        subst hb
        rw [hshape.dropWhile_isBlank] at hminus hk hds
        simp only [hshape.minus_iff, hshape.afterSign_eq, hshape.afterPrefix_eq,
          ← hshape.digits_eq] at hminus hk hds
        rw [hshape.readText_of_isLeast hminus hk, ← hds, List.drop_append_of_le_length hk.1.1]
        exact ⟨rfl, rfl⟩
      · rw [hds, List.takeWhile_cons_of_neg hc] at hrun
        exact absurd hrun (by simp)

/-- Every `text` is rejected for one of the reasons, or it starts with a numeral in the range of
`t`. -/
theorem rejects_or_numeralShape (t : IntType) (choice : BaseChoice) (text : List Char) :
    (∃ e left, Rejects t choice (text.dropWhile isBlank) e left) ∨
      ∃ b w s p d rest, text = w ++ s ++ p ++ d ++ rest ∧ NumeralShape choice b w s p d rest ∧
        ¬ (t = .unsigned ∧ s = ['-']) ∧ t.InRange (applySign (s = ['-']) (b.valueOf d)) := by
  by_cases hnil : text.dropWhile isBlank = []
  · rw [hnil]
    exact Or.inl ⟨_, _, .nothing⟩
  -- from here on the cases are those of `readText`, in its order
  by_cases hminus : t = .unsigned ∧ (text.dropWhile isBlank).head? = some '-'
  · obtain ⟨ht, hhead⟩ := hminus
    obtain ⟨cs, hcs⟩ := List.head?_eq_some_iff.mp hhead
    rw [hcs]
    exact Or.inl ⟨_, _, .minusSign ht⟩
  cases hds : choice.afterPrefix (afterSign (text.dropWhile isBlank)) with
  | nil =>
    exact Or.inl ⟨_, _, .cutOff hnil hminus (BaseChoice.afterPrefix_eq_nil_iff.mp hds)⟩
  | cons c ds =>
    by_cases hc : (choice.baseOf (afterSign (text.dropWhile isBlank))).isDigit c = true
    · obtain ⟨b, w, s, p, d, rest, rfl, hshape⟩ := exists_numeralShape hds hc
      -- there is a first digit, so that the text divides, and only the range is left to look at
      by_cases hin : t.InRange (applySign (s = ['-']) (b.valueOf d))
      · rw [hshape.dropWhile_isBlank, hshape.minus_iff] at hminus
        exact Or.inr ⟨b, w, s, p, d, rest, rfl, hshape, hminus, hin⟩
      · obtain ⟨k, hk⟩ := exists_isLeast_leavingLengths hin
        rw [hshape.dropWhile_isBlank] at hminus ⊢
        refine Or.inl ⟨.outOfRange b, _, .outOfRange hminus ?_ (k := k) ?_⟩
        · rw [hshape.afterSign_eq, hshape.base_eq]
        · simpa only [hshape.minus_iff, hshape.afterSign_eq, hshape.afterPrefix_eq,
            ← hshape.digits_eq] using hk
    · exact Or.inl ⟨_, _, .notDigit hminus hds (by simpa using hc)⟩

/-- **Rejected texts.**  A text is rejected just in case a line of `Rejects` applies to it, for the
reason and with the rest of this line, and either a value is read or exactly one line applies. -/
theorem readNumeral_eq_error_iff (t : IntType) (choice : BaseChoice) (text : List Char) :
    let reading := readNumeral t choice ({ text } : TextReader)
    (∀ e left, (reading.outcome = .error e ∧ reading.reader.rest = left) ↔
      Rejects t choice (text.dropWhile isBlank) e left) ∧
    Xor (∃ value, reading.outcome = .ok value)
      (∃! r : Rejection × List Char, Rejects t choice (text.dropWhile isBlank) r.1 r.2) := by
  intro reading
  have hrest : LawfulReader.rest ({ text } : TextReader) = text :=
    (TextReader.between_start text).rest_eq
  have houtcome : reading.outcome = (readText t choice text).outcome := by
    rw [outcome_readNumeral, hrest]
  have hleft : reading.reader.rest = (readText t choice text).reader := by
    rw [← TextReader.lawfulRest_eq, rest_readNumeral, hrest]
  rw [houtcome, hleft]
  -- each way of being rejected determines the outcome of the reading and its rest
  have hread : ∀ e left, Rejects t choice (text.dropWhile isBlank) e left →
      (readText t choice text).outcome = .error e ∧ (readText t choice text).reader = left :=
    fun _ _ => readText_of_rejects
  constructor
  · intro e left
    refine ⟨?_, hread e left⟩
    rintro ⟨he, rfl⟩
    obtain ⟨e', left, hrejects⟩ | ⟨b, w, s, p, d, rest, rfl, hshape, hminus, hin⟩ :=
      rejects_or_numeralShape t choice text
    · obtain ⟨he', hleft'⟩ := hread e' left hrejects
      rw [he', Except.error.injEq] at he
      rwa [← he, hleft']
    · rw [hshape.readText_of_inRange hminus hin] at he
      cases he
  · obtain ⟨e, left, hrejects⟩ | ⟨b, w, s, p, d, rest, rfl, hshape, hminus, hin⟩ :=
      rejects_or_numeralShape t choice text
    · obtain ⟨he, hleft'⟩ := hread e left hrejects
      refine Or.inr ⟨⟨(e, left), hrejects, ?_⟩, ?_⟩
      · -- another line would give another outcome of the same reading
        rintro ⟨e', left'⟩ hrejects'
        obtain ⟨he', hleft''⟩ := hread e' left' hrejects'
        rw [he, Except.error.injEq] at he'
        exact Prod.ext he'.symm (hleft''.symm.trans hleft')
      · rintro ⟨value, hvalue⟩
        rw [he] at hvalue
        cases hvalue
    · have hok := congrArg Reading.outcome (hshape.readText_of_inRange hminus hin)
      refine Or.inl ⟨⟨_, hok⟩, ?_⟩
      rintro ⟨⟨e, left⟩, hrejects, -⟩
      rw [(hread e left hrejects).1] at hok
      cases hok

end Rejected

/-! ### The grammar -/

section Grammar

variable {t : IntType} {choice : BaseChoice} {b : Base} {w s p d rest text : List Char}

/-- A value in the range of `t` is parsed, with the number of characters up to the end of its
digits. -/
theorem parseNumeral_of_inRange (h : NumeralShape choice b w s p d rest)
    (hminus : ¬ (t = .unsigned ∧ s = ['-']))
    (hin : t.InRange (applySign (s = ['-']) (b.valueOf d))) :
    parseNumeral t choice (w ++ s ++ p ++ d ++ rest) =
      .ok { value := applySign (s = ['-']) (b.valueOf d),
            length := (w ++ s ++ p ++ d).length } := by
  have hlength : (w ++ s ++ p ++ d ++ rest).length - rest.length = (w ++ s ++ p ++ d).length := by
    rw [List.length_append, Nat.add_sub_cancel]
  rw [parseNumeral_eq, h.readText_of_inRange hminus hin]
  simp only [Except.map, hlength]

/-- A value out of the range is rejected with the base `b` that it was read in. -/
theorem parseNumeral_of_not_inRange (h : NumeralShape choice b w s p d rest)
    (hminus : ¬ (t = .unsigned ∧ s = ['-']))
    (hout : ¬ t.InRange (applySign (s = ['-']) (b.valueOf d))) :
    parseNumeral t choice (w ++ s ++ p ++ d ++ rest) = .error (.outOfRange b) := by
  obtain ⟨k, hk⟩ := exists_isLeast_leavingLengths hout
  rw [parseNumeral_eq, h.readText_of_isLeast hminus hk]
  rfl

/-- An unsigned numeral has no minus sign, whatever prefix `p` and digits `d` follow it. -/
theorem parseNumeral_of_minus (h : NumeralShape choice b w ['-'] p d rest) :
    parseNumeral .unsigned choice (w ++ ['-'] ++ p ++ d ++ rest) = .error .minusSign := by
  rw [parseNumeral_eq, readText_of_minus h.dropWhile_isBlank]
  rfl

/-- **The grammar of numerals.**  A value is read from a text just in case the text divides into
blanks, a sign that the type allows, a base prefix and digits of the base that is chosen, and the
value is the integer they denote and lies in the range of the type.  Any text may follow. -/
theorem parseNumeral_eq_ok_iff (t : IntType) (choice : BaseChoice) (text : List Char) (value : Int)
    (length : Nat) :
    parseNumeral t choice text = .ok { value, length } ↔
      ∃ b w s p d rest, text = w ++ s ++ p ++ d ++ rest ∧ NumeralShape choice b w s p d rest ∧
        ¬ (t = .unsigned ∧ s = ['-']) ∧ value = applySign (s = ['-']) (b.valueOf d) ∧
        t.InRange value ∧ length = (w ++ s ++ p ++ d).length := by
  constructor
  · intro h
    -- every text is either rejected or has the shape of a numeral that fits
    obtain ⟨e, left, hrejects⟩ | ⟨b, w, s, p, d, rest, rfl, hshape, hminus, hin⟩ :=
      rejects_or_numeralShape t choice text
    · rw [parseNumeral_eq, (readText_of_rejects hrejects).1] at h
      cases h
    · rw [parseNumeral_of_inRange hshape hminus hin] at h
      obtain ⟨rfl, rfl⟩ := Parsed.mk.inj (Except.ok.inj h)
      exact ⟨b, w, s, p, d, rest, rfl, hshape, hminus, rfl, hin, rfl⟩
  · rintro ⟨b, w, s, p, d, rest, rfl, hshape, hminus, rfl, hin, rfl⟩
    exact parseNumeral_of_inRange hshape hminus hin

/-- A zero before a digit that is none of base eight is a numeral by itself. -/
example : parseNumeral .signed .detect " -08".toList = .ok { value := 0, length := 3 } := by
  decide +kernel

end Grammar

end Numeral128
