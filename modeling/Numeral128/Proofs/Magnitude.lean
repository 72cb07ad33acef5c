import Numeral128.Proofs.RoundTrip

/-!
# Magnitudes

What a text says after its sign does not depend on the type that is read, and not on the sign:
`BaseChoice.magnitude?` finds the number that its digits denote, however large it is, or the reason
why there are none.  Only then sign and type come in.  `parseNumeral_eq_magnitude` takes reading a
numeral apart in this way: the magnitude is taken with its sign if that is in the range of the type
(`Magnitude.withSign`), and is out of range otherwise.

So readings that differ in the type or in the sign alone have the same magnitude, and are compared
by the two ranges.  `parseNumeral_signed_unsigned` compares the types on one text, and
`parseNumeral_sign_symmetry` compares a plus sign with a minus sign.  A text that begins with
neither blanks nor a sign (`BeginsBare`) is all magnitude.
-/

namespace Numeral128

/-! ### Texts without blanks and sign -/

/-- The `text` begins with a character that is neither blank nor a sign. -/
def BeginsBare (text : List Char) : Prop :=
  ∃ c ∈ text.head?, isBlank c = false ∧ ¬ (c = '-' ∨ c = '+')

namespace BeginsBare

variable {w s r : List Char}

theorem exists_cons (h : BeginsBare r) :
    ∃ c cs, r = c :: cs ∧ isBlank c = false ∧ ¬ (c = '-' ∨ c = '+') := by
  obtain ⟨c, hc, hbare⟩ := h
  obtain ⟨cs, rfl⟩ := List.head?_eq_some_iff.mp hc
  exact ⟨c, cs, rfl, hbare⟩

theorem signOf_append (h : BeginsBare r) (hs : IsSign s) : signOf (s ++ r) = s := by
  obtain ⟨c, cs, rfl, -, hc⟩ := h.exists_cons
  rcases hs with rfl | rfl | rfl
  · exact signOf_of_not_sign hc cs
  · rfl
  · rfl

theorem afterSign_append (h : BeginsBare r) (hs : IsSign s) : afterSign (s ++ r) = r := by
  rw [afterSign, h.signOf_append hs, List.drop_left]

/-- Blanks `w` before it are all that are skipped. -/
theorem dropWhile_append (h : BeginsBare r) (hs : IsSign s) (hw : ∀ c ∈ w, isBlank c = true) :
    (w ++ s ++ r).dropWhile isBlank = s ++ r := by
  obtain ⟨c, cs, rfl, hc, -⟩ := h.exists_cons
  rw [List.append_assoc, List.dropWhile_append_of_pos hw]
  rcases hs with rfl | rfl | rfl
  · exact List.dropWhile_cons_of_neg (by simp [hc])
  · rfl
  · rfl

end BeginsBare

/-! ### The number after the sign -/

/-- A number without a sign at the start of a text. -/
structure Magnitude where
  /-- The base of its digits. -/
  base : Base
  value : Nat
  /-- The number of its characters, the base prefix included. -/
  length : Nat
  deriving DecidableEq, Repr

/-- The number without a sign that `text` begins with, or why it begins with none. -/
def BaseChoice.magnitude? (choice : BaseChoice) (text : List Char) : Except Rejection Magnitude :=
  let b := choice.baseOf text
  match choice.afterPrefix text with
  | [] => .error .cutOff
  | c :: cs =>
    if b.isDigit c then
      let ds := (c :: cs).takeWhile b.isDigit
      .ok
        { base := b, value := b.valueOf ds,
          length := (choice.prefixOf text).length + ds.length }
    else .error (.notDigit c)

/-- The value that the magnitude `m` has with a sign, if the type `t` has it.  The numeral begins
after `before` characters. -/
def Magnitude.withSign (t : IntType) (negative : Bool) (before : Nat) (m : Magnitude) :
    Except Rejection Parsed :=
  if t.InRange (applySign negative m.value) then
    .ok { value := applySign negative m.value, length := before + m.length }
  else .error (.outOfRange m.base)

section Magnitude

variable {t : IntType} {choice : BaseChoice} {text : List Char}

/-- The magnitude of a numeral in parts is that of its digits `d`, and it is as long as the prefix
`p` and the digits. -/
theorem NumeralShape.magnitude?_eq {b : Base} {w s p d rest : List Char}
    (h : NumeralShape choice b w s p d rest) :
    choice.magnitude? (p ++ d ++ rest) =
      .ok { base := b, value := b.valueOf d, length := p.length + d.length } := by
  obtain ⟨c, ds, rfl⟩ := List.exists_cons_of_ne_nil h.digits_ne_nil
  have hc : b.isDigit c = true := h.isDigit_of_mem List.mem_cons_self
  have hdigits := h.digits_eq
  rw [List.cons_append] at hdigits
  simp only [BaseChoice.magnitude?, h.afterPrefix_eq, ← h.base_eq, ← h.prefix_eq, List.cons_append,
    ← hdigits, if_pos hc]

/-- The base of a magnitude is the one that is chosen for the `text`. -/
theorem base_of_magnitude? {m : Magnitude} (h : choice.magnitude? text = .ok m) :
    m.base = choice.baseOf text := by
  unfold BaseChoice.magnitude? at h
  split at h
  · cases h
  · dsimp only at h
    split_ifs at h
    cases h
    rfl

theorem parseNumeral_of_blank (t : IntType) (choice : BaseChoice)
    (h : text.dropWhile isBlank = []) : parseNumeral t choice text = .error .nothing := by
  rw [parseNumeral_eq, readText_of_nil h]
  rfl

/-- The unsigned type stops at a minus sign in `text`, whatever comes after it. -/
theorem parseNumeral_unsigned_of_minus (choice : BaseChoice)
    (h : (text.dropWhile isBlank).head? = some '-') :
    parseNumeral .unsigned choice text = .error .minusSign := by
  obtain ⟨cs, hcs⟩ := List.head?_eq_some_iff.mp h
  rw [parseNumeral_eq, readText_of_minus hcs]
  rfl

/-- **Magnitude first.**  A numeral is read by finding its magnitude, and by comparing that with the
range of `t`. -/
theorem parseNumeral_eq_magnitude (t : IntType) (choice : BaseChoice) (text : List Char)
    (hne : text.dropWhile isBlank ≠ [])
    (hminus : ¬ (t = .unsigned ∧ (text.dropWhile isBlank).head? = some '-')) :
    parseNumeral t choice text =
      (choice.magnitude? (afterSign (text.dropWhile isBlank))).bind
        (Magnitude.withSign t ((text.dropWhile isBlank).head? = some '-')
          ((text.takeWhile isBlank).length + (signOf (text.dropWhile isBlank)).length)) := by
  -- nothing after the prefix, a digit, or another character
  cases hds : choice.afterPrefix (afterSign (text.dropWhile isBlank)) with
  | nil =>
    rw [parseNumeral_eq, readText_of_afterPrefix_nil hne hminus hds, BaseChoice.magnitude?, hds]
    rfl
  | cons c cs =>
    by_cases hc : (choice.baseOf (afterSign (text.dropWhile isBlank))).isDigit c = true
    · obtain ⟨b, w, s, p, d, rest, rfl, hshape⟩ := exists_numeralShape hds hc
      rw [hshape.dropWhile_isBlank, hshape.minus_iff] at hminus
      simp only [hshape.dropWhile_isBlank, hshape.afterSign_eq, hshape.magnitude?_eq,
        hshape.minus_iff, ← hshape.blanks_eq, ← hshape.sign_eq]
      rw [Except.bind, Magnitude.withSign]
      split_ifs with hin
      · rw [parseNumeral_of_inRange hshape hminus hin]
        simp [Nat.add_assoc]
      · exact parseNumeral_of_not_inRange hshape hminus hin
    · rw [parseNumeral_eq, readText_of_afterPrefix_cons hminus hds, BaseChoice.magnitude?, hds]
      simp only [foldMagnitude, if_neg hc]
      rfl

end Magnitude

/-! ### The two ranges -/

namespace Magnitude

variable {t : IntType} {m : Magnitude} {before : Nat}

/-- Without a minus sign only the greatest value of the type `t` counts. -/
theorem withSign_plus (t : IntType) (before : Nat) (m : Magnitude) :
    m.withSign t false before =
      if (m.value : Int) ≤ t.upper then .ok { value := m.value, length := before + m.length }
      else .error (.outOfRange m.base) := by
  have hin : t.InRange m.value ↔ (m.value : Int) ≤ t.upper := by
    have := t.lower_nonpos
    unfold IntType.InRange
    omega
  simp only [withSign, applySign_false, hin]

/-- The least signed value is one further from zero than the greatest, so `m` may have the value `2
^ 127`. -/
theorem withSign_minus (before : Nat) (m : Magnitude) :
    m.withSign .signed true before =
      if m.value ≤ 2 ^ 127 then .ok { value := -m.value, length := before + m.length }
      else .error (.outOfRange m.base) := by
  have hin : IntType.signed.InRange (-m.value) ↔ m.value ≤ 2 ^ 127 := by
    rw [IntType.InRange, IntType.lower_signed, IntType.upper_signed]
    omega
  simp only [withSign, applySign_true, hin]

theorem map_withSign (t : IntType) (negative : Bool) (before : Nat) (m : Magnitude) :
    (m.withSign t negative before).map (fun p => { p with length := p.length + 1 }) =
      m.withSign t negative (before + 1) := by
  unfold withSign
  split_ifs
  · simp [Except.map, Nat.add_right_comm]
  · rfl

end Magnitude

/-! ### Two types -/

/-- What the two types make of one text without a minus sign, whose digits are in base `b`. -/
structure TypesAgree (b : Base) (signed unsigned : Except Rejection Parsed) : Prop where
  unsigned_eq : ∀ value length, signed = .ok { value, length } →
    0 ≤ value ∧ unsigned = .ok { value, length }
  signed_eq : ∀ value length, unsigned = .ok { value, length } → value ≤ 2 ^ 127 - 1 →
    signed = .ok { value, length }
  /-- The other unsigned values are too great. -/
  signed_outOfRange : ∀ value length, unsigned = .ok { value, length } → 2 ^ 127 ≤ value →
    signed = .error (.outOfRange b)
  signed_error : ∀ e, unsigned = .error e → signed = .error e

theorem typesAgree_error (b : Base) (e : Rejection) : TypesAgree b (.error e) (.error e) where
  unsigned_eq _ _ h := nomatch h
  signed_eq _ _ h := nomatch h
  signed_outOfRange _ _ h := nomatch h
  signed_error _ h := h

/-- On a magnitude `m` without a minus sign the types agree, as both start at zero and differ in the
greatest value only. -/
theorem Magnitude.typesAgree (before : Nat) (m : Magnitude) :
    TypesAgree m.base (m.withSign .signed false before) (m.withSign .unsigned false before) := by
  rw [withSign_plus, withSign_plus, IntType.upper_signed, IntType.upper_unsigned]
  by_cases hsigned : (m.value : Int) ≤ 2 ^ 127 - 1
  · -- a value that the signed type has is one of the unsigned type
    have hunsigned : (m.value : Int) ≤ 2 ^ 128 - 1 := by omega
    rw [if_pos hsigned, if_pos hunsigned]
    constructor
    case unsigned_eq =>
      intro value length h
      obtain ⟨rfl, rfl⟩ := Parsed.mk.inj (Except.ok.inj h)
      exact ⟨Int.natCast_nonneg _, rfl⟩
    case signed_eq => exact fun _ _ h _ => h
    case signed_outOfRange =>
      intro value length h hle
      obtain ⟨rfl, rfl⟩ := Parsed.mk.inj (Except.ok.inj h)
      omega
    case signed_error => exact fun _ h => (nomatch h)
  · -- only the unsigned type may still have the value
    rw [if_neg hsigned]
    constructor
    case unsigned_eq => exact fun _ _ h => (nomatch h)
    case signed_eq =>
      intro value length h hle
      split_ifs at h
      obtain ⟨rfl, rfl⟩ := Parsed.mk.inj (Except.ok.inj h)
      exact absurd hle hsigned
    case signed_outOfRange => exact fun _ _ _ _ => rfl
    case signed_error =>
      intro e h
      split_ifs at h
      exact h

/-- **The two types read alike.**  Unless a numeral begins with a minus sign, the types read the
same values up to the greatest signed one, and reject other texts for the same reason.  A greater
unsigned value is out of range for the signed type, in the base in which it is read.  After a minus
sign there is no unsigned value, and no positive one. -/
theorem parseNumeral_signed_unsigned (choice : BaseChoice) (text : List Char) :
    let numeral := text.dropWhile isBlank
    let signed := parseNumeral .signed choice text
    let unsigned := parseNumeral .unsigned choice text
    (numeral.head? ≠ some '-' →
      TypesAgree (choice.baseOf (afterSign numeral)) signed unsigned) ∧
    (numeral.head? = some '-' →
      unsigned = .error .minusSign ∧
      ∀ value length, signed = .ok { value, length } → value ≤ 0) := by
  intro numeral signed unsigned
  constructor
  · intro hhead
    by_cases hnil : numeral = []
    · -- neither type finds anything
      have hsigned : signed = .error .nothing := parseNumeral_of_blank .signed choice hnil
      have hunsigned : unsigned = .error .nothing := parseNumeral_of_blank .unsigned choice hnil
      rw [hsigned, hunsigned]
      exact typesAgree_error _ _
    · -- the magnitude is the same for both types
      have hread : ∀ t, parseNumeral t choice text = _ :=
        fun t => parseNumeral_eq_magnitude t choice text hnil fun h => hhead h.2
      rw [show signed = _ from hread .signed, show unsigned = _ from hread .unsigned,
        decide_eq_false hhead]
      cases hm : choice.magnitude? (afterSign numeral) with
      | error e => exact typesAgree_error _ e
      | ok m =>
        rw [← base_of_magnitude? hm]
        exact m.typesAgree _
  · intro hhead
    refine ⟨parseNumeral_unsigned_of_minus choice hhead, ?_⟩
    intro value length hvalue
    have hnil : numeral ≠ [] := by
      intro hnil
      simp [hnil] at hhead
    have hsigned : signed = _ := parseNumeral_eq_magnitude .signed choice text hnil (by simp)
    rw [hsigned, decide_eq_true hhead] at hvalue
    cases hm : choice.magnitude? (afterSign numeral) with
    | error e =>
      rw [hm] at hvalue
      cases hvalue
    | ok m =>
      rw [hm, Except.bind, Magnitude.withSign_minus] at hvalue
      split_ifs at hvalue
      obtain ⟨rfl, rfl⟩ := Parsed.mk.inj (Except.ok.inj hvalue)
      omega

/-- The least value that the signed type has not, and a minus sign that the unsigned type has
not. -/
theorem parseNumeral_signed_unsigned_bound :
    let text := " +0X80000000000000000000000000000000;".toList
    parseNumeral .unsigned .detect text = .ok { value := 2 ^ 127, length := 36 } ∧
      parseNumeral .signed .detect text = .error (.outOfRange .sixteen) ∧
      parseNumeral .unsigned (.fixed .eight) "\t-08".toList = .error .minusSign ∧
      ∀ value length,
        parseNumeral .signed (.fixed .eight) "\t-08".toList = .ok { value, length } →
          value ≤ 0 := by
  intro text
  have hread : parseNumeral .unsigned .detect text = .ok { value := 2 ^ 127, length := 36 } := by
    decide +kernel
  have hagree := (parseNumeral_signed_unsigned .detect text).1 (by decide)
  have hminus := (parseNumeral_signed_unsigned (.fixed .eight) "\t-08".toList).2 (by decide)
  exact ⟨hread, hagree.signed_outOfRange _ _ hread le_rfl, hminus⟩

/-! ### Two signs -/

/-- What a plus sign and a minus sign make of the same characters after them, whose digits are in
base `b`. -/
structure SignsMirror (b : Base) (plus minus : Except Rejection Parsed) : Prop where
  minus_eq : ∀ value length, plus = .ok { value, length } →
    0 ≤ value ∧ minus = .ok { value := -value, length }
  plus_eq : ∀ value length, minus = .ok { value, length } → value ≠ -2 ^ 127 →
    plus = .ok { value := -value, length }
  /-- The least value has no counterpart. -/
  plus_of_least : ∀ length, minus = .ok { value := -2 ^ 127, length } →
    plus = .error (.outOfRange b)
  outOfRange_iff : ∀ b', plus = .error (.outOfRange b') ↔
    minus = .error (.outOfRange b') ∨
      b' = b ∧ ∃ length, minus = .ok { value := -2 ^ 127, length }
  error_iff : ∀ e, (∀ b', e ≠ .outOfRange b') → (plus = .error e ↔ minus = .error e)

theorem signsMirror_error (b : Base) (e : Rejection) : SignsMirror b (.error e) (.error e) where
  minus_eq _ _ h := nomatch h
  plus_eq _ _ h := nomatch h
  plus_of_least _ h := nomatch h
  outOfRange_iff b' := by simp
  error_iff _ _ := Iff.rfl

/-- On a magnitude `m` the signs mirror each other: there are those below `2 ^ 127`, this one, and
those above it. -/
theorem Magnitude.signsMirror (before : Nat) (m : Magnitude) :
    SignsMirror m.base (m.withSign .signed false before) (m.withSign .signed true before) := by
  rw [withSign_plus, withSign_minus, IntType.upper_signed]
  rcases lt_trichotomy m.value (2 ^ 127) with hlt | heq | hgt
  · -- both signs
    have hleast : ¬ (-(m.value : Int) = -2 ^ 127) := by omega
    rw [if_pos (by omega), if_pos (by omega)]
    constructor
    case minus_eq =>
      intro value length h
      obtain ⟨rfl, rfl⟩ := Parsed.mk.inj (Except.ok.inj h)
      exact ⟨Int.natCast_nonneg _, rfl⟩
    case plus_eq =>
      intro value length h _
      obtain ⟨rfl, rfl⟩ := Parsed.mk.inj (Except.ok.inj h)
      rw [neg_neg]
    case plus_of_least =>
      intro length h
      exact absurd (Parsed.mk.inj (Except.ok.inj h)).1 hleast
    case outOfRange_iff =>
      intro b'
      refine iff_of_false (fun h => (nomatch h)) ?_
      rintro (h | ⟨-, length, h⟩)
      · cases h
      · exact hleast (Parsed.mk.inj (Except.ok.inj h)).1
    case error_iff => exact fun e _ => iff_of_false (fun h => (nomatch h)) fun h => (nomatch h)
  · -- the minus sign alone
    rw [if_neg (by omega), if_pos (by omega), heq]
    constructor
    case minus_eq => exact fun _ _ h => (nomatch h)
    case plus_eq =>
      intro value length h hvalue
      obtain ⟨rfl, -⟩ := Parsed.mk.inj (Except.ok.inj h)
      exact absurd rfl hvalue
    case plus_of_least => exact fun _ _ => rfl
    case outOfRange_iff =>
      intro b'
      constructor
      · intro h
        exact Or.inr ⟨(Rejection.outOfRange.inj (Except.error.inj h)).symm, _, rfl⟩
      · rintro (h | ⟨rfl, -⟩)
        · cases h
        · rfl
    case error_iff =>
      intro e he
      refine iff_of_false (fun h => ?_) fun h => (nomatch h)
      exact he m.base (Except.error.inj h).symm
  · rw [if_neg (by omega), if_neg (by omega)]
    exact signsMirror_error _ _

/-- After a sign `c` the magnitude of `body` is all that counts. -/
theorem parseNumeral_sign_cons {c : Char} (hc : c = '-' ∨ c = '+') (choice : BaseChoice)
    (body : List Char) :
    parseNumeral .signed choice (c :: body) =
      (choice.magnitude? body).bind (Magnitude.withSign .signed (c = '-') 1) := by
  have hblank : ¬ isBlank c = true := by rcases hc with rfl | rfl <;> decide
  have hparse :=
    parseNumeral_eq_magnitude .signed choice (c :: body) (by simp [hblank]) (by simp)
  rw [List.dropWhile_cons_of_neg hblank, List.takeWhile_cons_of_neg hblank, afterSign_of_sign hc,
    signOf_of_sign hc] at hparse
  simpa using hparse

/-- A plus sign before `body` is a character more and nothing else. -/
theorem parseNumeral_plus_cons {body : List Char} (h : BeginsBare body) (choice : BaseChoice) :
    parseNumeral .signed choice ('+' :: body) =
      (parseNumeral .signed choice body).map fun p => { p with length := p.length + 1 } := by
  obtain ⟨c, cs, rfl, hc, hsign⟩ := h.exists_cons
  have hblank : ¬ isBlank c = true := by simp [hc]
  have hhead : c ≠ '-' := fun h => hsign (Or.inl h)
  have hparse :=
    parseNumeral_eq_magnitude .signed choice (c :: cs) (by simp [hblank]) (by simp)
  rw [List.dropWhile_cons_of_neg hblank, List.takeWhile_cons_of_neg hblank,
    afterSign_of_not_sign hsign, signOf_of_not_sign hsign] at hparse
  rw [parseNumeral_sign_cons (Or.inr rfl), hparse]
  cases choice.magnitude? (c :: cs) with
  | error e => rfl
  | ok m => simp [Except.bind, hhead, Magnitude.map_withSign]

/-- **Plus and minus mirror each other.**  With a minus sign a text is read as the negative of what
it is read as with a plus sign, and is rejected for the same reason, with one exception: the least
value can only be read with a minus sign, since its negative is out of range.  A plus sign counts as
a character and makes no other difference. -/
theorem parseNumeral_sign_symmetry (choice : BaseChoice) (body : List Char) :
    let plus := parseNumeral .signed choice ('+' :: body)
    let minus := parseNumeral .signed choice ('-' :: body)
    SignsMirror (choice.baseOf body) plus minus ∧
    (BeginsBare body → plus =
      (parseNumeral .signed choice body).map fun p => { p with length := p.length + 1 }) := by
  intro plus minus
  refine ⟨?_, fun hbare => parseNumeral_plus_cons hbare choice⟩
  have hplus : plus = _ := parseNumeral_sign_cons (Or.inr rfl) choice body
  have hminus : minus = _ := parseNumeral_sign_cons (Or.inl rfl) choice body
  rw [hplus, hminus]
  cases hm : choice.magnitude? body with
  | error e => exact signsMirror_error _ e
  | ok m =>
    rw [← base_of_magnitude? hm]
    exact m.signsMirror 1

/-- The magnitude `2 ^ 127` of the signed type needs the minus sign. -/
theorem parseNumeral_sign_symmetry_least :
    let body := "170141183460469231731687303715884105728 ".toList
    parseNumeral .signed .detect ('-' :: body) = .ok { value := -2 ^ 127, length := 40 } ∧
      parseNumeral .signed .detect ('+' :: body) = .error (.outOfRange .ten) ∧
      BeginsBare body ∧
      (parseNumeral .signed .detect body).map (fun p => { p with length := p.length + 1 }) =
        .error (.outOfRange .ten) := by
  intro body
  have hread : parseNumeral .signed .detect ('-' :: body) =
      .ok { value := -2 ^ 127, length := 40 } := by
    decide +kernel
  have hbare : BeginsBare body := ⟨'1', by decide, by decide, by decide⟩
  obtain ⟨hmirror, hplus⟩ := parseNumeral_sign_symmetry .detect body
  have hout : parseNumeral .signed .detect ('+' :: body) = .error (.outOfRange .ten) :=
    hmirror.plus_of_least 40 hread
  exact ⟨hread, hout, hbare, (hplus hbare).symm.trans hout⟩

end Numeral128
