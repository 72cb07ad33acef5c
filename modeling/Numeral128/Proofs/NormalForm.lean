import Numeral128.Proofs.Composition
import Numeral128.Proofs.Lookahead

/-!
# Normal forms

A number can be said in many ways: after blanks, with a plus sign, with a prefix, with zeros before
its digits, in letters of either case, and zero with a minus sign.  `BaseChoice.normalForm` is what
is left of a numeral without all that.  It is found from the characters alone, but it is also what
is written for the value: to read a numeral and to write it in the base in which it was read, with
nothing shown that need not be (`Layout.IsPlain`), is to normalise it (`render_of_parseNumeral`).
For the digits that are left are canonical (`Base.Denotes.canonical`), and a number has only one
canonical digit string.

`Base.IsNormal` describes the texts that are their own normal forms (`Base.IsNormal.normalForm_eq`).
They are the plain renderings (`Layout.IsPlain.exists_render_eq_iff`), and no two values have the
same, since `Base.integerOf` finds the value again (`Layout.IsPlain.integerOf_render`).
-/

namespace Numeral128

/-! ### Leading zeros -/

/-- Takes `'0'` from the front of a string as often as it stands there, but not as its last
character. -/
def stripZeros : List Char → List Char
  | z :: c :: cs => if z = '0' then stripZeros (c :: cs) else z :: c :: cs
  | ds => ds

section StripZeros

variable {b : Base} {ds : List Char} {m : Nat}

/-- Only zeros are taken from `ds`. -/
theorem exists_zeros_append_stripZeros (ds : List Char) :
    ∃ n, ds = List.replicate n '0' ++ stripZeros ds := by
  -- a zero before others goes, and what does not begin with one stays
  fun_induction stripZeros ds with
  | case1 c cs ih =>
    obtain ⟨n, hn⟩ := ih
    refine ⟨n + 1, ?_⟩
    rw [List.replicate_succ, List.cons_append, ← hn]
  | case2 z c cs hz => exact ⟨0, rfl⟩
  | case3 ds hds => exact ⟨0, rfl⟩

theorem stripZeros_ne_nil (h : ds ≠ []) : stripZeros ds ≠ [] := by
  fun_induction stripZeros ds with
  | case1 c cs ih => exact ih (List.cons_ne_nil c cs)
  | case2 z c cs hz => exact h
  | case3 ds hds => exact h

/-- A zero is left in front of `ds` only if there is nothing else. -/
theorem stripZeros_eq_zero (h : (stripZeros ds).head? = some '0') : stripZeros ds = ['0'] := by
  fun_induction stripZeros ds with
  | case1 c cs ih => exact ih h
  | case2 z c cs hz => exact absurd (Option.some.inj h) hz
  | case3 ds hds =>
    match ds with
    | [] => cases h
    | [c] => rw [Option.some.inj h]
    | z :: c :: cs => exact absurd rfl (hds z c cs)

theorem stripZeros_of_head? (h : ds.head? = some '0' → ds = ['0']) : stripZeros ds = ds := by
  fun_cases stripZeros ds with
  | case1 c cs => exact absurd (h rfl) (by simp)
  | case2 z c cs hz => rfl
  | case3 ds hds => rfl

/-- Without leading zeros `ds` denotes the same number `m`. -/
theorem Base.Denotes.of_stripZeros (h : b.Denotes ds m) : b.Denotes (stripZeros ds) m := by
  obtain ⟨n, hn⟩ := exists_zeros_append_stripZeros ds
  refine ⟨stripZeros_ne_nil h.ne_nil, ?_, ?_⟩
  · intro c hc
    apply h.isDigit_of_mem
    rw [hn]
    exact List.mem_append_right _ hc
  · have hvalue := h.valueOf_eq
    rwa [hn, b.valueOf_zeros_append] at hvalue

end StripZeros

/-! ### The case of letters -/

/-- The character `c`, if it is a letter, in the case asked for. -/
def inCase (uppercase : Bool) (c : Char) : Char := if uppercase then c.toUpper else c.toLower

namespace Base

variable {b : Base} {c : Char} {ds : List Char} {m : Nat}

/-- To change the case of a digit `c` is to write its value. -/
theorem inCase_eq_digitChar (hc : b.isDigit c = true) (uppercase : Bool) :
    inCase uppercase c = digitChar uppercase (b.digitValue c) := by
  -- digits are in ASCII, and there the two tables are compared
  have hwritten : ∀ n < 128, ∀ d ∈ hexValue? (Char.ofNat n), ∀ uppercase,
      inCase uppercase (Char.ofNat n) = digitChar uppercase d := by decide
  exact forall_digit (P := fun c d => ∀ uppercase, inCase uppercase c = digitChar uppercase d)
    hwritten hc uppercase

theorem digit?_inCase (hc : b.isDigit c = true) (uppercase : Bool) :
    b.digit? (inCase uppercase c) = some (b.digitValue c) := by
  rw [inCase_eq_digitChar hc, digit?_digitChar (digitValue_lt hc)]

theorem inCase_of_hasCase {uppercase : Bool} (hc : b.isDigit c = true)
    (hcase : HasCase uppercase c) : inCase uppercase c = c := by
  rw [inCase_eq_digitChar hc, digitChar_digitValue hc hcase]

/-- No letter becomes a `'0'`. -/
theorem eq_zero_of_inCase {uppercase : Bool} (hc : b.isDigit c = true)
    (h : inCase uppercase c = '0') : c = '0' := by
  have hzero : ∀ n < 128, ∀ d ∈ hexValue? (Char.ofNat n), ∀ uppercase,
      inCase uppercase (Char.ofNat n) = '0' → Char.ofNat n = '0' := by decide
  exact forall_digit (P := fun c _ => ∀ uppercase, inCase uppercase c = '0' → c = '0') hzero hc
    uppercase h

/-- In either case `ds` denotes the same number `m`. -/
theorem Denotes.map_inCase (h : b.Denotes ds m) (uppercase : Bool) :
    b.Denotes (ds.map (inCase uppercase)) m where
  ne_nil := by simpa using h.ne_nil
  isDigit_of_mem := by
    intro x hx
    obtain ⟨c, hc, rfl⟩ := List.mem_map.mp hx
    exact isDigit_of_digit? (digit?_inCase (h.isDigit_of_mem c hc) uppercase)
  valueOf_eq := by
    have hvalues : ∀ c ∈ ds, b.digitValue (inCase uppercase c) = b.digitValue c := by
      intro c hc
      exact digitValue_of_digit? (digit?_inCase (h.isDigit_of_mem c hc) uppercase)
    have hmap : (ds.map (inCase uppercase)).map b.digitValue = ds.map b.digitValue := by
      rw [List.map_map]
      exact List.map_congr_left hvalues
    rw [valueOf, hmap]
    exact h.valueOf_eq

/-- Without its leading zeros, and in one case, the digit string `ds` is canonical. -/
theorem Denotes.canonical (h : b.Denotes ds m) (uppercase : Bool) :
    b.Canonical uppercase ((stripZeros ds).map (inCase uppercase)) m where
  toDenotes := h.of_stripZeros.map_inCase uppercase
  hasCase_of_mem := by
    intro x hx
    obtain ⟨c, hc, rfl⟩ := List.mem_map.mp hx
    have hdigit : b.isDigit c = true := h.of_stripZeros.isDigit_of_mem c hc
    rw [inCase_eq_digitChar hdigit]
    exact hasCase_digitChar (digitValue_lt hdigit) uppercase
  eq_zero_of_head? := by
    intro hhead
    obtain ⟨c, cs, hcons⟩ := List.exists_cons_of_ne_nil h.of_stripZeros.ne_nil
    have hdigit : b.isDigit c = true :=
      h.of_stripZeros.isDigit_of_mem c (hcons ▸ List.mem_cons_self)
    rw [hcons, List.map_cons, List.head?_cons] at hhead
    have hzero : c = '0' := eq_zero_of_inCase hdigit (Option.some.inj hhead)
    rw [stripZeros_eq_zero (by rw [hcons, hzero, List.head?_cons])]
    cases uppercase <;> rfl

/-- Of the digits `ds`, nothing but zeros denotes zero, and one of them is left. -/
theorem Denotes.stripZeros_eq_zero_iff (h : b.Denotes ds m) : stripZeros ds = ['0'] ↔ m = 0 := by
  have hstripped := h.of_stripZeros
  constructor
  · intro hzero
    rw [hzero] at hstripped
    exact hstripped.valueOf_eq.symm.trans b.denotes_zero.valueOf_eq
  · intro hm
    -- zero is spelled in one way only
    rcases (h.canonical false).spelled with ⟨-, hzero⟩ | ⟨hne, -⟩
    · obtain ⟨c, hc, hcase⟩ := List.map_eq_singleton_iff.mp hzero
      have hdigit : b.isDigit c = true := hstripped.isDigit_of_mem c (hc ▸ List.mem_cons_self)
      rw [hc, eq_zero_of_inCase hdigit hcase]
    · exact absurd hm hne

end Base

/-! ### What is left of a numeral -/

/-- A numeral without the blanks before it, its plus sign, its prefix and its leading zeros, and
with its letters in the case asked for.  A minus sign is left unless a zero follows it. -/
def BaseChoice.normalForm (choice : BaseChoice) (uppercase : Bool) (numeral : List Char) :
    List Char :=
  let unblanked := numeral.dropWhile isBlank
  let ds := stripZeros (choice.afterPrefix (afterSign unblanked))
  (if signOf unblanked = ['-'] ∧ ds ≠ ['0'] then ['-'] else []) ++ ds.map (inCase uppercase)

/-- The sign of `value` if no plus sign is shown. -/
def minusOf (value : Int) : List Char := if value < 0 then ['-'] else []

theorem isSign_minusOf (value : Int) : IsSign (minusOf value) := by
  unfold minusOf
  split_ifs
  · exact Or.inr (Or.inr rfl)
  · exact Or.inl rfl

theorem minusOf_eq_minus_iff {value : Int} : minusOf value = ['-'] ↔ value < 0 := by
  unfold minusOf
  split_ifs with h <;> simp [h]

/-- The normal form of a numeral is told by its parts: the sign of its value, and its digits `d`. -/
theorem NumeralShape.normalForm_eq {choice : BaseChoice} {b : Base} {w s p d : List Char}
    (h : NumeralShape choice b w s p d []) (uppercase : Bool) :
    choice.normalForm uppercase (w ++ s ++ p ++ d) =
      minusOf (applySign (s = ['-']) (b.valueOf d)) ++ (stripZeros d).map (inCase uppercase) := by
  have hdrop := h.dropWhile_isBlank
  have hsign := h.sign_eq
  have hafter := h.afterSign_eq
  have hdigits := h.afterPrefix_eq
  simp only [List.append_nil] at hdrop hsign hafter hdigits
  simp only [BaseChoice.normalForm, minusOf, hdrop, ← hsign, hafter, hdigits, applySign_neg_iff,
    decide_eq_true_eq, ne_eq, h.denotes.stripZeros_eq_zero_iff]

namespace Layout

/-- The layout shows nothing but a minus sign and digits. -/
structure IsPlain (layout : Layout) : Prop where
  showPrefix_eq : layout.showPrefix = false
  showPlus_eq : layout.showPlus = false
  width_eq : layout.width = 0

variable {layout : Layout} {t : IntType} {value : Int} {d : List Char}

/-- A plain rendering of `value` consists of a minus sign, if the value is negative, and of its
canonical digits `d`. -/
theorem IsPlain.render_eq (h : layout.IsPlain) (hv : t.InRange value)
    (hd : layout.base.Canonical layout.uppercase d value.natAbs) :
    layout.render value = minusOf value ++ d := by
  -- each part that need not be shown is empty
  have hwidth : layout.width ≤ (layout.bare value).length := by
    rw [h.width_eq]
    exact Nat.zero_le _
  have hsign : layout.sign (value < 0) = minusOf value := by
    simp [sign, minusOf, h.showPlus_eq]
  have hprefix : layout.basePrefix value.natAbs = [] := by
    unfold basePrefix
    cases layout.base <;> simp [h.showPrefix_eq]
  have hdigits : digits layout.base layout.uppercase value.natAbs = d :=
    hd.unique (Base.canonical_digits layout.base layout.uppercase hv.natAbs_lt)
  rw [render_of_width_le hwidth, bare_eq, hsign, hprefix, hdigits, List.append_nil]

end Layout

/-- What is written for a `value` that was read is the normal form of what it was read from. -/
theorem render_of_parseNumeral {t : IntType} {choice : BaseChoice} {text : List Char} {value : Int}
    {n : Nat} {layout : Layout} (h : parseNumeral t choice text = .ok { value, length := n })
    (hplain : layout.IsPlain)
    (hbase : layout.base = choice.baseOf (afterSign (text.dropWhile isBlank))) :
    layout.render value = choice.normalForm layout.uppercase (text.take n) := by
  obtain ⟨e, left, hrejects⟩ | ⟨b, w, s, p, d, rest, rfl, hshape, hminus, hin⟩ :=
    rejects_or_numeralShape t choice text
  · rw [parseNumeral_of_rejects hrejects] at h
    cases h
  · rw [parseNumeral_of_inRange hshape hminus hin] at h
    obtain ⟨rfl, rfl⟩ := Parsed.mk.inj (Except.ok.inj h)
    rw [hshape.dropWhile_isBlank, hshape.afterSign_eq, ← hshape.base_eq] at hbase
    -- the numeral alone may be in another base, with the same value
    obtain ⟨b', hcut, hvalue⟩ := hshape.exists_cut
    rw [List.take_left' rfl, hcut.normalForm_eq, hvalue]
    apply hplain.render_eq hin
    rw [natAbs_applySign, hbase]
    exact hshape.denotes.canonical layout.uppercase

/-! ### Texts in normal form -/

namespace Base

variable {b : Base} {uppercase : Bool} {text : List Char}

/-- The `text` is a minus sign or nothing, and then canonical digits in base `b`, which are not a
zero if there is a minus sign. -/
structure IsNormal (b : Base) (uppercase : Bool) (text : List Char) : Prop where
  signOf_ne_plus : signOf text ≠ ['+']
  canonical : b.Canonical uppercase (afterSign text) (b.valueOf (afterSign text))
  ne_zero_of_minus : signOf text = ['-'] → afterSign text ≠ ['0']

/-- The integer that the sign and the digits of `text` denote. -/
def integerOf (b : Base) (text : List Char) : Int :=
  applySign (signOf text = ['-']) (b.valueOf (afterSign text))

namespace IsNormal

theorem numeralShape (h : b.IsNormal uppercase text) :
    NumeralShape (.fixed b) b [] (signOf text) [] (afterSign text) [] :=
  .of_digits (List.forall_mem_nil _) (isSign_signOf text) rfl rfl h.canonical.toDenotes (by simp)

theorem stripZeros_afterSign (h : b.IsNormal uppercase text) :
    stripZeros (afterSign text) = afterSign text :=
  stripZeros_of_head? h.canonical.eq_zero_of_head?

/-- It has a minus sign just in case its integer is negative: there is no negative zero. -/
theorem integerOf_neg_iff (h : b.IsNormal uppercase text) :
    b.integerOf text < 0 ↔ signOf text = ['-'] := by
  have hzero := h.canonical.stripZeros_eq_zero_iff
  rw [h.stripZeros_afterSign] at hzero
  rw [integerOf, applySign_neg_iff, decide_eq_true_iff, Ne, ← hzero]
  exact and_iff_left_of_imp h.ne_zero_of_minus

/-- A `text` in normal form has the sign of its integer. -/
theorem minusOf_integerOf (h : b.IsNormal uppercase text) :
    minusOf (b.integerOf text) = signOf text := by
  rw [minusOf, if_congr h.integerOf_neg_iff rfl rfl]
  rcases isSign_signOf text with hs | hs | hs
  · rw [hs]
    rfl
  · exact absurd hs h.signOf_ne_plus
  · rw [hs]
    rfl

theorem map_inCase_afterSign (h : b.IsNormal uppercase text) :
    (afterSign text).map (inCase uppercase) = afterSign text := by
  have hsame : ∀ c ∈ afterSign text, inCase uppercase c = c := fun c hc =>
    inCase_of_hasCase (h.canonical.isDigit_of_mem c hc) (h.canonical.hasCase_of_mem c hc)
  exact (List.map_congr_left hsame).trans (List.map_id _)

/-- There is nothing to be left out of a `text` in normal form. -/
theorem normalForm_eq (h : b.IsNormal uppercase text) :
    (BaseChoice.fixed b).normalForm uppercase text = text := by
  have hnormal := h.numeralShape.normalForm_eq uppercase
  rw [← integerOf, h.minusOf_integerOf, h.stripZeros_afterSign, h.map_inCase_afterSign,
    List.append_nil, List.nil_append, signOf_append_afterSign] at hnormal
  exact hnormal

/-- A normal form is read as its integer, if this lies in the range of `t`. -/
theorem parseNumeral_eq {t : IntType} (h : b.IsNormal uppercase text)
    (hin : t.InRange (b.integerOf text)) :
    parseNumeral t (.fixed b) text = .ok { value := b.integerOf text, length := text.length } := by
  have hminus : ¬ (t = .unsigned ∧ signOf text = ['-']) := by
    rintro ⟨rfl, hs⟩
    have hneg := h.integerOf_neg_iff.mpr hs
    have hlower : 0 ≤ b.integerOf text := hin.1
    omega
  have hparse := parseNumeral_of_inRange h.numeralShape hminus hin
  simpa only [integerOf, List.append_nil, List.nil_append, signOf_append_afterSign] using hparse

end IsNormal

end Base

/-! ### Plain renderings -/

section PlainRendering

variable {b : Base} {uppercase : Bool} {text d : List Char} {layout : Layout} {t : IntType}
  {value : Int}

/-- Digits `d` after the sign of `value` divide into this sign and these digits. -/
theorem Base.Canonical.sign_parts (h : b.Canonical uppercase d value.natAbs) :
    signOf (minusOf value ++ d) = minusOf value ∧ afterSign (minusOf value ++ d) = d := by
  have hshape : NumeralShape (.fixed b) b [] (minusOf value) [] d [] :=
    .of_digits (List.forall_mem_nil _) (isSign_minusOf value) rfl rfl h.toDenotes (by simp)
  have hsign := hshape.sign_eq
  have hafter := hshape.afterSign_eq
  simp only [List.append_nil, List.nil_append] at hsign hafter
  exact ⟨hsign.symm, hafter⟩

/-- Canonical digits after the sign of `value` are a normal form. -/
theorem Base.Canonical.isNormal (h : b.Canonical uppercase d value.natAbs) :
    b.IsNormal uppercase (minusOf value ++ d) := by
  obtain ⟨hsign, hafter⟩ := h.sign_parts
  constructor
  case signOf_ne_plus =>
    rw [hsign, minusOf]
    split_ifs <;> simp
  case canonical =>
    rw [hafter, h.valueOf_eq]
    exact h
  case ne_zero_of_minus =>
    rw [hsign, hafter, minusOf_eq_minus_iff]
    -- a negative value is not spelled with a single zero
    rintro hneg rfl
    have hzero : 0 = value.natAbs := b.denotes_zero.valueOf_eq.symm.trans h.valueOf_eq
    omega

theorem Base.Canonical.integerOf_eq (h : b.Canonical uppercase d value.natAbs) :
    b.integerOf (minusOf value ++ d) = value := by
  obtain ⟨hsign, hafter⟩ := h.sign_parts
  rw [Base.integerOf, hsign, hafter, h.valueOf_eq, decide_eq_decide.mpr minusOf_eq_minus_iff,
    applySign_natAbs]

namespace Layout.IsPlain

/-- The `value` can be read off a plain rendering. -/
theorem integerOf_render (h : layout.IsPlain) (hv : t.InRange value) :
    layout.base.integerOf (layout.render value) = value := by
  have hd := Base.canonical_digits layout.base layout.uppercase hv.natAbs_lt
  rw [h.render_eq hv hd, hd.integerOf_eq]

/-- The plain rendering of the integer of `text` is `text` again. -/
theorem render_integerOf (h : layout.IsPlain)
    (hnormal : layout.base.IsNormal layout.uppercase text)
    (hin : t.InRange (layout.base.integerOf text)) :
    layout.render (layout.base.integerOf text) = text := by
  rw [render_of_parseNumeral (hnormal.parseNumeral_eq hin) h rfl, List.take_length,
    hnormal.normalForm_eq]

/-- The plain renderings of the values of type `t` are the texts in normal form whose integers are
in the range of `t`. -/
theorem exists_render_eq_iff (h : layout.IsPlain) (t : IntType) (text : List Char) :
    (∃ value, t.InRange value ∧ layout.render value = text) ↔
      layout.base.IsNormal layout.uppercase text ∧ t.InRange (layout.base.integerOf text) := by
  constructor
  · rintro ⟨value, hv, rfl⟩
    have hd := Base.canonical_digits layout.base layout.uppercase hv.natAbs_lt
    rw [h.integerOf_render hv]
    refine ⟨?_, hv⟩
    rw [h.render_eq hv hd]
    exact hd.isNormal
  · rintro ⟨hnormal, hin⟩
    exact ⟨_, hin, h.render_integerOf hnormal hin⟩

end Layout.IsPlain

end PlainRendering

/-- **Writing what was read normalises it.**  If a value is read from a text, then the numeral of
this value in a plain layout, in the base in which it was read, is the normal form of the characters
from which it was read.  So a text that is in normal form in a fixed base, and whose integer is in
the range of the type, is read as this integer and written again as it was; and this is the only
value of either type that is written so. -/
theorem render_parseNumeral_normalForm (t : IntType) (choice : BaseChoice) (text : List Char) :
    (∀ value n, parseNumeral t choice text = .ok { value, length := n } →
      ∀ layout : Layout, layout.IsPlain →
        layout.base = choice.baseOf (afterSign (text.dropWhile isBlank)) →
        layout.render value = choice.normalForm layout.uppercase (text.take n)) ∧
    ∀ layout : Layout, layout.IsPlain → choice = .fixed layout.base →
      layout.base.IsNormal layout.uppercase text → t.InRange (layout.base.integerOf text) →
        let value := layout.base.integerOf text
        parseNumeral t choice text = .ok { value, length := text.length } ∧
          layout.render value = text ∧
          ∀ t' value', IntType.InRange t' value' → layout.render value' = text →
            value' = value := by
  constructor
  · intro value n hparse layout hplain hbase
    exact render_of_parseNumeral hparse hplain hbase
  · rintro layout hplain rfl hnormal hin value
    refine ⟨hnormal.parseNumeral_eq hin, hplain.render_integerOf hnormal hin, ?_⟩
    intro t' value' hin' hrender
    -- another value would be read off the same text
    have hback := hplain.integerOf_render hin'
    rw [hrender] at hback
    exact hback.symm

/-- All that a normal form leaves out, and the least signed value, which is in normal form. -/
theorem render_parseNumeral_normalForm_least :
    let hex : Layout := { base := .sixteen, uppercase := true, alignment := .left }
    let least := "-170141183460469231731687303715884105728".toList
    parseNumeral .signed .detect " \n-0x00fAg".toList = .ok { value := -250, length := 9 } ∧
      hex.render (-250) = "-FA".toList ∧
      parseNumeral .signed (.fixed .ten) least = .ok { value := -2 ^ 127, length := 40 } ∧
      ({} : Layout).render (-2 ^ 127) = least ∧
      ∀ value, IntType.unsigned.InRange value → ({} : Layout).render value ≠ least := by
  intro hex least
  have hread : parseNumeral .signed .detect " \n-0x00fAg".toList =
      .ok { value := -250, length := 9 } := by
    decide +kernel
  have hrender := (render_parseNumeral_normalForm .signed .detect _).1 _ _ hread hex
    ⟨rfl, rfl, rfl⟩ (by decide)
  have hnormalForm : BaseChoice.detect.normalForm true (" \n-0x00fAg".toList.take 9) =
      "-FA".toList := by
    decide +kernel
  rw [hnormalForm] at hrender
  -- the digits that are written are canonical, so that the numeral is in normal form
  have hcanonical :=
    Base.canonical_digits .ten false (show (-2 ^ 127 : Int).natAbs < 2 ^ 128 by decide)
  have hleast : minusOf (-2 ^ 127) ++ digits .ten false (-2 ^ 127 : Int).natAbs = least := by
    decide +kernel
  have hnormal := hcanonical.isNormal
  have hinteger := hcanonical.integerOf_eq
  rw [hleast] at hnormal hinteger
  obtain ⟨hparse, hwritten, hunique⟩ :=
    (render_parseNumeral_normalForm .signed (.fixed .ten) least).2 {} ⟨rfl, rfl, rfl⟩ rfl hnormal
      (by rw [hinteger]; decide)
  rw [hinteger] at hparse hwritten hunique
  refine ⟨hread, hrender, hparse, hwritten, ?_⟩
  intro value hin hvalue
  -- the value is unique, and it is negative
  obtain rfl := hunique .unsigned value hin hvalue
  exact absurd hin (by decide)

end Numeral128
