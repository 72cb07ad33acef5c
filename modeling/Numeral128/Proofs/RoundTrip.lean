import Numeral128.Proofs.Grammar
import Numeral128.Proofs.Padding

/-!
# Reading what was written

A value is read back from its rendering as long as the padding is harmless (`Layout.HarmlessFill`).
`ReadsBack` says this for both types at once: each type that has the value reads it, the unsigned
type rejects the minus sign of a negative value, and the signed type runs out of range on a value
above its own.  `render_readsBack_fixed` is about reading in the base of the layout, and
`render_readsBack_detect` about finding the base by its prefix.

A rendering is spread out as blanks, sign, prefix, zeros, digits and rest (`Layout.Spread`).  Such a
text is read back whether or not it is a rendering: it is left to say which of its characters a
reader takes for the prefix and which for digits (`Layout.readsBack_of_shape`).  In a fixed base the
prefix is a zero like those after it.  If the base is detected, the first two characters after the
sign tell it, except for the value zero, which has no prefix in base eight: its base does not
matter.
-/

namespace Numeral128

/-! ### Numerals from their parts -/

/-- Characters `xs` with a property, before one without it, are the longest prefix with it. -/
theorem takeWhile_append_eq {f : Char → Bool} {xs ys : List Char} (hxs : ∀ x ∈ xs, f x = true)
    (hys : ∀ y ∈ ys.head?, f y = false) : (xs ++ ys).takeWhile f = xs := by
  rw [List.takeWhile_append_of_pos hxs]
  cases ys with
  | nil => rw [List.takeWhile_nil, List.append_nil]
  | cons y ys =>
    have hy : f y = false := hys y rfl
    rw [List.takeWhile_cons_of_neg (by rw [hy]; decide), List.append_nil]

/-- The text `s` of a sign: none, plus or minus. -/
def IsSign (s : List Char) : Prop := s = [] ∨ s = ['+'] ∨ s = ['-']

theorem isBlank_of_isSign {s : List Char} (h : IsSign s) : ∀ c ∈ s, isBlank c = false := by
  rcases h with rfl | rfl | rfl
  · exact List.forall_mem_nil _
  · exact fun c hc => List.mem_singleton.mp hc ▸ rfl
  · exact fun c hc => List.mem_singleton.mp hc ▸ rfl

theorem isSign_signOf (text : List Char) : IsSign (signOf text) := by
  cases text with
  | nil => exact Or.inl rfl
  | cons c cs =>
    by_cases hc : c = '-' ∨ c = '+'
    · rw [signOf_of_sign hc]
      rcases hc with rfl | rfl
      · exact Or.inr (Or.inr rfl)
      · exact Or.inr (Or.inl rfl)
    · exact Or.inl (signOf_of_not_sign hc cs)

/-- A sign `s` before a digit `c` is the sign of the text. -/
theorem signOf_append {s : List Char} (h : IsSign s) {b : Base} {c : Char} {cs : List Char}
    (hc : b.isDigit c = true) : signOf (s ++ c :: cs) = s := by
  rcases h with rfl | rfl | rfl
  · refine signOf_of_not_sign ?_ cs
    rintro (rfl | rfl)
    · rw [b.isDigit_minus] at hc
      exact absurd hc (by decide)
    · rw [b.isDigit_plus] at hc
      exact absurd hc (by decide)
  · rfl
  · rfl

namespace NumeralShape

variable {choice : BaseChoice} {b : Base} {w s p d rest : List Char} {m : Nat}

theorem isSign (h : NumeralShape choice b w s p d rest) : IsSign s := by
  rw [h.sign_eq]
  exact isSign_signOf _

/-- If a digit `c` of the base `b` follows the sign, as the first of a prefix or not, then the parts
of a numeral are where they should be. -/
theorem of_parts {c : Char} {cs : List Char} (hw : ∀ c ∈ w, isBlank c = true) (hs : IsSign s)
    (hcons : p ++ d ++ rest = c :: cs) (hc : b.isDigit c = true)
    (hpre : choice.prefixOf (p ++ d ++ rest) = p) (hbase : choice.baseOf (p ++ d ++ rest) = b)
    (hd : b.Denotes d m) (hrest : ∀ c ∈ rest.head?, b.isDigit c = false) :
    NumeralShape choice b w s p d rest := by
  have hassoc : s ++ p ++ d ++ rest = s ++ c :: cs := by
    rw [List.append_assoc, List.append_assoc, ← hcons, List.append_assoc]
  have hhead : ∀ y ∈ (s ++ c :: cs).head?, isBlank y = false := by
    intro y hy
    cases s with
    | nil => exact Base.isBlank_of_isDigit (Option.some.inj hy ▸ hc)
    | cons s0 s => exact isBlank_of_isSign hs y (Option.some.inj hy ▸ List.mem_cons_self)
  refine ⟨?_, ?_, hpre.symm, hbase.symm, ?_, hd.ne_nil⟩
  · rw [List.append_assoc, List.append_assoc, List.append_assoc, ← List.append_assoc p, hcons,
      takeWhile_append_eq hw hhead]
  · rw [hassoc, signOf_append hs hc]
  · rw [takeWhile_append_eq hd.isDigit_of_mem hrest]

/-- A numeral without a prefix has its digits `d` right after its sign `s`. -/
theorem of_digits (hw : ∀ c ∈ w, isBlank c = true) (hs : IsSign s)
    (hpre : choice.prefixOf (d ++ rest) = []) (hbase : choice.baseOf (d ++ rest) = b)
    (hd : b.Denotes d m) (hrest : ∀ c ∈ rest.head?, b.isDigit c = false) :
    NumeralShape choice b w s [] d rest := by
  obtain ⟨c, ds, rfl⟩ := List.exists_cons_of_ne_nil hd.ne_nil
  exact of_parts hw hs rfl (hd.isDigit_of_mem c List.mem_cons_self) hpre hbase hd hrest

/-- A zero and the letter `x` are a prefix of base sixteen. -/
theorem detect_of_letter {x : Char} (hx : x = 'x' ∨ x = 'X') (hw : ∀ c ∈ w, isBlank c = true)
    (hs : IsSign s) (hd : Base.sixteen.Denotes d m)
    (hrest : ∀ c ∈ rest.head?, Base.sixteen.isDigit c = false) :
    NumeralShape .detect .sixteen w s ['0', x] d rest :=
  of_parts hw hs rfl (Base.isDigit_zero _) (hexPrefixOf_of_letter hx (d ++ rest))
    (BaseChoice.baseOf_detect_of_letter hx (d ++ rest)) hd hrest

/-- A zero before `ds` is in base eight if anything follows it but a letter of the prefix of base
sixteen. -/
theorem detect_of_zero {ds : List Char} (hw : ∀ c ∈ w, isBlank c = true) (hs : IsSign s)
    (hd : Base.eight.Denotes ('0' :: ds) m) (hne : ds ++ rest ≠ [])
    (hrest : ∀ c ∈ rest.head?, Base.eight.isDigit c = false)
    (hletter : ∀ c ∈ rest.head?, ¬ (c = 'x' ∨ c = 'X')) :
    NumeralShape .detect .eight w s [] ('0' :: ds) rest := by
  obtain ⟨c, cs, hcons⟩ := List.exists_cons_of_ne_nil hne
  -- the character after the zero is another digit or the first of the rest
  have hc : ¬ (c = 'x' ∨ c = 'X') := by
    cases ds with
    | nil => exact hletter c (by rw [← List.nil_append rest, hcons]; rfl)
    | cons d ds =>
      obtain ⟨rfl, -⟩ := List.cons.inj hcons
      exact Base.not_letter_of_isDigit
        (hd.isDigit_of_mem d (List.mem_cons_of_mem _ List.mem_cons_self))
  refine of_digits hw hs ?_ ?_ hd hrest
  · rw [List.cons_append, hcons]
    exact hexPrefixOf_of_not_letter hc '0' cs
  · rw [List.cons_append, hcons]
    exact BaseChoice.baseOf_detect_of_not_letter hc cs

/-- Digits `c :: ds` that do not begin with a zero are in base ten. -/
theorem detect_of_ne_zero {c : Char} {ds : List Char} (hc : c ≠ '0')
    (hw : ∀ c ∈ w, isBlank c = true) (hs : IsSign s) (hd : Base.ten.Denotes (c :: ds) m)
    (hrest : ∀ x ∈ rest.head?, Base.ten.isDigit x = false) :
    NumeralShape .detect .ten w s [] (c :: ds) rest :=
  of_digits hw hs (hexPrefixOf_of_ne_zero hc _) (BaseChoice.baseOf_detect_of_ne_zero hc _) hd hrest

/-- `n + 1` zeros are in base eight, unless there is but one and nothing after it. -/
theorem exists_detect_of_zeros (hw : ∀ c ∈ w, isBlank c = true) (hs : IsSign s)
    (hrest : ∀ c ∈ rest.head?, Base.eight.isDigit c = false)
    (hletter : ∀ c ∈ rest.head?, ¬ (c = 'x' ∨ c = 'X')) (n : Nat) :
    ∃ b, NumeralShape .detect b w s [] ('0' :: List.replicate n '0') rest ∧
      b.Denotes ('0' :: List.replicate n '0') 0 := by
  have hzeros : ∀ b : Base, b.Denotes ('0' :: List.replicate n '0') 0 := by
    intro b
    rw [← List.replicate_succ, List.replicate_succ']
    exact b.denotes_zero.zeros_append n
  by_cases hne : List.replicate n '0' ++ rest = []
  · obtain ⟨hn, rfl⟩ := List.append_eq_nil_iff.mp hne
    have hten := hzeros .ten
    -- the zero is the whole text after the sign
    rw [hn] at hten ⊢
    exact ⟨.ten, of_digits hw hs rfl BaseChoice.baseOf_detect_zero hten (by simp), hten⟩
  · exact ⟨.eight, detect_of_zero hw hs (hzeros .eight) hne hrest hletter, hzeros .eight⟩

end NumeralShape

/-! ### Reading a value back -/

/-- The `text` is read as `value`, whose numeral ends after `length` characters, by every type that
has the value.  If a type has not, it says why. -/
structure ReadsBack (choice : BaseChoice) (text : List Char) (value : Int) (length : Nat)
    (b : Base) : Prop where
  /-- Each type that has the value reads it. -/
  parse_of_inRange : ∀ t : IntType, t.InRange value →
    parseNumeral t choice text = .ok { value, length }
  /-- A negative value is rejected by its sign. -/
  parse_unsigned : value < 0 → parseNumeral .unsigned choice text = .error .minusSign
  /-- A value above the signed type leaves its range. -/
  parse_signed : IntType.signed.upper < value →
    parseNumeral .signed choice text = .error (.outOfRange b)

/-- A text in the shape of a numeral, with the sign of `value` and digits that denote its magnitude,
is read back. -/
theorem NumeralShape.readsBack {choice : BaseChoice} {b b' : Base} {w s p d rest : List Char}
    {value : Int} (h : NumeralShape choice b' w s p d rest) (hs : s = ['-'] ↔ value < 0)
    (hd : b'.Denotes d value.natAbs) (hb : value ≠ 0 → b' = b) :
    ReadsBack choice (w ++ s ++ p ++ d ++ rest) value (w ++ s ++ p ++ d).length b := by
  -- sign and magnitude give the value back, whatever the type
  have happly : applySign (s = ['-']) (b'.valueOf d) = value := by
    rw [hd.valueOf_eq, decide_eq_decide.mpr hs, applySign_natAbs]
  refine ⟨fun t hin => ?_, fun hneg => ?_, fun hupper => ?_⟩
  · have hminus : ¬ (t = .unsigned ∧ s = ['-']) := by
      rintro ⟨rfl, hsign⟩
      have hneg := hs.mp hsign
      have hlower : 0 ≤ value := hin.1
      omega
    rw [parseNumeral_of_inRange h hminus (happly.symm ▸ hin), happly]
  · obtain rfl := hs.mpr hneg
    exact parseNumeral_of_minus h
  · have hout : ¬ IntType.signed.InRange (applySign (s = ['-']) (b'.valueOf d)) := by
      rw [happly]
      exact fun hin => absurd hin.2 (not_le.mpr hupper)
    have hpos : value ≠ 0 := by
      rintro rfl
      exact absurd hupper (not_lt.mpr IntType.signed.upper_nonneg)
    rw [parseNumeral_of_not_inRange h (by simp) hout, hb hpos]

namespace Layout

theorem isSign_sign (layout : Layout) (negative : Bool) : IsSign (layout.sign negative) := by
  rw [sign]
  split_ifs
  · exact Or.inr (Or.inr rfl)
  · exact Or.inr (Or.inl rfl)
  · exact Or.inl rfl

theorem sign_eq_minus_iff (layout : Layout) (value : Int) :
    layout.sign (value < 0) = ['-'] ↔ value < 0 := by
  rw [sign]
  split_ifs with hneg hplus
  · exact iff_of_true rfl (of_decide_eq_true hneg)
  · exact iff_of_false (by decide) fun h => hneg (decide_eq_true h)
  · exact iff_of_false (by decide) fun h => hneg (decide_eq_true h)

variable {layout : Layout} {t : IntType} {value : Int} {w rest : List Char} {n : Nat}

theorem denotes_zeroFilled (layout : Layout) (hv : t.InRange value) (n : Nat) :
    layout.base.Denotes (layout.zeroFilled value n) value.natAbs :=
  (denotes_digits layout.base layout.uppercase hv.natAbs_lt).zeros_append n

/-- The numeral of `value`, with `n` zeros before its digits, after the blanks `w`. -/
def numeralAfter (layout : Layout) (w : List Char) (value : Int) (n : Nat) : List Char :=
  w ++ layout.sign (value < 0) ++ layout.basePrefix value.natAbs ++ layout.zeroFilled value n

/-- What remains to be shown of a numeral: its prefix, zeros and digits are taken for a prefix `p`
and for digits `d` that denote the value. -/
theorem readsBack_of_shape {choice : BaseChoice} {b : Base} {p d : List Char}
    (hsplit : layout.basePrefix value.natAbs ++ layout.zeroFilled value n = p ++ d)
    (hshape : NumeralShape choice b w (layout.sign (value < 0)) p d rest)
    (hd : b.Denotes d value.natAbs) (hb : value ≠ 0 → b = layout.base) :
    ReadsBack choice (layout.numeralAfter w value n ++ rest) value
      (layout.numeralAfter w value n).length layout.base := by
  have htext : layout.numeralAfter w value n = w ++ layout.sign (value < 0) ++ p ++ d := by
    rw [numeralAfter, List.append_assoc _ p, ← hsplit, ← List.append_assoc]
  rw [htext]
  exact hshape.readsBack (layout.sign_eq_minus_iff value) hd hb

/-! ### Reading in the base of the layout -/

/-- In a fixed base, the prefix of `layout` is read as digits unless it has a letter. -/
theorem readsBack_fixed (hw : ∀ c ∈ w, isBlank c = true) (hv : t.InRange value)
    (hpre : layout.base = .sixteen → layout.showPrefix = false)
    (hrest : ∀ c ∈ rest.head?, layout.base.isDigit c = false) :
    ReadsBack (.fixed layout.base) (layout.numeralAfter w value n ++ rest) value
      (layout.numeralAfter w value n).length layout.base := by
  -- the `k` zeros of the prefix go to the digits
  obtain ⟨k, hk⟩ := basePrefix_eq_zeros hpre value.natAbs
  have hd := (layout.denotes_zeroFilled hv n).zeros_append k
  have hsplit : layout.basePrefix value.natAbs ++ layout.zeroFilled value n =
      [] ++ (List.replicate k '0' ++ layout.zeroFilled value n) := by
    rw [hk, List.nil_append]
  exact readsBack_of_shape hsplit (.of_digits hw (layout.isSign_sign _) rfl rfl hd hrest) hd
    fun _ => rfl

/-- **Round trip in a fixed base.**  Every `value` of either type is read back from its rendering in
the base of the layout, provided that the prefix takes no letter and that the fill, if there is any,
is harmless. -/
theorem render_readsBack_fixed (layout : Layout) (t : IntType) (value : Int) (hv : t.InRange value)
    (hpre : layout.base = .sixteen → layout.showPrefix = false)
    (hfill : layout.width ≤ (layout.bare value).length ∨
      layout.HarmlessFill value (.fixed layout.base)) :
    ReadsBack (.fixed layout.base) (layout.render value) value (layout.numeralLength value)
      layout.base := by
  obtain ⟨w, n, rest, hspread, hrest, -⟩ := exists_spread (fun _ => hpre) hfill
  rw [hspread.render_eq, hspread.length_eq]
  exact readsBack_fixed hspread.isBlank_of_mem hv hpre fun c hc => (hrest c hc).1

/-- The least signed value, with its prefix, with zeros inside. -/
theorem readsBack_fixed_least :
    ReadsBack (.fixed .eight) "-00002000000000000000000000000000000000000000000".toList
      (-2 ^ 127) 48 .eight := by
  let layout : Layout :=
    { base := .eight, showPrefix := true, width := 48, fill := '0', alignment := .internal }
  have hrender : layout.render (-2 ^ 127) =
    "-00002000000000000000000000000000000000000000000".toList := by decide +kernel
  have hlength : layout.numeralLength (-2 ^ 127) = 48 := by decide +kernel
  have hfill : layout.HarmlessFill (-2 ^ 127) (.fixed .eight) := Or.inl ⟨rfl, fun h => nomatch h⟩
  rw [← hrender, ← hlength]
  exact render_readsBack_fixed layout .signed (-2 ^ 127) (by decide) (by decide) (Or.inr hfill)

/-! ### Reading in the base that is detected -/

/-- In base sixteen the prefix is a zero and a letter, in the case of the `layout`. -/
theorem readsBack_detect_sixteen (hw : ∀ c ∈ w, isBlank c = true) (hv : t.InRange value)
    (hbase : layout.base = .sixteen) (hpre : layout.showPrefix = true)
    (hrest : ∀ c ∈ rest.head?, layout.base.isDigit c = false) :
    ReadsBack .detect (layout.numeralAfter w value n ++ rest) value
      (layout.numeralAfter w value n).length layout.base := by
  -- the letter has the case of the digits, and either one is read
  obtain ⟨x, hx, hletter⟩ : ∃ x, (x = 'x' ∨ x = 'X') ∧
      layout.basePrefix value.natAbs = ['0', x] := by
    rw [basePrefix, hbase]
    dsimp only
    rw [if_pos hpre]
    split_ifs
    · exact ⟨'X', Or.inr rfl, rfl⟩
    · exact ⟨'x', Or.inl rfl, rfl⟩
  have hd := layout.denotes_zeroFilled hv n
  rw [hbase] at hd hrest
  have hshape := NumeralShape.detect_of_letter hx hw (layout.isSign_sign (value < 0)) hd hrest
  exact readsBack_of_shape (by rw [hletter]) hshape hd fun _ => hbase.symm

/-- The prefix of base eight is a zero and read as a digit, as are the `n` zeros after it. -/
theorem readsBack_detect_eight (hw : ∀ c ∈ w, isBlank c = true) (hv : t.InRange value)
    (hbase : layout.base = .eight) (hpre : layout.showPrefix = true) (hpos : value ≠ 0)
    (hrest : ∀ c ∈ rest.head?, layout.base.isDigit c = false)
    (hletter : ∀ c ∈ rest.head?, ¬ (c = 'x' ∨ c = 'X')) :
    ReadsBack .detect (layout.numeralAfter w value n ++ rest) value
      (layout.numeralAfter w value n).length layout.base := by
  have hzero : layout.basePrefix value.natAbs = ['0'] := by
    rw [basePrefix, hbase]
    exact if_pos ⟨hpre, Int.natAbs_ne_zero.mpr hpos⟩
  have hds := layout.denotes_zeroFilled hv n
  have hd := hds.zeros_append 1
  have hne : layout.zeroFilled value n ++ rest ≠ [] :=
    List.append_ne_nil_of_left_ne_nil hds.ne_nil _
  rw [hbase] at hd hrest
  have hshape := NumeralShape.detect_of_zero hw (layout.isSign_sign (value < 0)) hd hne hrest
    hletter
  exact readsBack_of_shape (by rw [hzero]; rfl) hshape hd fun _ => hbase.symm

/-- In base ten there is no prefix, and no zero before the digits unless `value` is zero. -/
theorem readsBack_detect_ten (hw : ∀ c ∈ w, isBlank c = true) (hv : t.InRange value)
    (hbase : layout.base = .ten) (hpos : value ≠ 0)
    (hrest : ∀ c ∈ rest.head?, layout.base.isDigit c = false) :
    ReadsBack .detect (layout.numeralAfter w value 0 ++ rest) value
      (layout.numeralAfter w value 0).length layout.base := by
  have hnone : layout.basePrefix value.natAbs = [] := by rw [basePrefix, hbase]
  have hd := layout.denotes_zeroFilled hv 0
  obtain ⟨c, ds, hcons, hc⟩ := digits_eq_cons layout.base layout.uppercase hv.natAbs_lt
    (Int.natAbs_ne_zero.mpr hpos)
  rw [← zeroFilled_zero] at hcons
  rw [hcons, hbase] at hd
  rw [hbase] at hrest
  have hshape := NumeralShape.detect_of_ne_zero hc hw (layout.isSign_sign (value < 0)) hd hrest
  exact readsBack_of_shape (by rw [hnone, hcons]) hshape hd fun _ => hbase.symm

/-- Without the prefix of base sixteen, zero is nothing but zeros.  It may be found in base eight
where it was written in base ten, or the other way round. -/
theorem readsBack_detect_zero (hw : ∀ c ∈ w, isBlank c = true) (hbase : layout.base ≠ .sixteen)
    (hrest : ∀ c ∈ rest.head?, layout.base.isDigit c = false)
    (hletter : ∀ c ∈ rest.head?, ¬ (c = 'x' ∨ c = 'X')) :
    ReadsBack .detect (layout.numeralAfter w 0 n ++ rest) 0 (layout.numeralAfter w 0 n).length
      layout.base := by
  have hnone : layout.basePrefix 0 = [] := by
    rw [basePrefix]
    split
    · contradiction
    · exact if_neg fun hand => hand.2 rfl
    · rfl
  have hzeros : layout.zeroFilled 0 n = '0' :: List.replicate n '0' := by
    rw [zeroFilled, Int.natAbs_zero, digits_zero, ← List.replicate_succ', List.replicate_succ]
  -- what is no digit of the layout is none of base eight, in which the zeros may be read
  have hrest8 : ∀ c ∈ rest.head?, Base.eight.isDigit c = false := by
    intro c hc
    by_contra h8
    rw [Bool.not_eq_false] at h8
    have hno := hrest c hc
    cases hb : layout.base with
    | sixteen => exact hbase hb
    | eight => rw [hb, h8] at hno; exact absurd hno (by decide)
    | ten => rw [hb, Base.isDigit_ten_of_eight h8] at hno; exact absurd hno (by decide)
  obtain ⟨b, hshape, hd⟩ := NumeralShape.exists_detect_of_zeros hw (layout.isSign_sign _) hrest8
    hletter n
  exact readsBack_of_shape (by rw [Int.natAbs_zero, hnone, hzeros]) hshape hd
    fun hne => absurd rfl hne

/-- The numeral of a layout in base ten, or of one that shows its prefix, is read back whatever
blanks `w` stand before it, and whatever `rest` ends it.  Base ten takes no zeros before the digits.
-/
theorem readsBack_detect (hw : ∀ c ∈ w, isBlank c = true) (hv : t.InRange value)
    (hbase : layout.base = .ten ∨ layout.showPrefix = true) (hn : layout.base = .ten → n = 0)
    (hends : ∀ c ∈ rest.head?, BaseChoice.detect.EndsAt layout.base c) :
    ReadsBack .detect (layout.numeralAfter w value n ++ rest) value
      (layout.numeralAfter w value n).length layout.base := by
  have hrest : ∀ c ∈ rest.head?, layout.base.isDigit c = false := fun c hc => (hends c hc).1
  have hletter : ∀ c ∈ rest.head?, ¬ (c = 'x' ∨ c = 'X') :=
    fun c hc => not_or.mpr ((hends c hc).2 rfl)
  -- zero comes first: the base that is found need not be that of the layout
  by_cases hzero : value = 0 ∧ layout.base ≠ .sixteen
  · obtain ⟨rfl, h16⟩ := hzero
    exact readsBack_detect_zero hw h16 hrest hletter
  cases hb : layout.base with
  | sixteen =>
    have hpre := hbase.resolve_left (by rw [hb]; decide)
    rw [← hb]
    exact readsBack_detect_sixteen hw hv hb hpre hrest
  | eight =>
    have hpre := hbase.resolve_left (by rw [hb]; decide)
    have hpos : value ≠ 0 := fun h => hzero ⟨h, by rw [hb]; decide⟩
    rw [← hb]
    exact readsBack_detect_eight hw hv hb hpre hpos hrest hletter
  | ten =>
    obtain rfl := hn hb
    have hpos : value ≠ 0 := fun h => hzero ⟨h, by rw [hb]; decide⟩
    rw [← hb]
    exact readsBack_detect_ten hw hv hb hpos hrest

/-- **Round trip with detection.**  Every `value` of either type is read back from its rendering
without a hint of the base, provided that the layout is in base ten or shows its prefix and that the
fill, if there is any, is harmless. -/
theorem render_readsBack_detect (layout : Layout) (t : IntType) (value : Int) (hv : t.InRange value)
    (hbase : layout.base = .ten ∨ layout.showPrefix = true)
    (hfill : layout.width ≤ (layout.bare value).length ∨ layout.HarmlessFill value .detect) :
    ReadsBack .detect (layout.render value) value (layout.numeralLength value) layout.base := by
  obtain ⟨w, n, rest, hspread, hends, hn⟩ := exists_spread (fun h => absurd rfl h) hfill
  rw [hspread.render_eq, hspread.length_eq]
  exact readsBack_detect hspread.isBlank_of_mem hv hbase (hn rfl) hends

/-- The greatest unsigned value, with a sign and its prefix, before two characters of fill. -/
theorem readsBack_detect_greatest :
    ReadsBack .detect "+0XFFFFFFFFFFFFFFFFFFFFFFFFFFFFFFFFgg".toList (2 ^ 128 - 1) 35
      .sixteen := by
  let layout : Layout :=
    { base := .sixteen, uppercase := true, showPrefix := true, showPlus := true, width := 37,
      fill := 'g', alignment := .left }
  have hrender : layout.render (2 ^ 128 - 1) =
    "+0XFFFFFFFFFFFFFFFFFFFFFFFFFFFFFFFFgg".toList := by decide +kernel
  have hlength : layout.numeralLength (2 ^ 128 - 1) = 35 := by decide +kernel
  have hfill : layout.HarmlessFill (2 ^ 128 - 1) .detect := ⟨by decide, fun _ => by decide⟩
  rw [← hrender, ← hlength]
  exact render_readsBack_detect layout .unsigned (2 ^ 128 - 1) (by decide) (by decide)
    (Or.inr hfill)

end Layout

end Numeral128
