import Numeral128.Proofs.RoundTrip

/-!
# One character of lookahead

Reading a numeral looks at its own characters and at the one that follows.  `parseNumeral_lookahead`
compares readings of different texts: a numeral is read alike from every text that goes on with the
same character, and from the text that ends with it; a rejected text stays rejected for the same
reason whatever is appended, unless it was rejected because it had come to its end.

What the parts of a numeral are is settled by few characters: the sign by the first, the prefix and
the base by the first two after it, or by one that is not zero (`BaseChoice.prefixOf_append`,
`BaseChoice.baseOf_append`).  A single zero is the exception, since a character after it takes it
from base ten to base eight or makes it a part of the prefix of base sixteen.  The number that it
denotes is the same in base ten as in base eight, so that the value survives when the text is cut
after it (`NumeralShape.parseNumeral_cut`).
-/

namespace Numeral128

/-! ### What the first characters settle -/

theorem signOf_append_of_ne_nil {text : List Char} (h : text ≠ []) (more : List Char) :
    signOf (text ++ more) = signOf text := by
  obtain ⟨c, cs, rfl⟩ := List.exists_cons_of_ne_nil h
  simp only [List.cons_append, signOf]

theorem afterSign_append_of_ne_nil {text : List Char} (h : text ≠ []) (more : List Char) :
    afterSign (text ++ more) = afterSign text ++ more := by
  have hlength : (signOf text).length ≤ text.length := by
    have hsplit := congrArg List.length (signOf_append_afterSign text)
    rw [List.length_append] at hsplit
    omega
  rw [afterSign, signOf_append_of_ne_nil h, List.drop_append_of_le_length hlength, afterSign]

namespace BaseChoice

variable {text : List Char}

theorem length_prefixOf_le (choice : BaseChoice) (text : List Char) :
    (choice.prefixOf text).length ≤ text.length := by
  have hsplit := congrArg List.length (choice.prefixOf_append_afterPrefix text)
  rw [List.length_append] at hsplit
  omega

/-- Unless it is a single zero, `text` settles the prefix of every text that it begins. -/
theorem prefixOf_append (choice : BaseChoice) (hne : text ≠ []) (hzero : text ≠ ['0'])
    (more : List Char) : choice.prefixOf (text ++ more) = choice.prefixOf text := by
  cases choice with
  | fixed b => rfl
  | detect =>
    match text with
    | [] => contradiction
    | [c] =>
      have hc : c ≠ '0' := by simpa using hzero
      simp only [prefixOf, List.singleton_append, hexPrefixOf_of_ne_zero hc]
    | z :: x :: cs => simp only [prefixOf, List.cons_append, hexPrefixOf]

theorem afterPrefix_append (choice : BaseChoice) (hne : text ≠ []) (hzero : text ≠ ['0'])
    (more : List Char) : choice.afterPrefix (text ++ more) = choice.afterPrefix text ++ more := by
  rw [afterPrefix, prefixOf_append choice hne hzero,
    List.drop_append_of_le_length (choice.length_prefixOf_le text), afterPrefix]

/-- Unless it is a single zero, `text` settles the base of every text that it begins. -/
theorem baseOf_append (choice : BaseChoice) (hne : text ≠ []) (hzero : text ≠ ['0'])
    (more : List Char) : choice.baseOf (text ++ more) = choice.baseOf text := by
  cases choice with
  | fixed b => rfl
  | detect =>
    match text with
    | [] => contradiction
    | [c] =>
      have hc : c ≠ '0' := by simpa using hzero
      rw [List.singleton_append, baseOf_detect_of_ne_zero hc, baseOf_detect_of_ne_zero hc]
    | z :: x :: cs => simp [baseOf, hexPrefixOf]

end BaseChoice

/-! ### Numerals -/

namespace NumeralShape

variable {choice : BaseChoice} {b : Base} {w s p d rest rest' : List Char}

/-- The parts of a numeral stay where they are if the text goes on with `rest'`, as long as that
leaves the prefix, the base and the end of the digits as they are. -/
theorem with_rest (h : NumeralShape choice b w s p d rest)
    (hpre : choice.prefixOf (p ++ d ++ rest') = p) (hbase : choice.baseOf (p ++ d ++ rest') = b)
    (hend : ∀ c ∈ rest'.head?, b.isDigit c = false) : NumeralShape choice b w s p d rest' := by
  have hne : p ++ d ++ rest' ≠ [] :=
    List.append_ne_nil_of_left_ne_nil (List.append_ne_nil_of_right_ne_nil p h.digits_ne_nil) rest'
  obtain ⟨c, cs, hcons⟩ := List.exists_cons_of_ne_nil hne
  have hc : b.isDigit c = true := by
    cases p with
    | nil =>
      obtain ⟨c', ds, rfl⟩ := List.exists_cons_of_ne_nil h.digits_ne_nil
      obtain ⟨rfl, -⟩ := List.cons.inj hcons
      exact h.isDigit_of_mem List.mem_cons_self
    | cons z p =>
      obtain ⟨rfl, -⟩ := List.cons.inj hcons
      obtain hnil | ⟨x, -, hletter⟩ := choice.prefixOf_eq_nil_or (z :: p ++ d ++ rest)
      · exact absurd (h.prefix_eq.trans hnil) (List.cons_ne_nil z p)
      · obtain ⟨rfl, -⟩ := List.cons.inj (h.prefix_eq.trans hletter)
        exact b.isDigit_zero
  exact .of_parts h.isBlank_of_mem h.isSign hcons hc hpre hbase h.denotes hend

/-- The character `c` after a numeral settles that the numeral ends there. -/
theorem with_tail {c : Char} {cs cs' : List Char} (h : NumeralShape choice b w s p d (c :: cs)) :
    NumeralShape choice b w s p d (c :: cs') := by
  have hne : p ++ d ++ [c] ≠ [] := by simp
  -- with the next character the text is too long to be a single zero
  have hzero : p ++ d ++ [c] ≠ ['0'] := by
    intro heq
    have hlength := congrArg List.length heq
    have hpos := List.length_pos_iff.mpr h.digits_ne_nil
    simp only [List.length_append, List.length_singleton] at hlength
    omega
  have hpre := h.prefix_eq
  have hbase := h.base_eq
  rw [List.append_cons] at hpre hbase
  rw [BaseChoice.prefixOf_append choice hne hzero] at hpre
  rw [BaseChoice.baseOf_append choice hne hzero] at hbase
  refine h.with_rest ?_ ?_ ?_
  · rw [List.append_cons, BaseChoice.prefixOf_append choice hne hzero, ← hpre]
  · rw [List.append_cons, BaseChoice.baseOf_append choice hne hzero, ← hbase]
  · exact fun x hx => h.isDigit_head?_rest x hx

/-- A numeral is read alike whatever `cs'` follows the character after it. -/
theorem parseNumeral_with_tail {t : IntType} {c : Char} {cs : List Char}
    (h : NumeralShape choice b w s p d (c :: cs)) (hminus : ¬ (t = .unsigned ∧ s = ['-']))
    (hin : t.InRange (applySign (s = ['-']) (b.valueOf d))) (cs' : List Char) :
    parseNumeral t choice (w ++ s ++ p ++ d ++ c :: cs') =
      .ok { value := applySign (s = ['-']) (b.valueOf d),
            length := (w ++ s ++ p ++ d).length } :=
  parseNumeral_of_inRange h.with_tail hminus hin

/-- The characters of a numeral are a numeral by themselves.  A zero that has lost what follows it
is in base ten, whatever base it was in, but it is still a zero. -/
theorem exists_cut (h : NumeralShape choice b w s p d rest) :
    ∃ b', NumeralShape choice b' w s p d [] ∧ b'.valueOf d = b.valueOf d := by
  have hnil : ∀ {b' : Base}, ∀ c ∈ ([] : List Char).head?, b'.isDigit c = false := by simp
  -- cutting the text after a single zero may change its base, as nothing is behind it then
  by_cases hzero : p ++ d = ['0']
  · obtain ⟨rfl, rfl⟩ : p = [] ∧ d = ['0'] := by
      rcases List.append_eq_singleton_iff.mp hzero with hpd | hpd
      · exact hpd
      · exact absurd hpd.2 h.digits_ne_nil
    -- a lone zero is zero in every base
    have hvalue : ∀ b' : Base, b'.valueOf ['0'] = 0 := fun b' => b'.denotes_zero.valueOf_eq
    refine ⟨choice.baseOf ['0'], ?_, by rw [hvalue, hvalue]⟩
    refine .of_digits h.isBlank_of_mem h.isSign ?_ rfl (Base.denotes_zero _) hnil
    cases choice <;> rfl
  · have hne : p ++ d ≠ [] := List.append_ne_nil_of_right_ne_nil p h.digits_ne_nil
    have hpre := h.prefix_eq
    have hbase := h.base_eq
    rw [BaseChoice.prefixOf_append choice hne hzero] at hpre
    rw [BaseChoice.baseOf_append choice hne hzero] at hbase
    refine ⟨b, h.with_rest ?_ ?_ hnil, rfl⟩
    · rw [List.append_nil, ← hpre]
    · rw [List.append_nil, ← hbase]

/-- A numeral is read alike when the text ends with its digits `d`. -/
theorem parseNumeral_cut {t : IntType} (h : NumeralShape choice b w s p d rest)
    (hminus : ¬ (t = .unsigned ∧ s = ['-']))
    (hin : t.InRange (applySign (s = ['-']) (b.valueOf d))) :
    parseNumeral t choice (w ++ s ++ p ++ d) =
      .ok { value := applySign (s = ['-']) (b.valueOf d),
            length := (w ++ s ++ p ++ d).length } := by
  obtain ⟨b', hcut, hvalue⟩ := h.exists_cut
  rw [← hvalue] at hin ⊢
  simpa using parseNumeral_of_inRange hcut hminus hin

end NumeralShape

/-! ### Rejected texts -/

section Rejected

variable {t : IntType} {choice : BaseChoice} {b : Base} {negative : Bool}

/-- Where a value leaves the range is settled by the `k` digits up to there. -/
theorem isLeast_leavingLengths_append {ds : List Char} {k : Nat}
    (h : IsLeast (leavingLengths t b negative ds) k) (more : List Char) :
    IsLeast (leavingLengths t b negative (ds ++ more)) k := by
  obtain ⟨⟨hk, hout⟩, hleast⟩ := h
  constructor
  · refine ⟨by rw [List.length_append]; omega, ?_⟩
    rwa [List.take_append_of_le_length hk]
  · rintro j ⟨-, hj⟩
    by_contra hlt
    rw [not_le] at hlt
    -- a smaller length would be one of the digits alone
    have hjds : j ≤ ds.length := by omega
    rw [List.take_append_of_le_length hjds] at hj
    have := hleast ⟨hjds, hj⟩
    omega

theorem exists_takeWhile_append (f : Char → Bool) (xs ys : List Char) :
    ∃ zs, (xs ++ ys).takeWhile f = xs.takeWhile f ++ zs := by
  rw [List.takeWhile_append]
  split_ifs with hall
  · have hself : xs.takeWhile f = xs := (List.takeWhile_prefix f).eq_of_length hall
    exact ⟨ys.takeWhile f, by rw [hself]⟩
  · exact ⟨[], (List.append_nil _).symm⟩

/-- A `text` with a character after its prefix settles the parts of every text that it begins,
unless it is a single zero. -/
theorem parts_append {text : List Char}
    (hds : choice.afterPrefix (afterSign text) ≠ []) (hzero : afterSign text ≠ ['0'])
    (more : List Char) :
    text ≠ [] ∧ (text ++ more).head? = text.head? ∧
      choice.baseOf (afterSign (text ++ more)) = choice.baseOf (afterSign text) ∧
      choice.afterPrefix (afterSign (text ++ more)) =
        choice.afterPrefix (afterSign text) ++ more := by
  have hafter : afterSign text ≠ [] := by
    intro hnil
    rw [hnil, BaseChoice.afterPrefix, List.drop_nil] at hds
    exact hds rfl
  have hne : text ≠ [] := by
    rintro rfl
    exact hafter List.drop_nil
  rw [afterSign_append_of_ne_nil hne]
  refine ⟨hne, List.head?_append_of_ne_nil text hne, ?_, ?_⟩
  · exact choice.baseOf_append hafter hzero more
  · exact choice.afterPrefix_append hafter hzero more

/-- A `text` with a length `k` that leaves the range is neither empty nor a zero. -/
theorem ne_zero_of_mem_leavingLengths {text : List Char} {k : Nat}
    (hk : k ∈ leavingLengths t b negative (text.takeWhile b.isDigit)) :
    text ≠ [] ∧ text ≠ ['0'] := by
  have hvalue : b.valueOf ((text.takeWhile b.isDigit).take k) ≠ 0 := by
    intro hzero
    have hout := hk.2
    rw [hzero, applySign_zero] at hout
    exact hout ⟨t.lower_nonpos, t.upper_nonneg⟩
  constructor
  · rintro rfl
    simp [Base.valueOf_nil] at hvalue
  · rintro rfl
    rw [List.takeWhile_cons_of_pos b.isDigit_zero, List.takeWhile_nil] at hvalue
    cases k with
    | zero => exact hvalue b.valueOf_nil
    | succ k => simp [b.denotes_zero.valueOf_eq] at hvalue

/-- A text that is not rejected for coming to its end is rejected for the same `e` whatever follows
it. -/
theorem Rejects.append {text left : List Char} {e : Rejection} (h : Rejects t choice text e left)
    (hnothing : e ≠ .nothing) (hcutOff : e ≠ .cutOff) (more : List Char) :
    text ≠ [] ∧ Rejects t choice (text ++ more) e (left ++ more) := by
  -- a single zero is neither refused nor out of range, so the texts here are others
  have hafterZero : choice.afterPrefix ['0'] = ['0'] := by cases choice <;> rfl
  cases h with
  | nothing => contradiction
  | cutOff => contradiction
  | minusSign ht => exact ⟨List.cons_ne_nil _ _, .minusSign ht⟩
  | @notDigit _ c cs hminus hds hc =>
    have hzero : afterSign text ≠ ['0'] := by
      intro hzero
      rw [hzero, hafterZero] at hds
      obtain ⟨rfl, -⟩ := List.cons.inj hds
      rw [Base.isDigit_zero] at hc
      exact absurd hc (by decide)
    have hne : choice.afterPrefix (afterSign text) ≠ [] := hds ▸ List.cons_ne_nil c cs
    obtain ⟨htext, hhead, hbase, hafter⟩ := parts_append hne hzero more
    refine ⟨htext, .notDigit (by rwa [hhead]) ?_ (by rwa [hbase])⟩
    rw [hafter, hds]
    rfl
  | @outOfRange _ b k hminus hb hk =>
    obtain ⟨hne, hafterSign⟩ := ne_zero_of_mem_leavingLengths hk.1
    have hzero : afterSign text ≠ ['0'] := by
      intro hzero
      rw [hzero, hafterZero] at hafterSign
      exact hafterSign rfl
    have hprefix := List.takeWhile_prefix (l := choice.afterPrefix (afterSign text)) b.isDigit
    have hle : k ≤ (choice.afterPrefix (afterSign text)).length := hk.1.1.trans hprefix.length_le
    obtain ⟨htext, hhead, hbase, hafter⟩ := parts_append hne hzero more
    obtain ⟨zs, hzs⟩ :=
      exists_takeWhile_append b.isDigit (choice.afterPrefix (afterSign text)) more
    rw [← List.drop_append_of_le_length hle, ← hafter]
    refine ⟨htext, .outOfRange (by rwa [hhead]) (by rw [hbase, hb]) ?_⟩
    rw [hhead, hafter, hzs]
    exact isLeast_leavingLengths_append hk zs

theorem parseNumeral_of_rejects {text left : List Char} {e : Rejection}
    (h : Rejects t choice (text.dropWhile isBlank) e left) :
    parseNumeral t choice text = .error e := by
  rw [parseNumeral_eq, (readText_of_rejects h).1]
  rfl

/-- A rejection `e` that is not for want of further characters is final. -/
theorem parseNumeral_append_of_rejects {text left : List Char} {e : Rejection}
    (h : Rejects t choice (text.dropWhile isBlank) e left) (hnothing : e ≠ .nothing)
    (hcutOff : e ≠ .cutOff) (more : List Char) :
    parseNumeral t choice (text ++ more) = .error e := by
  obtain ⟨hne, happend⟩ := h.append hnothing hcutOff more
  have hdrop : (text ++ more).dropWhile isBlank = text.dropWhile isBlank ++ more := by
    rw [List.dropWhile_append, if_neg (by simpa using hne)]
  rw [← hdrop] at happend
  exact parseNumeral_of_rejects happend

theorem Rejects.eq_nil_of_end {text left : List Char} {e : Rejection}
    (h : Rejects t choice text e left) (hend : e = .nothing ∨ e = .cutOff) : left = [] := by
  cases h with
  | nothing => rfl
  | cutOff => rfl
  | minusSign _ => simp at hend
  | notDigit _ _ _ => simp at hend
  | outOfRange _ _ _ => simp at hend

/-- A `text` that is rejected for want of further characters has been read to its end. -/
theorem count_readNumeral_of_rejects {text left : List Char} {e : Rejection}
    (h : Rejects t choice (text.dropWhile isBlank) e left) (hend : e = .nothing ∨ e = .cutOff) :
    (readNumeral t choice ({ text } : TextReader)).reader.count = text.length ∧
      (readNumeral t choice ({ text } : TextReader)).reader.rest = [] := by
  have hleft : (readText t choice text).reader = [] :=
    (readText_of_rejects h).2.trans (h.eq_nil_of_end hend)
  have hcount := count_readNumeral_start t choice text
  rw [hleft] at hcount
  exact ⟨hcount, (rest_readNumeral_start t choice text).trans hleft⟩

end Rejected

/-! ### Two readings -/

/-- Texts that agree on the characters `xs` of a numeral and on the next one differ after that. -/
theorem exists_eq_append_of_take_eq {xs ys other : List Char} {c : Char}
    (h : other.take (xs.length + 1) = (xs ++ c :: ys).take (xs.length + 1)) :
    ∃ zs, other = xs ++ c :: zs := by
  refine ⟨other.drop (xs.length + 1), ?_⟩
  have htake : (xs ++ c :: ys).take (xs.length + 1) = xs ++ [c] := by
    rw [List.append_cons, List.take_left' (by simp)]
  rw [htake] at h
  rw [List.append_cons, ← h, List.take_append_drop]

/-- **One character of lookahead.**  A value is read alike from every text that agrees on the
characters of its numeral and on the one after them, if there is one, and from these characters
alone.  A minus sign, a character that is no digit and digits that leave the range are rejected
alike whatever is appended to the text.  The other rejections come from the end of the text, when
all of it has been read. -/
theorem parseNumeral_lookahead (t : IntType) (choice : BaseChoice) (text : List Char) :
    (∀ value n, parseNumeral t choice text = .ok { value, length := n } →
      (n < text.length → ∀ other : List Char, other.take (n + 1) = text.take (n + 1) →
        parseNumeral t choice other = .ok { value, length := n }) ∧
      parseNumeral t choice (text.take n) = .ok { value, length := n }) ∧
    ∀ e, parseNumeral t choice text = .error e →
      (e = .minusSign ∨ (∃ c, e = .notDigit c) ∨ (∃ b, e = .outOfRange b) →
        ∀ more, parseNumeral t choice (text ++ more) = .error e) ∧
      (e = .nothing ∨ e = .cutOff →
        let reader := (readNumeral t choice ({ text } : TextReader)).reader
        reader.count = text.length ∧ reader.rest = []) := by
  obtain ⟨e', left, hrejects⟩ | ⟨b, w, s, p, d, rest, rfl, hshape, hminus, hin⟩ :=
    rejects_or_numeralShape t choice text
  · rw [parseNumeral_of_rejects hrejects]
    refine ⟨fun value n hok => (nomatch hok), ?_⟩
    intro e he
    obtain rfl := Except.error.inj he
    refine ⟨?_, fun hend => count_readNumeral_of_rejects hrejects hend⟩
    intro hkind
    -- the two rejections at the end of the text are excluded
    refine parseNumeral_append_of_rejects hrejects ?_ ?_
    · rintro rfl
      simp at hkind
    · rintro rfl
      simp at hkind
  · rw [parseNumeral_of_inRange hshape hminus hin]
    refine ⟨?_, fun e he => (nomatch he)⟩
    intro value n hvalue
    obtain ⟨rfl, rfl⟩ := Parsed.mk.inj (Except.ok.inj hvalue)
    constructor
    · intro hlt other htake
      -- one character more is compared, and it is the one that ended the numeral
      obtain ⟨c, cs, rfl⟩ : ∃ c cs, rest = c :: cs := by
        refine List.exists_cons_of_ne_nil ?_
        rintro rfl
        simp at hlt
      obtain ⟨cs', rfl⟩ := exists_eq_append_of_take_eq htake
      exact hshape.parseNumeral_with_tail hminus hin cs'
    · rw [List.take_left' rfl]
      exact hshape.parseNumeral_cut hminus hin

/-- Without the nine the zero is in base ten instead of base eight.  The digit that takes a value
out of the range is not made good by what follows. -/
theorem parseNumeral_lookahead_zero :
    parseNumeral .signed .detect " -09".toList = .ok { value := 0, length := 3 } ∧
      parseNumeral .signed .detect " -0".toList = .ok { value := 0, length := 3 } ∧
      (∀ rest, parseNumeral .signed .detect (" -09".toList ++ rest) =
        .ok { value := 0, length := 3 }) ∧
      ∀ rest, parseNumeral .unsigned .detect
        ("0x100000000000000000000000000000000".toList ++ rest) = .error (.outOfRange .sixteen) := by
  have hzero : parseNumeral .signed .detect " -09".toList = .ok { value := 0, length := 3 } := by
    decide +kernel
  have hout : parseNumeral .unsigned .detect "0x100000000000000000000000000000000".toList =
      .error (.outOfRange .sixteen) := by
    decide +kernel
  obtain ⟨htail, hcut⟩ := (parseNumeral_lookahead .signed .detect " -09".toList).1 0 3 hzero
  obtain ⟨hfinal, -⟩ := (parseNumeral_lookahead .unsigned .detect _).2 _ hout
  exact ⟨hzero, hcut, fun rest => htail (by decide) _ rfl, hfinal (Or.inr (Or.inr ⟨_, rfl⟩))⟩

end Numeral128
