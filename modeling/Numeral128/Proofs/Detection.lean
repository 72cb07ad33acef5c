import Numeral128.Proofs.Magnitude

/-!
# The base that is detected and the base that is fixed

A numeral whose base is detected is read as if that base had been fixed: in base ten unless it
begins with a zero, in base eight if something follows the zero, and in base sixteen if that is a
letter of its prefix.  In the last case the prefix makes two characters more, which a reader in base
sixteen must not see.  `readNumeral_detect_fixed` says so of blanks `w`, a sign `s` and a text `r`
that begins with neither (`BeginsBare`).  The readings have the same outcome, whatever it is, and
leave the same text (`ReadsLike`).

After the blanks and the sign a reading depends on the choice by the base and by the text after the
prefix alone (`readText_of_spaced`), so it is enough to compare these.  An unsigned numeral with a
minus sign does not get as far as that.
-/

namespace Numeral128

/-- Reading `text` comes to the same as reading `text'`: to the same value or the same rejection,
and the same characters are left.  To get there takes `extra` characters more. -/
structure ReadsLike (t : IntType) (choice : BaseChoice) (text : List Char) (choice' : BaseChoice)
    (text' : List Char) (extra : Nat) : Prop where
  parse_eq : parseNumeral t choice text =
    (parseNumeral t choice' text').map fun p => { p with length := p.length + extra }
  rest_eq : (readNumeral t choice ({ text } : TextReader)).reader.rest =
    (readNumeral t choice' ({ text := text' } : TextReader)).reader.rest
  count_eq : (readNumeral t choice ({ text } : TextReader)).reader.count =
    (readNumeral t choice' ({ text := text' } : TextReader)).reader.count + extra

section ReadsLike

variable {t : IntType} {choice choice' : BaseChoice} {text text' : List Char}

theorem ReadsLike.of_readText {extra : Nat}
    (houtcome : (readText t choice text).outcome = (readText t choice' text').outcome)
    (hreader : (readText t choice text).reader = (readText t choice' text').reader)
    (hlength : text.length = text'.length + extra) :
    ReadsLike t choice text choice' text' extra := by
  have hcount := count_readNumeral_start t choice text
  have hcount' := count_readNumeral_start t choice' text'
  rw [hreader] at hcount
  have hcounts : (readNumeral t choice ({ text } : TextReader)).reader.count =
      (readNumeral t choice' ({ text := text' } : TextReader)).reader.count + extra := by
    omega
  refine ⟨?_, ?_, hcounts⟩
  · simp only [parseNumeral, outcome_readNumeral_start, houtcome, hcounts]
    cases (readText t choice' text').outcome <;> rfl
  · rw [rest_readNumeral_start, rest_readNumeral_start, hreader]

end ReadsLike

/-! ### After the blanks and the sign -/

section Spaced

variable {t : IntType} {choice : BaseChoice} {w s r : List Char}

theorem head?_append_eq_minus_iff (hs : IsSign s) (hr : BeginsBare r) :
    (s ++ r).head? = some '-' ↔ s = ['-'] := by
  rw [← signOf_eq_minus_iff, hr.signOf_append hs]

/-- After blanks `w` and a sign `s`, the choice counts for the base and the prefix of `r` only. -/
theorem readText_of_spaced {c : Char} {cs : List Char} (hw : ∀ c ∈ w, isBlank c = true)
    (hs : IsSign s) (hr : BeginsBare r) (hminus : ¬ (t = .unsigned ∧ s = ['-']))
    (hds : choice.afterPrefix r = c :: cs) :
    readText t choice (w ++ s ++ r) =
      { outcome := (foldMagnitude t (choice.baseOf r) (s = ['-']) (c :: cs)).1,
        reader := (foldMagnitude t (choice.baseOf r) (s = ['-']) (c :: cs)).2,
        detected := choice.found? (choice.baseOf r) } := by
  have hdrop : (w ++ s ++ r).dropWhile isBlank = s ++ r := hr.dropWhile_append hs hw
  have hafter : afterSign (s ++ r) = r := hr.afterSign_append hs
  rw [← head?_append_eq_minus_iff hs hr, ← hdrop] at hminus
  rw [readText_of_afterPrefix_cons hminus (by rw [hdrop, hafter, hds]), hdrop, hafter]
  simp only [head?_append_eq_minus_iff hs hr]

/-- An unsigned numeral with a minus sign is given up before `r` is looked at for a base. -/
theorem readText_of_spaced_minus (hw : ∀ c ∈ w, isBlank c = true) (hr : BeginsBare r) :
    readText .unsigned choice (w ++ ['-'] ++ r) =
      { outcome := .error .minusSign, reader := '-' :: r } :=
  readText_of_minus (hr.dropWhile_append (Or.inr (Or.inr rfl)) hw)

/-- So two choices read `r` alike if they have the same base for it, and neither sees a prefix. -/
theorem readsLike_of_eq {choice' : BaseChoice} (hw : ∀ c ∈ w, isBlank c = true) (hs : IsSign s)
    (hr : BeginsBare r) (hbase : choice.baseOf r = choice'.baseOf r)
    (hafter : choice.afterPrefix r = r) (hafter' : choice'.afterPrefix r = r) :
    ReadsLike t choice (w ++ s ++ r) choice' (w ++ s ++ r) 0 := by
  -- a minus sign that is refused leaves the same text whatever the choice
  by_cases hminus : t = .unsigned ∧ s = ['-']
  · obtain ⟨rfl, rfl⟩ := hminus
    have hread : ∀ choice : BaseChoice, readText .unsigned choice (w ++ ['-'] ++ r) = _ :=
      fun choice => readText_of_spaced_minus hw hr
    exact .of_readText (by rw [hread, hread]) (by rw [hread, hread]) rfl
  · obtain ⟨c, cs, rfl, -⟩ := hr.exists_cons
    have hread := readText_of_spaced hw hs hr hminus hafter
    have hread' := readText_of_spaced hw hs hr hminus hafter'
    rw [hbase] at hread
    exact .of_readText (by rw [hread, hread']) (by rw [hread, hread']) rfl

end Spaced

/-- The unsigned type rejects the minus sign of `text`, and leaves it with all that follows. -/
def RejectsMinus (choice : BaseChoice) (text left : List Char) : Prop :=
  parseNumeral .unsigned choice text = .error .minusSign ∧
    (readNumeral .unsigned choice ({ text } : TextReader)).reader.rest = left

theorem rejectsMinus_of_spaced {w r : List Char} (choice : BaseChoice)
    (hw : ∀ c ∈ w, isBlank c = true) (hr : BeginsBare r) :
    RejectsMinus choice (w ++ ['-'] ++ r) ('-' :: r) := by
  have hread : readText .unsigned choice (w ++ ['-'] ++ r) = _ := readText_of_spaced_minus hw hr
  constructor
  · rw [parseNumeral_eq, hread]
    rfl
  · rw [rest_readNumeral_start, hread]

/-- **Detection fixes the base that is seen.**  With the base detected, a numeral that does not
begin with a zero, or is nothing but one, is read as in base ten; if a zero is followed by anything
but a letter of the prefix of base sixteen, as in base eight; and after such a prefix, as in base
sixteen without it.  The outcome is the same, and so is the text that is left.  Only a minus sign
before an unsigned numeral is left together with the prefix. -/
theorem readNumeral_detect_fixed (t : IntType) {w s r : List Char}
    (hw : ∀ c ∈ w, isBlank c = true) (hs : IsSign s) (hr : BeginsBare r) :
    (r.head? ≠ some '0' ∨ r = ['0'] →
      ReadsLike t .detect (w ++ s ++ r) (.fixed .ten) (w ++ s ++ r) 0) ∧
    (∀ c cs, r = '0' :: c :: cs → ¬ (c = 'x' ∨ c = 'X') →
      ReadsLike t .detect (w ++ s ++ r) (.fixed .eight) (w ++ s ++ r) 0) ∧
    ∀ x, x = 'x' ∨ x = 'X' →
      (¬ (t = .unsigned ∧ s = ['-']) →
        ReadsLike t .detect (w ++ s ++ ['0', x] ++ r) (.fixed .sixteen) (w ++ s ++ r) 2) ∧
      (t = .unsigned ∧ s = ['-'] →
        RejectsMinus .detect (w ++ s ++ ['0', x] ++ r) ('-' :: '0' :: x :: r) ∧
        RejectsMinus (.fixed .sixteen) (w ++ s ++ r) ('-' :: r)) := by
  obtain ⟨c, cs, hcons, -⟩ := hr.exists_cons
  refine ⟨?_, ?_, ?_⟩
  · intro hten
    by_cases hc : c = '0'
    · -- the zero is all there is
      have hr0 : r = ['0'] := by
        rcases hten with hhead | hr0
        · rw [hcons, hc] at hhead
          exact absurd rfl hhead
        · exact hr0
      subst hr0
      exact readsLike_of_eq hw hs hr rfl rfl rfl
    · subst hcons
      exact readsLike_of_eq hw hs hr (BaseChoice.baseOf_detect_of_ne_zero hc cs)
        (BaseChoice.afterPrefix_detect_of_nil (hexPrefixOf_of_ne_zero hc cs)) rfl
  · rintro x xs rfl hx
    exact readsLike_of_eq hw hs hr (BaseChoice.baseOf_detect_of_not_letter hx xs)
      (BaseChoice.afterPrefix_detect_of_nil (hexPrefixOf_of_not_letter hx '0' xs)) rfl
  · intro x hx
    -- the prefix can stand after the blanks and the sign like `r` itself
    have hpre : BeginsBare ('0' :: x :: r) := ⟨'0', rfl, by decide, by decide⟩
    rw [List.append_assoc _ ['0', x] r, List.cons_append, List.cons_append, List.nil_append]
    constructor
    · intro hminus
      have hafter : BaseChoice.detect.afterPrefix ('0' :: x :: r) = c :: cs :=
        (BaseChoice.afterPrefix_detect_of_letter hx r).trans hcons
      have hread := readText_of_spaced hw hs hpre hminus hafter
      have hread' : readText t (.fixed .sixteen) (w ++ s ++ r) = _ :=
        readText_of_spaced hw hs hr hminus hcons
      rw [BaseChoice.baseOf_detect_of_letter hx] at hread
      refine .of_readText ?_ ?_ ?_
      · rw [hread, hread', BaseChoice.baseOf_fixed]
      · rw [hread, hread', BaseChoice.baseOf_fixed]
      · simp [Nat.add_assoc]
    · rintro ⟨-, rfl⟩
      exact ⟨rejectsMinus_of_spaced .detect hw hpre, rejectsMinus_of_spaced _ hw hr⟩

/-- The prefix is passed once only, whatever follows it. -/
theorem readNumeral_detect_fixed_prefix :
    let w := " \t".toList
    ReadsLike .signed .detect (w ++ ['-'] ++ ['0', 'X'] ++ "0x1".toList) (.fixed .sixteen)
        (w ++ ['-'] ++ "0x1".toList) 2 ∧
      parseNumeral .signed .detect " \t-0X0x1".toList = .ok { value := 0, length := 6 } ∧
      RejectsMinus .detect (w ++ ['-'] ++ ['0', 'X'] ++ "0x1".toList) "-0X0x1".toList ∧
      ReadsLike .unsigned .detect (w ++ ['+'] ++ "09".toList) (.fixed .eight)
        (w ++ ['+'] ++ "09".toList) 0 := by
  intro w
  have hw : ∀ c ∈ w, isBlank c = true := List.all_eq_true.mp (by decide)
  have hminus : IsSign ['-'] := Or.inr (Or.inr rfl)
  have hbare : BeginsBare "0x1".toList := ⟨'0', by decide, by decide, by decide⟩
  have hbare' : BeginsBare "09".toList := ⟨'0', by decide, by decide, by decide⟩
  -- the first text is read with both types, since only the unsigned one refuses the sign
  obtain ⟨-, -, hsigned⟩ := readNumeral_detect_fixed .signed hw hminus hbare
  obtain ⟨-, -, hunsigned⟩ := readNumeral_detect_fixed .unsigned hw hminus hbare
  obtain ⟨-, height, -⟩ := readNumeral_detect_fixed .unsigned hw (Or.inr (Or.inl rfl)) hbare'
  have hlike := (hsigned 'X' (Or.inr rfl)).1 (by decide)
  have hparse : parseNumeral .signed (.fixed .sixteen) (w ++ ['-'] ++ "0x1".toList) =
      .ok { value := 0, length := 4 } := by
    decide +kernel
  have hrejects := (hunsigned 'X' (Or.inr rfl)).2 ⟨rfl, rfl⟩
  refine ⟨hlike, ?_, hrejects.1, height '9' [] rfl (by decide)⟩
  rw [show " \t-0X0x1".toList = w ++ ['-'] ++ ['0', 'X'] ++ "0x1".toList from rfl,
    hlike.parse_eq, hparse]
  rfl

end Numeral128
