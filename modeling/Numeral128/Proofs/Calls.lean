import Numeral128.Proofs.Dialogue
import Numeral128.Proofs.Lookahead

/-!
# The calls of a reading

What is a reader asked while a numeral is read from it?  Nothing is known here about the reader: it
may give any characters, and taking one back may do anything to it.

`NumeralCalls` lists the calls by the outcome.  Characters are read one after another until the
reading stops, the end is met, or the last one is taken back.  Only where a base is looked for
behind a zero does the reading go on after that.  `numeralCalls_readNumeral` finds that the list is
complete, stage by stage, each stage adding its calls to those before it.

What holds of all calls is then read off the list.  The main statement is
`readNumeral_takes_back_one`: whatever the reader, a character is taken back only right after it has
been read, at most twice in all, and the end is met once, or twice behind a zero.
-/

namespace Numeral128

open CharReader ReaderCall

/-! ### The calls for a numeral -/

/-- The part of `text` after its blanks and its sign. -/
def unsignedPart (text : List Char) : List Char := afterSign (text.dropWhile isBlank)

/-- After the characters `cs` a base has to be looked for: but for blanks and a sign they are a
zero. -/
def BaseChoice.LooksBehind (choice : BaseChoice) (cs : List Char) : Prop :=
  choice = .detect ∧ unsignedPart cs = ['0']

/-- The calls after the first digit of a numeral in base `b`, one for each digit and then those at
its end. -/
inductive DigitCalls (b : Base) : Except Rejection Int → List ReaderCall → Prop
  /-- The last digit takes the value out of the range.  It stays read. -/
  | outOfRange : DigitCalls b (.error (.outOfRange b)) []
  /-- There is no more character. -/
  | atEnd {value : Int} : DigitCalls b (.ok value) [.read none]
  /-- Another character follows.  It is taken back. -/
  | other {value : Int} {c : Char} : b.isDigit c = false →
      DigitCalls b (.ok value) [.read (some c), .unread]
  | digit {c : Char} {outcome : Except Rejection Int} {calls : List ReaderCall} :
      b.isDigit c = true → DigitCalls b outcome calls →
      DigitCalls b outcome (.read (some c) :: calls)

/-- The calls for a numeral, by the outcome and by the base that has been looked for. -/
inductive NumeralCalls (t : IntType) (choice : BaseChoice) :
    Except Rejection Int → Option Base → List ReaderCall → Prop
  /-- There is nothing but blanks. -/
  | nothing {w : List Char} : (∀ c ∈ w, isBlank c = true) →
      NumeralCalls t choice (.error .nothing) none (reads w ++ [.read none])
  /-- A minus sign that the type does not allow is taken back. -/
  | minusSign {w : List Char} : t = .unsigned → (∀ c ∈ w, isBlank c = true) →
      NumeralCalls t choice (.error .minusSign) none (reads (w ++ ['-']) ++ [.unread])
  /-- There is nothing after the sign or the prefix. -/
  | cutOff {cs : List Char} : ¬ choice.LooksBehind cs →
      NumeralCalls t choice (.error .cutOff) none (reads cs ++ [.read none])
  /-- A character in place of the first digit is taken back. -/
  | notDigit {b : Base} {cs : List Char} {c : Char} : b.isDigit c = false →
      NumeralCalls t choice (.error (.notDigit c)) (choice.found? b)
        (reads (cs ++ [c]) ++ [.unread])
  /-- The first digit is the last of the characters `cs`. -/
  | digits {b : Base} {cs : List Char} {outcome : Except Rejection Int}
      {calls : List ReaderCall} : unsignedPart cs ≠ [] → ¬ choice.LooksBehind cs →
      choice.found? b ≠ some .eight → DigitCalls b outcome calls →
      NumeralCalls t choice outcome (choice.found? b) (reads cs ++ calls)
  /-- A zero is the first digit, and nothing is found behind it.  The end is met once more. -/
  | zeroAtEnd {cs : List Char} {outcome : Except Rejection Int} {calls : List ReaderCall} :
      choice.LooksBehind cs → calls ≠ [] → DigitCalls .ten outcome calls →
      NumeralCalls t choice outcome (some .ten) (reads cs ++ .read none :: calls)
  /-- A zero is the first digit, and the character behind it is taken back. -/
  | eight {cs : List Char} {x : Char} {outcome : Except Rejection Int}
      {calls : List ReaderCall} : choice.LooksBehind cs → ¬ (x = 'x' ∨ x = 'X') →
      DigitCalls .eight outcome calls →
      NumeralCalls t choice outcome (some .eight) (reads (cs ++ [x]) ++ .unread :: calls)

/-! ### Stage by stage -/

section Stages

variable {σ : Type} [CharReader σ] {r r' : Recorded σ} {w : List Char} {c : Char}

theorem Recorded.calls_read {answer : Option Char} (h : read r = (answer, r')) :
    r'.calls = r.calls ++ [.read answer] := by
  obtain ⟨rfl, rfl⟩ := Prod.mk.inj h
  rfl

theorem Recorded.calls_unread (r : Recorded σ) : (unread r).calls = r.calls ++ [.unread] := rfl

/-- Blanks are read up to the end, or up to a character that is none. -/
theorem exists_calls_skipBlanks (r : Recorded σ) :
    ∃ w r', (∀ c ∈ w, isBlank c = true) ∧
      (skipBlanks r = (none, r') ∧ r'.calls = r.calls ++ (reads w ++ [.read none]) ∨
        ∃ c, isBlank c = false ∧ skipBlanks r = (some c, r') ∧
          r'.calls = r.calls ++ reads (w ++ [c])) := by
  fun_induction skipBlanks r with
  | case1 r r' hread =>
    exact ⟨[], r', by simp, Or.inl ⟨rfl, Recorded.calls_read hread⟩⟩
  | case2 r c r' hread hc ih =>
    have hcalls := Recorded.calls_read hread
    obtain ⟨w, r'', hw, hend⟩ := ih
    refine ⟨c :: w, r'', List.forall_mem_cons.mpr ⟨hc, hw⟩, ?_⟩
    simpa [hcalls] using hend
  | case3 r c r' hread hc =>
    have hcalls := Recorded.calls_read hread
    exact ⟨[], r', by simp, Or.inr ⟨c, by simpa using hc, rfl, hcalls⟩⟩

theorem unsignedPart_append (hw : ∀ c ∈ w, isBlank c = true) (hc : isBlank c = false)
    (cs : List Char) : unsignedPart (w ++ c :: cs) = afterSign (c :: cs) := by
  rw [unsignedPart, List.dropWhile_append_of_pos hw, List.dropWhile_cons_of_neg (by simp [hc])]

/-- Once the part after the sign has begun, more characters `ds` only make it longer. -/
theorem unsignedPart_append_of_ne_nil {cs : List Char} (h : unsignedPart cs ≠ [])
    (ds : List Char) : unsignedPart (cs ++ ds) = unsignedPart cs ++ ds := by
  have hne : cs.dropWhile isBlank ≠ [] := by
    intro hnil
    rw [unsignedPart, hnil] at h
    exact h rfl
  rw [unsignedPart, List.dropWhile_append, if_neg (by simpa using hne),
    afterSign_append_of_ne_nil hne, unsignedPart]

/-- With something, `ds`, behind the zero, the zero is no longer all of the numeral. -/
theorem BaseChoice.LooksBehind.append {choice : BaseChoice} {cs ds : List Char}
    (h : choice.LooksBehind cs) (hds : ds ≠ []) :
    unsignedPart (cs ++ ds) ≠ [] ∧ ¬ choice.LooksBehind (cs ++ ds) := by
  have hne : unsignedPart cs ≠ [] := by
    rw [h.2]
    exact List.cons_ne_nil _ _
  have hpart := unsignedPart_append_of_ne_nil hne ds
  rw [h.2] at hpart
  rw [LooksBehind, hpart]
  simp [hds]

/-- The character `c` after blanks is a minus sign that is taken back, or a sign with nothing after
it, or it brings the reading to the first character `d` of the numeral proper. -/
theorem exists_calls_readSign (t : IntType) (hw : ∀ c ∈ w, isBlank c = true)
    (hc : isBlank c = false) (hr : r.calls = reads (w ++ [c])) :
    (∃ r', t = .unsigned ∧ c = '-' ∧ readSign t c r = (.error .minusSign, r') ∧
      r'.calls = reads (w ++ [c]) ++ [.unread]) ∨
    (∃ r', readSign t c r = (.error .cutOff, r') ∧ unsignedPart (w ++ [c]) = [] ∧
      r'.calls = reads (w ++ [c]) ++ [.read none]) ∨
    ∃ negative cs d r', readSign t c r = (.ok (negative, d), r') ∧
      unsignedPart (cs ++ [d]) = [d] ∧ r'.calls = reads (cs ++ [d]) := by
  rw [readSign]
  split_ifs with hminus hsign
  · refine Or.inl ⟨_, hminus.2, hminus.1, rfl, ?_⟩
    rw [Recorded.calls_unread, hr]
  · -- behind a sign there is one more call, and it may meet the end
    cases hread : read r with
    | mk answer r' =>
      have hcalls := Recorded.calls_read hread
      rw [hr] at hcalls
      cases answer with
      | none =>
        refine Or.inr (Or.inl ⟨r', rfl, ?_, hcalls⟩)
        rw [unsignedPart_append hw hc, afterSign_of_sign hsign]
      | some d =>
        refine Or.inr (Or.inr ⟨_, w ++ [c], d, r', rfl, ?_, ?_⟩)
        · rw [List.append_assoc, List.singleton_append, unsignedPart_append hw hc,
            afterSign_of_sign hsign]
        · rw [hcalls, reads_append (w ++ [c])]
          rfl
  · -- the character is no sign, and so the first of the numeral itself
    refine Or.inr (Or.inr ⟨_, w, c, r, rfl, ?_, hr⟩)
    rw [unsignedPart_append hw hc, afterSign_of_not_sign hsign]

/-- After the first digit `d`, characters are read up to one that ends the numeral.  If the first
digit is accepted, there is at least one more call. -/
theorem exists_digitCalls (t : IntType) (b : Base) (negative : Bool) (acc : Int) (d : Nat)
    (r : Recorded σ) :
    ∃ calls, (readDigits t b negative acc d r).2.calls = r.calls ++ calls ∧
      DigitCalls b (readDigits t b negative acc d r).1 calls ∧
      ((t.append? b negative acc d).isSome = true → calls ≠ []) := by
  fun_induction readDigits t b negative acc d r with
  | case1 acc d r hacc =>
    refine ⟨[], (List.append_nil _).symm, .outOfRange, ?_⟩
    simp [hacc]
  | case2 acc d r acc' hacc r' hread =>
    exact ⟨[.read none], Recorded.calls_read hread, .atEnd, fun _ => List.cons_ne_nil _ _⟩
  | case3 acc d r acc' hacc c r' hread d' hd ih =>
    obtain ⟨calls, hcalls, hdigits, -⟩ := ih
    refine ⟨.read (some c) :: calls, ?_, .digit (Base.isDigit_of_digit? hd) hdigits,
      fun _ => List.cons_ne_nil _ _⟩
    rw [hcalls, Recorded.calls_read hread, List.append_assoc, List.singleton_append]
  | case4 acc d r acc' hacc c r' hread hd =>
    have hc : b.isDigit c = false := by rw [Base.isDigit, hd]; rfl
    refine ⟨[.read (some c), .unread], ?_, .other hc, fun _ => List.cons_ne_nil _ _⟩
    rw [Recorded.calls_unread, Recorded.calls_read hread, List.append_assoc]
    rfl

/-- The first character `c` of the numeral proper, read last, is taken back if it is no digit. -/
theorem numeralCalls_readMagnitude {choice : BaseChoice} {b : Base} {cs : List Char}
    (t : IntType) (negative : Bool) (hr : r.calls = reads (cs ++ [c]))
    (hpart : unsignedPart (cs ++ [c]) ≠ []) (hlooks : ¬ choice.LooksBehind (cs ++ [c]))
    (hfound : choice.found? b ≠ some .eight) :
    NumeralCalls t choice (readMagnitude t b negative c r).1 (choice.found? b)
      (readMagnitude t b negative c r).2.calls := by
  rw [readMagnitude]
  cases hd : b.digit? c with
  | none =>
    have hc : b.isDigit c = false := by rw [Base.isDigit, hd]; rfl
    dsimp only
    rw [Recorded.calls_unread, hr]
    exact .notDigit hc
  | some d =>
    obtain ⟨calls, hcalls, hdigits, -⟩ := exists_digitCalls t b negative 0 d r
    dsimp only
    rw [hcalls, hr]
    exact .digits hpart hlooks hfound hdigits

/-- The digit `'0'` is accepted in every base `b`, so that the reading goes on. -/
theorem exists_digitCalls_zero (t : IntType) (b : Base) (negative : Bool) (r : Recorded σ) :
    ∃ calls, (readMagnitude t b negative '0' r).2.calls = r.calls ++ calls ∧ calls ≠ [] ∧
      DigitCalls b (readMagnitude t b negative '0' r).1 calls := by
  rw [readMagnitude, Base.digit?_zero]
  obtain ⟨calls, hcalls, hdigits, hne⟩ := exists_digitCalls t b negative 0 0 r
  refine ⟨calls, hcalls, hne ?_, hdigits⟩
  cases t <;> cases b <;> cases negative <;> decide

/-- Where a base is looked for, further characters are read only if `c` is a zero. -/
theorem numeralCalls_detectBase {cs : List Char} (t : IntType) (negative : Bool)
    (hr : r.calls = reads (cs ++ [c])) (hpart : unsignedPart (cs ++ [c]) = [c]) :
    match detectBase c r with
    | (.error e, r') => NumeralCalls t .detect (.error e) none r'.calls
    | (.ok (b, d), r') =>
      NumeralCalls t .detect (readMagnitude t b negative d r').1 (some b)
        (readMagnitude t b negative d r').2.calls := by
  rw [detectBase]
  split_ifs with hc
  · have hne : unsignedPart (cs ++ [c]) ≠ [] := by
      rw [hpart]
      exact List.cons_ne_nil c []
    have hlooks : ¬ BaseChoice.detect.LooksBehind (cs ++ [c]) := by
      rintro ⟨-, hzero⟩
      rw [hpart] at hzero
      exact hc (List.head_eq_of_cons_eq hzero)
    exact numeralCalls_readMagnitude t negative hr hne hlooks (by decide)
  obtain rfl := not_not.mp hc
  have hlooks : BaseChoice.detect.LooksBehind (cs ++ ['0']) := ⟨rfl, hpart⟩
  -- behind the zero: the end, the letter of a prefix, or another character
  cases hread : read r with
  | mk answer r' =>
    have hcalls := Recorded.calls_read hread
    rw [hr] at hcalls
    cases answer with
    | none =>
      obtain ⟨calls, hmore, hcallsNe, hdigits⟩ := exists_digitCalls_zero t .ten negative r'
      dsimp only
      rw [hmore, hcalls, List.append_assoc]
      exact .zeroAtEnd hlooks hcallsNe hdigits
    | some x =>
      have hcalls' : r'.calls = reads (cs ++ ['0'] ++ [x]) := by
        rw [hcalls, reads_append (cs ++ ['0'])]
        rfl
      dsimp only
      split_ifs with hx
      · cases hread' : read r' with
        | mk answer' r'' =>
          have hlast := Recorded.calls_read hread'
          rw [hcalls'] at hlast
          cases answer' with
          | none =>
            dsimp only
            rw [hlast]
            exact .cutOff (hlooks.append (List.cons_ne_nil x [])).2
          | some d =>
            have hprefix : [x] ++ [d] ≠ [] := List.cons_ne_nil x [d]
            obtain ⟨hne', hlooks'⟩ := hlooks.append hprefix
            rw [← List.append_assoc] at hne' hlooks'
            have hr'' : r''.calls = reads (cs ++ ['0'] ++ [x] ++ [d]) := by
              rw [hlast, reads_append (cs ++ ['0'] ++ [x])]
              rfl
            exact numeralCalls_readMagnitude t negative hr'' hne' hlooks' (by decide)
      · obtain ⟨calls, hmore, -, hdigits⟩ := exists_digitCalls_zero t .eight negative (unread r')
        dsimp only
        rw [hmore, Recorded.calls_unread, hcalls', List.append_assoc]
        exact .eight hlooks hx hdigits

/-- **The list is complete.**  The calls of `r` that `readNumeral` makes are on the list
`NumeralCalls`. -/
theorem numeralCalls_readNumeral (t : IntType) (choice : BaseChoice) (hr : r.calls = []) :
    NumeralCalls t choice (readNumeral t choice r).outcome (readNumeral t choice r).detected
      (readNumeral t choice r).reader.calls := by
  obtain ⟨w, r', hw, ⟨hskip, hcalls⟩ | ⟨c, hc, hskip, hcalls⟩⟩ := exists_calls_skipBlanks r
  all_goals
    rw [hr, List.nil_append] at hcalls
    rw [readNumeral, hskip]
    dsimp only
  · rw [hcalls]
    exact .nothing hw
  -- a sign that is refused, one with nothing after it, or the first character of the magnitude
  rcases exists_calls_readSign t hw hc hcalls with ⟨r'', ht, rfl, hsign, hcalls'⟩ |
    ⟨r'', hsign, hpart, hcalls'⟩ | ⟨negative, cs, d, r'', hsign, hpart, hcalls'⟩
  all_goals
    rw [hsign]
    dsimp only
  · rw [hcalls']
    exact .minusSign ht hw
  · have hlooks : ¬ choice.LooksBehind (w ++ [c]) := by simp [BaseChoice.LooksBehind, hpart]
    rw [hcalls']
    exact .cutOff hlooks
  · cases choice with
    | fixed b =>
      have hne : unsignedPart (cs ++ [d]) ≠ [] := by rw [hpart]; exact List.cons_ne_nil d []
      have hlooks : ¬ (BaseChoice.fixed b).LooksBehind (cs ++ [d]) := by
        simp [BaseChoice.LooksBehind]
      exact numeralCalls_readMagnitude t negative hcalls' hne hlooks (by simp [BaseChoice.found?])
    | detect =>
      have hdetect := numeralCalls_detectBase t negative hcalls' hpart
      dsimp only
      cases hbase : detectBase d r'' with
      | mk base r''' =>
        rw [hbase] at hdetect
        cases base with
        | error e => exact hdetect
        | ok base => exact hdetect

end Stages

/-! ### What the list says -/

/-- A numeral in base `b` ends at a character that is no digit: there is a value, and the last two
calls read this character and take it back. -/
def EndsAtOther (b : Base) (outcome : Except Rejection Int) (calls : List ReaderCall) : Prop :=
  (∃ value, outcome = .ok value) ∧
    ∃ init c, b.isDigit c = false ∧ calls = init ++ [.read (some c), .unread]

section List

variable {t : IntType} {choice : BaseChoice} {b : Base} {outcome : Except Rejection Int}
  {detected : Option Base} {calls before after : List ReaderCall}

/-- It does not matter which calls come `first`. -/
theorem EndsAtOther.append (h : EndsAtOther b outcome calls) (first : List ReaderCall) :
    EndsAtOther b outcome (first ++ calls) := by
  obtain ⟨hvalue, init, c, hc, rfl⟩ := h
  exact ⟨hvalue, first ++ init, c, hc, (List.append_assoc first init _).symm⟩

theorem EndsAtOther.getLast? (h : EndsAtOther b outcome calls) :
    calls.getLast? = some .unread := by
  obtain ⟨-, init, c, -, rfl⟩ := h
  simp

namespace DigitCalls

/-- After the first digit, only the character that ends the numeral is taken back, and it has been
read among the `calls`, so that `justRead` does not matter. -/
theorem takesBackOne (h : DigitCalls b outcome calls) (justRead : Bool) :
    TakesBackOne justRead calls := by
  -- the calls begin with a read in all cases, so nothing before them counts
  induction h generalizing justRead with
  | outOfRange => exact trivial
  | atEnd => exact trivial
  | other _ => exact ⟨rfl, trivial⟩
  | digit _ _ ih => exact ih true

/-- So `.unread` is among the `calls` once at most. -/
theorem count_unread_le (h : DigitCalls b outcome calls) : calls.count .unread ≤ 1 := by
  induction h with
  | outOfRange => simp
  | atEnd => simp
  | other _ => simp
  | digit _ _ ih => simpa using ih

/-- If `.unread` is among the `calls`, it is the last of them. -/
theorem endsAtOther (h : DigitCalls b outcome calls) (hmem : .unread ∈ calls) :
    EndsAtOther b outcome calls := by
  induction h with
  | outOfRange => simp at hmem
  | atEnd => simp at hmem
  | @other value c hc => exact ⟨⟨value, rfl⟩, [], c, hc, rfl⟩
  | @digit c outcome calls _ _ ih =>
    have hmem' : .unread ∈ calls := by simpa using hmem
    exact (ih hmem').append [.read (some c)]

/-- The end, `.read none`, is met at the end of the calls, after the characters `ds` only. -/
theorem eq_of_append (h : DigitCalls b outcome (before ++ .read none :: after)) :
    after = [] ∧ ∃ ds, before = reads ds := by
  generalize hcalls : before ++ .read none :: after = calls at h
  induction h generalizing before with
  | outOfRange => simp at hcalls
  | atEnd =>
    cases before with
    | nil => exact ⟨List.tail_eq_of_cons_eq hcalls, [], rfl⟩
    | cons first before => simp at hcalls
  | other _ =>
    have hmem : ReaderCall.read none ∈ before ++ .read none :: after := by simp
    simp [hcalls] at hmem
  | @digit c outcome calls _ _ ih =>
    cases before with
    | nil => simp at hcalls
    | cons first before =>
      rw [List.cons_append] at hcalls
      obtain ⟨rfl, hrest⟩ := List.cons.inj hcalls
      obtain ⟨hafter, ds, rfl⟩ := ih hrest
      exact ⟨hafter, c :: ds, rfl⟩

/-- A digit that is accepted is followed by a call, and if that gives no character `c` it meets the
end. -/
theorem eq_of_no_char (h : DigitCalls b outcome calls) (hne : calls ≠ [])
    (hchars : ∀ c, .read (some c) ∉ calls) : calls = [.read none] := by
  cases h with
  | outOfRange => exact absurd rfl hne
  | atEnd => rfl
  | @other _ c _ => exact absurd List.mem_cons_self (hchars c)
  | @digit c _ _ _ _ => exact absurd List.mem_cons_self (hchars c)

end DigitCalls

/-- Calls that read the characters `cs` read no others, behind which `choice` would look. -/
theorem not_exists_reads_eq {cs : List Char} (h : ¬ choice.LooksBehind cs) :
    ¬ ∃ cs', reads cs = reads cs' ∧ choice.LooksBehind cs' := by
  rintro ⟨cs', hreads, hlooks⟩
  rw [reads_inj.mp hreads] at h
  exact h hlooks

namespace NumeralCalls

/-- On every line of the list the rule for one character of pushback is kept: what is taken back is
the last character of `reads`, or one among the calls after the first digit. -/
theorem takesBackOne (h : NumeralCalls t choice outcome detected calls) :
    TakesBackOne false calls := by
  cases h with
  | nothing _ => exact (takesBackOne_append_read false _ none).mpr trivial
  | minusSign _ _ => exact (takesBackOne_concat_append false _ _).mpr ⟨rfl, trivial⟩
  | cutOff _ => exact (takesBackOne_append_read false _ none).mpr trivial
  | notDigit _ => exact (takesBackOne_concat_append false _ _).mpr ⟨rfl, trivial⟩
  | digits _ _ _ hdigits => exact .reads_append hdigits.takesBackOne false _
  | zeroAtEnd _ _ hdigits =>
    exact (takesBackOne_append_read false _ none).mpr (hdigits.takesBackOne false)
  | eight _ _ hdigits =>
    exact (takesBackOne_concat_append false _ _).mpr ⟨rfl, hdigits.takesBackOne false⟩

/-- The `calls` of a numeral take back one character behind a zero and one at the end, at most. -/
theorem count_unread_le (h : NumeralCalls t choice outcome detected calls) :
    calls.count .unread ≤ 2 := by
  cases h with
  | nothing _ | minusSign _ _ | cutOff _ | notDigit _ => simp
  | digits _ _ _ hdigits | zeroAtEnd _ _ hdigits | eight _ _ hdigits =>
    have hcount := hdigits.count_unread_le
    simp
    omega

/-- Two characters are taken back just in case base `.eight` is found, where one of them is behind a
zero, and the digits end at another character. -/
theorem count_unread_eq_two_iff (h : NumeralCalls t choice outcome detected calls) :
    calls.count .unread = 2 ↔
      choice = .detect ∧ detected = some .eight ∧ EndsAtOther .eight outcome calls := by
  cases h with
  | nothing _ | minusSign _ _ | cutOff _ | notDigit _ => simp [EndsAtOther]
  | digits _ _ hfound hdigits =>
    have hcount := hdigits.count_unread_le
    simp [hfound]
    omega
  | zeroAtEnd _ _ hdigits =>
    have hcount := hdigits.count_unread_le
    simp
    omega
  -- the character behind the zero has been taken back once, and the digits may take back another
  | @eight cs x outcome calls hlooks _ hdigits =>
    constructor
    · intro hcount
      have hmem : .unread ∈ calls := by
        rw [← List.count_pos_iff]
        simp at hcount
        omega
      have hends := (hdigits.endsAtOther hmem).append (reads (cs ++ [x]) ++ [.unread])
      rw [List.append_assoc] at hends
      exact ⟨hlooks.1, rfl, hends⟩
    · rintro ⟨-, -, hends⟩
      have hlast := hends.getLast?
      obtain ⟨⟨value, rfl⟩, -⟩ := hends
      have hne : calls ≠ [] := by
        rintro rfl
        cases hdigits
      rw [List.getLast?_append_of_ne_nil _ (List.cons_ne_nil _ calls),
        List.getLast?_cons_of_ne_nil hne] at hlast
      have hpos := List.count_pos_iff.mpr (List.mem_of_getLast? hlast)
      have hle := hdigits.count_unread_le
      simp
      omega

/-- After the first call that meets the end there is nothing, or the end once more.  The latter is
so if a base has been looked for behind a zero in `before`, unless `after` has characters again. -/
theorem eq_of_append (h : NumeralCalls t choice outcome detected (before ++ .read none :: after))
    (hfirst : .read none ∉ before) (hend : ∀ c, .read (some c) ∉ after) :
    after = [] ∧ (¬ ∃ cs, before = reads cs ∧ choice.LooksBehind cs) ∨
      after = [.read none] ∧ ∃ cs, before = reads cs ∧ choice.LooksBehind cs := by
  have hmem : ReaderCall.read none ∈ before ++ .read none :: after := by simp
  generalize hcalls : before ++ .read none :: after = calls at h
  cases h with
  | @nothing w hw =>
    have hlooks : ¬ choice.LooksBehind w := by
      rintro ⟨-, hzero⟩
      rw [unsignedPart, List.dropWhile_eq_nil_iff.mpr hw] at hzero
      exact List.cons_ne_nil _ _ hzero.symm
    obtain ⟨rfl, rfl⟩ := eq_of_reads_append_end hcalls.symm
    exact Or.inl ⟨rfl, not_exists_reads_eq hlooks⟩
  | cutOff hlooks =>
    obtain ⟨rfl, rfl⟩ := eq_of_reads_append_end hcalls.symm
    exact Or.inl ⟨rfl, not_exists_reads_eq hlooks⟩
  | minusSign _ _ | notDigit _ =>
    -- a character is taken back, and the end is not met
    simp [hcalls] at hmem
  | @digits b cs outcome calls hpart hlooks _ hdigits =>
    obtain ⟨middle, rfl, rfl⟩ := exists_of_reads_append read_none_notMem_reads hcalls.symm
    obtain ⟨rfl, ds, rfl⟩ := hdigits.eq_of_append
    -- with more digits behind it, what is read is not a lone zero
    have hlooks' : ¬ choice.LooksBehind (cs ++ ds) := by
      rintro ⟨hdetect, hzero⟩
      rw [unsignedPart_append_of_ne_nil hpart] at hzero
      rcases List.append_eq_singleton_iff.mp hzero with ⟨hnil, -⟩ | ⟨hzero, -⟩
      · exact hpart hnil
      · exact hlooks ⟨hdetect, hzero⟩
    rw [← reads_append]
    exact Or.inl ⟨rfl, not_exists_reads_eq hlooks'⟩
  | @zeroAtEnd cs outcome calls hlooks hne hdigits =>
    obtain ⟨middle, rfl, hmiddle⟩ := exists_of_reads_append read_none_notMem_reads hcalls.symm
    cases middle with
    | nil =>
      obtain ⟨-, rfl⟩ := List.cons.inj hmiddle
      rw [List.append_nil]
      exact Or.inr ⟨hdigits.eq_of_no_char hne hend, cs, rfl, hlooks⟩
    | cons first middle =>
      rw [List.cons_append] at hmiddle
      obtain ⟨rfl, -⟩ := List.cons.inj hmiddle
      exact absurd (by simp) hfirst
  | @eight cs x outcome calls _ _ hdigits =>
    obtain ⟨middle, rfl, hmiddle⟩ := exists_of_reads_append read_none_notMem_reads hcalls.symm
    cases middle with
    | nil => simp at hmiddle
    | cons first middle =>
      rw [List.cons_append] at hmiddle
      obtain ⟨rfl, rfl⟩ := List.cons.inj hmiddle
      refine Or.inl ⟨hdigits.eq_of_append.1, ?_⟩
      rintro ⟨cs', hreads, -⟩
      have hmem : ReaderCall.unread ∈ reads cs' := by simp [← hreads]
      exact unread_notMem_reads hmem

end NumeralCalls

end List

/-! ### Any reader -/

/-- A reader that gives prepared answers one after another, whatever is taken back, and then nothing
any more. -/
structure Script where
  answers : List (Option Char)
  deriving DecidableEq, Repr

instance : CharReader Script where
  read s := (s.answers.head?.join, { answers := s.answers.tail })
  unread s := s
  bound s := s.answers.length
  bound_lt {s s' c} h := by
    obtain ⟨hanswer, rfl⟩ := Prod.mk.inj h
    cases hs : s.answers with
    | nil => simp [hs] at hanswer
    | cons answer answers => simp

/-- **One character of pushback is enough.**  Let any reader be asked for a numeral, and note the
calls.  Each time that a character is taken back, it has been read by the call before.  This happens
at most twice, and twice only if base eight has been found behind a zero and the digits end at
another character.  Behind the first call that meets the end there is nothing more, but for a second
such call where a base was looked for behind a zero, as long as the reader does not give characters
again.  If the reader is lawful, the characters given less those taken back are those by which it
has moved on. -/
theorem readNumeral_takes_back_one {σ : Type} [CharReader σ] (t : IntType) (choice : BaseChoice)
    (s : σ) :
    let recorded := readNumeral t choice ({ reader := s } : Recorded σ)
    let calls := recorded.reader.calls
    let reading := readNumeral t choice s
    (recorded.outcome = reading.outcome ∧ recorded.detected = reading.detected ∧
      Dialogue s calls reading.reader) ∧
    (∀ before after, calls = before ++ .unread :: after →
      ∃ init c, before = init ++ [.read (some c)]) ∧
    calls.count .unread ≤ 2 ∧
    (calls.count .unread = 2 ↔ choice = .detect ∧ reading.detected = some .eight ∧
      EndsAtOther .eight reading.outcome calls) ∧
    (∀ before after, calls = before ++ .read none :: after → .read none ∉ before →
      (∀ c, .read (some c) ∉ after) →
      after = [] ∧ (¬ ∃ cs, before = reads cs ∧ choice.LooksBehind cs) ∨
        after = [.read none] ∧ ∃ cs, before = reads cs ∧ choice.LooksBehind cs) ∧
    ∀ [LawfulReader σ], ∃ passed, LawfulReader.rest s = passed ++ LawfulReader.rest reading.reader ∧
      calls.countP givesChar = passed.length + calls.count .unread := by
  intro recorded calls reading
  obtain ⟨houtcome, hdetected, hreader⟩ : recorded.outcome = reading.outcome ∧
      recorded.detected = reading.detected ∧ recorded.reader.reader = reading.reader :=
    sideBySide_recorded.readNumeral_alike t choice rfl
  have hnumeral : NumeralCalls t choice recorded.outcome recorded.detected calls :=
    numeralCalls_readNumeral t choice rfl
  have hdialogue : Dialogue s calls reading.reader := by
    have hcalls : Dialogue s calls recorded.reader.reader := dialogue_readNumeral t choice s
    rwa [hreader] at hcalls
  -- all that is claimed of the calls is read off their list
  have hback := hnumeral.takesBackOne
  refine ⟨⟨houtcome, hdetected, hdialogue⟩, ?_, hnumeral.count_unread_le, ?_, ?_, ?_⟩
  · intro before after hcalls
    rw [hcalls] at hback
    exact hback.exists_read
  · have hcount := hnumeral.count_unread_eq_two_iff
    rwa [houtcome, hdetected] at hcount
  · intro before after hcalls hfirst hend
    rw [hcalls] at hnumeral
    exact hnumeral.eq_of_append hfirst hend
  · intro _
    exact hdialogue.exists_passed hback

/-- The `script` goes on after a zero as if nothing had been taken back, so that two characters are
taken back for one numeral.  The script `zero` ends with a zero and is asked twice for what follows.
Of `text`, two characters are passed by reading four. -/
theorem readNumeral_takes_back_one_zero :
    let script : Script := ⟨" -0z7x1".toList.map some⟩
    let calls := (readNumeral .signed .detect ({ reader := script } : Recorded Script)).reader.calls
    let zero : Script := ⟨[some '0']⟩
    let text : TextReader := { text := " 08".toList }
    (calls = reads " -0z".toList ++ .unread :: reads "7x".toList ++ [.unread] ∧
      EndsAtOther .eight (readNumeral .signed .detect script).outcome calls) ∧
    ((readNumeral .unsigned .detect ({ reader := zero } : Recorded Script)).reader.calls =
        reads ['0'] ++ .read none :: [.read none] ∧
      ∃ cs, reads ['0'] = reads cs ∧ BaseChoice.detect.LooksBehind cs) ∧
    ((readNumeral .unsigned .detect ({ reader := text } : Recorded TextReader)).reader.calls =
        reads " 08".toList ++ .unread :: reads ['8'] ++ [.unread] ∧
      ∃ passed, " 08".toList = passed ++ (readNumeral .unsigned .detect text).reader.rest ∧
        4 = passed.length + 2) := by
  intro script calls zero text
  -- the calls are computed, and what they look like is taken from the theorem
  refine ⟨⟨by decide +kernel, ?_⟩, ⟨by decide +kernel, ?_⟩, ⟨by decide +kernel, ?_⟩⟩
  · obtain ⟨-, -, -, htwo, -⟩ := readNumeral_takes_back_one .signed .detect script
    exact (htwo.mp (by decide +kernel)).2.2
  · obtain ⟨-, -, -, -, hend, -⟩ := readNumeral_takes_back_one .unsigned .detect zero
    rcases hend (reads ['0']) [.read none] (by decide +kernel) (by decide) (by simp) with
      ⟨hnil, -⟩ | ⟨-, hlooks⟩
    · exact absurd hnil (List.cons_ne_nil _ _)
    · exact hlooks
  · obtain ⟨-, -, -, -, -, hlawful⟩ := readNumeral_takes_back_one .unsigned .detect text
    obtain ⟨passed, hpassed, hcount⟩ := hlawful
    refine ⟨passed, hpassed, ?_⟩
    have hreads : (readNumeral .unsigned .detect
        ({ reader := text } : Recorded TextReader)).reader.calls.countP givesChar = 4 := by
      decide +kernel
    have hunreads : (readNumeral .unsigned .detect
        ({ reader := text } : Recorded TextReader)).reader.calls.count .unread = 2 := by
      decide +kernel
    rw [hreads, hunreads] at hcount
    exact hcount

end Numeral128
