import Numeral128.Proofs.Accumulation
import Numeral128.Proofs.Reader
import Numeral128.Reading

/-!
# Reading numerals as a function of the text

`readText t choice text` says what reading a numeral from `text` comes to, by looking at the text
instead of reading and taking back: the outcome, the base that was looked for, and the text that is
left.  `readNumeral_map_rest` is the link to readers: whatever lawful reader it is given,
`readNumeral` gives what `readText` gives on the characters to come, and leaves its reader in front
of the text that `readText` leaves.  The proof follows the stages of `readNumeral`, with `Holds` for
the character that a stage hands to the next one.

Since reading only reads and takes back, two readers that do both alike read the same numeral
(`SideBySide.readNumeral_alike`), and what both preserve is preserved (`readNumeral_preserves`).
For a reader of a text this gives the number of characters read (`parseNumeral_eq`).
-/

namespace Numeral128

/-! ### The parts of a numeral -/

/-- The sign at the start of a text. -/
def signOf : List Char → List Char
  | [] => []
  | c :: _ => if c = '-' ∨ c = '+' then [c] else []

/-- The text after its sign. -/
def afterSign (text : List Char) : List Char := text.drop (signOf text).length

/-- The prefix of base sixteen at the start of a text. -/
def hexPrefixOf : List Char → List Char
  | z :: x :: _ => if z = '0' ∧ (x = 'x' ∨ x = 'X') then [z, x] else []
  | _ => []

namespace BaseChoice

/-- The base prefix at the start of a text.  Only `detect` knows one. -/
def prefixOf : BaseChoice → List Char → List Char
  | detect, text => hexPrefixOf text
  | fixed _, _ => []

/-- The text after its base prefix. -/
def afterPrefix (choice : BaseChoice) (text : List Char) : List Char :=
  text.drop (choice.prefixOf text).length

/-- The base of the numeral without sign at the start of a text: unless it is fixed, sixteen after
its prefix, eight after a zero that is not the whole text, and ten otherwise. -/
def baseOf : BaseChoice → List Char → Base
  | fixed b, _ => b
  | detect, text =>
    if hexPrefixOf text ≠ [] then .sixteen
    else if text.head? = some '0' ∧ 2 ≤ text.length then .eight
    else .ten

/-- The base `b` as far as it had to be found: a `fixed` base is known before. -/
def found? : BaseChoice → Base → Option Base
  | fixed _, _ => none
  | detect, b => some b

end BaseChoice

theorem signOf_of_sign {c : Char} (hc : c = '-' ∨ c = '+') (cs : List Char) :
    signOf (c :: cs) = [c] :=
  if_pos hc

theorem signOf_of_not_sign {c : Char} (hc : ¬ (c = '-' ∨ c = '+')) (cs : List Char) :
    signOf (c :: cs) = [] :=
  if_neg hc

theorem afterSign_of_sign {c : Char} (hc : c = '-' ∨ c = '+') (cs : List Char) :
    afterSign (c :: cs) = cs := by
  rw [afterSign, signOf_of_sign hc]
  rfl

theorem afterSign_of_not_sign {c : Char} (hc : ¬ (c = '-' ∨ c = '+')) (cs : List Char) :
    afterSign (c :: cs) = c :: cs := by
  rw [afterSign, signOf_of_not_sign hc]
  rfl

/-- A numeral is negative just in case its text begins with `'-'`. -/
theorem signOf_eq_minus_iff {text : List Char} : signOf text = ['-'] ↔ text.head? = some '-' := by
  cases text with
  | nil => exact iff_of_false (List.cons_ne_nil _ _).symm (by simp)
  | cons c cs =>
    rw [List.head?_cons, Option.some.injEq]
    by_cases hc : c = '-' ∨ c = '+'
    · rw [signOf_of_sign hc, List.cons.injEq, and_iff_left rfl]
    · rw [signOf_of_not_sign hc]
      exact iff_of_false (List.cons_ne_nil _ _).symm fun h => hc (Or.inl h)

/-- The characters `'0'` and `x` are a prefix, in either case of the letter. -/
theorem hexPrefixOf_of_letter {x : Char} (hx : x = 'x' ∨ x = 'X') (cs : List Char) :
    hexPrefixOf ('0' :: x :: cs) = ['0', x] :=
  if_pos ⟨rfl, hx⟩

theorem hexPrefixOf_of_not_letter {x : Char} (hx : ¬ (x = 'x' ∨ x = 'X')) (z : Char)
    (cs : List Char) : hexPrefixOf (z :: x :: cs) = [] :=
  if_neg fun h => hx h.2

theorem hexPrefixOf_of_ne_zero {c : Char} (hc : c ≠ '0') (cs : List Char) :
    hexPrefixOf (c :: cs) = [] := by
  cases cs with
  | nil => rfl
  | cons x cs => exact if_neg fun h => hc h.1

namespace BaseChoice

theorem afterPrefix_fixed (b : Base) (text : List Char) : (fixed b).afterPrefix text = text := rfl

theorem baseOf_fixed (b : Base) (text : List Char) : (fixed b).baseOf text = b := rfl

theorem afterPrefix_detect_of_letter {x : Char} (hx : x = 'x' ∨ x = 'X') (cs : List Char) :
    detect.afterPrefix ('0' :: x :: cs) = cs := by
  rw [afterPrefix, prefixOf, hexPrefixOf_of_letter hx]
  rfl

theorem afterPrefix_detect_of_nil {text : List Char} (h : hexPrefixOf text = []) :
    detect.afterPrefix text = text := by
  rw [afterPrefix, prefixOf, h]
  rfl

theorem baseOf_detect_of_letter {x : Char} (hx : x = 'x' ∨ x = 'X') (cs : List Char) :
    detect.baseOf ('0' :: x :: cs) = .sixteen := by
  rw [baseOf, hexPrefixOf_of_letter hx]
  rfl

/-- A zero with something else than a letter `x` after it means base eight. -/
theorem baseOf_detect_of_not_letter {x : Char} (hx : ¬ (x = 'x' ∨ x = 'X')) (cs : List Char) :
    detect.baseOf ('0' :: x :: cs) = .eight := by
  rw [baseOf, hexPrefixOf_of_not_letter hx, if_neg (not_not.mpr rfl), if_pos]
  exact ⟨rfl, Nat.le_add_left 2 cs.length⟩

/-- Another first character than `'0'` means base ten. -/
theorem baseOf_detect_of_ne_zero {c : Char} (hc : c ≠ '0') (cs : List Char) :
    detect.baseOf (c :: cs) = .ten := by
  rw [baseOf, hexPrefixOf_of_ne_zero hc, if_neg (not_not.mpr rfl), if_neg]
  exact fun h => hc (Option.some.inj h.1)

/-- A zero with nothing after it is in base ten. -/
theorem baseOf_detect_zero : detect.baseOf ['0'] = .ten := rfl

end BaseChoice

/-! ### Reading by looking at the text -/

/-- Reads the digits of a numeral in base `b`, one at least. -/
def foldMagnitude (t : IntType) (b : Base) (negative : Bool) :
    List Char → Except Rejection Int × List Char
  | [] => (.error .cutOff, [])
  | c :: cs =>
    if b.isDigit c then foldDigits t b negative 0 (c :: cs) else (.error (.notDigit c), c :: cs)

/-- Reads a numeral of type `t` from `text`.  The reader of the result is the text that is left. -/
def readText (t : IntType) (choice : BaseChoice) (text : List Char) : Reading (List Char) :=
  let numeral := text.dropWhile isBlank
  let magnitude := afterSign numeral
  let b := choice.baseOf magnitude
  let ds := choice.afterPrefix magnitude
  if numeral = [] then { outcome := .error .nothing, reader := [] }
  else if t = .unsigned ∧ numeral.head? = some '-' then
    { outcome := .error .minusSign, reader := numeral }
  else if ds = [] then { outcome := .error .cutOff, reader := [] }
  else
    let run := foldMagnitude t b (numeral.head? = some '-') ds
    { outcome := run.1, reader := run.2, detected := choice.found? b }

/-- A reading seen through a function `f` of its reader. -/
def Reading.map {σ τ : Type} (f : σ → τ) (r : Reading σ) : Reading τ :=
  { outcome := r.outcome, reader := f r.reader, detected := r.detected }

/-! ### Readers side by side -/

section Steps

variable {σ : Type} [CharReader σ] {s s' : σ} {answer : Option Char}

open CharReader

/-- One turn of skipping blanks, after the answer of the first read is known. -/
theorem skipBlanks_of_read (h : read s = (answer, s')) :
    skipBlanks s = match answer with
      | none => (none, s')
      | some c => if isBlank c then skipBlanks s' else (some c, s') := by
  rw [skipBlanks]
  split <;> rename_i hread <;> obtain ⟨rfl, rfl⟩ := Prod.mk.inj (hread.symm.trans h) <;> rfl

/-- One turn of reading digits: `d` is appended, and the next read tells whether there is another
one. -/
theorem readDigits_of_read {t : IntType} {b : Base} {negative : Bool} {acc acc' : Int} {d : Nat}
    (hacc : t.append? b negative acc d = some acc') (h : read s = (answer, s')) :
    readDigits t b negative acc d s = match answer with
      | none => (.ok acc', s')
      | some c =>
        match b.digit? c with
        | some d' => readDigits t b negative acc' d' s'
        | none => (.ok acc', unread s') := by
  rw [readDigits, hacc]
  dsimp only
  split <;> rename_i hread <;> obtain ⟨rfl, rfl⟩ := Prod.mk.inj (hread.symm.trans h) <;> rfl

end Steps

/-- The same answer, and readers that are related by `R`. -/
structure Alike {σ τ α : Type} (R : σ → τ → Prop) (x : α × σ) (y : α × τ) : Prop where
  fst_eq : x.1 = y.1
  snd : R x.2 y.2

theorem Alike.exists_eq {σ τ α : Type} {R : σ → τ → Prop} {x : α × σ} {y : α × τ}
    (h : Alike R x y) {a : α} {s : σ} (hx : x = (a, s)) : ∃ s', y = (a, s') ∧ R s s' := by
  obtain ⟨hfst, hsnd⟩ := h
  rw [hx] at hfst hsnd
  exact ⟨y.2, Prod.ext hfst.symm rfl, hsnd⟩

/-- Readers that are related by `R` give the same characters, and stay related whatever is read or
taken back. -/
structure SideBySide {σ τ : Type} [CharReader σ] [CharReader τ] (R : σ → τ → Prop) : Prop where
  read {s : σ} {s' : τ} : R s s' → Alike R (CharReader.read s) (CharReader.read s')
  unread {s : σ} {s' : τ} : R s s' → R (CharReader.unread s) (CharReader.unread s')

namespace SideBySide

variable {σ τ : Type} [CharReader σ] [CharReader τ] {R : σ → τ → Prop} {s : σ} {s' : τ}

/-- Related readers skip the same blanks. -/
theorem alike_skipBlanks (h : SideBySide R) (hs : R s s') :
    Alike R (skipBlanks s) (skipBlanks s') := by
  -- the cases are those of the loop: the end of the text, a blank, another character
  fun_induction skipBlanks s generalizing s' with
  | case1 s s1 hread =>
    obtain ⟨s1', hread', hs1⟩ := (h.read hs).exists_eq hread
    rw [skipBlanks_of_read hread']
    exact ⟨rfl, hs1⟩
  | case2 s c s1 hread hc ih =>
    obtain ⟨s1', hread', hs1⟩ := (h.read hs).exists_eq hread
    rw [skipBlanks_of_read hread']
    dsimp only
    rw [if_pos hc]
    exact ih hs1
  | case3 s c s1 hread hc =>
    obtain ⟨s1', hread', hs1⟩ := (h.read hs).exists_eq hread
    rw [skipBlanks_of_read hread']
    dsimp only
    rw [if_neg hc]
    exact ⟨rfl, hs1⟩

/-- Readers `s` and `s'` that are related read the same sign. -/
theorem alike_readSign (h : SideBySide R) (t : IntType) (c : Char) (hs : R s s') :
    Alike R (readSign t c s) (readSign t c s') := by
  rw [readSign, readSign]
  split_ifs
  · exact ⟨rfl, h.unread hs⟩
  · cases hread : CharReader.read s with
    | mk answer s1 =>
      obtain ⟨s1', hread', hs1⟩ := (h.read hs).exists_eq hread
      rw [hread']
      cases answer <;> exact ⟨rfl, hs1⟩
  · exact ⟨rfl, hs⟩

/-- They find the same base after `c`, and each of them has read as far as the other. -/
theorem alike_detectBase (h : SideBySide R) (c : Char) (hs : R s s') :
    Alike R (detectBase c s) (detectBase c s') := by
  rw [detectBase, detectBase]
  split_ifs
  · exact ⟨rfl, hs⟩
  · cases hread : CharReader.read s with
    | mk answer s1 =>
      obtain ⟨s1', hread', hs1⟩ := (h.read hs).exists_eq hread
      rw [hread']
      cases answer with
      | none => exact ⟨rfl, hs1⟩
      | some x =>
        dsimp only
        split_ifs
        · cases hread2 : CharReader.read s1 with
          | mk answer2 s2 =>
            obtain ⟨s2', hread2', hs2⟩ := (h.read hs1).exists_eq hread2
            rw [hread2']
            cases answer2 <;> exact ⟨rfl, hs2⟩
        · exact ⟨rfl, h.unread hs1⟩

/-- They read the same digits after `d`, and both stop at the same character. -/
theorem alike_readDigits (h : SideBySide R) (t : IntType) (b : Base) (negative : Bool) (acc : Int)
    (d : Nat) (hs : R s s') :
    Alike R (readDigits t b negative acc d s) (readDigits t b negative acc d s') := by
  -- a digit is refused, the text ends, a further digit follows, or something else does
  fun_induction readDigits t b negative acc d s generalizing s' with
  | case1 acc d s hacc =>
    rw [readDigits, hacc]
    exact ⟨rfl, hs⟩
  | case2 acc d s acc' hacc s1 hread =>
    obtain ⟨s1', hread', hs1⟩ := (h.read hs).exists_eq hread
    rw [readDigits_of_read hacc hread']
    exact ⟨rfl, hs1⟩
  | case3 acc d s acc' hacc c s1 hread d' hd ih =>
    obtain ⟨s1', hread', hs1⟩ := (h.read hs).exists_eq hread
    rw [readDigits_of_read hacc hread']
    dsimp only
    rw [hd]
    exact ih hs1
  | case4 acc d s acc' hacc c s1 hread hd =>
    obtain ⟨s1', hread', hs1⟩ := (h.read hs).exists_eq hread
    rw [readDigits_of_read hacc hread']
    dsimp only
    rw [hd]
    exact ⟨rfl, h.unread hs1⟩

theorem alike_readMagnitude (h : SideBySide R) (t : IntType) (b : Base) (negative : Bool) (c : Char)
    (hs : R s s') : Alike R (readMagnitude t b negative c s) (readMagnitude t b negative c s') := by
  rw [readMagnitude, readMagnitude]
  cases b.digit? c with
  | none => exact ⟨rfl, h.unread hs⟩
  | some d => exact h.alike_readDigits t b negative 0 d hs

/-- **Readers side by side.**  Readers `s` and `s'` that give the same characters read the same
numeral, and stay related. -/
theorem readNumeral_alike (h : SideBySide R) (t : IntType) (choice : BaseChoice) (hs : R s s') :
    (readNumeral t choice s).outcome = (readNumeral t choice s').outcome ∧
      (readNumeral t choice s).detected = (readNumeral t choice s').detected ∧
      R (readNumeral t choice s).reader (readNumeral t choice s').reader := by
  rw [readNumeral, readNumeral]
  -- stage by stage, the readers of one stage related to those of the next
  cases hskip : skipBlanks s with
  | mk first s1 =>
  obtain ⟨s1', hskip', hs1⟩ := (h.alike_skipBlanks hs).exists_eq hskip
  rw [hskip']
  cases first with
  | none => exact ⟨rfl, rfl, hs1⟩
  | some c =>
  dsimp only
  cases hsign : readSign t c s1 with
  | mk sign s2 =>
  obtain ⟨s2', hsign', hs2⟩ := (h.alike_readSign t c hs1).exists_eq hsign
  rw [hsign']
  cases sign with
  | error e => exact ⟨rfl, rfl, hs2⟩
  | ok sign =>
  cases choice with
  | fixed b =>
    obtain ⟨houtcome, hs3⟩ := h.alike_readMagnitude t b sign.1 sign.2 hs2
    exact ⟨houtcome, rfl, hs3⟩
  | detect =>
    dsimp only
    cases hbase : detectBase sign.2 s2 with
    | mk base s3 =>
    obtain ⟨s3', hbase', hs3⟩ := (h.alike_detectBase sign.2 hs2).exists_eq hbase
    rw [hbase']
    cases base with
    | error e => exact ⟨rfl, rfl, hs3⟩
    | ok base =>
      obtain ⟨houtcome, hs4⟩ := h.alike_readMagnitude t base.1 sign.1 base.2 hs3
      exact ⟨houtcome, rfl, hs4⟩

end SideBySide

/-- Whatever reading and taking back one character preserve, reading a numeral preserves: `P` goes
from `s` to the reader after the numeral. -/
theorem readNumeral_preserves {σ : Type} [CharReader σ] {P : σ → Prop}
    (hread : ∀ s, P s → P (CharReader.read s).2) (hunread : ∀ s, P s → P (CharReader.unread s))
    (t : IntType) (choice : BaseChoice) {s : σ} (h : P s) : P (readNumeral t choice s).reader := by
  -- a reader beside itself
  have hself : SideBySide fun s s' : σ => s = s' ∧ P s := by
    refine ⟨?_, ?_⟩
    · rintro s _ ⟨rfl, hs⟩
      exact ⟨rfl, rfl, hread s hs⟩
    · rintro s _ ⟨rfl, hs⟩
      exact ⟨rfl, hunread s hs⟩
  exact (hself.readNumeral_alike t choice ⟨rfl, h⟩).2.2.2

/-! ### Lawful readers -/

section Lawful

variable {σ : Type} [CharReader σ] [LawfulReader σ]

open CharReader LawfulReader

/-- If all characters `cs` are blank, skipping blanks comes to the end. -/
theorem skipBlanks_of_dropWhile_nil :
    ∀ {cs : List Char} {s : σ}, rest s = cs → cs.dropWhile isBlank = [] →
      ∃ s', skipBlanks s = (none, s') ∧ rest s' = [] := by
  intro cs
  induction cs with
  | nil =>
    intro s hs _
    obtain ⟨s', hread, hs'⟩ := read_of_rest_nil hs
    exact ⟨s', skipBlanks_of_read hread, hs'⟩
  | cons c cs ih =>
    intro s hs hcs
    have hc : isBlank c = true := by
      -- a character that is not blank would not be dropped
      by_contra hc
      rw [List.dropWhile_cons_of_neg hc] at hcs
      exact List.cons_ne_nil c cs hcs
    rw [List.dropWhile_cons_of_pos hc] at hcs
    obtain ⟨s1, hread, hs1⟩ := read_of_rest_cons hs
    obtain ⟨s', hskip, hs'⟩ := ih hs1.rest_eq hcs
    exact ⟨s', (skipBlanks_of_read hread).trans ((if_pos hc).trans hskip), hs'⟩

/-- Blanks are skipped up to the first other character `c`, which can be put back. -/
theorem skipBlanks_of_dropWhile_cons {c : Char} {ds : List Char} :
    ∀ {cs : List Char} {s : σ}, rest s = cs → cs.dropWhile isBlank = c :: ds →
      ∃ s', skipBlanks s = (some c, s') ∧ Holds s' c ds := by
  intro cs
  induction cs with
  | nil =>
    intro s _ hcs
    rw [List.dropWhile_nil] at hcs
    exact absurd hcs.symm (List.cons_ne_nil c ds)
  | cons c' cs ih =>
    intro s hs hcs
    obtain ⟨s1, hread, hs1⟩ := read_of_rest_cons hs
    by_cases hc : isBlank c' = true
    · rw [List.dropWhile_cons_of_pos hc] at hcs
      obtain ⟨s', hskip, hs'⟩ := ih hs1.rest_eq hcs
      exact ⟨s', (skipBlanks_of_read hread).trans ((if_pos hc).trans hskip), hs'⟩
    · rw [List.dropWhile_cons_of_neg hc] at hcs
      obtain ⟨rfl, rfl⟩ := List.cons.inj hcs
      exact ⟨s1, (skipBlanks_of_read hread).trans (if_neg hc), hs1⟩

/-- A sign is passed, and the text may end after it; otherwise `d` is the first character of the
numeral, and it can be put back. -/
theorem readSign_of_holds {t : IntType} {s : σ} {c : Char} {cs : List Char} (h : Holds s c cs)
    (hminus : ¬ (t = .unsigned ∧ c = '-')) :
    (afterSign (c :: cs) = [] →
      ∃ s', readSign t c s = (.error .cutOff, s') ∧ rest s' = []) ∧
    ∀ d ds, afterSign (c :: cs) = d :: ds →
      ∃ s', readSign t c s = (.ok (c = '-', d), s') ∧ Holds s' d ds := by
  rw [readSign, if_neg fun h => hminus h.symm]
  by_cases hc : c = '-' ∨ c = '+'
  · -- the character after the sign is read, if there is one
    rw [afterSign_of_sign hc, if_pos hc]
    constructor
    · intro hcs
      obtain ⟨s', hread, hs'⟩ := read_of_rest_nil (h.rest_eq.trans hcs)
      exact ⟨s', by rw [hread], hs'⟩
    · intro d ds hcs
      obtain ⟨s', hread, hs'⟩ := read_of_rest_cons (h.rest_eq.trans hcs)
      exact ⟨s', by rw [hread], hs'⟩
  · have hne : c ≠ '-' := fun h => hc (Or.inl h)
    -- the first character is handed on
    rw [afterSign_of_not_sign hc, if_neg hc]
    refine ⟨fun h => absurd h (List.cons_ne_nil c cs), ?_⟩
    intro d ds hcs
    obtain ⟨rfl, rfl⟩ := List.cons.inj hcs
    exact ⟨s, by rw [decide_eq_false hne], h⟩

/-- A minus sign before an unsigned numeral is put back into `s`. -/
theorem readSign_of_minus {s : σ} {cs : List Char} (h : Holds s '-' cs) :
    ∃ s', readSign .unsigned '-' s = (.error .minusSign, s') ∧ rest s' = '-' :: cs :=
  ⟨unread s, if_pos ⟨rfl, rfl⟩, h.rest_unread_eq⟩

/-- The first digit `d` was read last and `ds` follows it.  Only if `d` is no digit of base `b`
after all is it promised that it can be put back. -/
structure Begins (b : Base) (s : σ) (d : Char) (ds : List Char) : Prop where
  rest_eq : rest s = ds
  rest_unread_eq : b.isDigit d = false → rest (unread s) = d :: ds

theorem LawfulReader.Holds.begins {s : σ} {c : Char} {cs : List Char} (h : Holds s c cs)
    (b : Base) : Begins b s c cs :=
  ⟨h.rest_eq, fun _ => h.rest_unread_eq⟩

/-- A zero is a digit in every base `b`, so that nothing has to be promised of it. -/
theorem begins_zero {s : σ} {cs : List Char} (h : rest s = cs) (b : Base) : Begins b s '0' cs := by
  refine ⟨h, fun hdigit => ?_⟩
  rw [Base.isDigit_zero] at hdigit
  exact absurd hdigit (by decide)

/-- The base is found by looking at up to two characters after the first one, `c`. -/
theorem detectBase_of_holds {s : σ} {c : Char} {cs : List Char} (h : Holds s c cs) :
    (BaseChoice.detect.afterPrefix (c :: cs) = [] →
      ∃ s', detectBase c s = (.error .cutOff, s') ∧ rest s' = []) ∧
    ∀ d ds, BaseChoice.detect.afterPrefix (c :: cs) = d :: ds →
      ∃ s', detectBase c s = (.ok (BaseChoice.detect.baseOf (c :: cs), d), s') ∧
        Begins (BaseChoice.detect.baseOf (c :: cs)) s' d ds := by
  by_cases hc : c = '0'
  · subst hc
    rw [detectBase, if_neg (not_not.mpr rfl)]
    cases cs with
    | nil =>
      -- once the end has been seen nothing promises that the zero can be taken back
      obtain ⟨s', hread, hs'⟩ := read_of_rest_nil h.rest_eq
      rw [BaseChoice.afterPrefix_detect_of_nil rfl, hread]
      refine ⟨fun hnil => absurd hnil (List.cons_ne_nil _ _), ?_⟩
      intro d ds hcons
      obtain ⟨rfl, rfl⟩ := List.cons.inj hcons
      exact ⟨s', rfl, begins_zero hs' _⟩
    | cons x cs =>
      obtain ⟨s1, hread, hs1⟩ := read_of_rest_cons h.rest_eq
      simp only [hread]
      -- a letter is passed, and another character after the zero is put back
      by_cases hx : x = 'x' ∨ x = 'X'
      · rw [BaseChoice.afterPrefix_detect_of_letter hx, BaseChoice.baseOf_detect_of_letter hx,
          if_pos hx]
        constructor
        · intro hcs
          obtain ⟨s2, hread2, hs2⟩ := read_of_rest_nil (hs1.rest_eq.trans hcs)
          exact ⟨s2, by rw [hread2], hs2⟩
        · intro d ds hcs
          obtain ⟨s2, hread2, hs2⟩ := read_of_rest_cons (hs1.rest_eq.trans hcs)
          exact ⟨s2, by rw [hread2], hs2.begins _⟩
      · rw [BaseChoice.afterPrefix_detect_of_nil (hexPrefixOf_of_not_letter hx _ _),
          BaseChoice.baseOf_detect_of_not_letter hx, if_neg hx]
        refine ⟨fun hnil => absurd hnil (List.cons_ne_nil _ _), ?_⟩
        intro d ds hcons
        obtain ⟨rfl, rfl⟩ := List.cons.inj hcons
        exact ⟨unread s1, rfl, begins_zero hs1.rest_unread_eq _⟩
  · rw [BaseChoice.afterPrefix_detect_of_nil (hexPrefixOf_of_ne_zero hc _),
      BaseChoice.baseOf_detect_of_ne_zero hc, detectBase, if_pos hc]
    refine ⟨fun hnil => absurd hnil (List.cons_ne_nil _ _), ?_⟩
    intro d ds hcons
    obtain ⟨rfl, rfl⟩ := List.cons.inj hcons
    exact ⟨s, rfl, h.begins _⟩

/-- After its first digit `c` a numeral is read as the run of digits that begins with it. -/
theorem readDigits_map_rest (t : IntType) (b : Base) (negative : Bool) :
    ∀ {cs : List Char} {s : σ} {c : Char} {d : Nat} (acc : Int), rest s = cs →
      b.digit? c = some d →
      (readDigits t b negative acc d s).map id rest = foldDigits t b negative acc (c :: cs) := by
  intro cs
  induction cs with
  | nil =>
    intro s c d acc hs hc
    obtain ⟨s', hread, hs'⟩ := read_of_rest_nil hs
    rw [foldDigits, hc]
    dsimp only
    cases hacc : t.append? b negative acc d with
    | none => rw [readDigits, hacc, Prod.map_apply, id, hs]
    | some acc' =>
      rw [readDigits_of_read hacc hread, Prod.map_apply, id, hs']
      rfl
  | cons c' cs ih =>
    intro s c d acc hs hc
    obtain ⟨s', hread, hs'⟩ := read_of_rest_cons hs
    rw [foldDigits, hc]
    dsimp only
    cases hacc : t.append? b negative acc d with
    | none => rw [readDigits, hacc, Prod.map_apply, id, hs]
    | some acc' =>
      rw [readDigits_of_read hacc hread]
      dsimp only
      cases hd : b.digit? c' with
      -- the numeral ends before `c'`, which is put back
      | none => rw [foldDigits, hd, Prod.map_apply, id, hs'.rest_unread_eq]
      | some d' => exact ih acc' hs'.rest_eq hd

/-- A numeral is read from `c` on as the run of digits, unless `c` is no digit. -/
theorem readMagnitude_map_rest {b : Base} {s : σ} {c : Char} {cs : List Char} (t : IntType)
    (negative : Bool) (h : Begins b s c cs) :
    (readMagnitude t b negative c s).map id rest = foldMagnitude t b negative (c :: cs) := by
  rw [readMagnitude, foldMagnitude]
  cases hd : b.digit? c with
  | none =>
    have hc : b.isDigit c = false := by rw [Base.isDigit, hd]; rfl
    rw [if_neg (by rw [hc]; decide), Prod.map_apply, id, h.rest_unread_eq hc]
  | some d =>
    -- the first digit is looked up again by the run
    rw [if_pos (Base.isDigit_of_digit? hd)]
    exact readDigits_map_rest t b negative 0 h.rest_eq hd

/-- **Readers and texts.**  A lawful reader `s` reads what is to be read from the characters to
come, and leaves what is to be left of them. -/
theorem readNumeral_map_rest (t : IntType) (choice : BaseChoice) (s : σ) :
    (readNumeral t choice s).map rest = readText t choice (rest s) := by
  rw [readNumeral, readText]
  cases hu : (rest s).dropWhile isBlank with
  | nil =>
    obtain ⟨s1, hskip, hs1⟩ := skipBlanks_of_dropWhile_nil rfl hu
    rw [hskip, if_pos rfl]
    simp only [Reading.map, hs1]
  | cons c cs =>
    -- `c` is the first character that is not blank
    obtain ⟨s1, hskip, hs1⟩ := skipBlanks_of_dropWhile_cons rfl hu
    rw [hskip, if_neg (List.cons_ne_nil c cs)]
    simp only [List.head?_cons, Option.some.injEq]
    by_cases hminus : t = .unsigned ∧ c = '-'
    · obtain ⟨rfl, rfl⟩ := hminus
      obtain ⟨s2, hread, hs2⟩ := readSign_of_minus hs1
      rw [hread, if_pos ⟨rfl, rfl⟩]
      simp only [Reading.map, hs2]
    rw [if_neg hminus]
    obtain ⟨hnil, hcons⟩ := readSign_of_holds hs1 hminus
    cases hv : afterSign (c :: cs) with
    | nil =>
      obtain ⟨s2, hread, hs2⟩ := hnil hv
      have hds : choice.afterPrefix [] = [] := by rw [BaseChoice.afterPrefix, List.drop_nil]
      rw [hread, if_pos hds]
      simp only [Reading.map, hs2]
    | cons d ds =>
      -- `d` is the first character after the sign
      obtain ⟨s2, hread, hs2⟩ := hcons d ds hv
      rw [hread]
      dsimp only
      cases choice with
      | fixed b =>
        rw [BaseChoice.afterPrefix_fixed, BaseChoice.baseOf_fixed, if_neg (List.cons_ne_nil d ds),
          ← readMagnitude_map_rest t _ (hs2.begins b)]
        rfl
      | detect =>
        obtain ⟨hnil2, hcons2⟩ := detectBase_of_holds hs2
        cases hr : BaseChoice.detect.afterPrefix (d :: ds) with
        | nil =>
          obtain ⟨s3, hbase, hs3⟩ := hnil2 hr
          rw [hbase, if_pos rfl]
          simp only [Reading.map, hs3]
        | cons e es =>
          -- `e` is the first character after the prefix, or `d` again
          obtain ⟨s3, hbase, hs3⟩ := hcons2 e es hr
          rw [hbase, if_neg (List.cons_ne_nil e es), ← readMagnitude_map_rest t _ hs3]
          rfl

theorem outcome_readNumeral (t : IntType) (choice : BaseChoice) (s : σ) :
    (readNumeral t choice s).outcome = (readText t choice (rest s)).outcome :=
  congrArg Reading.outcome (readNumeral_map_rest t choice s)

theorem rest_readNumeral (t : IntType) (choice : BaseChoice) (s : σ) :
    rest (readNumeral t choice s).reader = (readText t choice (rest s)).reader :=
  congrArg Reading.reader (readNumeral_map_rest t choice s)

end Lawful

/-! ### Readers of a text -/

namespace TextReader

theorem text_readNumeral (t : IntType) (choice : BaseChoice) (r : TextReader) :
    (readNumeral t choice r).reader.text = r.text := by
  refine readNumeral_preserves (P := fun r' : TextReader => r'.text = r.text) ?_ ?_ t choice rfl
  · intro s hs
    rw [text_read, hs]
  · intro s hs
    rw [text_unread, hs]

theorem Placed.readNumeral {r : TextReader} (h : r.Placed) (t : IntType) (choice : BaseChoice) :
    (readNumeral t choice r).reader.Placed :=
  readNumeral_preserves (P := Placed) (fun _ => Placed.read) (fun _ => Placed.unread) t choice h

end TextReader

section Start

variable (t : IntType) (choice : BaseChoice) (text : List Char)

theorem outcome_readNumeral_start :
    (readNumeral t choice ({ text } : TextReader)).outcome = (readText t choice text).outcome := by
  rw [outcome_readNumeral, TextReader.lawfulRest_eq, (TextReader.between_start text).rest_eq]

theorem rest_readNumeral_start :
    (readNumeral t choice ({ text } : TextReader)).reader.rest =
      (readText t choice text).reader := by
  rw [← TextReader.lawfulRest_eq, rest_readNumeral, TextReader.lawfulRest_eq,
    (TextReader.between_start text).rest_eq]

/-- The characters read and those that are left make up the `text`. -/
theorem count_readNumeral_start :
    (readNumeral t choice ({ text } : TextReader)).reader.count +
      (readText t choice text).reader.length = text.length := by
  have hplaced : ({ text } : TextReader).Placed := ⟨_, _, TextReader.between_start text⟩
  have hcount := (hplaced.readNumeral t choice).count_add
  rwa [rest_readNumeral_start, TextReader.text_readNumeral] at hcount

/-- The length of a numeral is that of the `text` less what is left of it. -/
theorem parseNumeral_eq :
    parseNumeral t choice text = (readText t choice text).outcome.map fun value =>
      { value, length := text.length - (readText t choice text).reader.length } := by
  rw [parseNumeral, outcome_readNumeral_start,
    Nat.eq_sub_of_add_eq (count_readNumeral_start t choice text)]

end Start

end Numeral128
