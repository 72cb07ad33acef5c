import Numeral128.Proofs.Progress

/-!
# Scanning again after a rejection

A scan that fails takes back the character for which it fails.  If it has passed nothing but blanks,
nothing is lost: after a reset, any scan comes to what it would have come to in the first place,
since blanks before a numeral make no difference (`readText_dropWhile_isBlank`,
`Session.SameOutcome.of_scanInt`).

If a sign or a base prefix has been passed as well, a scan after the reset does not find these any
more, so that it may look at what is left in another base.  But the character that is left was no
digit in the base that was looked for, hence no zero, and then no digit in base ten either
(`Rejects.again`).  `scanInt_again` says both of any scan of an integer that fails.
-/

namespace Numeral128

/-! ### Rejected texts -/

section Rejected

variable {t : IntType} {choice : BaseChoice} {text left : List Char} {e : Rejection}

/-- Blanks at the start of `text` make no difference to what is read and to what is left. -/
theorem readText_dropWhile_isBlank (t : IntType) (choice : BaseChoice) (text : List Char) :
    readText t choice (text.dropWhile isBlank) = readText t choice text := by
  unfold readText
  rw [List.dropWhile_idempotent]

theorem rejects_of_error (h : (readText t choice text).outcome = .error e) :
    Rejects t choice (text.dropWhile isBlank) e (readText t choice text).reader := by
  obtain ⟨e', left, hrejects⟩ | ⟨b, w, s, p, d, rest, rfl, hshape, hminus, hin⟩ :=
    rejects_or_numeralShape t choice text
  · obtain ⟨houtcome, hleft⟩ := readText_of_rejects hrejects
    rw [houtcome, Except.error.injEq] at h
    rwa [hleft, ← h]
  · rw [hshape.readText_of_inRange hminus hin] at h
    cases h

/-- Nothing of `text` is passed before its end, nor before a minus sign that is rejected. -/
theorem Rejects.left_eq (h : Rejects t choice text e left) (he : e = .minusSign ∨ e = .nothing) :
    left = text := by
  cases h with
  | nothing | minusSign _ => rfl
  | cutOff _ _ _ | notDigit _ _ _ | outOfRange _ _ _ => simp at he

/-- Every digit `c` of base ten is a digit of base sixteen. -/
theorem Base.isDigit_sixteen_of_ten {c : Char} (h : ten.isDigit c = true) :
    sixteen.isDigit c = true := by
  obtain ⟨d, hd⟩ := Option.isSome_iff_exists.mp h
  have hlt : d < 10 := Base.digit?_lt hd
  rw [digit?, Option.filter_eq_some_iff] at hd
  have hlt' : decide (d < sixteen.toNat) = true := decide_eq_true (show d < 16 by omega)
  exact isDigit_of_digit? (Option.filter_eq_some_iff.mpr ⟨hd.1, hlt'⟩)

/-- Where a base is looked for, what is no digit of it is no digit of base ten: this holds of the
character `c` after the prefix. -/
theorem BaseChoice.isDigit_ten_of_detect {c : Char} {cs : List Char}
    (hafter : detect.afterPrefix text = c :: cs) (hc : (detect.baseOf text).isDigit c = false) :
    Base.ten.isDigit c = false := by
  rw [baseOf] at hc
  split_ifs at hc with hprefix hzero
  · rw [← Bool.not_eq_true] at hc ⊢
    exact mt Base.isDigit_sixteen_of_ten hc
  · -- in base eight the first character would be the zero itself
    rw [afterPrefix_detect_of_nil (not_not.mp hprefix)] at hafter
    rw [hafter] at hzero
    obtain rfl : c = '0' := Option.some.inj hzero.1
    rw [Base.isDigit_zero] at hc
    exact absurd hc (by decide)
  · exact hc

/-- The character `c` for which `text` is rejected is rejected again at the start of what is left,
whatever the type, unless it is a blank or a sign. -/
theorem Rejects.again {c : Char} (h : Rejects t choice text (.notDigit c) left)
    (hblank : isBlank c = false) (hsign : ¬ (c = '-' ∨ c = '+')) (t' : IntType) :
    Rejects t' choice (left.dropWhile isBlank) (.notDigit c) left := by
  cases h with
  | @notDigit _ _ cs _ hafter hc =>
    have hdrop : (c :: cs).dropWhile isBlank = c :: cs :=
      List.dropWhile_cons_of_neg (by simp [hblank])
    have hbare : afterSign (c :: cs) = c :: cs := afterSign_of_not_sign hsign cs
    have hminus : ¬ (t' = .unsigned ∧ (c :: cs).head? = some '-') := by
      rintro ⟨-, hhead⟩
      exact hsign (Or.inl (Option.some.inj hhead))
    -- a zero is a digit in every base, so that no base is looked for behind `c`
    have hzero : c ≠ '0' := by
      rintro rfl
      rw [Base.isDigit_zero] at hc
      exact absurd hc (by decide)
    rw [hdrop]
    apply Rejects.notDigit hminus
    · rw [hbare]
      cases choice with
      | fixed b => exact BaseChoice.afterPrefix_fixed b (c :: cs)
      | detect => exact BaseChoice.afterPrefix_detect_of_nil (hexPrefixOf_of_ne_zero hzero cs)
    · rw [hbare]
      cases choice with
      | fixed b => exact hc
      | detect =>
        rw [BaseChoice.baseOf_detect_of_ne_zero hzero]
        exact BaseChoice.isDigit_ten_of_detect hafter hc

end Rejected

/-! ### Scans -/

theorem Scanner.failure_of_status_rejected {s : Scanner} {e : Rejection}
    (h : s.status = .rejected e) : s.failed = true ∧ s.rejection? = some e := by
  constructor
  · rw [failed_eq_true_iff, h]
    simp
  · exact rejection?_eq_some_iff.mpr h

namespace Session

variable {s s' : Session} {t : IntType} {e : Rejection}

/-- What is left of a text determines the offset of `s` and of `s'`. -/
theorem offset_eq_of_rest_eq (hs : s.Reachable) (hs' : s'.Reachable)
    (htext : s.scanner.reader.text = s'.scanner.reader.text)
    (hrest : s.scanner.rest = s'.scanner.rest) : s.scanner.offset = s'.scanner.offset := by
  have hplace : s.scanner.offset + byteLength s.scanner.rest = _ := hs.placed.offset_add
  have hplace' : s'.scanner.offset + byteLength s'.scanner.rest = _ := hs'.placed.offset_add
  rw [hrest, htext] at hplace
  omega

theorem outcome_reading_eq (s : Session) (t : IntType) :
    (s.scanner.reading t).outcome =
      (readText t s.scanner.choice s.scanner.rest).outcome :=
  outcome_readNumeral t s.scanner.choice s.scanner.reader

/-- The sessions `s` and `s'` agree on what a scan has come to: on the variables, on the failure and
its reason, and on the place in the text. -/
structure SameOutcome (s s' : Session) : Prop where
  variables_eq : s.«variables» = s'.«variables»
  failed_eq : s.scanner.failed = s'.scanner.failed
  rejection?_eq : s.scanner.rejection? = s'.scanner.rejection?
  offset_eq : s.scanner.offset = s'.scanner.offset
  rest_eq : s.scanner.rest = s'.scanner.rest

/-- Sessions that are left with the same text after blanks scan the same integer of type `t`. -/
theorem SameOutcome.of_scanInt (hs : s.Reachable) (hs' : s'.Reachable)
    (hready : s.scanner.failed = false) (hready' : s'.scanner.failed = false)
    (hvariables : s.«variables» = s'.«variables»)
    (htext : s.scanner.reader.text = s'.scanner.reader.text)
    (hchoice : s.scanner.choice = s'.scanner.choice)
    (hrest : s.scanner.rest.dropWhile isBlank = s'.scanner.rest.dropWhile isBlank)
    (t : IntType) :
    SameOutcome (s.step (.scanInt t)).session (s'.step (.scanInt t)).session := by
  -- both scans read the same text, but for blanks before it
  have hread : readText t s.scanner.choice s.scanner.rest =
      readText t s'.scanner.choice s'.scanner.rest := by
    rw [← readText_dropWhile_isBlank, hrest, hchoice, readText_dropWhile_isBlank]
  have hleft : (s.step (.scanInt t)).session.scanner.rest =
      (s'.step (.scanInt t)).session.scanner.rest := by
    rw [rest_step_scanInt hready, rest_step_scanInt hready', hread]
  have houtcome : (s.scanner.reading t).outcome = (s'.scanner.reading t).outcome := by
    rw [outcome_reading_eq, outcome_reading_eq, hread]
  have hoffset : (s.step (.scanInt t)).session.scanner.offset =
      (s'.step (.scanInt t)).session.scanner.offset := by
    apply offset_eq_of_rest_eq (hs.step (.scanInt t)) (hs'.step (.scanInt t)) _ hleft
    rw [text_step, text_step, htext]
  have hready₀ := Scanner.failed_eq_false_iff.mp hready
  have hready₀' := Scanner.failed_eq_false_iff.mp hready'
  suffices hsame : (s.step (.scanInt t)).session.«variables» =
      (s'.step (.scanInt t)).session.«variables» ∧
        (s.step (.scanInt t)).session.scanner.status =
          (s'.step (.scanInt t)).session.scanner.status by
    have hfailure := Scanner.failure_congr hsame.2
    exact ⟨hsame.1, hfailure.1, hfailure.2, hoffset, hleft⟩
  -- one outcome for both, so the same is assigned or kept by both
  cases hvalue : (s'.scanner.reading t).outcome with
  | ok value =>
    rw [step_scanInt_of_ok hready (houtcome.trans hvalue), step_scanInt_of_ok hready' hvalue]
    exact ⟨by rw [hvariables], hready₀.trans hready₀'.symm⟩
  | error e =>
    rw [step_scanInt_of_error hready (houtcome.trans hvalue), step_scanInt_of_error hready' hvalue]
    exact ⟨hvariables, rfl⟩

/-- A scan that fails with the rejection `e` changes no variable, and what is left of the text is
what is left by the rejection. -/
theorem step_scanInt_of_rejection? (hready : s.scanner.failed = false)
    (h : (s.step (.scanInt t)).session.scanner.rejection? = some e) :
    (s.step (.scanInt t)).session.«variables» = s.«variables» ∧
      Rejects t s.scanner.choice (s.scanner.rest.dropWhile isBlank) e
        (s.step (.scanInt t)).session.scanner.rest := by
  cases hvalue : (s.scanner.reading t).outcome with
  | ok value =>
    rw [step_scanInt_of_ok hready hvalue, Scanner.rejection?_eq_some_iff] at h
    have hstatus := Scanner.failed_eq_false_iff.mp hready
    exact absurd (hstatus.symm.trans h) (by simp)
  | error e' =>
    have houtcome := (s.outcome_reading_eq t).symm.trans hvalue
    rw [rest_step_scanInt hready]
    rw [step_scanInt_of_error hready hvalue] at h ⊢
    obtain rfl : e' = e := Option.some.inj h
    exact ⟨rfl, rejects_of_error houtcome⟩

/-- A text that is rejected for `e` makes a scan fail. -/
theorem step_scanInt_of_rejects {left : List Char} (hready : s.scanner.failed = false)
    (h : Rejects t s.scanner.choice (s.scanner.rest.dropWhile isBlank) e left) :
    (s.step (.scanInt t)).session.scanner.status = .rejected e ∧
      (s.step (.scanInt t)).session.scanner.rest = left := by
  rcases readText_of_rejects h with ⟨houtcome, hleft⟩
  constructor
  · rw [step_scanInt_of_error hready ((s.outcome_reading_eq t).trans houtcome)]
  · rw [rest_step_scanInt hready, hleft]

/-- The session `failed` comes of scanning an integer from `s`, which has failed with nothing but
blanks passed: at a minus sign, at the end of the text, or at some other character that is the first
one after the blanks. -/
def FailsAfterBlanks (s failed : Session) : Prop :=
  failed.scanner.rejection? = some .minusSign ∨ failed.scanner.rejection? = some .nothing ∨
    (∃ c, failed.scanner.rejection? = some (.notDigit c)) ∧
      failed.scanner.offset =
        s.scanner.offset + byteLength (s.scanner.rest.takeWhile isBlank)

/-- No variable is changed then, and what is left is the text without the blanks at its start. -/
theorem FailsAfterBlanks.unchanged (hs : s.Reachable) (hready : s.scanner.failed = false)
    (h : s.FailsAfterBlanks (s.step (.scanInt t)).session) :
    (s.step (.scanInt t)).session.«variables» = s.«variables» ∧
      (s.step (.scanInt t)).session.scanner.rest = s.scanner.rest.dropWhile isBlank := by
  -- in the first two cases the rejection alone tells that nothing was passed
  rcases h with hminus | hnothing | ⟨⟨c, hdigit⟩, hoffset⟩
  · rcases step_scanInt_of_rejection? hready hminus with ⟨hvariables, hrejects⟩
    exact ⟨hvariables, hrejects.left_eq (Or.inl rfl)⟩
  · rcases step_scanInt_of_rejection? hready hnothing with ⟨hvariables, hrejects⟩
    exact ⟨hvariables, hrejects.left_eq (Or.inr rfl)⟩
  · rcases step_scanInt_of_rejection? hready hdigit with ⟨hvariables, hrejects⟩
    refine ⟨hvariables, ?_⟩
    obtain ⟨taken, hsplit, -⟩ := hrejects.exists_taken
    have hpassed : s.scanner.rest = s.scanner.rest.takeWhile isBlank ++ taken ++
        (s.step (.scanInt t)).session.scanner.rest := by
      rw [List.append_assoc, ← hsplit, List.takeWhile_append_dropWhile]
    -- the offset leaves no room for further characters
    have hend := (Passes.of_rest_eq hs hpassed).offset_eq
    rw [byteLength_append, hoffset] at hend
    have hnil : taken = [] := by
      by_contra htaken
      have hpos := byteLength_pos htaken
      omega
    rw [hsplit, hnil, List.nil_append]

end Session

/-- **Scanning again.**  Let a scan of an integer fail.  If it has passed nothing but blanks, any
scan after a reset, with any choice of a base and of any type, comes to what it comes to without the
scan that has failed.  If it has failed at a character that is neither a blank nor a sign, then a
scan of either type after a reset fails at the same character in the same place. -/
theorem scanInt_again {s : Session} (hs : s.Reachable) (hready : s.scanner.failed = false)
    (choice : BaseChoice) (t : IntType) :
    let failed := s.final [.setChoice choice, .scanInt t]
    (s.FailsAfterBlanks failed → ∀ (choice' : BaseChoice) (t' : IntType),
      (failed.final [.reset, .setChoice choice', .scanInt t']).SameOutcome
        (s.final [.setChoice choice', .scanInt t'])) ∧
    ∀ c, failed.scanner.rejection? = some (.notDigit c) → isBlank c = false →
      ¬ (c = '-' ∨ c = '+') → ∀ t' : IntType,
        let again := failed.final [.reset, .scanInt t']
        again.scanner.failed = true ∧ again.scanner.rejection? = some (.notDigit c) ∧
          again.scanner.offset = failed.scanner.offset := by
  intro failed
  let chosen := (s.step (.setChoice choice)).session
  have hchosen : chosen.Reachable := hs.step (.setChoice choice)
  have hfailed : failed.Reachable := hs.final _
  constructor
  · intro hblanks choice' t'
    -- the failed scan has only passed blanks, which are passed again anyway
    obtain ⟨hvariables, hrest⟩ : failed.«variables» = s.«variables» ∧
        failed.scanner.rest = s.scanner.rest.dropWhile isBlank :=
      Session.FailsAfterBlanks.unchanged hchosen hready hblanks
    have htext : failed.scanner.reader.text = s.scanner.reader.text :=
      chosen.text_step (.scanInt t)
    apply Session.SameOutcome.of_scanInt ((hfailed.step .reset).step (.setChoice choice'))
      (hs.step (.setChoice choice')) rfl hready hvariables htext rfl
    show failed.scanner.rest.dropWhile isBlank = s.scanner.rest.dropWhile isBlank
    rw [hrest, List.dropWhile_idempotent]
  · intro c hc hblank hsign t' again
    have hchoice : failed.scanner.choice = choice :=
      (Session.reader_step_scanInt (s := chosen) hready).2
    have hrejects : Rejects t choice (s.scanner.rest.dropWhile isBlank) (.notDigit c)
        failed.scanner.rest :=
      (Session.step_scanInt_of_rejection? (s := chosen) hready hc).2
    have hagain := hrejects.again hblank hsign t'
    rw [← hchoice] at hagain
    have hreset : (failed.step .reset).session.scanner.failed = false := rfl
    obtain ⟨hstatus, hrest⟩ : again.scanner.status = .rejected (.notDigit c) ∧
        again.scanner.rest = failed.scanner.rest :=
      Session.step_scanInt_of_rejects hreset hagain
    obtain ⟨hfails, hreason⟩ := Scanner.failure_of_status_rejected hstatus
    have htext : again.scanner.reader.text = failed.scanner.reader.text :=
      (failed.step .reset).session.text_step (.scanInt t')
    exact ⟨hfails, hreason, Session.offset_eq_of_rest_eq (hfailed.final _) hfailed htext hrest⟩

/-- A minus sign is kept for a scan of a signed integer.  An underscore after a prefix is rejected
once more without the prefix, where it is looked at in base ten. -/
theorem scanInt_again_minus_underscore :
    let s := (Session.start "é -5 0x_".toList .detect fun _ => 999).final [.scanWord]
    let failed := s.final [.setChoice .detect, .scanInt .unsigned]
    let s' := s.final [.scanInt .signed]
    let failed' := s'.final [.setChoice .detect, .scanInt .unsigned]
    s.FailsAfterBlanks failed ∧
      (failed.final [.reset, .setChoice (.fixed .ten), .scanInt .signed]).«variables» .signed = -5 ∧
      failed'.scanner.rejection? = some (.notDigit '_') ∧ failed'.scanner.offset = 8 ∧
      (failed'.final [.reset, .scanInt .signed]).scanner.rejection? = some (.notDigit '_') ∧
      (failed'.final [.reset, .scanInt .signed]).scanner.offset = 8 := by
  intro s failed s' failed'
  have hs : s.Reachable := (Session.Reachable.start _ _ _).final _
  have hready : s.scanner.failed = false := by decide +kernel
  have hready' : s'.scanner.failed = false := by decide +kernel
  have hblanks : s.FailsAfterBlanks failed := Or.inl (by decide +kernel)
  have hunderscore : failed'.scanner.rejection? = some (.notDigit '_') := by decide +kernel
  have hoffset : failed'.scanner.offset = 8 := by decide +kernel
  have hsame := (scanInt_again hs hready .detect .unsigned).1 hblanks (.fixed .ten) .signed
  obtain ⟨-, hagain, hplace⟩ := (scanInt_again (hs.final _) hready' .detect .unsigned).2 '_'
    hunderscore (by decide) (by decide) .signed
  refine ⟨hblanks, ?_, hunderscore, hoffset, hagain, hplace.trans hoffset⟩
  -- the second scan is that of the session before the failure
  rw [hsame.variables_eq]
  decide +kernel

end Numeral128
