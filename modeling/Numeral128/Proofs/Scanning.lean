import Numeral128.Proofs.Session

/-!
# Scans and readings of a text alone

What a scan comes to depends on the text that is left and on the base choice, and on nothing that
was read before: `scan_eq_parseNumeral` compares a scan in a session, wherever it stands, with
reading from a text that consists of what is left.  The value or rejection is that of
`parseNumeral`, and the scanner moves as far as a reader that starts afresh (`Scanner.MovedBy`).
The same holds of reading a numeral past the failure, which changes nothing but the position.

The outcome and the text that is left are those of `readText` for both readers, since both have the
same characters to come.  That the byte offsets agree as well follows from the places at which
readers stand: offset and text that is left make up the text (`TextReader.Placed.offset_add`).
-/

namespace Numeral128

/-! ### Readings of the text that is left -/

/-- A reader of the text that is left for `r`, from its start. -/
def TextReader.afresh (r : TextReader) : TextReader := { text := r.rest }

namespace TextReader

variable {r : TextReader}

theorem rest_afresh (r : TextReader) : r.afresh.rest = r.rest := (between_start r.rest).rest_eq

theorem placed_afresh (r : TextReader) : r.afresh.Placed := ⟨_, _, between_start r.rest⟩

theorem outcome_readNumeral_afresh (t : IntType) (choice : BaseChoice) (r : TextReader) :
    (readNumeral t choice r.afresh).outcome = (readNumeral t choice r).outcome := by
  rw [outcome_readNumeral, outcome_readNumeral, lawfulRest_eq, lawfulRest_eq, rest_afresh]

theorem rest_readNumeral_afresh (t : IntType) (choice : BaseChoice) (r : TextReader) :
    (readNumeral t choice r.afresh).reader.rest = (readNumeral t choice r).reader.rest := by
  rw [← lawfulRest_eq, ← lawfulRest_eq, rest_readNumeral, rest_readNumeral, lawfulRest_eq,
    lawfulRest_eq, rest_afresh]

/-- Reading moves `r` and the reader that starts afresh by the same number of bytes. -/
theorem offset_readNumeral (h : r.Placed) (t : IntType) (choice : BaseChoice) :
    (readNumeral t choice r).reader.offset =
      r.offset + (readNumeral t choice r.afresh).reader.offset := by
  have hbefore := h.offset_add
  have hafter := (h.readNumeral t choice).offset_add
  have hfresh := (r.placed_afresh.readNumeral t choice).offset_add
  rw [text_readNumeral] at hafter hfresh
  rw [rest_readNumeral_afresh] at hfresh
  -- offset and rest make up the text before and after, so the offsets can be told from the rests
  have htext : r.afresh.text = r.rest := rfl
  rw [htext] at hfresh
  omega

/-- The outcome of `r` is the value of the numeral at the start of the text that is left. -/
theorem outcome_eq_parseNumeral (t : IntType) (choice : BaseChoice) (r : TextReader) :
    (readNumeral t choice r).outcome = (parseNumeral t choice r.rest).map Parsed.value := by
  rw [← outcome_readNumeral_afresh]
  show _ = ((readNumeral t choice r.afresh).outcome.map _).map Parsed.value
  cases (readNumeral t choice r.afresh).outcome <;> rfl

/-- A numeral that is `parsed` is passed by its length in characters. -/
theorem rest_of_parseNumeral {t : IntType} {choice : BaseChoice} {parsed : Parsed}
    (h : parseNumeral t choice r.rest = .ok parsed) :
    (readNumeral t choice r).reader.rest = r.rest.drop parsed.length := by
  have hcount : (readNumeral t choice r.afresh).reader.count = parsed.length := by
    change (readNumeral t choice r.afresh).outcome.map _ = .ok parsed at h
    cases hread : (readNumeral t choice r.afresh).outcome with
    | error e =>
      rw [hread] at h
      cases h
    | ok value =>
      rw [hread] at h
      exact congrArg Parsed.length (Except.ok.inj h)
  rw [← rest_readNumeral_afresh, (r.placed_afresh.readNumeral t choice).rest_eq_drop, hcount,
    text_readNumeral]
  rfl

end TextReader

/-! ### Scans -/

/-- The scanner has moved on from `s` as far as `r` has moved from the start of a text, in the same
text and with the same base choice. -/
structure Scanner.MovedBy (s' s : Scanner) (r : TextReader) : Prop where
  text_eq : s'.reader.text = s.reader.text
  choice_eq : s'.choice = s.choice
  rest_eq : s'.rest = r.rest
  offset_eq : s'.offset = s.offset + r.offset

namespace Session

variable {s : Session} {t : IntType}

theorem outcome_reading (s : Session) (t : IntType) :
    (s.scanner.reading t).outcome =
      (parseNumeral t s.scanner.choice s.scanner.rest).map Parsed.value :=
  TextReader.outcome_eq_parseNumeral t s.scanner.choice s.scanner.reader

/-- A numeral at the start of the text that is left is scanned. -/
theorem step_scanInt_of_parse {value : Int} {length : Nat} (h : s.scanner.failed = false)
    (hparse : parseNumeral t s.scanner.choice s.scanner.rest = .ok { value, length }) :
    let next := (s.step (.scanInt t)).session
    next.«variables» = assign s.«variables» t value ∧
      next.scanner.rest = s.scanner.rest.drop length ∧
      next.scanner.choice = s.scanner.choice ∧ next.scanner.status = s.scanner.status := by
  intro next
  have houtcome : (s.scanner.reading t).outcome = .ok value := by
    rw [s.outcome_reading, hparse]
    rfl
  have hnext : next = _ := congrArg SessionStep.session (step_scanInt_of_ok h houtcome)
  rw [hnext]
  exact ⟨rfl, TextReader.rest_of_parseNumeral hparse, rfl, rfl⟩

/-- If there is none, the scan fails for the reason `e` for which the text is rejected. -/
theorem step_scanInt_of_reject {e : Rejection} (h : s.scanner.failed = false)
    (hparse : parseNumeral t s.scanner.choice s.scanner.rest = .error e) :
    let next := (s.step (.scanInt t)).session
    next.«variables» = s.«variables» ∧ next.scanner.status = .rejected e := by
  intro next
  have houtcome : (s.scanner.reading t).outcome = .error e := by
    rw [s.outcome_reading, hparse]
    rfl
  have hnext : next = _ := congrArg SessionStep.session (step_scanInt_of_error h houtcome)
  rw [hnext]
  exact ⟨rfl, rfl⟩

/-- A scan by `s` moves the reader whether it succeeds or fails, and keeps the choice. -/
theorem reader_step_scanInt (h : s.scanner.failed = false) :
    (s.step (.scanInt t)).session.scanner.reader = (s.scanner.reading t).reader ∧
      (s.step (.scanInt t)).session.scanner.choice = s.scanner.choice := by
  cases hread : (s.scanner.reading t).outcome with
  | ok value =>
    rw [step_scanInt_of_ok h hread]
    exact ⟨rfl, rfl⟩
  | error e =>
    rw [step_scanInt_of_error h hread]
    exact ⟨rfl, rfl⟩

/-- A scanner `s'` that reads a numeral moves as far as a reader that starts afresh. -/
theorem Reachable.movedBy (hs : s.Reachable) {s' : Scanner} {choice : BaseChoice}
    (hreader : s'.reader = (readNumeral t choice s.scanner.reader).reader)
    (hchoice : s'.choice = s.scanner.choice) :
    s'.MovedBy s.scanner (readNumeral t choice s.scanner.reader.afresh).reader where
  text_eq := by rw [hreader, TextReader.text_readNumeral]
  choice_eq := hchoice
  rest_eq := by rw [Scanner.rest, hreader, TextReader.rest_readNumeral_afresh]
  offset_eq := by
    rw [Scanner.offset, hreader]
    exact TextReader.offset_readNumeral hs.placed t choice

end Session

/-- **A scan reads what is left as if nothing had been before it.**  Unless a scan has failed, a
scan of an integer gives the variable of its type the value that `parseNumeral` finds in the text
that is left, or fails for the reason for which this text is rejected.  In both cases the scanner
moves as far as a fresh reader of this text.  Reading a numeral past the failure has the same
outcome and ends at the same place, whatever choice it is given, and changes nothing else. -/
theorem scan_eq_parseNumeral {s : Session} (hs : s.Reachable) (t : IntType) :
    let text := s.scanner.rest
    (s.scanner.failed = false →
      let next := (s.step (.scanInt t)).session
      next.scanner.MovedBy s.scanner
        (readNumeral t s.scanner.choice ({ text } : TextReader)).reader ∧
      (∀ value length, parseNumeral t s.scanner.choice text = .ok { value, length } →
        next.«variables» = Session.assign s.«variables» t value ∧
          next.scanner.rest = text.drop length ∧ next.scanner.status = s.scanner.status) ∧
      ∀ e, parseNumeral t s.scanner.choice text = .error e →
        next.«variables» = s.«variables» ∧ next.scanner.failed = true ∧
          next.scanner.rejection? = some e) ∧
    ∀ choice : BaseChoice,
      let step := s.step (.reader (.readNumeral t choice))
      step.answer = .reader (.numeral ((parseNumeral t choice text).map Parsed.value)) ∧
      step.session.scanner.MovedBy s.scanner
        (readNumeral t choice ({ text } : TextReader)).reader ∧
      (∀ value length, parseNumeral t choice text = .ok { value, length } →
        step.session.scanner.rest = text.drop length) ∧
      step.session.scanner.status = s.scanner.status ∧
      step.session.«variables» = s.«variables» := by
  intro text
  constructor
  · intro hfailed next
    obtain ⟨hreader, hchoice⟩ := Session.reader_step_scanInt (t := t) hfailed
    refine ⟨hs.movedBy hreader hchoice, ?_, ?_⟩
    · intro value length hparse
      obtain ⟨hvalue, hrest, -, hstatus⟩ := Session.step_scanInt_of_parse hfailed hparse
      exact ⟨hvalue, hrest, hstatus⟩
    · intro e hparse
      obtain ⟨hvalue, hstatus⟩ := Session.step_scanInt_of_reject hfailed hparse
      have hnext : next.scanner.status = .rejected e := hstatus
      exact ⟨hvalue, by rw [Scanner.failed, hnext]; rfl, by rw [Scanner.rejection?, hnext]⟩
  · intro choice step
    refine ⟨?_, hs.movedBy rfl rfl, fun value length => TextReader.rest_of_parseNumeral, rfl, rfl⟩
    have houtcome := TextReader.outcome_eq_parseNumeral t choice s.scanner.reader
    exact congrArg (fun outcome => ScanAnswer.reader (.numeral outcome)) houtcome

/-- A letter of two bytes has been read, and may be taken back, when the scan begins. -/
theorem scan_after_letter :
    let s := (Session.start "é 08".toList .detect fun _ => 999).final [.reader .read]
    s.scanner.failed = false ∧ s.scanner.reader.position.last = some 0 ∧
      (s.step (.scanInt .signed)).session.«variables» .signed = 0 ∧
      (s.step (.scanInt .signed)).session.scanner.rest = ['8'] ∧
      (s.step (.scanInt .signed)).session.scanner.offset = 2 + 2 := by
  intro s
  have hs : s.Reachable := (Session.Reachable.start _ _ _).final _
  have hready : s.scanner.failed = false := by decide +kernel
  -- the parser sees the rest as a text of its own
  have hparse : parseNumeral .signed s.scanner.choice s.scanner.rest =
      .ok { value := 0, length := 2 } := by decide +kernel
  obtain ⟨hmoved, hok, -⟩ := (scan_eq_parseNumeral hs .signed).1 hready
  obtain ⟨hvalue, hrest, -⟩ := hok 0 2 hparse
  have hoffset : s.scanner.offset + (readNumeral .signed s.scanner.choice
      ({ text := s.scanner.rest } : TextReader)).reader.offset = 2 + 2 := by decide +kernel
  exact ⟨hready, by decide +kernel, by rw [hvalue]; rfl, hrest, hmoved.offset_eq.trans hoffset⟩

end Numeral128
