import Mathlib.Data.List.TakeWhile
import Numeral128.Proofs.Cursor
import Numeral128.Scanner.Session

/-!
# Runs of sessions

`Session.start text choice values` is a session with a text of which nothing has been read, and
`Session.Reachable` holds of the sessions that commands lead to from there.  What a scan can do is
said once, by `Session.step_scanInt_of_failed`, `step_scanInt_of_ok` and `step_scanInt_of_error` for
integers and by the like for words.

A `CursorSession` is a session whose reader is a cursor between characters.  Session and cursor
session stay together command by command (`Session.Tracks.step`), which gives the main statement,
`runs_track_cursor`: along every run the answers are those of the cursor, every byte offset is the
boundary at which the cursor stands, and the slot is filled just in case the cursor may step back.
-/

namespace Numeral128

/-! ### Words -/

/-- The first word of `text`: the characters after its blanks, up to the next blank. -/
def wordOf (text : List Char) : List Char :=
  (text.dropWhile isBlank).takeWhile fun c => !isBlank c

/-- What follows the first word of `text`. -/
def afterWord (text : List Char) : List Char :=
  (text.dropWhile isBlank).dropWhile fun c => !isBlank c

/-- The blanks of `text`, its first word and `afterWord text` make up all of it. -/
theorem blanks_append_word (text : List Char) :
    text.takeWhile isBlank ++ wordOf text ++ afterWord text = text := by
  rw [List.append_assoc, wordOf, afterWord, List.takeWhile_append_dropWhile,
    List.takeWhile_append_dropWhile]

/-- `wordOf text` is empty just in case all characters of `text` are blank. -/
theorem wordOf_eq_nil_iff {text : List Char} :
    wordOf text = [] ↔ ∀ c ∈ text, isBlank c = true := by
  rw [← List.dropWhile_eq_nil_iff, wordOf]
  cases hrest : text.dropWhile isBlank with
  | nil => exact iff_of_true rfl rfl
  | cons c cs =>
    have hne : text.dropWhile isBlank ≠ [] := hrest ▸ List.cons_ne_nil c cs
    have hc : isBlank c = false := by
      -- a character at which `dropWhile` stops is no blank
      have hhead := List.head_dropWhile_not isBlank hne
      simpa [hrest] using hhead
    rw [List.takeWhile_cons_of_pos (by rw [hc]; rfl)]
    exact iff_of_false (List.cons_ne_nil _ _) (List.cons_ne_nil _ _)

theorem takeWhile_isBlank_of_wordOf_nil {text : List Char} (h : wordOf text = []) :
    text.takeWhile isBlank = text :=
  List.takeWhile_eq_self_iff.mpr (wordOf_eq_nil_iff.mp h)

/-! ### What commands do -/

namespace Scanner

theorem failed_eq_false_iff {s : Scanner} : s.failed = false ↔ s.status = .ready := by
  rw [failed, decide_eq_false_iff_not, not_not]

theorem failed_eq_true_iff {s : Scanner} : s.failed = true ↔ s.status ≠ .ready :=
  decide_eq_true_iff

/-- What a scan of an integer of type `t` reads unless the scanner has failed. -/
def reading (s : Scanner) (t : IntType) : Reading TextReader := readNumeral t s.choice s.reader

end Scanner

namespace Session

variable {s : Session} {t : IntType}

/-- After a failure a scan of an integer does nothing at all. -/
theorem step_scanInt_of_failed (h : s.scanner.failed = true) :
    s.step (.scanInt t) = { session := s } := by
  simp only [step, Scanner.scanInt, if_pos h]

/-- A `value` that is read is assigned to the variable of its type, and the reader stays where
reading it has left it. -/
theorem step_scanInt_of_ok {value : Int} (h : s.scanner.failed = false)
    (hread : (s.scanner.reading t).outcome = .ok value) :
    s.step (.scanInt t) =
      { session :=
          { scanner := { s.scanner with reader := (s.scanner.reading t).reader },
            «variables» := assign s.«variables» t value },
        events := (s.scanner.reading t).events } := by
  rw [Scanner.reading] at hread
  simp only [step, Scanner.scanInt, Scanner.reading, h, hread, Bool.false_eq_true, if_false]

/-- A rejection `e` is kept and reported with the offset at which the reader has come to rest. -/
theorem step_scanInt_of_error {e : Rejection} (h : s.scanner.failed = false)
    (hread : (s.scanner.reading t).outcome = .error e) :
    s.step (.scanInt t) =
      { session :=
          { s with scanner := { s.scanner with reader := (s.scanner.reading t).reader,
                                               status := .rejected e } },
        events := (s.scanner.reading t).events ++
          [.scanFailed e (s.scanner.reading t).reader.offset s.scanner.choice] } := by
  rw [Scanner.reading] at hread
  simp only [step, Scanner.scanInt, Scanner.reading, h, hread, Bool.false_eq_true, if_false]

theorem step_scanWord_of_failed (h : s.scanner.failed = true) :
    s.step .scanWord = { session := s, answer := .word none } := by
  simp only [step, Scanner.scanWord, if_pos h]

/-- Where `wordOf` is empty, a scan of a word goes to the end of the text and fails. -/
theorem step_scanWord_of_nil (h : s.scanner.failed = false) (hword : wordOf s.scanner.rest = []) :
    s.step .scanWord =
      { session :=
          { s with scanner :=
              { s.scanner with reader := s.scanner.reader.jump (byteLength s.scanner.reader.text),
                               status := .outOfWords } },
        answer := .word none } := by
  rw [wordOf] at hword
  simp only [step, Scanner.scanWord, h, hword, Bool.false_eq_true, if_false, List.isEmpty_nil,
    if_true]

/-- A scan of a word moves past the blanks and `wordOf`, by their length in bytes. -/
theorem step_scanWord_of_word (h : s.scanner.failed = false) (hword : wordOf s.scanner.rest ≠ []) :
    s.step .scanWord =
      { session :=
          { s with scanner :=
              { s.scanner with reader := s.scanner.reader.jump (s.scanner.offset +
                  byteLength (s.scanner.rest.takeWhile isBlank ++ wordOf s.scanner.rest)) } },
        answer := .word (some (wordOf s.scanner.rest)) } := by
  have hne : (wordOf s.scanner.rest).isEmpty = false := by rwa [List.isEmpty_eq_false_iff]
  rw [byteLength_append, ← Nat.add_assoc]
  rw [wordOf] at hne ⊢
  simp only [step, Scanner.scanWord, h, hne, Bool.false_eq_true, if_false]

/-! ### Runs -/

/-- A session with a text of which nothing has been read. -/
def start (text : List Char) (choice : BaseChoice) (values : IntType → Int) : Session :=
  { scanner := { reader := { text }, choice }, «variables» := values }

/-- The session after the run of `commands`. -/
def final (s : Session) (commands : List ScanCommand) : Session :=
  commands.foldl (fun s command => (s.step command).session) s

@[simp] theorem final_nil (s : Session) : s.final [] = s := rfl

@[simp] theorem final_cons (s : Session) (command : ScanCommand) (commands : List ScanCommand) :
    s.final (command :: commands) = (s.step command).session.final commands := rfl

theorem final_append (s : Session) (commands more : List ScanCommand) :
    s.final (commands ++ more) = (s.final commands).final more :=
  List.foldl_append

/-- The sessions that commands lead to from the start of some `text`. -/
inductive Reachable : Session → Prop
  | start (text : List Char) (choice : BaseChoice) (values : IntType → Int) :
      Reachable (start text choice values)
  | step {s : Session} (command : ScanCommand) : Reachable s → Reachable (s.step command).session

theorem Reachable.final (h : s.Reachable) (commands : List ScanCommand) :
    (s.final commands).Reachable := by
  induction commands generalizing s with
  | nil => exact h
  | cons command commands ih => exact ih (h.step command)

end Session

/-! ### Sessions with a cursor -/

/-- The cursor after the first word of what is left, or at the end if no word is left. -/
def CharCursor.passWord (k : CharCursor) : CharCursor :=
  k.advance (k.rest.takeWhile isBlank ++ wordOf k.rest).length <| by
    have hsplit := congrArg List.length (blanks_append_word k.rest)
    rw [List.length_append] at hsplit
    omega

/-- A session that reads its text through a cursor. -/
structure CursorSession where
  cursor : CharCursor
  choice : BaseChoice
  status : ScanStatus := .ready
  «variables» : IntType → Int

/-- What a command does to a session with a cursor. -/
structure CursorStep where
  session : CursorSession
  answer : ScanAnswer := .nothing

namespace CursorSession

/-- A session with a cursor before a text. -/
def start (text : List Char) (choice : BaseChoice) (values : IntType → Int) : CursorSession :=
  { cursor := .start text, choice, «variables» := values }

/-- Scans an integer, unless a scan has failed. -/
def scanInt (s : CursorSession) (t : IntType) : CursorSession :=
  if s.status = .ready then
    let reading := readNumeral t s.choice s.cursor
    match reading.outcome with
    | .ok value =>
      { s with cursor := reading.reader, «variables» := Session.assign s.«variables» t value }
    | .error e => { s with cursor := reading.reader, status := .rejected e }
  else s

/-- Scans a word, unless a scan has failed. -/
def scanWord (s : CursorSession) : CursorStep :=
  if s.status = .ready then
    if wordOf s.cursor.rest = [] then
      { session := { s with cursor := s.cursor.passWord, status := .outOfWords },
        answer := .word none }
    else
      { session := { s with cursor := s.cursor.passWord },
        answer := .word (some (wordOf s.cursor.rest)) }
  else { session := s, answer := .word none }

/-- Obeys a command. -/
def step (s : CursorSession) : ScanCommand → CursorStep
  | .scanInt t => { session := s.scanInt t }
  | .scanWord => s.scanWord
  | .reset => { session := { s with status := .ready } }
  | .setChoice choice => { session := { s with choice } }
  | .reader command =>
    { session := { s with cursor := (command.step s.cursor).reader },
      answer := .reader (command.step s.cursor).answer }

/-- Obeys commands in order and keeps every step. -/
def run (s : CursorSession) : List ScanCommand → List CursorStep
  | [] => []
  | command :: rest => s.step command :: (s.step command).session.run rest

end CursorSession

namespace Session

/-- The reader of the session stands where the cursor of `k` does, and all else is the same. -/
structure Tracks (s : Session) (k : CursorSession) : Prop where
  reader : s.scanner.reader.Tracks k.cursor
  choice_eq : s.scanner.choice = k.choice
  status_eq : s.scanner.status = k.status
  variables_eq : s.«variables» = k.«variables»

namespace Tracks

variable {s : Session} {k : CursorSession}

theorem start (text : List Char) (choice : BaseChoice) (values : IntType → Int) :
    (start text choice values).Tracks (.start text choice values) :=
  ⟨.start text, rfl, rfl, rfl⟩

theorem failed_eq_false_iff (h : s.Tracks k) : s.scanner.failed = false ↔ k.status = .ready := by
  rw [Scanner.failed_eq_false_iff, h.status_eq]

theorem failed_of_ne_ready (h : s.Tracks k) (hstatus : ¬ k.status = .ready) :
    s.scanner.failed = true := by
  rwa [← h.failed_eq_false_iff, Bool.not_eq_false] at hstatus

/-- A scan of an integer is a scan through the cursor, as `readNumeral` reads alike from readers
that go side by side. -/
theorem scanInt (h : s.Tracks k) (t : IntType) :
    (s.step (.scanInt t)).session.Tracks (k.scanInt t) := by
  -- both read the same number, whether or not it is then used
  have hreading := TextReader.sideBySide_tracks.readNumeral_alike t k.choice h.reader
  rw [← h.choice_eq] at hreading
  obtain ⟨houtcome, -, hreader⟩ := hreading
  by_cases hready : k.status = .ready
  · have hfailed := h.failed_eq_false_iff.mpr hready
    rw [CursorSession.scanInt, if_pos hready, ← h.choice_eq]
    cases hread : (readNumeral t s.scanner.choice k.cursor).outcome with
    | ok value =>
      rw [step_scanInt_of_ok hfailed (houtcome.trans hread)]
      simp only [hread]
      exact ⟨hreader, rfl, h.status_eq, by rw [h.variables_eq]⟩
    | error e =>
      rw [step_scanInt_of_error hfailed (houtcome.trans hread)]
      simp only [hread]
      exact ⟨hreader, rfl, rfl, h.variables_eq⟩
  · rw [step_scanInt_of_failed (h.failed_of_ne_ready hready), CursorSession.scanInt, if_neg hready]
    exact h

/-- A scan of a word by `s` is one through the cursor of `k`. -/
theorem scanWord (h : s.Tracks k) :
    (s.step .scanWord).answer = k.scanWord.answer ∧
      (s.step .scanWord).session.Tracks k.scanWord.session := by
  have hrest : s.scanner.rest = k.cursor.rest := h.reader.rest_eq
  -- the two jumps of a scan are one: past the blanks and the word, which may be empty
  have hpass : (s.scanner.reader.jump (s.scanner.offset +
      byteLength (k.cursor.rest.takeWhile isBlank ++ wordOf k.cursor.rest))).Tracks
        k.cursor.passWord :=
    h.reader.jump (blanks_append_word k.cursor.rest).symm _
  by_cases hready : k.status = .ready
  · have hfailed := h.failed_eq_false_iff.mpr hready
    rw [CursorSession.scanWord, if_pos hready]
    by_cases hword : wordOf k.cursor.rest = []
    · -- all that is left is blank, so that the text ends after it
      have hend : s.scanner.offset +
          byteLength (k.cursor.rest.takeWhile isBlank ++ wordOf k.cursor.rest) =
            byteLength s.scanner.reader.text := by
        rw [takeWhile_isBlank_of_wordOf_nil hword, hword, List.append_nil, h.reader.between.text_eq,
          byteLength_append, ← h.reader.offset_eq]
        rfl
      rw [hend] at hpass
      rw [step_scanWord_of_nil hfailed (hrest ▸ hword), if_pos hword]
      exact ⟨rfl, hpass, h.choice_eq, rfl, h.variables_eq⟩
    · rw [step_scanWord_of_word hfailed (hrest ▸ hword), if_neg hword, hrest]
      exact ⟨rfl, hpass, h.choice_eq, h.status_eq, h.variables_eq⟩
  · rw [step_scanWord_of_failed (h.failed_of_ne_ready hready), CursorSession.scanWord,
      if_neg hready]
    exact ⟨rfl, h⟩

/-- **One command.**  The session `s` gives the answer of `k` and stays where its cursor is. -/
theorem step (h : s.Tracks k) (command : ScanCommand) :
    (s.step command).answer = (k.step command).answer ∧
      (s.step command).session.Tracks (k.step command).session := by
  cases command with
  | scanInt t => exact ⟨rfl, h.scanInt t⟩
  | scanWord => exact h.scanWord
  | reset => exact ⟨rfl, h.reader, h.choice_eq, rfl, h.variables_eq⟩
  | setChoice choice => exact ⟨rfl, h.reader, rfl, h.status_eq, h.variables_eq⟩
  | reader command =>
    obtain ⟨hanswer, hreader⟩ :=
      ReaderCommand.step_alike TextReader.sideBySide_tracks h.reader command
    exact ⟨congrArg ScanAnswer.reader hanswer, hreader, h.choice_eq, h.status_eq, h.variables_eq⟩

/-- **A run.**  By induction on the `commands`, session and cursor stay together throughout. -/
theorem run (h : s.Tracks k) (commands : List ScanCommand) :
    List.Forall₂ (fun step step' => step.answer = step'.answer ∧ step.session.Tracks step'.session)
      (s.run commands) (k.run commands) := by
  induction commands generalizing s k with
  | nil => exact .nil
  | cons command commands ih =>
    have hstep := h.step command
    exact .cons hstep (ih hstep.2)

end Tracks

/-- A session that can be reached stands where some cursor session `k` stands. -/
theorem Reachable.exists_tracks {s : Session} (h : s.Reachable) : ∃ k, s.Tracks k := by
  induction h with
  | start text choice values => exact ⟨_, .start text choice values⟩
  | step command _ ih =>
    obtain ⟨k, hk⟩ := ih
    exact ⟨_, (hk.step command).2⟩

theorem Reachable.placed {s : Session} (h : s.Reachable) : s.scanner.reader.Placed := by
  obtain ⟨k, hk⟩ := h.exists_tracks
  exact hk.reader.placed

end Session

/-- **Byte offsets follow the characters.**  Along every run of commands to a reader of a text, and
along every run of a session, the answers are those of a cursor between characters, and the reader
stands where the cursor does. -/
theorem runs_track_cursor (text : List Char) :
    (∀ commands : List ReaderCommand,
      List.Forall₂ (fun step step' => step.answer = step'.answer ∧ step.reader.Tracks step'.reader)
        (ReaderCommand.run ({ text } : TextReader) commands)
        (ReaderCommand.run (CharCursor.start text) commands)) ∧
    ∀ (choice : BaseChoice) (values : IntType → Int) (commands : List ScanCommand),
      List.Forall₂
        (fun step step' => step.answer = step'.answer ∧ step.session.Tracks step'.session)
        ((Session.start text choice values).run commands)
        ((CursorSession.start text choice values).run commands) := by
  constructor
  · intro commands
    exact ReaderCommand.run_alike TextReader.sideBySide_tracks (.start text) commands
  · intro choice values commands
    exact (Session.Tracks.start text choice values).run commands

end Numeral128
