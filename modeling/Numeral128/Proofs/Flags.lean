import Numeral128.Proofs.Session
import Numeral128.Scanner.Flags

/-!
# The two fields of a failure

A session keeps one status, and a flagged session the two fields `failed` and `lastError`.  Only
some pairs of fields stand for a status: a rejection is kept only while the flag is up
(`FlaggedSession.Sound`).  This is an invariant of every command (`FlaggedSession.Sound.step`), and
so of every run (`FlaggedSession.Sound.run`).

`Session.HasFlags s k` says that the fields of `k` are those of the status of `s`.  The two sessions
then do the same, command by command (`Session.HasFlags.step`), which gives the main statement,
`runs_have_flags`: along every run both give the same answers and the same events, and the fields
are those of the status.
-/

namespace Numeral128

namespace FlaggedSession

variable {k : FlaggedSession} {t : IntType}

/-! ### What scans do -/

/-- What a scan of an integer of type `t` reads unless the flag is up. -/
def reading (k : FlaggedSession) (t : IntType) : Reading TextReader :=
  readNumeral t k.choice k.reader

theorem scanInt_of_failed (h : k.failed = true) : k.scanInt t = { session := k } := by
  rw [scanInt, if_pos h]

/-- A `value` that is read is assigned, and neither field changes. -/
theorem scanInt_of_ok {value : Int} (h : k.failed = false)
    (hread : (k.reading t).outcome = .ok value) :
    k.scanInt t =
      { session :=
          { k with reader := (k.reading t).reader,
                   «variables» := Session.assign k.«variables» t value },
        events := (k.reading t).events } := by
  rw [reading] at hread
  simp only [scanInt, reading, h, hread, Bool.false_eq_true, if_false]

/-- A rejection `e` is kept, reported, and raises the flag. -/
theorem scanInt_of_error {e : Rejection} (h : k.failed = false)
    (hread : (k.reading t).outcome = .error e) :
    k.scanInt t =
      { session := { k with reader := (k.reading t).reader, failed := true, lastError := some e },
        events := (k.reading t).events ++
          [.scanFailed e (k.reading t).reader.offset k.choice] } := by
  rw [reading] at hread
  simp only [scanInt, reading, h, hread, Bool.false_eq_true, if_false]

theorem scanWord_of_failed (h : k.failed = true) :
    k.scanWord = { session := k, answer := .word none } := by
  rw [scanWord, if_pos h]

/-- Where no word is left, `failed` is set, and `lastError` is empty with it. -/
theorem scanWord_of_nil (h : k.failed = false) (hword : wordOf k.reader.rest = []) :
    k.scanWord =
      { session := { k with reader := k.reader.jump (byteLength k.reader.text), failed := true },
        answer := .word none } := by
  rw [wordOf] at hword
  simp only [scanWord, h, hword, Bool.false_eq_true, if_false, List.isEmpty_nil, if_true]

/-- A word that is found changes neither field. -/
theorem scanWord_of_word (h : k.failed = false) (hword : wordOf k.reader.rest ≠ []) :
    k.scanWord =
      { session :=
          { k with reader := k.reader.jump (k.reader.offset +
              byteLength (k.reader.rest.takeWhile isBlank ++ wordOf k.reader.rest)) },
        answer := .word (some (wordOf k.reader.rest)) } := by
  have hne : (wordOf k.reader.rest).isEmpty = false := by rwa [List.isEmpty_eq_false_iff]
  rw [byteLength_append, ← Nat.add_assoc]
  rw [wordOf] at hne ⊢
  simp only [scanWord, h, hne, Bool.false_eq_true, if_false]

/-! ### The invariant -/

/-- A rejection is kept only while the flag is up, as nothing in the type of `k` says. -/
def Sound (k : FlaggedSession) : Prop := k.lastError ≠ none → k.failed = true

theorem Sound.scanInt (h : k.Sound) (t : IntType) : (k.scanInt t).session.Sound := by
  cases hfailed : k.failed with
  | true =>
    rw [scanInt_of_failed hfailed]
    exact h
  | false =>
    cases hread : (k.reading t).outcome with
    | ok value =>
      rw [scanInt_of_ok hfailed hread]
      exact h
    | error e =>
      -- the rejection is kept now, and the flag goes up with it
      rw [scanInt_of_error hfailed hread]
      exact fun _ => rfl

theorem Sound.scanWord (h : k.Sound) : k.scanWord.session.Sound := by
  cases hfailed : k.failed with
  | true =>
    rw [scanWord_of_failed hfailed]
    exact h
  | false =>
    by_cases hword : wordOf k.reader.rest = []
    · rw [scanWord_of_nil hfailed hword]
      exact fun _ => rfl
    · rw [scanWord_of_word hfailed hword]
      exact h

/-- **One command.**  Only a rejected numeral is kept, and it raises the flag; only a reset takes
the flag down, and it forgets the rejection. -/
theorem Sound.step (h : k.Sound) (command : ScanCommand) : (k.step command).session.Sound := by
  cases command with
  | scanInt t => exact h.scanInt t
  | scanWord => exact h.scanWord
  | reset => exact fun hkept => absurd rfl hkept
  | setChoice choice => exact h
  | reader command => exact h

/-- **Every run.**  A rejection is never left behind when the flag is down. -/
theorem Sound.run (h : k.Sound) (commands : List ScanCommand) :
    ∀ step ∈ k.run commands, step.session.Sound := by
  induction commands generalizing k with
  | nil => exact fun step hstep => absurd hstep List.not_mem_nil
  | cons command commands ih =>
    have hstep := h.step command
    exact List.forall_mem_cons.mpr ⟨hstep, ih hstep⟩

end FlaggedSession

/-! ### The two sessions side by side -/

/-- The fields of `k` are those of the status of `s`, and all else is the same. -/
structure Session.HasFlags (s : Session) (k : FlaggedSession) : Prop where
  reader_eq : k.reader = s.scanner.reader
  choice_eq : k.choice = s.scanner.choice
  failed_eq : k.failed = s.scanner.failed
  lastError_eq : k.lastError = s.scanner.rejection?
  variables_eq : k.«variables» = s.«variables»

/-- The steps `step` and `step'` give the same answer and the same events, and lead to sessions that
belong together. -/
structure SessionStep.HasFlags (step : SessionStep) (step' : FlaggedStep) : Prop where
  answer_eq : step'.answer = step.answer
  events_eq : step'.events = step.events
  session : step.session.HasFlags step'.session

/-- The pairs of fields that stand for a status are those that are sound. -/
theorem FlaggedSession.exists_hasFlags_iff {k : FlaggedSession} :
    (∃ s : Session, s.HasFlags k) ↔ k.Sound := by
  constructor
  · rintro ⟨s, h⟩ hkept
    rw [h.failed_eq, Scanner.failed_eq_true_iff]
    intro hready
    rw [h.lastError_eq, Scanner.rejection?, hready] at hkept
    exact hkept rfl
  · intro h
    -- of the four pairs of fields the one that is left out is a rejection without the flag
    obtain ⟨reader, choice, failed, lastError, values⟩ := k
    cases lastError with
    | some e =>
      obtain rfl : failed = true := h (Option.some_ne_none e)
      exact ⟨⟨⟨reader, choice, .rejected e⟩, values⟩, rfl, rfl, rfl, rfl, rfl⟩
    | none =>
      cases failed with
      | false => exact ⟨⟨⟨reader, choice, .ready⟩, values⟩, rfl, rfl, rfl, rfl, rfl⟩
      | true => exact ⟨⟨⟨reader, choice, .outOfWords⟩, values⟩, rfl, rfl, rfl, rfl, rfl⟩

namespace Session.HasFlags

variable {s : Session} {k : FlaggedSession}

theorem reading_eq (h : s.HasFlags k) (t : IntType) : k.reading t = s.scanner.reading t := by
  rw [FlaggedSession.reading, h.choice_eq, h.reader_eq, Scanner.reading]

theorem scanInt (h : s.HasFlags k) (t : IntType) :
    (s.step (.scanInt t)).HasFlags (k.scanInt t) := by
  cases hfailed : s.scanner.failed with
  | true =>
    rw [step_scanInt_of_failed hfailed,
      FlaggedSession.scanInt_of_failed (h.failed_eq.trans hfailed)]
    exact ⟨rfl, rfl, h⟩
  | false =>
    have hdown := h.failed_eq.trans hfailed
    have hreading := h.reading_eq t
    cases hread : (s.scanner.reading t).outcome with
    | ok value =>
      rw [step_scanInt_of_ok hfailed hread,
        FlaggedSession.scanInt_of_ok hdown (hreading ▸ hread), hreading, h.variables_eq]
      exact ⟨rfl, rfl, rfl, h.choice_eq, h.failed_eq, h.lastError_eq, rfl⟩
    | error e =>
      rw [step_scanInt_of_error hfailed hread,
        FlaggedSession.scanInt_of_error hdown (hreading ▸ hread), hreading, h.choice_eq]
      exact ⟨rfl, rfl, rfl, rfl, rfl, rfl, h.variables_eq⟩

theorem scanWord (h : s.HasFlags k) : (s.step .scanWord).HasFlags k.scanWord := by
  have hrest : k.reader.rest = s.scanner.rest := congrArg TextReader.rest h.reader_eq
  cases hfailed : s.scanner.failed with
  | true =>
    rw [step_scanWord_of_failed hfailed,
      FlaggedSession.scanWord_of_failed (h.failed_eq.trans hfailed)]
    exact ⟨rfl, rfl, h⟩
  | false =>
    have hdown := h.failed_eq.trans hfailed
    by_cases hword : wordOf s.scanner.rest = []
    · -- no rejection is kept, for the flag was down so far
      have hkept : k.lastError = none := by
        rw [h.lastError_eq, Scanner.rejection?, Scanner.failed_eq_false_iff.mp hfailed]
      rw [step_scanWord_of_nil hfailed hword,
        FlaggedSession.scanWord_of_nil hdown (hrest ▸ hword), h.reader_eq, hkept]
      exact ⟨rfl, rfl, rfl, h.choice_eq, rfl, rfl, h.variables_eq⟩
    · rw [step_scanWord_of_word hfailed hword,
        FlaggedSession.scanWord_of_word hdown (hrest ▸ hword), hrest, h.reader_eq]
      exact ⟨rfl, rfl, rfl, h.choice_eq, h.failed_eq, h.lastError_eq, h.variables_eq⟩

/-- **One command.**  Sessions `s` and `k` do the same, and their failures go on belonging together.
-/
theorem step (h : s.HasFlags k) (command : ScanCommand) :
    (s.step command).HasFlags (k.step command) := by
  cases command with
  | scanInt t => exact h.scanInt t
  | scanWord => exact h.scanWord
  | reset => exact ⟨rfl, rfl, h.reader_eq, h.choice_eq, rfl, rfl, h.variables_eq⟩
  | setChoice choice =>
    exact ⟨rfl, rfl, h.reader_eq, rfl, h.failed_eq, h.lastError_eq, h.variables_eq⟩
  | reader command =>
    rw [FlaggedSession.step, h.reader_eq]
    exact ⟨rfl, rfl, rfl, h.choice_eq, h.failed_eq, h.lastError_eq, h.variables_eq⟩

/-- **A run.**  By induction on the commands, since one step leads to sessions that belong together.
-/
theorem run (h : s.HasFlags k) (commands : List ScanCommand) :
    List.Forall₂ SessionStep.HasFlags (s.run commands) (k.run commands) := by
  induction commands generalizing s k with
  | nil => exact .nil
  | cons command commands ih =>
    have hstep := h.step command
    exact .cons hstep (ih hstep.session)

end Session.HasFlags

/-- **One status for two fields.**  Along every run from the start of a text a session and a flagged
session give the same answers and the same events, `failed` and `lastError` are those of the status,
and no rejection is kept while the flag is down. -/
theorem runs_have_flags (text : List Char) (choice : BaseChoice) (values : IntType → Int)
    (commands : List ScanCommand) :
    let k : FlaggedSession := { reader := { text }, choice, «variables» := values }
    List.Forall₂ SessionStep.HasFlags ((Session.start text choice values).run commands)
        (k.run commands) ∧
      ∀ step ∈ k.run commands, step.session.Sound := by
  intro k
  have hstart : (Session.start text choice values).HasFlags k := ⟨rfl, rfl, rfl, rfl, rfl⟩
  exact ⟨hstart.run commands, (FlaggedSession.exists_hasFlags_iff.mp ⟨_, hstart⟩).run commands⟩

end Numeral128
