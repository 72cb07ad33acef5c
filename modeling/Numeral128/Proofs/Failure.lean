import Mathlib.Data.List.DropRight
import Numeral128.Proofs.Scanning

/-!
# Failures that stick

`Session.verdict` says what a command comes to by looking at the text that is left, whether or not a
scan has failed before.  From a session that is ready, the first verdict that is not `ready` is the
status of the whole run, as long as there is no reset (`Session.status_final_of_ready`), and a
session that has failed keeps its status (`Session.status_final_of_failed`) and refuses every scan
(`Session.run_of_failed`).

Since a reset makes a session ready, the status after any run is found in the commands since the
last reset.  The main statement, `failure_sticks`, puts this together.
-/

namespace Numeral128

/-! ### Scans -/

namespace ScanCommand

/-- Whether the command scans, so that it has no effect after a failure. -/
def isScan : ScanCommand → Bool
  | scanInt _ | scanWord => true
  | reset | setChoice _ | reader _ => false

/-- The answer to a scan after a failure. -/
def refusal : ScanCommand → ScanAnswer
  | scanWord => .word none
  | _ => .nothing

/-- The `commands` up to the last reset. -/
def uptoReset (commands : List ScanCommand) : List ScanCommand :=
  commands.rdropWhile (· ≠ reset)

/-- The `commands` after the last reset. -/
def sinceReset (commands : List ScanCommand) : List ScanCommand :=
  commands.rtakeWhile (· ≠ reset)

theorem uptoReset_append_sinceReset (commands : List ScanCommand) :
    uptoReset commands ++ sinceReset commands = commands :=
  List.rdropWhile_append_rtakeWhile

theorem reset_notMem_sinceReset (commands : List ScanCommand) : reset ∉ sinceReset commands := by
  intro hmem
  have hne := List.mem_rtakeWhile_imp hmem
  exact of_decide_eq_true hne rfl

/-- Either there has been no reset, or the last command before those of `sinceReset` was one. -/
theorem uptoReset_eq (commands : List ScanCommand) :
    uptoReset commands = [] ∨ ∃ before, uptoReset commands = before ++ [reset] := by
  by_cases hnil : uptoReset commands = []
  · exact Or.inl hnil
  · have hlast := List.rdropWhile_last_not _ _ hnil
    rw [decide_eq_true_iff, not_not] at hlast
    refine Or.inr ⟨(uptoReset commands).dropLast, ?_⟩
    rw [← hlast]
    exact (List.dropLast_concat_getLast hnil).symm

end ScanCommand

namespace Scanner

variable {s s' : Scanner}

/-- The failure and its rejection are nothing but the `status`. -/
theorem failure_congr (h : s.status = s'.status) :
    s.failed = s'.failed ∧ s.rejection? = s'.rejection? :=
  ⟨by rw [failed, h, failed], by rw [rejection?, h, rejection?]⟩

theorem rejection?_eq_some_iff {e : Rejection} :
    s.rejection? = some e ↔ s.status = .rejected e := by
  rw [rejection?]
  cases s.status <;> simp

end Scanner

namespace Session

/-- What a command comes to, unless a scan has failed: the status that the text left over calls for.
-/
def verdict (s : Session) : ScanCommand → ScanStatus
  | .scanInt t =>
    match parseNumeral t s.scanner.choice s.scanner.rest with
    | .ok _ => .ready
    | .error e => .rejected e
  | .scanWord => if s.scanner.rest.all isBlank then .outOfWords else .ready
  | _ => .ready

/-- The verdict on each command of a run. -/
def verdicts (s : Session) : List ScanCommand → List ScanStatus
  | [] => []
  | command :: rest => s.verdict command :: (s.step command).session.verdicts rest

/-- The first verdict of failure in a run. -/
def firstFailure? (s : Session) (commands : List ScanCommand) : Option ScanStatus :=
  (s.verdicts commands).find? (· ≠ .ready)

variable {s : Session} {command : ScanCommand} {commands : List ScanCommand}

/-! ### One command -/

/-- After a failure a scan is refused, and the session `s` stays the same. -/
theorem step_of_failed (h : s.scanner.failed = true) (hscan : command.isScan = true) :
    s.step command = { session := s, answer := command.refusal } := by
  cases command with
  | scanInt t => exact step_scanInt_of_failed h
  | scanWord => exact step_scanWord_of_failed h
  | reset | setChoice _ | reader _ => cases hscan

/-- A `command` that does not scan keeps the status, unless it is `.reset`. -/
theorem status_step_of_not_scan (hscan : command.isScan = false) (hreset : command ≠ .reset) :
    (s.step command).session.scanner.status = s.scanner.status := by
  cases command with
  | reset => exact absurd rfl hreset
  | setChoice _ | reader _ => rfl
  | scanInt _ | scanWord => cases hscan

/-- Only `.reset` changes the status of a session `s` that has failed. -/
theorem status_step_of_failed (h : s.scanner.failed = true) (hreset : command ≠ .reset) :
    (s.step command).session.scanner.status = s.scanner.status := by
  cases hscan : command.isScan with
  | true => rw [step_of_failed h hscan]
  | false => exact status_step_of_not_scan hscan hreset

/-- A session `s` that is ready takes the status of the `verdict`. -/
theorem status_step_of_ready (h : s.scanner.status = .ready) (hreset : command ≠ .reset) :
    (s.step command).session.scanner.status = s.verdict command := by
  have hfailed : s.scanner.failed = false := Scanner.failed_eq_false_iff.mpr h
  cases command with
  | scanInt t =>
    rw [verdict]
    -- a ready session scans, so its status becomes what the text calls for
    cases hparse : parseNumeral t s.scanner.choice s.scanner.rest with
    | ok parsed =>
      obtain ⟨-, -, -, hstatus⟩ := step_scanInt_of_parse hfailed hparse
      exact hstatus.trans h
    | error e => exact (step_scanInt_of_reject hfailed hparse).2
  | scanWord =>
    rw [verdict]
    by_cases hword : wordOf s.scanner.rest = []
    · have hall := List.all_eq_true.mpr (wordOf_eq_nil_iff.mp hword)
      rw [step_scanWord_of_nil hfailed hword, if_pos hall]
    · have hall := mt (wordOf_eq_nil_iff.mpr ∘ List.all_eq_true.mp) hword
      rw [step_scanWord_of_word hfailed hword, if_neg hall]
      exact h
  | reset => exact absurd rfl hreset
  | setChoice _ | reader _ => exact h

/-! ### Runs -/

/-- Scans by a session `s` that has failed are refused, and nothing changes. -/
theorem run_of_failed (h : s.scanner.failed = true)
    (hscans : ∀ command ∈ commands, command.isScan = true) :
    s.run commands = commands.map fun command => { session := s, answer := command.refusal } := by
  induction commands with
  | nil => rfl
  | cons command commands ih =>
    obtain ⟨hscan, hscans⟩ := List.forall_mem_cons.mp hscans
    rw [run, step_of_failed h hscan, ih hscans, List.map_cons]

/-- **A failure sticks.**  Without `.reset` a session that has failed keeps its status, by induction
on the `commands`. -/
theorem status_final_of_failed (h : s.scanner.failed = true) (hreset : .reset ∉ commands) :
    (s.final commands).scanner.status = s.scanner.status := by
  induction commands generalizing s with
  | nil => rfl
  | cons command commands ih =>
    obtain ⟨hcommand, hcommands⟩ := not_or.mp (mt List.mem_cons.mpr hreset)
    have hstatus := status_step_of_failed h (Ne.symm hcommand)
    have hfailed : (s.step command).session.scanner.failed = true := by
      rw [Scanner.failed_eq_true_iff] at h ⊢
      rwa [hstatus]
    rw [final_cons, ih hfailed hcommands, hstatus]

/-- From a session that is ready, `firstFailure?` is the status, if there is one. -/
theorem status_final_of_ready (h : s.scanner.status = .ready) (hreset : .reset ∉ commands) :
    (s.final commands).scanner.status = (s.firstFailure? commands).getD .ready := by
  induction commands generalizing s with
  | nil => exact h
  | cons command commands ih =>
    obtain ⟨hcommand, hcommands⟩ := not_or.mp (mt List.mem_cons.mpr hreset)
    have hstatus := status_step_of_ready h (Ne.symm hcommand)
    rw [final_cons, firstFailure?, verdicts]
    -- either this command is not the first to fail, or the status stays from here on
    by_cases hready : s.verdict command = .ready
    · rw [List.find?_cons_of_neg (by simp [hready])]
      exact ih (hstatus.trans hready) hcommands
    · -- the failure of this command is the first, and stays
      rw [List.find?_cons_of_pos (by simp [hready]), Option.getD_some, ← hstatus]
      refine status_final_of_failed ?_ hcommands
      rwa [Scanner.failed_eq_true_iff, hstatus]

/-- A session `s` that is ready at its start is so after each reset. -/
theorem status_final_uptoReset (h : s.scanner.status = .ready) (commands : List ScanCommand) :
    (s.final (ScanCommand.uptoReset commands)).scanner.status = .ready := by
  -- a reset makes the session ready, whatever was `before` it
  rcases ScanCommand.uptoReset_eq commands with hnil | ⟨before, hbefore⟩
  · rw [hnil]
    exact h
  · rw [hbefore, final_append]
    rfl

/-- **The status of a run.**  It is `firstFailure?` of the commands since the last reset. -/
theorem status_final (h : s.scanner.status = .ready) (commands : List ScanCommand) :
    (s.final commands).scanner.status =
      ((s.final (ScanCommand.uptoReset commands)).firstFailure?
        (ScanCommand.sinceReset commands)).getD .ready := by
  have horigin := status_final_uptoReset h commands
  have hreset := ScanCommand.reset_notMem_sinceReset commands
  rw [← status_final_of_ready horigin hreset, ← final_append,
    ScanCommand.uptoReset_append_sinceReset]

theorem ne_ready_of_firstFailure? {status : ScanStatus}
    (h : s.firstFailure? commands = some status) : status ≠ .ready := by
  rw [firstFailure?] at h
  have hne := List.find?_some h
  exact of_decide_eq_true hne

end Session

/-- A scanner `s` whose status is `first` has failed if there is one, and has the rejection of that
failure and of no other. -/
theorem Scanner.failure_of_status_eq {s : Scanner} {first : Option ScanStatus}
    (hfirst : ∀ status, first = some status → status ≠ .ready) (h : s.status = first.getD .ready) :
    s.failed = first.isSome ∧ ∀ e, s.rejection? = some e ↔ first = some (.rejected e) := by
  cases first with
  | none =>
    refine ⟨failed_eq_false_iff.mpr h, fun e => ?_⟩
    rw [rejection?_eq_some_iff, h]
    exact iff_of_false (fun he => nomatch he) (fun he => nomatch he)
  | some status =>
    refine ⟨failed_eq_true_iff.mpr (h ▸ hfirst status rfl), fun e => ?_⟩
    rw [rejection?_eq_some_iff, h, Option.getD_some, Option.some.injEq]

/-- **Failures stick.**  After any run, the session has failed just in case a scan has failed since
the last reset, and its rejection is that of the first of these, if that was a scan of an integer.
From then on all scans are refused and change nothing, while no other command changes the failure,
except for a reset, which changes nothing else. -/
theorem failure_sticks (text : List Char) (choice : BaseChoice) (values : IntType → Int)
    (commands : List ScanCommand) :
    let origin := (Session.start text choice values).final (ScanCommand.uptoReset commands)
    let first := origin.firstFailure? (ScanCommand.sinceReset commands)
    let s := (Session.start text choice values).final commands
    s.scanner.failed = first.isSome ∧
    (∀ e, s.scanner.rejection? = some e ↔ first = some (.rejected e)) ∧
    (∀ e, s.scanner.rejection? = some e → s.scanner.failed = true) ∧
    (s.scanner.failed = true →
      (∀ scans : List ScanCommand, (∀ command ∈ scans, command.isScan = true) →
        s.run scans =
          scans.map fun command => { session := s, answer := command.refusal }) ∧
      ∀ more : List ScanCommand, .reset ∉ more →
        (s.final more).scanner.failed = true ∧
          (s.final more).scanner.rejection? = s.scanner.rejection?) ∧
    (∀ command : ScanCommand, command.isScan = false → command ≠ .reset →
      (s.step command).session.scanner.failed = s.scanner.failed ∧
        (s.step command).session.scanner.rejection? = s.scanner.rejection?) ∧
    let after := (s.step .reset).session
    after.scanner.failed = false ∧ after.scanner.rejection? = none ∧
      after.scanner.reader = s.scanner.reader ∧ after.scanner.choice = s.scanner.choice ∧
      after.«variables» = s.«variables» := by
  intro origin first s
  -- the status after the last reset is the first failure since, and the two flags only show it
  have hstatus : s.scanner.status = first.getD .ready := Session.status_final rfl commands
  obtain ⟨hfailed, hrejection⟩ :=
    Scanner.failure_of_status_eq (fun _ => Session.ne_ready_of_firstFailure?) hstatus
  refine ⟨hfailed, hrejection, ?_, ?_, ?_, rfl, rfl, rfl, rfl, rfl⟩
  · intro e he
    rw [hfailed, (hrejection e).mp he]
    rfl
  · intro hs
    refine ⟨fun scans hscans => Session.run_of_failed hs hscans, fun more hmore => ?_⟩
    obtain ⟨hfailed', hrejection'⟩ :=
      Scanner.failure_congr (Session.status_final_of_failed hs hmore)
    exact ⟨hfailed'.trans hs, hrejection'⟩
  · intro command hscan hreset
    exact Scanner.failure_congr (Session.status_step_of_not_scan hscan hreset)

/-- The failure of the first scan is forgotten.  That of the second, at a minus sign, is kept while
the rest of the text is read past it, to where a word could not be scanned any more. -/
theorem failure_sticks_at_minus :
    let s := (Session.start "é -5".toList .detect fun _ => 999).final
      [.scanInt .signed, .reset, .reader .read, .scanInt .unsigned, .reader .read, .reader .read,
        .scanWord]
    s.scanner.failed = true ∧ s.scanner.rejection? = some .minusSign ∧
      s.run [.scanInt .signed, .scanWord] =
        [{ session := s }, { session := s, answer := .word none }] ∧
      (s.final [.setChoice (.fixed .ten), .scanWord]).scanner.rejection? = some .minusSign ∧
      (s.step (.reader .unread)).session.scanner.failed = true := by
  intro s
  obtain ⟨-, hrejection, hofRejection, hsticks, hothers, -⟩ :=
    failure_sticks "é -5".toList .detect (fun _ => 999)
      [.scanInt .signed, .reset, .reader .read, .scanInt .unsigned, .reader .read, .reader .read,
        .scanWord]
  -- only the first failure is computed, and the rest follows from it
  have hminus : s.scanner.rejection? = some .minusSign :=
    (hrejection .minusSign).mpr (by decide +kernel)
  have hfailed : s.scanner.failed = true := hofRejection .minusSign hminus
  obtain ⟨hscans, hmore⟩ := hsticks hfailed
  refine ⟨hfailed, hminus, hscans [.scanInt .signed, .scanWord] (by decide), ?_, ?_⟩
  · exact (hmore [.setChoice (.fixed .ten), .scanWord] (by decide)).2.trans hminus
  · exact (hothers (.reader .unread) rfl (by decide)).1.trans hfailed

end Numeral128
