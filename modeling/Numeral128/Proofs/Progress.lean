import Numeral128.Proofs.Failure
import Numeral128.Proofs.Words

/-!
# Progress of scans

No command but the direct one to take a character back moves a session backwards: it passes some
characters of the text that is left, none perhaps (`Session.exists_passes`).  This is not clear from
the calls that reading a numeral makes, since it takes back up to two characters itself, but by then
it has passed them, so that what it leaves is an end of what it found (`exists_taken`).

A scan that does not fail passes a solid character (`Session.exists_solid_of_succeeds`).  Hence the
number of the solid characters that are left is a bound on the scans that can still succeed
(`Session.successes_add_le`).  `scans_make_progress` draws the conclusion for loops that scan until
a scan fails: a run with more scans than that has failed at its end, and stays where it is.
-/

namespace Numeral128

open CharReader

/-- What is left of `text` by a numeral is an end of it, and a value takes a solid character. -/
theorem exists_passed_readText (t : IntType) (choice : BaseChoice) (text : List Char) :
    ∃ passed, text = passed ++ (readText t choice text).reader ∧
      ∀ value, (readText t choice text).outcome = .ok value → ∃ c ∈ passed, isBlank c = false := by
  obtain ⟨taken, hsplit, htaken, hvalue⟩ := exists_taken t choice text
  refine ⟨text.takeWhile isBlank ++ taken, ?_, ?_⟩
  · rw [List.append_assoc, ← hsplit, List.takeWhile_append_dropWhile]
  · intro value houtcome
    obtain ⟨c, hc⟩ := List.exists_mem_of_ne_nil taken (hvalue value houtcome)
    exact ⟨c, List.mem_append_right _ hc, htaken c hc⟩

/-- Whether the command scans or sets the base choice. -/
def ScanCommand.scansOrChooses : ScanCommand → Bool
  | scanInt _ | scanWord | setChoice _ => true
  | reset | reader _ => false

namespace Session

variable {s : Session} {command : ScanCommand} {commands : List ScanCommand} {passed : List Char}

/-! ### One command -/

theorem text_step (s : Session) (command : ScanCommand) :
    (s.step command).session.scanner.reader.text = s.scanner.reader.text := by
  cases command with
  | scanInt t =>
    by_cases h : s.scanner.failed = true
    · rw [step_scanInt_of_failed h]
    · rw [Bool.not_eq_true] at h
      rw [(reader_step_scanInt h).1]
      exact TextReader.text_readNumeral t s.scanner.choice s.scanner.reader
  | scanWord =>
    by_cases h : s.scanner.failed = true
    · rw [step_scanWord_of_failed h]
    · rw [Bool.not_eq_true] at h
      -- a word is looked for in what is left, and the text stays as it is
      by_cases hword : wordOf s.scanner.rest = []
      · rw [step_scanWord_of_nil h hword]
        rfl
      · rw [step_scanWord_of_word h hword]
        rfl
  | reset | setChoice _ => rfl
  | reader command =>
    cases command with
    | read => exact TextReader.text_read s.scanner.reader
    | unread => exact TextReader.text_unread s.scanner.reader
    | readNumeral t choice => exact TextReader.text_readNumeral t choice s.scanner.reader

/-- The `command` moves the session `s` forward over `passed`. -/
structure Passes (s : Session) (command : ScanCommand) (passed : List Char) : Prop where
  rest_eq : s.scanner.rest = passed ++ (s.step command).session.scanner.rest
  offset_eq : (s.step command).session.scanner.offset = s.scanner.offset + byteLength passed

/-- What is left of the text determines the offset, so it is enough to say what was `passed`. -/
theorem Passes.of_rest_eq (hs : s.Reachable)
    (hrest : s.scanner.rest = passed ++ (s.step command).session.scanner.rest) :
    s.Passes command passed where
  rest_eq := hrest
  offset_eq := hs.placed.offset_eq_add (hs.step command).placed (s.text_step command) hrest

/-- The solid characters that are left are those `passed` and those left afterwards. -/
theorem Passes.length_solids (h : s.Passes command passed) :
    (solids s.scanner.rest).length =
      (solids passed).length + (solids (s.step command).session.scanner.rest).length := by
  rw [h.rest_eq, solids_append, List.length_append]

/-- The `command` is a scan that does not fail. -/
def succeeds (s : Session) (command : ScanCommand) : Bool :=
  command.isScan && !(s.step command).session.scanner.failed

theorem ready_of_succeeds (h : s.succeeds command = true) : s.scanner.failed = false := by
  simp only [succeeds, Bool.and_eq_true, Bool.not_eq_true'] at h
  obtain ⟨hscan, hnext⟩ := h
  by_contra hfailed
  rw [Bool.not_eq_false] at hfailed
  rw [step_of_failed hfailed hscan, hfailed] at hnext
  exact absurd hnext (by decide)

/-- **One command.**  None moves the session backwards, except for the one to take a character back.
-/
theorem exists_passes (hs : s.Reachable) (hcommand : command ≠ .reader .unread) :
    ∃ passed, s.Passes command passed := by
  suffices hrest : ∃ passed, s.scanner.rest = passed ++ (s.step command).session.scanner.rest by
    obtain ⟨passed, hpassed⟩ := hrest
    exact ⟨passed, .of_rest_eq hs hpassed⟩
  -- a scan after a failure passes nothing
  by_cases hrefused : s.scanner.failed = true ∧ command.isScan = true
  · rw [step_of_failed hrefused.1 hrefused.2]
    exact ⟨[], rfl⟩
  cases command with
  | scanInt t =>
    have h : s.scanner.failed = false := by simpa [ScanCommand.isScan] using hrefused
    obtain ⟨passed, hpassed, -⟩ := exists_passed_readText t s.scanner.choice s.scanner.rest
    rw [rest_step_scanInt h]
    exact ⟨passed, hpassed⟩
  | scanWord =>
    have h : s.scanner.failed = false := by simpa [ScanCommand.isScan] using hrefused
    exact ⟨_, (offset_step_scanWord hs h).1⟩
  | reset | setChoice _ => exact ⟨[], rfl⟩
  | reader command =>
    cases command with
    | read =>
      -- the first character that is left, if there is one
      have hread : (read s.scanner.reader).2.rest = s.scanner.reader.rest.tail :=
        LawfulReader.rest_read s.scanner.reader
      refine ⟨s.scanner.rest.take 1, ?_⟩
      show s.scanner.rest = s.scanner.rest.take 1 ++ (read s.scanner.reader).2.rest
      rw [hread, ← List.drop_one]
      exact (List.take_append_drop 1 s.scanner.rest).symm
    | unread => exact absurd rfl hcommand
    | readNumeral t choice =>
      obtain ⟨passed, hpassed, -⟩ := exists_passed_readText t choice s.scanner.rest
      refine ⟨passed, hpassed.trans ?_⟩
      exact congrArg (passed ++ ·) (rest_readNumeral t choice s.scanner.reader).symm

/-- A scan that succeeds moves the session over a solid character `c`. -/
theorem exists_solid_of_succeeds (hs : s.Reachable) (hsucceeds : s.succeeds command = true) :
    ∃ passed, s.Passes command passed ∧ ∃ c ∈ passed, isBlank c = false := by
  have hready := ready_of_succeeds hsucceeds
  simp only [succeeds, Bool.and_eq_true, Bool.not_eq_true'] at hsucceeds
  obtain ⟨hscan, hnext⟩ := hsucceeds
  cases command with
  | scanInt t =>
    obtain ⟨value, houtcome⟩ := exists_ok_of_step_scanInt hready hnext
    obtain ⟨passed, hpassed, hsolid⟩ := exists_passed_readText t s.scanner.choice s.scanner.rest
    rw [← rest_step_scanInt hready] at hpassed
    exact ⟨passed, .of_rest_eq hs hpassed, hsolid value houtcome⟩
  | scanWord =>
    have hword : wordOf s.scanner.rest ≠ [] := by
      obtain ⟨-, -, -, hfailed⟩ := step_scanWord_of_ready hready hs.placed
      rw [ne_eq, ← hfailed, hnext]
      decide
    obtain ⟨c, hc⟩ := List.exists_mem_of_ne_nil _ hword
    refine ⟨_, .of_rest_eq hs (offset_step_scanWord hs hready).1, c, ?_, isBlank_of_mem_wordOf hc⟩
    exact List.mem_append_right _ hc
  | reset | setChoice _ | reader _ => cases hscan

/-- Taking a character back moves `s` back over one character at most. -/
theorem exists_back_unread (hs : s.Reachable) :
    let back := (s.step (.reader .unread)).session.scanner
    ∃ taken : List Char, taken.length ≤ 1 ∧ back.rest = taken ++ s.scanner.rest ∧
      s.scanner.offset = back.offset + byteLength taken := by
  intro back
  suffices hrest : ∃ taken : List Char, taken.length ≤ 1 ∧ back.rest = taken ++ s.scanner.rest by
    obtain ⟨taken, hlength, hrest⟩ := hrest
    have hback : back.reader.Placed := (hs.step (.reader .unread)).placed
    exact ⟨taken, hlength, hrest, hback.offset_eq_add hs.placed rfl hrest⟩
  show ∃ taken : List Char, taken.length ≤ 1 ∧
    (unread s.scanner.reader).rest = taken ++ s.scanner.reader.rest
  -- the slot tells whether there is a character to take back, and it is the last one read
  obtain ⟨before, after, hbetween⟩ := hs.placed
  cases hlast : s.scanner.reader.position.last with
  | none =>
    rw [TextReader.unread_of_last_none hlast]
    exact ⟨[], Nat.zero_le 1, rfl⟩
  | some o =>
    obtain ⟨init, c, -, hunread⟩ := hbetween.unread_of_last hlast
    rw [hunread.rest_eq, hbetween.rest_eq]
    exact ⟨[c], Nat.le_refl 1, rfl⟩

/-! ### Runs -/

/-- The number of scans in a run that succeed. -/
def successes (s : Session) : List ScanCommand → Nat
  | [] => 0
  | command :: commands =>
    (if s.succeeds command then 1 else 0) + (s.step command).session.successes commands

theorem offset_le_final (hs : s.Reachable) (hcommands : .reader .unread ∉ commands) :
    s.scanner.offset ≤ (s.final commands).scanner.offset := by
  induction commands generalizing s with
  | nil => exact Nat.le_refl _
  | cons command commands ih =>
    -- each command moves forward, and the others go on from there
    obtain ⟨hcommand, hcommands⟩ := not_or.mp (mt List.mem_cons.mpr hcommands)
    obtain ⟨passed, hpassed⟩ := exists_passes hs (Ne.symm hcommand)
    have hstep := hpassed.offset_eq
    have hrun := ih (hs.step command) hcommands
    rw [final_cons]
    omega

/-- **A run.**  Every scan among the `commands` that succeeds uses up one of the `solids` that are
left. -/
theorem successes_add_le (hs : s.Reachable) (hcommands : .reader .unread ∉ commands) :
    s.successes commands + (solids (s.final commands).scanner.rest).length ≤
      (solids s.scanner.rest).length := by
  induction commands generalizing s with
  | nil => exact Nat.le_of_eq (Nat.zero_add _)
  | cons command commands ih =>
    obtain ⟨hcommand, hcommands⟩ := not_or.mp (mt List.mem_cons.mpr hcommands)
    have hrun := ih (hs.step command) hcommands
    rw [final_cons, successes]
    by_cases hsucceeds : s.succeeds command = true
    · -- the solid character that is passed is not left any more
      obtain ⟨passed, hpassed, c, hc, hsolid⟩ := exists_solid_of_succeeds hs hsucceeds
      have hmem : c ∈ solids passed := List.mem_filter.mpr ⟨hc, by rw [hsolid]; rfl⟩
      have hpos := List.length_pos_of_mem hmem
      have hstep := hpassed.length_solids
      rw [if_pos hsucceeds]
      omega
    · obtain ⟨passed, hpassed⟩ := exists_passes hs (Ne.symm hcommand)
      have hstep := hpassed.length_solids
      rw [if_neg hsucceeds]
      omega

theorem not_mem_of_scansOrChooses (h : ∀ command ∈ commands, command.scansOrChooses = true) :
    .reset ∉ commands ∧ .reader .unread ∉ commands :=
  ⟨fun hmem => Bool.false_ne_true (h _ hmem), fun hmem => Bool.false_ne_true (h _ hmem)⟩

/-- If nothing has failed at the end of a run, every scan in `commands` has succeeded. -/
theorem successes_of_ready (hcommands : .reset ∉ commands)
    (h : (s.final commands).scanner.failed = false) :
    s.successes commands = commands.countP ScanCommand.isScan := by
  induction commands generalizing s with
  | nil => rfl
  | cons command commands ih =>
    obtain ⟨-, hcommands⟩ := not_or.mp (mt List.mem_cons.mpr hcommands)
    rw [final_cons] at h
    -- a failure of this command would last to the end of the run
    have hstep : (s.step command).session.scanner.failed = false := by
      by_contra hfailed
      rw [Bool.not_eq_false] at hfailed
      obtain ⟨hfinal, -⟩ := Scanner.failure_congr (status_final_of_failed hfailed hcommands)
      rw [hfinal, hfailed] at h
      exact absurd h (by decide)
    have hsucceeds : s.succeeds command = command.isScan := by
      rw [succeeds, hstep, Bool.not_false, Bool.and_true]
    rw [successes, ih hcommands h, hsucceeds, List.countP_cons, Nat.add_comm]

/-- A session `s` that has failed does not move any more. -/
theorem reader_final_of_failed (h : s.scanner.failed = true)
    (hcommands : ∀ command ∈ commands, command.scansOrChooses = true) :
    (s.final commands).scanner.reader = s.scanner.reader := by
  induction commands generalizing s with
  | nil => rfl
  | cons command commands ih =>
    obtain ⟨hcommand, hmore⟩ := List.forall_mem_cons.mp hcommands
    rw [final_cons]
    cases command with
    | scanInt _ | scanWord =>
      rw [step_of_failed h rfl]
      exact ih h hmore
    | setChoice choice => exact ih h hmore
    | reset | reader _ => cases hcommand

end Session

/-- **Scans make progress.**  No command moves a session backwards, but for the one to take a
character back, which moves it back over one character at most.  Let a run consist of scans and
choices of a base.  Then the offset never decreases along the run, nor does it change after a
failure.  Each scan that succeeds passes a solid character, so that no more scans succeed than solid
characters were left, and a run with more scans than that ends in a failure. -/
theorem scans_make_progress {s : Session} (hs : s.Reachable) :
    (∀ command : ScanCommand, command ≠ .reader .unread →
      s.scanner.offset ≤ (s.step command).session.scanner.offset) ∧
    (let back := (s.step (.reader .unread)).session.scanner
      ∃ taken : List Char, taken.length ≤ 1 ∧ back.rest = taken ++ s.scanner.rest ∧
        s.scanner.offset = back.offset + byteLength taken) ∧
    (∀ commands : List ScanCommand, (∀ command ∈ commands, command.scansOrChooses = true) →
      (∀ before after, commands = before ++ after →
        (s.final before).scanner.offset ≤ (s.final commands).scanner.offset ∧
          ((s.final before).scanner.failed = true →
            (s.final commands).scanner.offset = (s.final before).scanner.offset)) ∧
      (∀ before command after, commands = before ++ command :: after →
        (s.final before).succeeds command = true →
          ∃ passed, (s.final before).Passes command passed ∧ ∃ c ∈ passed, isBlank c = false) ∧
      s.successes commands ≤ (solids s.scanner.rest).length ∧
      ((solids s.scanner.rest).length < commands.countP ScanCommand.isScan →
        (s.final commands).scanner.failed = true)) := by
  refine ⟨?_, Session.exists_back_unread hs, ?_⟩
  · intro command hcommand
    obtain ⟨passed, hpassed⟩ := Session.exists_passes hs hcommand
    rw [hpassed.offset_eq]
    exact Nat.le_add_right _ _
  · intro commands hcommands
    obtain ⟨hreset, hunread⟩ := Session.not_mem_of_scansOrChooses hcommands
    have hbound := Session.successes_add_le hs hunread
    refine ⟨?_, ?_, by omega, ?_⟩
    · rintro before after rfl
      have hafter : ∀ command ∈ after, command.scansOrChooses = true :=
        fun command hmem => hcommands command (List.mem_append_right before hmem)
      rw [Session.final_append]
      constructor
      · have hunread' := (Session.not_mem_of_scansOrChooses hafter).2
        exact Session.offset_le_final (hs.final before) hunread'
      · intro hfailed
        exact congrArg TextReader.offset (Session.reader_final_of_failed hfailed hafter)
    · rintro before command after -
      exact Session.exists_solid_of_succeeds (hs.final before)
    · intro hmany
      -- otherwise every scan would have used up a solid character
      by_contra hfinal
      rw [Bool.not_eq_true] at hfinal
      have hall := Session.successes_of_ready hreset hfinal
      omega

/-- With two solid characters left, an integer of one digit is scanned twice, and the third scan
fails at the end of the text.  A scan after that does not move the session. -/
theorem scans_make_progress_two_digits :
    let s := (Session.start "é 08 ".toList .detect fun _ => 999).final [.scanWord]
    let commands : List ScanCommand :=
      [.scanInt .signed, .setChoice (.fixed .ten), .scanInt .unsigned, .scanWord]
    (∀ command ∈ commands, command.scansOrChooses = true) ∧
      (solids s.scanner.rest).length = 2 ∧ commands.countP ScanCommand.isScan = 3 ∧
      s.successes commands = 2 ∧ (s.final commands).scanner.failed = true ∧
      (∃ passed, s.Passes (.scanInt .signed) passed ∧ ∃ c ∈ passed, isBlank c = false) ∧
      (s.final (commands ++ [.scanInt .signed])).scanner.offset =
        (s.final commands).scanner.offset := by
  intro s commands
  have hs : s.Reachable := (Session.Reachable.start _ _ _).final _
  have hcommands : ∀ command ∈ commands ++ [.scanInt .signed], command.scansOrChooses = true := by
    decide
  obtain ⟨-, -, hrun⟩ := scans_make_progress hs
  -- there are three scans, but only two characters that are no blanks
  obtain ⟨-, -, -, hmany⟩ :=
    hrun commands fun command hmem => hcommands command (List.mem_append_left _ hmem)
  have hfailed : (s.final commands).scanner.failed = true := hmany (by decide +kernel)
  obtain ⟨hstays, hsolid, -⟩ := hrun (commands ++ [.scanInt .signed]) hcommands
  refine ⟨by decide, by decide +kernel, rfl, by decide +kernel, hfailed, ?_, ?_⟩
  · exact hsolid [] (.scanInt .signed) _ rfl (by decide +kernel)
  · exact (hstays commands [.scanInt .signed] rfl).2 hfailed

end Numeral128
