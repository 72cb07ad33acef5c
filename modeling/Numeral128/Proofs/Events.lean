import Mathlib.Data.List.Forall2
import Numeral128.Proofs.Grammar
import Numeral128.Proofs.Scanning

/-!
# The events of a run

What a step reports can be read off the session before it and after it.  A numeral whose base has to
be found reports it unless it is given up before (`TextReader.baseEvents`), and `detectedBase` is
the base by the text alone.  A failure is reported by the scan of an integer that makes a session
fail, after the base, and the event tells of the scanner as it stands then (`Event.Tells`).

`Session.reports` says this of one step.  `Session.failures` lists the scanners that scans of
integers made fail in the course of a run, and `Session.forall₂_tells` matches it with the events of
level debug by induction on the commands.  `events_of_run` puts the two together.
-/

namespace Numeral128

/-! ### The base of a numeral -/

/-- Whether a text is rejected before the base of its digits is known. -/
def Rejection.isEarly : Rejection → Bool
  | nothing | minusSign | cutOff => true
  | notDigit _ | outOfRange _ => false

/-- Whether the base was known when the outcome was. -/
def knowsBase {α : Type} : Except Rejection α → Bool
  | .ok _ => true
  | .error e => !e.isEarly

/-- The base that is found for the numeral at the start of `text`. -/
def detectedBase (text : List Char) : Base :=
  BaseChoice.detect.baseOf (afterSign (text.dropWhile isBlank))

/-- The events of reading a numeral from `r`: that of its base, if it has to be found and the
numeral is not given up before. -/
def TextReader.baseEvents (r : TextReader) (t : IntType) (choice : BaseChoice) : List Event :=
  if choice = .detect ∧ knowsBase (readNumeral t choice r).outcome = true then
    [.baseDetected (detectedBase r.rest)]
  else []

section Bases

variable {t : IntType} {choice : BaseChoice} {b : Base} {text : List Char}

theorem outcome_foldDigits {e : Rejection} {negative : Bool} {acc : Int} {cs : List Char}
    (h : (foldDigits t b negative acc cs).1 = .error e) : e = .outOfRange b := by
  induction cs generalizing acc with
  | nil => cases h
  | cons c cs ih =>
    rw [foldDigits] at h
    cases hd : b.digit? c with
    | none =>
      rw [hd] at h
      cases h
    | some d =>
      rw [hd] at h
      dsimp only at h
      cases hacc : t.append? b negative acc d with
      | none =>
        rw [hacc] at h
        exact (Except.error.inj h).symm
      | some acc' =>
        rw [hacc] at h
        exact ih h

/-- Digits `ds` are rejected after the base is known, and a value out of range is so in that base.
-/
theorem outcome_foldMagnitude {e : Rejection} {negative : Bool} {ds : List Char} (hds : ds ≠ [])
    (h : (foldMagnitude t b negative ds).1 = .error e) :
    (∃ c, e = .notDigit c) ∨ e = .outOfRange b := by
  obtain ⟨c, cs, rfl⟩ := List.exists_cons_of_ne_nil hds
  rw [foldMagnitude] at h
  by_cases hc : b.isDigit c = true
  · rw [if_pos hc] at h
    exact Or.inr (outcome_foldDigits h)
  · rw [if_neg hc] at h
    exact Or.inl ⟨c, (Except.error.inj h).symm⟩

/-- Whether the base of the numeral in `text` is known, and which it is, can be told from the
outcome. -/
theorem detected_readText (t : IntType) (choice : BaseChoice) (text : List Char) :
    (∃ e, (readText t choice text).outcome = .error e ∧ e.isEarly = true ∧
      (readText t choice text).detected = none) ∨
    (readText t choice text).detected =
        choice.found? (choice.baseOf (afterSign (text.dropWhile isBlank))) ∧
      ∀ e, (readText t choice text).outcome = .error e →
        (∃ c, e = .notDigit c) ∨
          e = .outOfRange (choice.baseOf (afterSign (text.dropWhile isBlank))) := by
  rw [readText]
  by_cases hnil : text.dropWhile isBlank = []
  · rw [if_pos hnil]
    exact Or.inl ⟨.nothing, rfl, rfl, rfl⟩
  rw [if_neg hnil]
  by_cases hminus : t = .unsigned ∧ (text.dropWhile isBlank).head? = some '-'
  · rw [if_pos hminus]
    exact Or.inl ⟨.minusSign, rfl, rfl, rfl⟩
  -- from here on the text has a prefix and digits, so a base is known if there are any
  rw [if_neg hminus]
  by_cases hds : choice.afterPrefix (afterSign (text.dropWhile isBlank)) = []
  · rw [if_pos hds]
    exact Or.inl ⟨.cutOff, rfl, rfl, rfl⟩
  · rw [if_neg hds]
    exact Or.inr ⟨rfl, fun e he => outcome_foldMagnitude hds he⟩

end Bases

namespace TextReader

variable {t : IntType} {choice : BaseChoice} {b : Base} {r : TextReader}

/-- The reader `r` of a text reports the base if its numeral calls for that. -/
theorem events_readNumeral (r : TextReader) (t : IntType) (choice : BaseChoice) :
    (readNumeral t choice r).events = r.baseEvents t choice := by
  have hdetected : (readNumeral t choice r).detected = (readText t choice r.rest).detected :=
    congrArg Reading.detected (readNumeral_map_rest t choice r)
  have houtcome : (readNumeral t choice r).outcome = (readText t choice r.rest).outcome :=
    outcome_readNumeral t choice r
  rw [Reading.events, baseEvents, hdetected, houtcome]
  obtain ⟨e, he, hearly, hnone⟩ | ⟨hfound, hlate⟩ := detected_readText t choice r.rest
  · have hknows : ¬ knowsBase (readText t choice r.rest).outcome = true := by
      rw [he, knowsBase, hearly]
      decide
    rw [hnone, if_neg fun h => hknows h.2]
    rfl
  · have hknows : knowsBase (readText t choice r.rest).outcome = true := by
      -- the two rejections that are left both come from a character behind the prefix
      cases hread : (readText t choice r.rest).outcome with
      | ok value => rfl
      | error e => obtain ⟨c, rfl⟩ | rfl := hlate e hread <;> rfl
    rw [hfound, hknows]
    cases choice <;> rfl

/-- A value that is out of range in the base `b` is so in the base that was found. -/
theorem eq_detectedBase_of_outOfRange
    (h : (readNumeral t .detect r).outcome = .error (.outOfRange b)) : b = detectedBase r.rest := by
  have hread := (outcome_readNumeral t .detect r).symm.trans h
  obtain ⟨e, he, hearly, -⟩ | ⟨-, hlate⟩ := detected_readText t .detect r.rest
  · rw [← Except.error.inj (hread.symm.trans he)] at hearly
    exact absurd hearly Bool.false_ne_true
  · obtain ⟨c, hc⟩ | hb := hlate _ hread
    · exact absurd hc nofun
    · exact Rejection.outOfRange.inj hb

theorem eq_of_mem_baseEvents {event : Event} (h : event ∈ r.baseEvents t choice) :
    choice = .detect ∧ event = .baseDetected (detectedBase r.rest) := by
  unfold baseEvents at h
  split_ifs at h with hif
  · exact ⟨hif.1, List.mem_singleton.mp h⟩
  · exact absurd h List.not_mem_nil

end TextReader

/-- A numeral of base `b` is in the base that is found for its text. -/
theorem NumeralShape.eq_detectedBase {b : Base} {w s p d rest : List Char}
    (h : NumeralShape .detect b w s p d rest) : b = detectedBase (w ++ s ++ p ++ d ++ rest) := by
  rw [detectedBase, h.dropWhile_isBlank, h.afterSign_eq]
  exact h.base_eq

/-! ### The events of a step -/

/-- The `event` tells of the failure of the scanner `s`: why, where and in which mode. -/
structure Event.Tells (event : Event) (s : Scanner) : Prop where
  level_eq : event.level = .debug
  target_eq : event.target = "int128io::stream"
  fields_eq : ∃ e, s.rejection? = some e ∧
    event.fields =
      [("error", .text e.message), ("position", .number s.offset), ("mode", .text s.choice.label)]

namespace Session

/-- The numeral that a command reads, if it reads one: its type and the choice of its base. -/
def numeral? (s : Session) : ScanCommand → Option (IntType × BaseChoice)
  | .scanInt t => if s.scanner.failed then none else some (t, s.scanner.choice)
  | .reader (.readNumeral t choice) => some (t, choice)
  | _ => none

/-- The events of `command` that a base calls for. -/
def baseEvents (s : Session) (command : ScanCommand) : List Event :=
  (s.numeral? command).elim [] fun numeral => s.scanner.reader.baseEvents numeral.1 numeral.2

/-- Whether a command is a scan of an integer that makes a session fail. -/
def failsAt (s : Session) : ScanCommand → Bool
  | .scanInt t => !s.scanner.failed && (s.step (.scanInt t)).session.scanner.failed
  | _ => false

/-- The scanners that scans of integers made fail in a run from `s`, as they stood right after. -/
def failures (s : Session) : List ScanCommand → List Scanner
  | [] => []
  | command :: rest =>
    let s' := (s.step command).session
    (if s.failsAt command then [s'.scanner] else []) ++ s'.failures rest

/-- The `command` causes the events that its base calls for, and after them one that tells of its
failure if it is a scan of an integer that fails. -/
def Reports (s : Session) (command : ScanCommand) : Prop :=
  ∃ failure, (s.step command).events = s.baseEvents command ++ failure ∧
    List.Forall₂ Event.Tells failure (s.failures [command])

variable {s : Session}

theorem failures_cons (s : Session) (command : ScanCommand) (commands : List ScanCommand) :
    s.failures (command :: commands) =
      s.failures [command] ++ (s.step command).session.failures commands := by
  rw [failures, failures, failures, List.append_nil]

theorem events_cons (s : Session) (command : ScanCommand) (commands : List ScanCommand) :
    s.events (command :: commands) =
      (s.step command).events ++ (s.step command).session.events commands :=
  List.flatMap_cons

/-- A `command` that neither reads a numeral nor scans an integer causes no events. -/
theorem reports_of_silent {command : ScanCommand} (hevents : (s.step command).events = [])
    (hnumeral : s.numeral? command = none) (hfails : s.failsAt command = false) :
    s.Reports command := by
  refine ⟨[], ?_, ?_⟩
  · rw [hevents, baseEvents, hnumeral]
    rfl
  · rw [failures, hfails]
    exact .nil

theorem reports_scanInt (s : Session) (t : IntType) : s.Reports (.scanInt t) := by
  -- a refused scan reports nothing
  cases hfailed : s.scanner.failed with
  | true =>
    have hstep := step_scanInt_of_failed (t := t) hfailed
    refine reports_of_silent (congrArg SessionStep.events hstep) (if_pos hfailed) ?_
    rw [failsAt, hfailed]
    rfl
  | false =>
    have hbase : s.baseEvents (.scanInt t) = (s.scanner.reading t).events := by
      rw [Scanner.reading, TextReader.events_readNumeral, baseEvents, numeral?, hfailed]
      rfl
    cases hread : (s.scanner.reading t).outcome with
    | ok value =>
      have hstep := step_scanInt_of_ok hfailed hread
      refine ⟨[], ?_, ?_⟩
      · rw [hstep, hbase, List.append_nil]
      · have hfails : s.failsAt (.scanInt t) = false := by
          rw [failsAt, hstep, Bool.and_eq_false_iff]
          exact Or.inr hfailed
        rw [failures, hfails]
        exact .nil
    | error e =>
      have hstep := step_scanInt_of_error hfailed hread
      refine ⟨[.scanFailed e (s.scanner.reading t).reader.offset s.scanner.choice], ?_, ?_⟩
      · rw [hstep, hbase]
      · have hfails : s.failsAt (.scanInt t) = true := by
          rw [failsAt, hstep, hfailed]
          rfl
        rw [failures, hfails, hstep]
        exact .cons ⟨rfl, rfl, e, rfl, rfl⟩ .nil

/-- **One command.**  In `s` it causes the events that its numeral calls for, and no others. -/
theorem reports (s : Session) (command : ScanCommand) : s.Reports command := by
  cases command with
  | scanInt t => exact s.reports_scanInt t
  | scanWord => exact reports_of_silent rfl rfl rfl
  | reset => exact reports_of_silent rfl rfl rfl
  | setChoice choice => exact reports_of_silent rfl rfl rfl
  | reader command =>
    cases command with
    | read => exact reports_of_silent rfl rfl rfl
    | unread => exact reports_of_silent rfl rfl rfl
    | readNumeral t choice =>
      refine ⟨[], ?_, .nil⟩
      rw [List.append_nil]
      exact s.scanner.reader.events_readNumeral t choice

/-! ### The events of a run -/

theorem level_of_mem_baseEvents {command : ScanCommand} {event : Event}
    (h : event ∈ s.baseEvents command) : event.level = .trace := by
  cases hnumeral : s.numeral? command with
  | none =>
    rw [baseEvents, hnumeral] at h
    exact absurd h List.not_mem_nil
  | some numeral =>
    rw [baseEvents, hnumeral] at h
    rw [(TextReader.eq_of_mem_baseEvents h).2]
    rfl

/-- The events of level debug in a run of `commands` tell of the scanners that failed, one by one.
-/
theorem forall₂_tells (s : Session) (commands : List ScanCommand) :
    List.Forall₂ Event.Tells ((s.events commands).filter (·.level = .debug))
      (s.failures commands) := by
  induction commands generalizing s with
  | nil => exact .nil
  | cons command commands ih =>
    obtain ⟨failure, hevents, htells⟩ := s.reports command
    -- of the events of one command those of its base are of level trace, and the failure stays
    have hbase : (s.baseEvents command).filter (·.level = .debug) = [] := by
      rw [List.filter_eq_nil_iff]
      intro event hmem
      rw [level_of_mem_baseEvents hmem]
      decide
    have hfailure : failure.filter (·.level = .debug) = failure := by
      obtain ⟨hlevel, -⟩ :=
        (List.forall₂_and_left (p := fun event : Event => event.level = .debug) _ _).mp
          (htells.imp fun _ _ htell => ⟨htell.level_eq, htell⟩)
      exact List.filter_eq_self.mpr fun event hmem => decide_eq_true (hlevel event hmem)
    rw [events_cons, hevents, List.filter_append, List.filter_append, hbase, hfailure,
      List.nil_append, failures_cons]
    exact List.rel_append htells (ih _)

end Session

/-- **Events are determined by what happened.**  In every run each command reports the base of its
numeral if it has to be found and the numeral is not given up before, and then its failure if it is
a scan of an integer that fails, and nothing else.  So the events of level debug are, in order,
those of the scans that fail.  The base that is reported is that of the numeral, and also that of a
value that is out of range. -/
theorem events_of_run (text : List Char) (choice : BaseChoice) (values : IntType → Int) :
    (∀ commands command, ((Session.start text choice values).final commands).Reports command) ∧
    (∀ commands,
      List.Forall₂ Event.Tells
        (((Session.start text choice values).events commands).filter (·.level = .debug))
        ((Session.start text choice values).failures commands)) ∧
    ∀ (r : TextReader) (t : IntType) (mode : BaseChoice), ∀ event ∈ r.baseEvents t mode,
      event.level = .trace ∧ event.target = "int128io::decoder" ∧
      event.fields = [("radix", .text (detectedBase r.rest).label)] ∧
      (∀ b, (readNumeral t mode r).outcome = .error (.outOfRange b) → b = detectedBase r.rest) ∧
      ∀ b w s p d rest, r.rest = w ++ s ++ p ++ d ++ rest → NumeralShape mode b w s p d rest →
        b = detectedBase r.rest := by
  refine ⟨fun commands command => Session.reports _ command,
    fun commands => Session.forall₂_tells _ commands, ?_⟩
  intro r t mode event hmem
  -- the only event of a reading is the one that reports the base it has found
  obtain ⟨rfl, rfl⟩ := TextReader.eq_of_mem_baseEvents hmem
  refine ⟨rfl, rfl, rfl, fun b hb => TextReader.eq_detectedBase_of_outOfRange hb, ?_⟩
  intro b w s p d rest htext hshape
  rw [htext]
  exact hshape.eq_detectedBase

/-- In `text`, base sixteen has more ones than a signed integer can hold: the base is reported, and
then the failure at the digit that is too much.  A second scan reports nothing. -/
theorem events_of_run_too_many_ones :
    let text := "0x".toList ++ List.replicate 33 'f'
    let s := Session.start text .detect fun _ => 0
    let commands := [.scanInt .signed, .scanInt .signed]
    s.events commands = [.baseDetected .sixteen, .scanFailed (.outOfRange .sixteen) 34 .detect] ∧
      List.Forall₂ Event.Tells [.scanFailed (.outOfRange .sixteen) 34 .detect]
        (s.failures commands) ∧
      ((readNumeral .signed .detect s.scanner.reader).outcome = .error (.outOfRange .sixteen) ∧
        .sixteen = detectedBase s.scanner.rest) ∧
      NumeralShape .detect .sixteen [] [] ['0', 'x'] (List.replicate 33 'f') [] ∧
        .sixteen = detectedBase s.scanner.rest := by
  intro text s commands
  obtain ⟨-, hrun, hbase⟩ := events_of_run text .detect fun _ => 0
  have hevents : s.events commands =
      [.baseDetected .sixteen, .scanFailed (.outOfRange .sixteen) 34 .detect] := by decide +kernel
  have houtcome : (readNumeral .signed .detect s.scanner.reader).outcome =
      .error (.outOfRange .sixteen) := by decide +kernel
  have hshape : NumeralShape .detect .sixteen [] [] ['0', 'x'] (List.replicate 33 'f') [] :=
    ⟨by decide, by decide, by decide, by decide, by decide, by decide⟩
  -- events and outcome are computed, and the theorem says what they tell
  have hfailures := hrun commands
  rw [hevents] at hfailures
  obtain ⟨-, -, -, hrange, hnumeral⟩ := hbase s.scanner.reader .signed .detect
    (.baseDetected .sixteen) (by decide +kernel)
  exact ⟨hevents, hfailures, ⟨houtcome, hrange .sixteen houtcome⟩, hshape,
    hnumeral .sixteen [] [] ['0', 'x'] _ [] rfl hshape⟩

end Numeral128
