import Numeral128.Proofs.RoundTrip
import Numeral128.Proofs.Scanning
import Numeral128.Writer

/-!
# Exchange of values through a text

A writer inserts values of either type, with blanks after each, and a session reads the text that
comes of it.  `scan_written_entries` says that the scans give the values back in order and that
nothing but blanks is left then.

The two sides meet in `Spaced`: a text of numerals between blanks, one for each value.  Whatever is
inserted while the layout pads with blanks (`Layout.PadsWithBlanks`) is the numeral or the separator
itself after some more blanks, so that the text written is `Spaced` (`Writer.exists_spaced`).  What
one scan leaves of a `Spaced` text is `Spaced` again, with one value less (`Spaced.run`).
-/

namespace Numeral128

/-! ### Layouts -/

namespace Layout

/-- The base of a numeral can be told from it: it is base ten, or the prefix is shown. -/
def ShowsBase (layout : Layout) : Prop := layout.base = .ten ∨ layout.showPrefix = true

/-- Fields are not filled up, or with blanks before them. -/
def PadsWithBlanks (layout : Layout) : Prop :=
  layout.width = 0 ∨ layout.alignment = .right ∧ isBlank layout.fill = true

instance (layout : Layout) : Decidable layout.PadsWithBlanks :=
  inferInstanceAs (Decidable (_ ∨ _))

variable {layout : Layout}

theorem PadsWithBlanks.exists_render_eq (h : layout.PadsWithBlanks) (value : Int) :
    ∃ w, (∀ c ∈ w, isBlank c = true) ∧ layout.render value = w ++ layout.bare value := by
  rcases h with hwidth | ⟨hright, hblank⟩
  · refine ⟨[], List.forall_mem_nil _, ?_⟩
    rw [render_of_width_le (hwidth.trans_le (Nat.zero_le _)), List.nil_append]
  · refine ⟨layout.padding value, fun c hc => ?_, render_right hright⟩
    rw [eq_fill_of_mem_padding hc]
    exact hblank

theorem PadsWithBlanks.exists_pad_eq (h : layout.PadsWithBlanks) (text : List Char) :
    ∃ w, (∀ c ∈ w, isBlank c = true) ∧ layout.pad text = w ++ text := by
  rcases h with hwidth | ⟨hright, hblank⟩
  · refine ⟨[], List.forall_mem_nil _, ?_⟩
    rw [pad, hwidth, Nat.zero_sub, List.replicate_zero, List.append_nil]
    cases layout.alignment <;> rfl
  · refine ⟨List.replicate (layout.width - text.length) layout.fill, fun c hc => ?_, ?_⟩
    · rw [List.eq_of_mem_replicate hc]
      exact hblank
    · rw [pad, hright]

/-- A numeral that shows its base is parsed between blanks. -/
theorem ShowsBase.parseNumeral_bare {t : IntType} {value : Int} {w rest : List Char}
    (hbase : layout.ShowsBase) (hv : t.InRange value) (hw : ∀ c ∈ w, isBlank c = true)
    (hrest : ∀ c ∈ rest.head?, isBlank c = true) :
    parseNumeral t .detect (w ++ layout.bare value ++ rest) =
      .ok { value, length := (w ++ layout.bare value).length } := by
  have hends : ∀ c ∈ rest.head?, BaseChoice.detect.EndsAt layout.base c :=
    fun c hc => BaseChoice.detect.endsAt_of_isBlank layout.base (hrest c hc)
  have htext : layout.numeralAfter w value 0 = w ++ layout.bare value := by
    rw [numeralAfter, bare_eq, zeroFilled_zero, List.append_assoc, List.append_assoc,
      List.append_assoc]
  rw [← htext]
  exact (readsBack_detect hw hv hbase (fun _ => rfl) hends).parse_of_inRange t hv

end Layout

/-! ### Writing -/

namespace WriterCommand

/-- Whether the command sets how fields are filled up. -/
def setsPadding : WriterCommand → Bool
  | setFill _ | setAlignment _ | setWidth _ => true
  | _ => false

/-- Whether the command inserts a field into the layout. -/
def inserts : WriterCommand → Bool
  | insert _ | insertText _ => true
  | _ => false

end WriterCommand

/-- A value that is written, with the blanks after it.  Before each of the two, it may be set how
it is to be filled up. -/
structure Entry where
  type : IntType
  value : Int
  inRange : type.InRange value
  /-- What is set before the value is inserted. -/
  before : List WriterCommand := []
  /-- What is set before the separator is inserted. -/
  between : List WriterCommand := []
  separator : List Char := [' ']
  /-- Whether the separator is written as it is instead. -/
  isRaw : Bool := false
  setsPadding_before : ∀ command ∈ before, command.setsPadding = true := by decide
  setsPadding_between : ∀ command ∈ between, command.setsPadding = true := by decide
  separator_ne_nil : separator ≠ [] := by decide
  all_isBlank_separator : separator.all isBlank = true := by decide

namespace Entry

/-- How the separator is written. -/
def separate (e : Entry) : WriterCommand :=
  if e.isRaw then .raw e.separator else .insertText e.separator

/-- How the entry is written. -/
def commands (e : Entry) : List WriterCommand :=
  e.before ++ .insert e.value :: (e.between ++ [e.separate])

/-- How the value is read. -/
def scan (e : Entry) : ScanCommand := .scanInt e.type

end Entry

namespace Writer

/-- The writer after the run of `commands`. -/
def final (w : Writer) (commands : List WriterCommand) : Writer := commands.foldl step w

@[simp] theorem final_nil (w : Writer) : w.final [] = w := rfl

@[simp] theorem final_cons (w : Writer) (command : WriterCommand) (commands : List WriterCommand) :
    w.final (command :: commands) = (w.step command).final commands := rfl

theorem final_append (w : Writer) (commands more : List WriterCommand) :
    w.final (commands ++ more) = (w.final commands).final more :=
  List.foldl_append

/-- Along a run, whatever is inserted is filled up with blanks before it, if at all. -/
def PadsWithBlanks (w : Writer) : List WriterCommand → Prop
  | [] => True
  | command :: rest =>
    (command.inserts = true → w.layout.PadsWithBlanks) ∧ (w.step command).PadsWithBlanks rest

instance decidablePadsWithBlanks (w : Writer) :
    ∀ commands : List WriterCommand, Decidable (w.PadsWithBlanks commands)
  | [] => inferInstanceAs (Decidable True)
  | command :: rest =>
    have := decidablePadsWithBlanks (w.step command) rest
    inferInstanceAs (Decidable (_ ∧ _))

theorem padsWithBlanks_append {w : Writer} {commands more : List WriterCommand} :
    w.PadsWithBlanks (commands ++ more) ↔
      w.PadsWithBlanks commands ∧ (w.final commands).PadsWithBlanks more := by
  induction commands generalizing w with
  | nil => exact (and_iff_right trivial).symm
  | cons command commands ih =>
    rw [List.cons_append, PadsWithBlanks, ih, PadsWithBlanks, final_cons, and_assoc]

/-- Setting how fields are filled up writes nothing, and the base is shown as before. -/
theorem step_of_setsPadding {w : Writer} {command : WriterCommand}
    (h : command.setsPadding = true) :
    (w.step command).text = w.text ∧
      (w.layout.ShowsBase → (w.step command).layout.ShowsBase) := by
  cases command with
  | setFill _ | setAlignment _ | setWidth _ => exact ⟨rfl, id⟩
  | setBase _ | setUppercase _ | setShowPrefix _ | setShowPlus _ | setLayout _ | insert _
  | insertText _ | raw _ => cases h

/-- And so do several such `commands`. -/
theorem final_of_setsPadding {w : Writer} {commands : List WriterCommand}
    (h : ∀ command ∈ commands, command.setsPadding = true) :
    (w.final commands).text = w.text ∧
      (w.layout.ShowsBase → (w.final commands).layout.ShowsBase) := by
  induction commands generalizing w with
  | nil => exact ⟨rfl, id⟩
  | cons command commands ih =>
    obtain ⟨hcommand, hcommands⟩ := List.forall_mem_cons.mp h
    obtain ⟨htext, hbase⟩ := step_of_setsPadding (w := w) hcommand
    obtain ⟨htext', hbase'⟩ := ih (w := w.step command) hcommands
    exact ⟨htext'.trans htext, hbase' ∘ hbase⟩

end Writer

/-! ### Numerals between blanks -/

/-- A text in which the numerals of the entries stand in order, each in front of a blank, with
nothing but blanks around them. -/
inductive Spaced : List Entry → List Char → Prop
  | blanks {w : List Char} : (∀ c ∈ w, isBlank c = true) → Spaced [] w
  | numeral {e : Entry} {entries : List Entry} {layout : Layout} {w rest : List Char} {c : Char} :
      layout.ShowsBase → (∀ c ∈ w, isBlank c = true) → isBlank c = true →
      Spaced entries (c :: rest) → Spaced (e :: entries) (w ++ layout.bare e.value ++ c :: rest)

/-- More blanks `w` in front do not matter. -/
theorem Spaced.blanks_append {entries : List Entry} {text w : List Char} (h : Spaced entries text)
    (hw : ∀ c ∈ w, isBlank c = true) : Spaced entries (w ++ text) := by
  -- only the first blanks of the text are concerned
  have hwith : ∀ {w' : List Char}, (∀ c ∈ w', isBlank c = true) →
      ∀ c ∈ w ++ w', isBlank c = true := fun hw' => List.forall_mem_append.mpr ⟨hw, hw'⟩
  cases h with
  | blanks hblanks => exact .blanks (hwith hblanks)
  | numeral hbase hblanks hc hrest =>
    rw [← List.append_assoc, ← List.append_assoc]
    exact .numeral hbase (hwith hblanks) hc hrest

namespace Writer

/-- The separator of `e` is written with at least one character, and nothing but blanks. -/
theorem exists_step_separate {w : Writer} (e : Entry)
    (hpad : e.separate.inserts = true → w.layout.PadsWithBlanks) :
    ∃ c after, (∀ x ∈ c :: after, isBlank x = true) ∧
      (w.step e.separate).text = w.text ++ c :: after ∧
      (w.layout.ShowsBase → (w.step e.separate).layout.ShowsBase) := by
  obtain ⟨blanks, hblanks, htext, hbase⟩ : ∃ blanks, (∀ x ∈ blanks, isBlank x = true) ∧
      (w.step e.separate).text = w.text ++ (blanks ++ e.separator) ∧
      (w.layout.ShowsBase → (w.step e.separate).layout.ShowsBase) := by
    rw [Entry.separate] at hpad ⊢
    split_ifs at hpad ⊢
    · exact ⟨[], List.forall_mem_nil _, rfl, id⟩
    · obtain ⟨blanks, hblanks, hfield⟩ := (hpad rfl).exists_pad_eq e.separator
      exact ⟨blanks, hblanks, congrArg (w.text ++ ·) hfield, id⟩
  -- a separator is not empty, so a blank follows the numeral in any case
  obtain ⟨c, after, hcons⟩ :=
    List.exists_cons_of_ne_nil (List.append_ne_nil_of_right_ne_nil blanks e.separator_ne_nil)
  refine ⟨c, after, ?_, hcons ▸ htext, hbase⟩
  rw [← hcons]
  exact List.forall_mem_append.mpr ⟨hblanks, List.all_eq_true.mp e.all_isBlank_separator⟩

/-- What is written for the entry `e`: blanks, the numeral and a separator of blanks. -/
theorem exists_final_entry {w : Writer} (e : Entry) (hbase : w.layout.ShowsBase)
    (hpad : w.PadsWithBlanks e.commands) :
    ∃ (layout : Layout) (before : List Char) (c : Char) (after : List Char),
      layout.ShowsBase ∧ (∀ x ∈ before, isBlank x = true) ∧ (∀ x ∈ c :: after, isBlank x = true) ∧
      (w.final e.commands).text = w.text ++ (before ++ layout.bare e.value ++ c :: after) ∧
      (w.final e.commands).layout.ShowsBase := by
  -- the writer before the value, after it, and before the separator
  let w₁ := w.final e.before
  let w₂ := w₁.step (.insert e.value)
  let w₃ := w₂.final e.between
  have hfinal : w.final e.commands = w₃.step e.separate := by
    rw [Entry.commands, final_append, final_cons, final_append]
    rfl
  -- the layouts of the two insertions
  rw [Entry.commands, padsWithBlanks_append] at hpad
  obtain ⟨-, hvalue, hpad⟩ := hpad
  obtain ⟨-, hseparator, -⟩ := padsWithBlanks_append.mp hpad
  obtain ⟨htext₁, hbase₁⟩ := final_of_setsPadding (w := w) e.setsPadding_before
  obtain ⟨htext₃, hbase₃⟩ := final_of_setsPadding (w := w₂) e.setsPadding_between
  obtain ⟨before, hbefore, hrender⟩ := (hvalue rfl).exists_render_eq e.value
  obtain ⟨c, after, hafter, htext₄, hbase₄⟩ := exists_step_separate e hseparator
  have htext₂ : w₂.text = w₁.text ++ w₁.layout.render e.value := rfl
  refine ⟨w₁.layout, before, c, after, hbase₁ hbase, hbefore, hafter, ?_, ?_⟩
  · rw [hfinal, htext₄, htext₃, htext₂, htext₁, hrender, List.append_assoc]
  · rw [hfinal]
    exact hbase₄ (hbase₃ (hbase₁ hbase))

/-- A run of `entries` writes their numerals between blanks. -/
theorem exists_spaced {w : Writer} {entries : List Entry} (hbase : w.layout.ShowsBase)
    (hpad : w.PadsWithBlanks (entries.flatMap Entry.commands)) :
    ∃ text, (w.final (entries.flatMap Entry.commands)).text = w.text ++ text ∧
      Spaced entries text := by
  induction entries generalizing w with
  | nil => exact ⟨[], (List.append_nil _).symm, .blanks (List.forall_mem_nil _)⟩
  | cons e entries ih =>
    rw [List.flatMap_cons, padsWithBlanks_append] at hpad
    obtain ⟨hpadEntry, hpadRest⟩ := hpad
    obtain ⟨layout, before, c, after, hlayout, hbefore, hafter, htext, hbase'⟩ :=
      exists_final_entry e hbase hpadEntry
    obtain ⟨text, hrest, hspaced⟩ := ih hbase' hpadRest
    refine ⟨before ++ layout.bare e.value ++ c :: (after ++ text), ?_, ?_⟩
    · rw [List.flatMap_cons, final_append, hrest, htext]
      simp only [List.append_assoc, List.cons_append]
    · have hc : isBlank c = true := hafter c List.mem_cons_self
      exact .numeral hlayout hbefore hc (hspaced.blanks_append hafter)

end Writer

/-! ### Reading -/

/-- Scanning for the `entries` gives their values one by one and leaves nothing but blanks. -/
theorem Spaced.run {entries : List Entry} {text : List Char} (h : Spaced entries text) {s : Session}
    (hready : s.scanner.status = .ready) (hchoice : s.scanner.choice = .detect)
    (hrest : s.scanner.rest = text) :
    List.Forall₂ (fun e step =>
        step.session.«variables» e.type = e.value ∧ step.session.scanner.failed = false)
      entries (s.run (entries.map Entry.scan)) ∧
    (s.final (entries.map Entry.scan)).scanner.failed = false ∧
    ∀ c ∈ (s.final (entries.map Entry.scan)).scanner.rest, isBlank c = true := by
  induction h generalizing s with
  | blanks hblanks =>
    exact ⟨.nil, Scanner.failed_eq_false_iff.mpr hready, fun c hc => hblanks c (hrest ▸ hc)⟩
  | @numeral e entries layout w rest c hbase hblanks hc _ ih =>
    have hstart : ∀ x ∈ (c :: rest).head?, isBlank x = true := fun x hx => Option.some.inj hx ▸ hc
    -- the first numeral is read up to the blank behind it
    have hparse := hbase.parseNumeral_bare e.inRange hblanks hstart
    rw [← hrest, ← hchoice] at hparse
    obtain ⟨hvalue, hleft, hchoice', hstatus⟩ :=
      Session.step_scanInt_of_parse (Scanner.failed_eq_false_iff.mpr hready) hparse
    rw [hrest, List.drop_left] at hleft
    obtain ⟨hruns, hfinal, hblank⟩ := ih (hstatus.trans hready) (hchoice'.trans hchoice) hleft
    refine ⟨.cons ⟨?_, ?_⟩ hruns, hfinal, hblank⟩
    · exact (congrFun hvalue e.type).trans (if_pos rfl)
    · exact Scanner.failed_eq_false_iff.mpr (hstatus.trans hready)

/-- **What is written is read.**  Let the layout of a writer show its base, and let it pad with
blanks whatever it inserts: where there is a width, fill is blank and aligned to the right.  Values
of either type are written, each with at least one blank after it.  Then scans of their types, in
the same order and without a hint of the base, give just these values, and none fails.  Nothing but
blanks is left, so that no word can be scanned. -/
theorem scan_written_entries (layout : Layout) (hbase : layout.ShowsBase) (entries : List Entry)
    (hpad : ({ layout } : Writer).PadsWithBlanks (entries.flatMap Entry.commands))
    (values : IntType → Int) :
    let text := (({ layout } : Writer).final (entries.flatMap Entry.commands)).text
    let s := Session.start text .detect values
    let last := s.final (entries.map Entry.scan)
    List.Forall₂ (fun e step =>
        step.session.«variables» e.type = e.value ∧ step.session.scanner.failed = false)
      entries (s.run (entries.map Entry.scan)) ∧
    (∀ c ∈ last.scanner.rest, isBlank c = true) ∧
    (last.step .scanWord).answer = .word none ∧
    (last.step .scanWord).session.scanner.failed = true := by
  intro text s last
  -- what has been written is spaced, and a spaced text is scanned entry by entry
  obtain ⟨written, htext, hspaced⟩ := Writer.exists_spaced (w := { layout }) hbase hpad
  rw [List.nil_append] at htext
  have hrest : s.scanner.rest = written := by
    rw [← htext]
    exact (TextReader.between_start text).rest_eq
  obtain ⟨hruns, hready, hblank⟩ := hspaced.run (s := s) rfl rfl hrest
  have hword := Session.step_scanWord_of_nil hready (wordOf_eq_nil_iff.mpr hblank)
  exact ⟨hruns, hblank, by rw [hword], by rw [hword]; rfl⟩

/-- The extremes of both types, and a zero, as `entries`: as wide as they are, or filled up to a
width. -/
theorem scan_written_extremes :
    let layout : Layout :=
      { base := .sixteen, uppercase := true, showPrefix := true, fill := '0', alignment := .left }
    let entries : List Entry :=
      [{ type := .signed, value := -2 ^ 127, inRange := by decide, isRaw := true },
        { type := .unsigned, value := 2 ^ 128 - 1, inRange := by decide,
          before := [.setWidth 36, .setFill '\t', .setAlignment .right],
          between := [.setWidth 2], separator := ['\n'] },
        { type := .signed, value := 0, inRange := by decide, before := [.setWidth 4] }]
    let text :=
      "-0X80000000000000000000000000000000 \t\t0XFFFFFFFFFFFFFFFFFFFFFFFFFFFFFFFF\t\n\t0X0 ".toList
    let s := Session.start text .detect fun _ => 999
    (({ layout } : Writer).final (entries.flatMap Entry.commands)).text = text ∧
      List.Forall₂ (fun e step =>
          step.session.«variables» e.type = e.value ∧ step.session.scanner.failed = false)
        entries (s.run [.scanInt .signed, .scanInt .unsigned, .scanInt .signed]) := by
  intro layout entries text s
  have htext : (({ layout } : Writer).final (entries.flatMap Entry.commands)).text = text := by
    decide +kernel
  have hpad : ({ layout } : Writer).PadsWithBlanks (entries.flatMap Entry.commands) := by
    decide +kernel
  -- the texts agree, so that the scans of the one are those of the other
  have hruns := (scan_written_entries layout (Or.inr rfl) entries hpad fun _ => 999).1
  rw [htext] at hruns
  exact ⟨htext, hruns⟩

end Numeral128
