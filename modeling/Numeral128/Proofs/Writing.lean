import Mathlib.Data.List.Infix
import Numeral128.Proofs.Exchange

/-!
# What a writer has written

A writer keeps a layout that its commands change as they come.  Here the layout in force is read off
the commands instead: each part of it is as it was last set (`layoutAfter`), where a field that is
inserted sets the width to zero.  The text written is one piece for each command, in the layout in
force before it (`pieces`).

`Writer.run_eq_pieces` says that a new writer holds these two after every command.  A command adds
one piece (`pieces_concat`) and sets some parts of the layout (`layoutAfter_concat`), and the run
follows by induction on the commands from their end.
-/

namespace Numeral128

/-! ### The layout in force -/

namespace WriterCommand

/-- What a command sets a `part` of the layout to, if it does, where `own` is for the commands that
do not set all of it. -/
def setting {α : Type} (part : Layout → α) (own : WriterCommand → Option α) :
    WriterCommand → Option α
  | setLayout layout => some (part layout)
  | command => own command

/-- The width that a command asks for. -/
def width? : WriterCommand → Option Nat :=
  setting (·.width) fun
    | setWidth width => some width
    | _ => none

/-- Whether the command adds to the text. -/
def writes : WriterCommand → Bool
  | insert _ | insertText _ | raw _ => true
  | _ => false

/-- What a command writes in `layout`. -/
def piece (layout : Layout) : WriterCommand → List Char
  | insert value => layout.render value
  | insertText text =>
    match layout.alignment with
    | .left => text.rightpad layout.width layout.fill
    | .right | .internal => text.leftpad layout.width layout.fill
  | raw text => text
  | _ => []

theorem length_piece_insertText (layout : Layout) (text : List Char) :
    (piece layout (insertText text)).length = max layout.width text.length := by
  unfold piece
  cases layout.alignment with
  | left => exact List.length_rightpad
  | right => exact List.length_leftpad
  | internal => exact List.length_leftpad

end WriterCommand

section Settings

variable {α : Type} (part : Layout → α) (own : WriterCommand → Option α)

/-- A `part` of the layout after `commands`: as it was last set, or that of the default layout. -/
def lastSetting (commands : List WriterCommand) : α :=
  (commands.filterMap (WriterCommand.setting part own)).getLastD (part {})

/-- The last `command` decides, if it sets the part. -/
theorem lastSetting_concat (past : List WriterCommand) (command : WriterCommand) :
    lastSetting part own (past ++ [command]) =
      (command.setting part own).getD (lastSetting part own past) := by
  unfold lastSetting
  rw [List.filterMap_append]
  cases hset : command.setting part own with
  | none => simp [hset]
  | some a => simp [hset]

end Settings

/-- The layout in force after `commands`, part by part. -/
def layoutAfter (commands : List WriterCommand) : Layout where
  base := lastSetting (·.base) (fun
    | .setBase base => some base
    | _ => none) commands
  uppercase := lastSetting (·.uppercase) (fun
    | .setUppercase on => some on
    | _ => none) commands
  showPrefix := lastSetting (·.showPrefix) (fun
    | .setShowPrefix on => some on
    | _ => none) commands
  showPlus := lastSetting (·.showPlus) (fun
    | .setShowPlus on => some on
    | _ => none) commands
  width := lastSetting (·.width) (fun
    | .setWidth width => some width
    -- a field that is inserted uses up the width
    | .insert _ | .insertText _ => some 0
    | _ => none) commands
  fill := lastSetting (·.fill) (fun
    | .setFill fill => some fill
    | _ => none) commands
  alignment := lastSetting (·.alignment) (fun
    | .setAlignment alignment => some alignment
    | _ => none) commands

/-- One more `command` changes the layout in force as it changes that of a writer. -/
theorem layoutAfter_concat (past : List WriterCommand) (command : WriterCommand) :
    layoutAfter (past ++ [command]) =
      (({ layout := layoutAfter past } : Writer).step command).layout := by
  unfold layoutAfter
  simp only [lastSetting_concat]
  cases command <;> rfl

namespace Writer

variable {w : Writer} {command : WriterCommand}

theorem layout_step_of_writes (h : command.writes = true) :
    (w.step command).layout =
      { w.layout with width := if command.inserts then 0 else w.layout.width } := by
  cases command with
  | insert value => rfl
  | insertText text => rfl
  | raw text => rfl
  | _ => exact absurd h (by simp [WriterCommand.writes])

/-- The `command` inserts a field, or sets the width, or leaves it. -/
theorem width_step (w : Writer) (command : WriterCommand) :
    (w.step command).layout.width =
      if command.inserts then 0 else command.width?.getD w.layout.width := by
  cases command <;> rfl

end Writer

/-- Writing `more` leaves the layout as it is, but that fields use up the width. -/
theorem layoutAfter_append_of_writes {past more : List WriterCommand}
    (hmore : ∀ command ∈ more, command.writes = true) :
    layoutAfter (past ++ more) =
      { layoutAfter past with
        width := if more.any (·.inserts) then 0 else (layoutAfter past).width } := by
  induction more using List.reverseRecOn with
  | nil => simp
  | append_singleton more command ih =>
    have hinit : ∀ c ∈ more, c.writes = true := fun c hc => hmore c (List.mem_append_left _ hc)
    have hlast : command.writes = true := hmore command List.mem_concat_self
    rw [← List.append_assoc, layoutAfter_concat, Writer.layout_step_of_writes hlast, ih hinit]
    by_cases hinserts : command.inserts = true
    · simp [hinserts]
    · simp [hinserts]

/-- A `width` is in force until a field is inserted; from then on it is zero until a width is set.
-/
theorem width_layoutAfter_append {past more : List WriterCommand} {command : WriterCommand}
    {width : Nat} (hcommand : command.width? = some width)
    (hmore : ∀ c ∈ more, c.width? = none) :
    (layoutAfter (past ++ command :: more)).width =
      if more.any (·.inserts) then 0 else width := by
  induction more using List.reverseRecOn with
  | nil =>
    -- a command that sets the width does not insert
    have hinserts : command.inserts = false := by
      cases command with
      | insert value => simp [WriterCommand.width?, WriterCommand.setting] at hcommand
      | insertText text => simp [WriterCommand.width?, WriterCommand.setting] at hcommand
      | _ => rfl
    rw [layoutAfter_concat, Writer.width_step, hinserts, hcommand]
    rfl
  | append_singleton more c ih =>
    have hinit : ∀ d ∈ more, d.width? = none := fun d hd => hmore d (List.mem_append_left _ hd)
    have hlast : c.width? = none := hmore c List.mem_concat_self
    have hassoc : past ++ command :: (more ++ [c]) = (past ++ command :: more) ++ [c] := by simp
    rw [hassoc, layoutAfter_concat, Writer.width_step, hlast, Option.getD_none]
    show (if c.inserts then 0 else (layoutAfter (past ++ command :: more)).width) = _
    rw [ih hinit]
    by_cases hinserts : c.inserts = true
    · simp [hinserts]
    · simp [hinserts]

/-! ### The pieces -/

/-- What each of the `commands` writes, in the layout in force before it. -/
def pieces (commands : List WriterCommand) : List (List Char) :=
  commands.mapIdx fun i command => command.piece (layoutAfter (commands.take i))

/-- The last `command` writes in the layout after all those before it. -/
theorem pieces_concat (past : List WriterCommand) (command : WriterCommand) :
    pieces (past ++ [command]) = pieces past ++ [command.piece (layoutAfter past)] := by
  unfold pieces
  rw [List.mapIdx_concat, List.take_left]
  -- what came before an earlier command is the same in both lists
  congr 1
  rw [List.mapIdx_eq_mapIdx_iff]
  intro i hi
  rw [List.take_append_of_le_length hi.le]

namespace Writer

/-- The `command` adds its piece to the text. -/
theorem text_step (w : Writer) (command : WriterCommand) :
    (w.step command).text = w.text ++ command.piece w.layout := by
  cases command with
  | insertText text =>
    show w.text ++ w.layout.pad text = _
    unfold Layout.pad WriterCommand.piece
    cases w.layout.alignment <;> rfl
  | insert value => rfl
  | raw text => rfl
  | _ => exact (List.append_nil _).symm

theorem layout_step (w : Writer) (command : WriterCommand) :
    (w.step command).layout = (({ layout := w.layout } : Writer).step command).layout := by
  cases command <;> rfl

/-- **The invariant.**  After the `commands` the text is their `pieces`, and the layout is the one
in force. -/
theorem final_eq (commands : List WriterCommand) :
    ({} : Writer).final commands =
      { text := (pieces commands).flatten, layout := layoutAfter commands } := by
  induction commands using List.reverseRecOn with
  | nil => rfl
  | append_singleton past command ih =>
    -- the last command is obeyed in the state that the induction hypothesis gives
    rw [final_append, final_cons, final_nil, ih]
    have htext := text_step { text := (pieces past).flatten, layout := layoutAfter past } command
    have hlayout :=
      layout_step { text := (pieces past).flatten, layout := layoutAfter past } command
    rw [pieces_concat, List.flatten_concat, layoutAfter_concat, ← htext, ← hlayout]

theorem text_final_prefix (w : Writer) (commands : List WriterCommand) :
    w.text <+: (w.final commands).text := by
  induction commands generalizing w with
  | nil => exact List.prefix_rfl
  | cons command commands ih =>
    have hstep : w.text <+: (w.step command).text := ⟨_, (text_step w command).symm⟩
    exact hstep.trans (ih (w.step command))

/-- A run goes through the writers after each of the beginnings of `commands`. -/
theorem run_eq_map_final (w : Writer) (commands : List WriterCommand) :
    w.run commands = commands.inits.tail.map w.final := by
  induction commands generalizing w with
  | nil => rfl
  | cons command commands ih =>
    rw [run, ih, List.inits_cons, List.tail_cons, List.map_map]
    cases commands with
    | nil => rfl
    | cons next rest => rfl

/-- **A writer writes pieces.**  After every command, the text of a new writer is the pieces of the
commands so far, each in the layout in force before it, where a text is filled up to the width.
Text once written stays.  Writing keeps all of the layout but the width, and a width that is set is
that of the first field that is inserted, but not of another. -/
theorem run_eq_pieces (commands : List WriterCommand) :
    (({} : Writer).run commands = commands.inits.tail.map fun past =>
      { text := (pieces past).flatten, layout := layoutAfter past }) ∧
    (∀ layout text, (WriterCommand.piece layout (.insertText text)).length =
      max layout.width text.length) ∧
    (∀ past, past <+: commands →
      (({} : Writer).final past).text <+: (({} : Writer).final commands).text) ∧
    (∀ past more, commands = past ++ more → (∀ c ∈ more, c.writes = true) →
      layoutAfter commands =
        { layoutAfter past with
          width := if more.any (·.inserts) then 0 else (layoutAfter past).width }) ∧
    (∀ past command more width, commands = past ++ command :: more →
      command.width? = some width → (∀ c ∈ more, c.width? = none) →
      (layoutAfter commands).width = if more.any (·.inserts) then 0 else width) := by
  refine ⟨?run, WriterCommand.length_piece_insertText, ?earlier, ?writing, ?width⟩
  case run =>
    rw [run_eq_map_final]
    exact congrArg (List.map · _) (funext final_eq)
  case earlier =>
    rintro past ⟨more, rfl⟩
    rw [final_append]
    exact text_final_prefix _ more
  case writing =>
    rintro past more rfl hmore
    exact layoutAfter_append_of_writes hmore
  -- behind the last setting of the width only a field that is filled up changes it
  case width =>
    rintro past command more width rfl hcommand hmore
    exact width_layoutAfter_append hcommand hmore

/-- The width stays while raw text is written, and only the first of two fields is filled up. -/
theorem run_eq_pieces_width_once :
    let commands : List WriterCommand :=
      [.setFill '*', .setWidth 5, .raw ['é'], .insert 42, .insertText [','], .setBase .sixteen,
        .insert 42]
    (({} : Writer).run commands).map (·.text) =
        [[], [], ['é'], "é***42".toList, "é***42,".toList, "é***42,".toList,
          "é***42,2a".toList] ∧
      (layoutAfter (commands.take 3)).width = 5 ∧ (layoutAfter commands).width = 0 ∧
      (({} : Writer).final (commands.take 4)).text <+: (({} : Writer).final commands).text := by
  intro commands
  obtain ⟨hrun, -, hearlier, -, hwidth⟩ := run_eq_pieces commands
  obtain ⟨-, -, -, hwriting, -⟩ := run_eq_pieces (commands.take 3)
  -- up to the raw text nothing uses up the width
  have hraw := hwriting [.setFill '*', .setWidth 5] [.raw ['é']] rfl (by decide)
  refine ⟨?_, ?_, ?_, hearlier _ (List.take_prefix 4 commands)⟩
  · rw [hrun, List.map_map]
    decide +kernel
  · rw [hraw]
    rfl
  · exact hwidth [.setFill '*'] (.setWidth 5) _ 5 rfl rfl (by decide)

end Writer

end Numeral128
