import Numeral128.BaseChoice
import Numeral128.Proofs.Rendering
import Numeral128.Text.Blank

/-!
# Padding that is read over

Fill is harmless (`Layout.HarmlessFill`) if a reader takes it for blanks before the numeral, for
zeros before its digits, or for text after it.  Whatever the alignment, harmless fill leaves a
rendering of one form, `Layout.Spread`: blanks, the sign and the prefix, any number of zeros, the
digits, and text that does not continue them.  `Layout.exists_spread` finds this form, with one
lemma for each way fill can be harmless.
-/

namespace Numeral128

/-- The character `c` ends a numeral in base `b`.  If the base is detected, a letter of the prefix
of base sixteen need not end one: it makes a zero before it a part of the prefix. -/
def BaseChoice.EndsAt (choice : BaseChoice) (b : Base) (c : Char) : Prop :=
  b.isDigit c = false ∧ (choice = .detect → c ≠ 'x' ∧ c ≠ 'X')

/-- Blanks end numerals in every base `b`, detected or not. -/
theorem BaseChoice.endsAt_of_isBlank {c : Char} (choice : BaseChoice) (b : Base)
    (h : isBlank c = true) : choice.EndsAt b c := by
  refine ⟨b.isDigit_of_isBlank h, fun _ => ⟨?_, ?_⟩⟩
  · rintro rfl
    exact absurd h (by decide)
  · rintro rfl
    exact absurd h (by decide)

namespace Layout

/-- The rendering of `value` without padding. -/
def bare (layout : Layout) (value : Int) : List Char := { layout with width := 0 }.render value

/-- The number of characters in the rendering of `value` that belong to the numeral or precede it.
-/
def numeralLength (layout : Layout) (value : Int) : Nat :=
  if layout.alignment = .left then (layout.bare value).length else (layout.render value).length

/-- The fill makes no difference to a reader: after the digits it ends them, before the numeral it
is blank, or a zero with nothing but zeros and digits after it, and before the digits it is a zero,
or blank with nothing before it.  A zero before the digits of base ten would be taken for the prefix
of another base if the base is detected. -/
def HarmlessFill (layout : Layout) (value : Int) (choice : BaseChoice) : Prop :=
  match layout.alignment with
  | .left => choice.EndsAt layout.base layout.fill
  | .right =>
    isBlank layout.fill = true ∨
      choice ≠ .detect ∧ layout.fill = '0' ∧ layout.sign (value < 0) = []
  | .internal =>
    layout.fill = '0' ∧ (choice = .detect → layout.base ≠ .ten) ∨
      isBlank layout.fill = true ∧
        layout.sign (value < 0) = [] ∧ layout.basePrefix value.natAbs = []

/-- The digits of `value` after `n` zeros. -/
def zeroFilled (layout : Layout) (value : Int) (n : Nat) : List Char :=
  List.replicate n '0' ++ digits layout.base layout.uppercase value.natAbs

/-- The rendering of `value` is the numeral, with `n` zeros before its digits, after the blanks `w`
and before `rest`. -/
structure Spread (layout : Layout) (value : Int) (w : List Char) (n : Nat) (rest : List Char) :
    Prop where
  render_eq : layout.render value =
    w ++ layout.sign (value < 0) ++ layout.basePrefix value.natAbs ++
      layout.zeroFilled value n ++ rest
  isBlank_of_mem : ∀ c ∈ w, isBlank c = true
  length_eq : layout.numeralLength value =
    (w ++ layout.sign (value < 0) ++ layout.basePrefix value.natAbs ++
      layout.zeroFilled value n).length

variable {layout : Layout} {value : Int}

theorem zeroFilled_zero (layout : Layout) (value : Int) :
    layout.zeroFilled value 0 = digits layout.base layout.uppercase value.natAbs := by
  rw [zeroFilled, List.replicate_zero, List.nil_append]

/-- Without padding a rendering is the sign, the prefix and the digits, whatever the alignment. -/
theorem bare_eq (layout : Layout) (value : Int) :
    layout.bare value = layout.sign (value < 0) ++ layout.basePrefix value.natAbs ++
      digits layout.base layout.uppercase value.natAbs := by
  rw [bare, render]
  simp only [Nat.zero_sub, List.replicate_zero, List.append_nil, List.nil_append]
  cases layout.alignment <;> rfl

/-! ### The fill of each alignment -/

/-- The fill in the rendering of `value`: as many characters as `bare` falls short of the width. -/
def padding (layout : Layout) (value : Int) : List Char :=
  List.replicate (layout.width - (layout.bare value).length) layout.fill

/-- With `left` alignment the fill follows the numeral. -/
theorem render_left (h : layout.alignment = .left) :
    layout.render value = layout.bare value ++ layout.padding value := by
  rw [padding, bare_eq, List.length_append, render, h]

/-- With `right` alignment the fill precedes it. -/
theorem render_right (h : layout.alignment = .right) :
    layout.render value = layout.padding value ++ layout.bare value := by
  rw [padding, bare_eq, List.length_append, render, h, ← List.append_assoc, ← List.append_assoc,
    ← List.append_assoc]

/-- With `internal` alignment the fill stands before the digits. -/
theorem render_internal (h : layout.alignment = .internal) :
    layout.render value = layout.sign (value < 0) ++ layout.basePrefix value.natAbs ++
      layout.padding value ++ digits layout.base layout.uppercase value.natAbs := by
  rw [padding, bare_eq, List.length_append, render, h]

/-- A numeral that is wide enough is not filled up, and the alignment makes no difference. -/
theorem render_of_width_le (h : layout.width ≤ (layout.bare value).length) :
    layout.render value = layout.bare value := by
  have hpadding : layout.padding value = [] := by
    rw [padding, Nat.sub_eq_zero_of_le h, List.replicate_zero]
  cases halign : layout.alignment with
  | left => rw [render_left halign, hpadding, List.append_nil]
  | right => rw [render_right halign, hpadding, List.nil_append]
  | internal => rw [render_internal halign, hpadding, List.append_nil, bare_eq]

theorem eq_fill_of_mem_padding {c : Char} (h : c ∈ layout.padding value) : c = layout.fill :=
  List.eq_of_mem_replicate h

theorem padding_eq_zeros (h : layout.fill = '0') (value : Int) :
    ∃ n, layout.padding value = List.replicate n '0' :=
  ⟨_, by rw [padding, h]⟩

/-- A prefix without a letter is the character `'0'` or nothing. -/
theorem basePrefix_eq_zeros (h : layout.base = .sixteen → layout.showPrefix = false) (m : Nat) :
    ∃ k, layout.basePrefix m = List.replicate k '0' := by
  rw [basePrefix]
  split
  · rename_i hbase
    rw [h hbase]
    exact ⟨0, rfl⟩
  · split_ifs
    · exact ⟨1, rfl⟩
    · exact ⟨0, rfl⟩
  · exact ⟨0, rfl⟩

/-! ### Harmless fill -/

theorem numeralLength_of_ne_left (h : layout.alignment ≠ .left) :
    layout.numeralLength value = (layout.render value).length := if_neg h

theorem spread_of_width_le (h : layout.width ≤ (layout.bare value).length) :
    layout.Spread value [] 0 [] where
  render_eq := by
    rw [render_of_width_le h, bare_eq, zeroFilled_zero, List.append_nil, List.nil_append]
  isBlank_of_mem := List.forall_mem_nil _
  length_eq := by
    rw [numeralLength, render_of_width_le h, ite_self, bare_eq, zeroFilled_zero, List.nil_append]

/-- Fill after the numeral of `value` is what is left of the text. -/
theorem spread_of_left (h : layout.alignment = .left) :
    layout.Spread value [] 0 (layout.padding value) where
  render_eq := by
    rw [render_left h, bare_eq, zeroFilled_zero, List.nil_append]
  isBlank_of_mem := List.forall_mem_nil _
  length_eq := by
    rw [numeralLength, if_pos h, bare_eq, zeroFilled_zero, List.nil_append]

/-- Unless fill follows the digits, the whole rendering is read, and `rest` is empty. -/
theorem Spread.of_render_eq {w : List Char} {n : Nat} (halign : layout.alignment ≠ .left)
    (hw : ∀ c ∈ w, isBlank c = true)
    (hrender : layout.render value =
      w ++ layout.sign (value < 0) ++ layout.basePrefix value.natAbs ++ layout.zeroFilled value n) :
    layout.Spread value w n [] where
  render_eq := by rw [hrender, List.append_nil]
  isBlank_of_mem := hw
  length_eq := by rw [numeralLength_of_ne_left halign, hrender]

/-- Blank fill before the numeral of `value` is passed over like other blanks. -/
theorem spread_of_blank (halign : layout.alignment ≠ .left) (hblank : isBlank layout.fill = true)
    (hrender : layout.render value = layout.padding value ++ layout.bare value) :
    layout.Spread value (layout.padding value) 0 [] := by
  refine .of_render_eq halign (fun c hc => eq_fill_of_mem_padding hc ▸ hblank) ?_
  rw [hrender, bare_eq, zeroFilled_zero, List.append_assoc, List.append_assoc, List.append_assoc]

/-- Zeros stand before a prefix that is `'0'` itself as well as after it. -/
theorem exists_spread_of_right_zero (halign : layout.alignment = .right) (hfill : layout.fill = '0')
    (hsign : layout.sign (value < 0) = [])
    (hpre : layout.base = .sixteen → layout.showPrefix = false) :
    ∃ n, layout.Spread value [] n [] := by
  obtain ⟨n, hpadding⟩ := padding_eq_zeros hfill value
  obtain ⟨k, hk⟩ := basePrefix_eq_zeros hpre value.natAbs
  -- `n` zeros before `k` zeros are `k` zeros before `n` zeros
  refine ⟨n, .of_render_eq (by rw [halign]; decide) (List.forall_mem_nil _) ?_⟩
  rw [render_right halign, bare_eq, hpadding, hsign, hk, zeroFilled, List.nil_append,
    List.nil_append, List.nil_append, ← List.append_assoc, ← List.append_assoc,
    List.replicate_append_replicate, List.replicate_append_replicate, Nat.add_comm]

/-- Zeros between the prefix and the digits are `n` leading zeros of the digits. -/
theorem exists_spread_of_internal_zero (halign : layout.alignment = .internal)
    (hfill : layout.fill = '0') : ∃ n, layout.Spread value [] n [] := by
  obtain ⟨n, hpadding⟩ := padding_eq_zeros hfill value
  refine ⟨n, .of_render_eq (by rw [halign]; decide) (List.forall_mem_nil _) ?_⟩
  rw [render_internal halign, hpadding, zeroFilled, List.nil_append, List.append_assoc]

/-- A rendering that is not filled up, or filled up harmlessly, is a numeral with `n` zeros before
its digits, blanks `w` before it and text `rest` after it.  Zeros are only found where the reader
allows them. -/
theorem exists_spread {choice : BaseChoice}
    (hpre : choice ≠ .detect → layout.base = .sixteen → layout.showPrefix = false)
    (hfill : layout.width ≤ (layout.bare value).length ∨ layout.HarmlessFill value choice) :
    ∃ w n rest, layout.Spread value w n rest ∧
      (∀ c ∈ rest.head?, choice.EndsAt layout.base c) ∧
      (choice = .detect → layout.base = .ten → n = 0) := by
  have hnil : ∀ c ∈ ([] : List Char).head?, choice.EndsAt layout.base c :=
    fun c hc => absurd hc (by simp)
  -- wide enough without fill: there is nothing to show
  rcases hfill with hwidth | hfill
  · exact ⟨[], 0, [], spread_of_width_le hwidth, hnil, fun _ _ => rfl⟩
  cases halign : layout.alignment with
  | left =>
    rw [HarmlessFill, halign] at hfill
    refine ⟨[], 0, layout.padding value, spread_of_left halign, ?_, fun _ _ => rfl⟩
    intro c hc
    -- what follows the digits is fill, and this ends them
    rw [eq_fill_of_mem_padding (List.mem_of_mem_head? hc)]
    exact hfill
  | right =>
    rw [HarmlessFill, halign] at hfill
    rcases hfill with hblank | ⟨hchoice, hzero, hsign⟩
    · have hspread : layout.Spread value (layout.padding value) 0 [] :=
        spread_of_blank (by rw [halign]; decide) hblank (render_right halign)
      exact ⟨layout.padding value, 0, [], hspread, hnil, fun _ _ => rfl⟩
    · obtain ⟨n, hspread⟩ :=
        exists_spread_of_right_zero halign hzero hsign (hpre hchoice)
      exact ⟨[], n, [], hspread, hnil, fun h => absurd h hchoice⟩
  | internal =>
    rw [HarmlessFill, halign] at hfill
    rcases hfill with ⟨hzero, hbase⟩ | ⟨hblank, hsign, hnone⟩
    · obtain ⟨n, hspread⟩ := exists_spread_of_internal_zero halign hzero
      exact ⟨[], n, [], hspread, hnil, fun h h10 => absurd h10 (hbase h)⟩
    · have hrender : layout.render value = layout.padding value ++ layout.bare value := by
        rw [render_internal halign, bare_eq, hsign, hnone, List.append_nil, List.nil_append,
          List.nil_append]
      have hspread := spread_of_blank (by rw [halign]; decide) hblank hrender
      exact ⟨layout.padding value, 0, [], hspread, hnil, fun _ _ => rfl⟩

end Layout

end Numeral128
