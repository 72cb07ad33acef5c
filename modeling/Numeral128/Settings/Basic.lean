import Numeral128.BaseChoice
import Numeral128.Layout
import Numeral128.Text.Quoted

/-!
# Settings

The layout and the base choice that a host of the library starts with, and the bounds that they have
to keep when they are loaded.
-/

namespace Numeral128

/-- The layout of what is written and the choice of bases for what is read. -/
structure Settings where
  layout : Layout := {}
  choice : BaseChoice := .detect
  deriving DecidableEq, Inhabited, Repr

/-- The greatest width that settings may ask for. -/
def widthLimit : Nat := 4096

/-- Why settings are refused. -/
inductive SettingsFault where
  | controlFill (fill : Char)
  | widthTooLarge (width : Nat)
  deriving DecidableEq, Repr

/-- The wording of a fault. -/
def SettingsFault.message : SettingsFault → String
  | controlFill fill =>
    "The fill character must not be a control character, got " ++ Text.quoteChar fill
  | widthTooLarge width =>
    "The field width must be at most " ++ toString widthLimit ++ ", got " ++ toString width

/-- The settings `s`, if their fill can be shown and their width is bounded. -/
def Settings.checked (s : Settings) : Except SettingsFault Settings :=
  if Text.isControl s.layout.fill then .error (.controlFill s.layout.fill)
  else if widthLimit < s.layout.width then .error (.widthTooLarge s.layout.width)
  else .ok s

end Numeral128
