import Numeral128.Base
import Numeral128.Spelling

/-!
# Layouts of numerals
-/

namespace Numeral128

/-- Where a field narrower than its width is filled up. -/
inductive Alignment where
  /-- Fill follows the digits. -/
  | left
  /-- Fill precedes everything. -/
  | right
  /-- Fill stands between sign and prefix and the digits. -/
  | internal
  deriving DecidableEq, Repr

instance : Inhabited Alignment := ⟨.right⟩

instance : Spelled Alignment where
  typeName := "Alignment"
  spellings := [("left", .left), ("right", .right), ("internal", .internal)]
  spelling
    | .left => "left"
    | .right => "right"
    | .internal => "internal"
  lookup_spelling a := by cases a <;> decide

/-- How a numeral is laid out. -/
structure Layout where
  /-- The base of the digits. -/
  base : Base := .ten
  /-- Upper-case letters in digits and prefix. -/
  uppercase : Bool := false
  /-- Whether numerals in base eight and sixteen carry their prefix. -/
  showPrefix : Bool := false
  /-- Whether numerals that are not negative carry a plus sign. -/
  showPlus : Bool := false
  /-- The least number of characters. -/
  width : Nat := 0
  /-- The character that makes up for missing width. -/
  fill : Char := ' '
  /-- Where the fill goes. -/
  alignment : Alignment := .right
  deriving DecidableEq, Inhabited, Repr

end Numeral128
