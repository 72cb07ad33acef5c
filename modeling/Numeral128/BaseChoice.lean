import Numeral128.Base
import Numeral128.Spelling

/-!
# How the base of a numeral is chosen
-/

namespace Numeral128

/-- The choice of a base for reading. -/
inductive BaseChoice where
  /-- By the prefix: `0x` or `0X` for sixteen, another leading `0` for eight, else ten. -/
  | detect
  /-- Always the same base; numerals have no prefix. -/
  | fixed (base : Base)
  deriving DecidableEq, Inhabited, Repr

instance : Spelled Base where
  typeName := "Radix"
  spellings := [("decimal", .ten), ("octal", .eight), ("hexadecimal", .sixteen)]
  spelling
    | .ten => "decimal"
    | .eight => "octal"
    | .sixteen => "hexadecimal"
  lookup_spelling b := by cases b <;> decide

instance : Spelled BaseChoice where
  typeName := "ParseMode"
  spellings :=
    [("auto", .detect), ("decimal", .fixed .ten), ("octal", .fixed .eight),
      ("hexadecimal", .fixed .sixteen)]
  spelling
    | .detect => "auto"
    | .fixed b => Spelled.spelling b
  lookup_spelling
    | .detect => by decide
    | .fixed b => by cases b <;> decide

namespace BaseChoice

/-- The base that a choice fixes. -/
def base? : BaseChoice → Option Base
  | detect => none
  | fixed b => some b

/-- The choice as events show it. -/
def label : BaseChoice → String
  | detect => "Auto"
  | fixed .ten => "Decimal"
  | fixed .eight => "Octal"
  | fixed .sixteen => "Hexadecimal"

end BaseChoice

end Numeral128
