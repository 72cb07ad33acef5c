import Numeral128.Base
import Numeral128.Text.Quoted

/-!
# Reasons a numeral is rejected
-/

namespace Numeral128

/-- Why no value could be read. -/
inductive Rejection where
  /-- There is nothing but blanks. -/
  | nothing
  /-- A minus sign where the type has no negative values. -/
  | minusSign
  /-- The text ends after a sign or a base prefix. -/
  | cutOff
  /-- The character where the first digit should be is none. -/
  | notDigit (c : Char)
  /-- The digits, in base `base`, leave the range of the type. -/
  | outOfRange (base : Base)
  deriving DecidableEq, Repr

/-- The wording of a rejection. -/
def Rejection.message : Rejection → String
  | nothing => "empty input"
  | minusSign => "negative sign is not allowed for an unsigned integer"
  | cutOff => "unexpected end of input before the first digit"
  | notDigit c => "invalid digit " ++ Text.quoteChar c
  | outOfRange base => "numeral exceeds the 128-bit range in " ++ base.label

end Numeral128
