/-!
# Numeral bases

The three bases a numeral can be written in, the digit characters, and the value of a character as a
digit. Letters are read in either case and written in the case that is asked for.
-/

namespace Numeral128

/-- A numeral base. -/
inductive Base where
  | ten
  | eight
  | sixteen
  deriving DecidableEq, Inhabited, Repr

/-- The digit characters by value, letters in upper case if `uppercase` is true. -/
def digitTable (uppercase : Bool) : List Char :=
  if uppercase then "0123456789ABCDEF".toList else "0123456789abcdef".toList

/-- The character of a `digit` below sixteen. -/
def digitChar (uppercase : Bool) (digit : Nat) : Char := (digitTable uppercase).getD digit '0'

/-- The value in base sixteen of `c`, if it is an ASCII digit or letter, letters in either case. -/
def hexValue? (c : Char) : Option Nat :=
  if '0' ≤ c ∧ c ≤ '9' then some (c.toNat - '0'.toNat)
  else if 'a' ≤ c ∧ c ≤ 'f' then some (c.toNat - 'a'.toNat + 10)
  else if 'A' ≤ c ∧ c ≤ 'F' then some (c.toNat - 'A'.toNat + 10)
  else none

namespace Base

/-- The base as a number. -/
def toNat : Base → Nat
  | ten => 10
  | eight => 8
  | sixteen => 16

/-- The value of `c` as a digit of the base. A digit of a larger base only is none. -/
def digit? (b : Base) (c : Char) : Option Nat := (hexValue? c).filter (· < b.toNat)

/-- The base `b` as messages show it. -/
def label (b : Base) : String := "base " ++ toString b.toNat

theorem two_le_toNat (b : Base) : 2 ≤ b.toNat := by cases b <;> decide

theorem toNat_pos (b : Base) : 0 < b.toNat := Nat.lt_of_lt_of_le Nat.two_pos b.two_le_toNat

theorem toNat_le_sixteen (b : Base) : b.toNat ≤ 16 := by cases b <;> decide

theorem digit?_lt {b : Base} {c : Char} {d : Nat} (h : b.digit? c = some d) : d < b.toNat := by
  simpa using (Option.filter_eq_some_iff.1 h).2

end Base

end Numeral128
