/-!
# Decimal integers in running text

Integers as settings and directives spell them: an optional sign and at least one digit, nothing
else. Blanks and separators are not allowed.
-/

namespace Numeral128.Decimal

/-- The number that the decimal `digits` denote. -/
def value (digits : List Char) : Nat :=
  digits.foldl (fun n c => 10 * n + (c.toNat - '0'.toNat)) 0

/-- The number denoted by `cs`, if it consists of digits only. -/
def natural? (cs : List Char) : Option Nat :=
  if cs ≠ [] ∧ cs.all Char.isDigit then some (value cs) else none

/-- The number denoted by digits with an optional plus sign, if it is at most `limit`. -/
def unsigned? (limit : Nat) (cs : List Char) : Option Nat :=
  (natural? (match cs with
    | '+' :: cs => cs
    | cs => cs)).filter (· ≤ limit)

/-- The number denoted by `cs`, digits with an optional sign, if it is an integer of 64 bits. -/
def int64? (cs : List Char) : Option Int :=
  let n := match cs with
    | '-' :: cs => (natural? cs).map fun n : Nat => -(n : Int)
    | '+' :: cs => (natural? cs).map Int.ofNat
    | cs => (natural? cs).map Int.ofNat
  n.filter fun n => -Nat.pow 2 63 ≤ n && n < Nat.pow 2 63

end Numeral128.Decimal
