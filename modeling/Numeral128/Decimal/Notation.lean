import Numeral128.Decimal.Shortest

/-!
# Writing binary numbers

A number is written with the fewest digits that read back, with a point inside or after them, or
with an exponent. Which exponents are written positionally and how equally near digits are chosen
is the decision of a `FloatNotation`.
-/

namespace Numeral128.Decimal

/-- How numbers are laid out. -/
structure FloatNotation where
  /-- The least exponent of a leading digit that is written positionally. -/
  plainFrom : Int
  /-- The greatest such exponent. -/
  plainTo : Int
  tie : Tie

/-- Digits followed by zeros, or cut by a point so that `places` of them precede it. -/
def positional (digits : List Char) (places : Int) : List Char :=
  if places ≤ 0 then '0' :: '.' :: (List.replicate (-places).toNat '0' ++ digits)
  else
    let whole := digits.take places.toNat
    let fraction := digits.drop places.toNat
    whole ++ List.replicate (places.toNat - whole.length) '0' ++
      '.' :: (if fraction.isEmpty then ['0'] else fraction)

/-- The first of the `digits`, the others after a point, and an `exponent` of two digits or more
with its sign. -/
def scientific (digits : List Char) (exponent : Int) : List Char :=
  let fraction := digits.drop 1
  let size := Nat.toDigits 10 exponent.natAbs
  digits.take 1 ++ (if fraction.isEmpty then [] else '.' :: fraction) ++
    ['e', if exponent < 0 then '-' else '+'] ++ List.replicate (2 - size.length) '0' ++ size

/-- The text of a number. -/
def FloatNotation.render (layout : FloatNotation) : Binary64 → String
  | .nan => "NaN"
  | .infinite negative => if negative then "-inf" else "inf"
  | .finite negative mantissa exponent =>
    let body :=
      if mantissa = 0 then ['0', '.', '0']
      else
        let d := shortest layout.tie mantissa exponent
        let digits := Nat.toDigits 10 d.digits
        let leading := d.exponent + digits.length - 1
        if layout.plainFrom ≤ leading ∧ leading ≤ layout.plainTo then
          positional digits (leading + 1)
        else scientific digits leading
    String.ofList (if negative then '-' :: body else body)

end Numeral128.Decimal
