import Numeral128.Decimal.Integer

/-!
# Binary numbers of 64 bits

A finite number is a mantissa of at most 53 bits times a power of two. Decimal numbers are read to
the nearest such number, and of two equally near ones to the one with an even mantissa. All
arithmetic is on natural numbers.
-/

namespace Numeral128

/-- A binary number of 64 bits. -/
inductive Binary64 where
  /-- The number `mantissa * 2 ^ exponent`, or its negative. -/
  | finite (negative : Bool) (mantissa : Nat) (exponent : Int)
  | infinite (negative : Bool)
  | nan
  deriving DecidableEq, Repr

namespace Binary64

/-- The least exponent. -/
def minExponent : Int := -1074

/-- The greatest exponent. -/
def maxExponent : Int := 971

/-- The number zero. -/
def zero (negative : Bool) : Binary64 := finite negative 0 minExponent

/-- The quotient of `num` and `den` rounded to the nearest natural number, a half to the even one.
-/
def roundDiv (num den : Nat) : Nat :=
  let q := num / den
  let twice := 2 * (num % den)
  if twice < den then q else if den < twice then q + 1 else q + q % 2

/-- The exponent of the greatest power of two that is at most `num / den`. -/
def log2Quotient (num den : Nat) : Int :=
  let l : Int := (num.log2 : Int) - den.log2
  if num * Nat.pow 2 (-l).toNat < den * Nat.pow 2 l.toNat then l - 1 else l

/-- The number nearest to the quotient of `num` and `den`, which are positive. -/
def ofQuotient (negative : Bool) (num den : Nat) : Binary64 :=
  let exponent := max (log2Quotient num den - 52) minExponent
  let mantissa := roundDiv (num * Nat.pow 2 (-exponent).toNat) (den * Nat.pow 2 exponent.toNat)
  let (mantissa, exponent) :=
    if mantissa = Nat.pow 2 53 then (Nat.pow 2 52, exponent + 1) else (mantissa, exponent)
  if maxExponent < exponent then infinite negative else finite negative mantissa exponent

/-- The number nearest to `digits * 10 ^ exponent`. Powers far outside the range are not
computed. -/
def ofDecimal (negative : Bool) (digits : Nat) (exponent : Int) : Binary64 :=
  let places : Int := (Nat.toDigits 10 digits).length + exponent
  if digits = 0 ∨ places < -330 then zero negative
  else if 310 < places then infinite negative
  else ofQuotient negative (digits * Nat.pow 10 exponent.toNat) (Nat.pow 10 (-exponent).toNat)

/-- Whether the number is one of the zeros. -/
def isZero : Binary64 → Bool
  | finite _ mantissa _ => mantissa = 0
  | _ => false

/-- The nearest natural number of 64 bits, a half rounded up. Numbers below zero, and what is no
number, give zero, and numbers above the range its greatest value. -/
def toNat64 : Binary64 → Nat
  | finite false mantissa exponent =>
    let n :=
      if 0 ≤ exponent then mantissa * Nat.pow 2 exponent.toNat
      else (2 * mantissa + Nat.pow 2 (-exponent).toNat) / Nat.pow 2 (1 - exponent).toNat
    min n (Nat.pow 2 64 - 1)
  | infinite false => Nat.pow 2 64 - 1
  | _ => 0

/-- The exponent of ten after a mantissa, which begins with a letter. It may be missing. -/
def exponent? : List Char → Option Int
  | [] => some 0
  | _ :: '-' :: cs => (Decimal.natural? cs).map fun n : Nat => -(n : Int)
  | _ :: '+' :: cs => (Decimal.natural? cs).map Int.ofNat
  | _ :: cs => (Decimal.natural? cs).map Int.ofNat

/-- The unsigned part `cs` of a decimal number: digits with an optional point, at least one digit,
and an optional exponent. -/
def ofUnsignedText? (negative : Bool) (cs : List Char) : Option Binary64 := do
  let mantissa := cs.takeWhile fun c => c ≠ 'e' ∧ c ≠ 'E'
  let exponent ← exponent? (cs.dropWhile fun c => c ≠ 'e' ∧ c ≠ 'E')
  let whole := mantissa.takeWhile (· ≠ '.')
  let fraction := (mantissa.dropWhile (· ≠ '.')).drop 1
  let digits ← Decimal.natural? (whole ++ fraction)
  return ofDecimal negative digits (exponent - fraction.length)

/-- Reads a decimal number or the name of a special value from `cs`, with an optional sign. -/
def ofText? (cs : List Char) : Option Binary64 :=
  let (negative, cs) := match cs with
    | '-' :: cs => (true, cs)
    | '+' :: cs => (false, cs)
    | cs => (false, cs)
  let name := String.ofList (cs.map Char.toLower)
  if name = "inf" ∨ name = "infinity" then some (infinite negative)
  else if name = "nan" then some nan
  else ofUnsignedText? negative cs

end Binary64

end Numeral128
