import Numeral128.Decimal.Binary64

/-!
# The fewest digits that read back

Among the decimal numbers that are read as a given binary number, `shortest` selects one with the
fewest digits, and of these the nearest to it. For one, two, … digits it tests the two neighbours of
the number on the grid of that many digits.
-/

namespace Numeral128.Decimal

/-- The decimal number `digits * 10 ^ exponent`. -/
structure Scaled where
  digits : Nat
  exponent : Int
  deriving DecidableEq, Repr

/-- Which of two equally near decimals is taken. -/
inductive Tie where
  | even
  | up
  deriving DecidableEq, Repr

/-- How `a * 10 ^ p` compares with `b * 2 ^ q`. -/
def compareScaled (a : Nat) (p : Int) (b : Nat) (q : Int) : Ordering :=
  compare (a * Nat.pow 10 p.toNat * Nat.pow 2 (-q).toNat)
    (b * Nat.pow 2 q.toNat * Nat.pow 10 (-p).toNat)

/-- The exponent of the leading digit of `mantissa * 2 ^ exponent`, for a positive mantissa. The
estimate by logarithms is off by one at most. -/
def leadingExponent (mantissa : Nat) (exponent : Int) : Int :=
  let e := ((mantissa.log2 : Int) + exponent) * 30103 / 100000
  if compareScaled 1 e mantissa exponent = .gt then e - 1
  else if compareScaled 1 (e + 1) mantissa exponent = .gt then e
  else e + 1

/-- Whether `d` is read as `mantissa * 2 ^ exponent`: it is no further away than half the distance
to either neighbour, and reaches that only if the mantissa is even. Below a power of two the lower
neighbour is nearer. -/
def readsBack (mantissa : Nat) (exponent : Int) (d : Scaled) : Bool :=
  let lower := if mantissa = Nat.pow 2 52 ∧ Binary64.minExponent < exponent
    then 4 * mantissa - 1 else 4 * mantissa - 2
  let upper := 4 * mantissa + 2
  let low := compareScaled d.digits d.exponent lower (exponent - 2)
  let high := compareScaled d.digits d.exponent upper (exponent - 2)
  (low = .gt || (low = .eq && mantissa % 2 = 0)) &&
    (high = .lt || (high = .eq && mantissa % 2 = 0))

/-- The better neighbour on the grid with spacing `10 ^ p`, of those that read back. -/
def onGrid? (tie : Tie) (mantissa : Nat) (exponent p : Int) : Option Scaled :=
  let num := mantissa * Nat.pow 2 exponent.toNat * Nat.pow 10 (-p).toNat
  let den := Nat.pow 2 (-exponent).toNat * Nat.pow 10 p.toNat
  let below := num / den
  let rest := 2 * (num % den)
  let upFirst := den < rest || (den = rest && (tie = .up || below % 2 = 1))
  let candidates := if upFirst then [below + 1, below] else [below, below + 1]
  (candidates.map (Scaled.mk · p)).find? (readsBack mantissa exponent)

/-- The same number as `d` without a last digit zero. -/
def Scaled.dropZero (d : Scaled) : Scaled :=
  if d.digits ≠ 0 ∧ d.digits % 10 = 0 then ⟨d.digits / 10, d.exponent + 1⟩ else d

/-- The decimal with the fewest digits that is read as `mantissa * 2 ^ exponent`. Seventeen digits
suffice. The upper neighbour on the first grid may be a power of ten. -/
def shortest (tie : Tie) (mantissa : Nat) (exponent : Int) : Scaled :=
  let e := leadingExponent mantissa exponent
  ((List.range 17).findSome? fun n => onGrid? tie mantissa exponent (e - (n : Nat))).getD ⟨0, 0⟩
    |>.dropZero

end Numeral128.Decimal
