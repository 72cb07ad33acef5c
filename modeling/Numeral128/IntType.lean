import Numeral128.Base

/-!
# The two 128-bit integer types

Values are integers in the range of their type. A numeral is accumulated digit by digit in the
arithmetic of the type: one `AppendStep` compares the accumulator with a bound before it multiplies,
and lists every value it computes, so that "nothing leaves the range" can be said of it. Negative
numerals are accumulated downward, since the least signed value has no positive counterpart.
-/

namespace Numeral128

/-- A 128-bit integer type. -/
inductive IntType where
  | signed
  | unsigned
  deriving DecidableEq, Inhabited, Repr

namespace IntType

/-- The least value of the type. -/
def lower : IntType → Int
  | signed => -Nat.pow 2 127
  | unsigned => 0

/-- The greatest value of the type. -/
def upper : IntType → Int
  | signed => Nat.pow 2 127 - 1
  | unsigned => Nat.pow 2 128 - 1

/-- Whether `n` is a value of the type `t`. -/
def InRange (t : IntType) (n : Int) : Prop := t.lower ≤ n ∧ n ≤ t.upper

instance (t : IntType) (n : Int) : Decidable (t.InRange n) :=
  inferInstanceAs (Decidable (_ ∧ _))

/-- One step of accumulation: the values computed on the way, in order, and the new accumulator
unless the bound forbids it. -/
structure AppendStep where
  intermediates : List Int
  accumulator : Option Int

/-- Appends `digit` to a numeral that is accumulated upward, of which `acc` is the value so far. -/
def appendUp (t : IntType) (b : Base) (acc : Int) (digit : Nat) : AppendStep :=
  let room := t.upper - digit
  let bound := room.tdiv b.toNat
  if bound < acc then ⟨[room, bound], none⟩
  else
    let shifted := acc * b.toNat
    ⟨[room, bound, shifted, shifted + digit], some (shifted + digit)⟩

/-- Appends `digit` to a numeral that is accumulated downward. The quotient is rounded toward zero,
which is upward here. -/
def appendDown (t : IntType) (b : Base) (acc : Int) (digit : Nat) : AppendStep :=
  let room := t.lower + digit
  let bound := room.tdiv b.toNat
  if acc < bound then ⟨[room, bound], none⟩
  else
    let shifted := acc * b.toNat
    ⟨[room, bound, shifted, shifted - digit], some (shifted - digit)⟩

/-- Appends `digit`. Only signed numerals are accumulated downward. -/
def append (t : IntType) (b : Base) (negative : Bool) (acc : Int) (digit : Nat) : AppendStep :=
  match t, negative with
  | signed, true => signed.appendDown b acc digit
  | t, _ => t.appendUp b acc digit

/-- The accumulator after `digit`, or nothing if it would leave the range of `t`. -/
def append? (t : IntType) (b : Base) (negative : Bool) (acc : Int) (digit : Nat) : Option Int :=
  (t.append b negative acc digit).accumulator

end IntType

end Numeral128
