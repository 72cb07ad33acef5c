import Numeral128.BaseChoice
import Numeral128.IntType
import Numeral128.Reader.Text
import Numeral128.Rejection
import Numeral128.Text.Blank

/-!
# Reading numerals

A numeral is an optional sign, an optional base prefix and a run of digits, after any number of
blanks. `readNumeral` reads one from any character reader with one character of lookahead: the first
character that does not belong to the numeral is taken back, and so is a character that is rejected;
only a digit that would leave the range stays read. `parseNumeral` reads one from the start of a
text.
-/

namespace Numeral128

variable {σ : Type} [CharReader σ]

open CharReader

/-- What reading a numeral gives, and where it leaves its reader. -/
structure Reading (σ : Type) where
  /-- The value, or why there is none. -/
  outcome : Except Rejection Int
  /-- The reader afterwards. -/
  reader : σ
  /-- The base, if it was looked for and found. -/
  detected : Option Base := none

/-- The first character that is not blank. -/
def skipBlanks (s : σ) : Option Char × σ :=
  match _h : read s with
  | (none, s') => (none, s')
  | (some c, s') => if isBlank c then skipBlanks s' else (some c, s')
termination_by bound s
decreasing_by exact bound_lt _h

/-- Reads the sign, if `c` is one. Gives whether it is a minus and the character after it. -/
def readSign (t : IntType) (c : Char) (s : σ) : Except Rejection (Bool × Char) × σ :=
  if c = '-' ∧ t = .unsigned then (.error .minusSign, unread s)
  else if c = '-' ∨ c = '+' then
    match read s with
    | (none, s) => (.error .cutOff, s)
    | (some d, s) => (.ok (c = '-', d), s)
  else (.ok (false, c), s)

/-- Finds the base of the numeral whose first character after the sign is `c`. Gives it with the
character where the digits begin: the prefix of base sixteen is passed, the zero of base eight is a
digit, and a zero at the end of the text is in base ten. -/
def detectBase (c : Char) (s : σ) : Except Rejection (Base × Char) × σ :=
  if c ≠ '0' then (.ok (.ten, c), s)
  else
    match read s with
    | (none, s) => (.ok (.ten, c), s)
    | (some x, s) =>
      if x = 'x' ∨ x = 'X' then
        match read s with
        | (none, s) => (.error .cutOff, s)
        | (some d, s) => (.ok (.sixteen, d), s)
      else (.ok (.eight, c), unread s)

/-- Appends `digit` and the digits that follow it to the accumulator. -/
def readDigits (t : IntType) (b : Base) (negative : Bool) (acc : Int) (digit : Nat) (s : σ) :
    Except Rejection Int × σ :=
  match t.append? b negative acc digit with
  | none => (.error (.outOfRange b), s)
  | some acc =>
    match _h : read s with
    | (none, s') => (.ok acc, s')
    | (some c, s') =>
      match b.digit? c with
      | some digit => readDigits t b negative acc digit s'
      | none => (.ok acc, unread s')
termination_by bound s
decreasing_by exact bound_lt _h

/-- Reads the digits of a numeral in base `b` from `s`, given the character `c` where the first
should be. -/
def readMagnitude (t : IntType) (b : Base) (negative : Bool) (c : Char) (s : σ) :
    Except Rejection Int × σ :=
  match b.digit? c with
  | none => (.error (.notDigit c), unread s)
  | some digit => readDigits t b negative 0 digit s

/-- Reads a numeral of type `t`. -/
def readNumeral (t : IntType) (choice : BaseChoice) (s : σ) : Reading σ :=
  match skipBlanks s with
  | (none, s) => { outcome := .error .nothing, reader := s }
  | (some c, s) =>
    match readSign t c s with
    | (.error e, s) => { outcome := .error e, reader := s }
    | (.ok (negative, c), s) =>
      match choice with
      | .fixed b =>
        let (outcome, reader) := readMagnitude t b negative c s
        { outcome, reader }
      | .detect =>
        match detectBase c s with
        | (.error e, s) => { outcome := .error e, reader := s }
        | (.ok (b, c), s) =>
          let (outcome, reader) := readMagnitude t b negative c s
          { outcome, reader, detected := some b }

/-- A value at the start of a text. -/
structure Parsed where
  value : Int
  /-- The number of characters up to its end, blanks before it included. -/
  length : Nat
  deriving DecidableEq, Repr

/-- Reads a numeral of type `t` from the start of a text. What follows it does not matter. -/
def parseNumeral (t : IntType) (choice : BaseChoice) (text : List Char) : Except Rejection Parsed :=
  let reading := readNumeral t choice ({ text } : TextReader)
  reading.outcome.map fun value => { value, length := reading.reader.count }

end Numeral128
