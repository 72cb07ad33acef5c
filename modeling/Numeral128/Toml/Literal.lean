import Numeral128.Toml.Value

/-!
# Numbers, truth values and dates of TOML

Everything but strings, arrays and tables is written as one word: it ends at a blank, a line end, a
comment or a bracket. `ofWord?` reads such a word.
-/

namespace Numeral128.Toml

/-- The digits of a number in which single underscores may separate digits. -/
def digitRun? (isDigit : Char → Bool) : List Char → Option (List Char)
  | [] => none
  | [c] => if isDigit c then some [c] else none
  | c :: '_' :: cs => if isDigit c then (digitRun? isDigit cs).map (c :: ·) else none
  | c :: cs => if isDigit c then (digitRun? isDigit cs).map (c :: ·) else none

/-- The value of the digit `c` in a base up to sixteen. -/
def digitOf (c : Char) : Nat :=
  if c.isDigit then c.toNat - '0'.toNat else c.toLower.toNat - 'a'.toNat + 10

/-- The number denoted by `digits` of `base`. -/
def ofDigits (base : Nat) (digits : List Char) : Nat :=
  digits.foldl (fun n c => base * n + digitOf c) 0

/-- A sign, and the text after it. -/
def splitSign : List Char → Bool × List Char
  | '-' :: cs => (true, cs)
  | '+' :: cs => (false, cs)
  | cs => (false, cs)

/-- The digits of a decimal integer, which has no leading zero. -/
def decimalRun? (cs : List Char) : Option (List Char) :=
  (digitRun? Char.isDigit cs).filter fun digits => digits.length = 1 || digits.head? ≠ some '0'

/-- The integer `n`, if it fits in 64 bits with sign. -/
def inInt64? (n : Int) : Option Value :=
  if -Nat.pow 2 63 ≤ n ∧ n < Nat.pow 2 63 then some (.integer n) else none

/-- Reads an integer: decimal with an optional sign, or with a base prefix and without sign. -/
def integer? : List Char → Option Value
  | '0' :: 'x' :: cs => do
    let digits ← digitRun? (fun c => c.isDigit || ('a' ≤ c.toLower && c.toLower ≤ 'f')) cs
    inInt64? (ofDigits 16 digits)
  | '0' :: 'o' :: cs => do
    let digits ← digitRun? (fun c => '0' ≤ c && c ≤ '7') cs
    inInt64? (ofDigits 8 digits)
  | '0' :: 'b' :: cs => do
    let digits ← digitRun? (fun c => c = '0' || c = '1') cs
    inInt64? (ofDigits 2 digits)
  | cs => do
    let (negative, cs) := splitSign cs
    let n := Decimal.value (← decimalRun? cs)
    inInt64? (if negative then -(n : Int) else n)

/-- Reads the exponent of a float. -/
def exponent? (cs : List Char) : Option Int := do
  let (negative, cs) := splitSign cs
  let n := Decimal.value (← digitRun? Char.isDigit cs)
  return if negative then -(n : Int) else n

/-- Reads a float: a decimal integer with a fraction, an exponent or both, or a special value.
Numbers too large for the format are none. -/
def float? (cs : List Char) : Option Value := do
  let (negative, body) := splitSign cs
  if body = ['i', 'n', 'f'] then return .float (.infinite negative)
  if body = ['n', 'a', 'n'] then return .float .nan
  let mantissa := body.takeWhile fun c => c ≠ 'e' ∧ c ≠ 'E'
  let power := body.dropWhile fun c => c ≠ 'e' ∧ c ≠ 'E'
  let whole ← decimalRun? (mantissa.takeWhile (· ≠ '.'))
  let fraction ← match mantissa.dropWhile (· ≠ '.') with
    | [] => if power.isEmpty then none else some []
    | _ :: cs => digitRun? Char.isDigit cs
  let exponent ← match power with
    | [] => some 0
    | _ :: cs => exponent? cs
  let x := Binary64.ofDecimal negative (Decimal.value (whole ++ fraction))
    (exponent - fraction.length)
  if x = .infinite false then none else return .float x

/-- Reads exactly `width` digits of a number from `low` to `high`. -/
def field? (low high width : Nat) (cs : List Char) : Option (Nat × List Char) :=
  let digits := cs.take width
  if digits.length = width ∧ digits.all Char.isDigit then
    let n := Decimal.value digits
    if low ≤ n ∧ n ≤ high then some (n, cs.drop width) else none
  else none

/-- The number of days of `month` in `year`. -/
def daysInMonth (year month : Nat) : Nat :=
  if month = 2 then (if (year % 4 = 0 ∧ year % 100 ≠ 0) ∨ year % 400 = 0 then 29 else 28)
  else if month = 4 ∨ month = 6 ∨ month = 9 ∨ month = 11 then 30
  else 31

/-- Reads the one character `c`. -/
def mark? (c : Char) : List Char → Option (List Char)
  | d :: cs => if c = d then some cs else none
  | [] => none

/-- Reads a date that exists. -/
def date? (cs : List Char) : Option (Date × List Char) := do
  let (year, cs) ← field? 0 9999 4 cs
  let (month, cs) ← field? 1 12 2 (← mark? '-' cs)
  let (day, cs) ← field? 1 (daysInMonth year month) 2 (← mark? '-' cs)
  return ({ year, month, day }, cs)

/-- The first nine digits of a fraction of a second. -/
def billionths (digits : List Char) : Nat :=
  let digits := digits.take 9
  Decimal.value digits * Nat.pow 10 (9 - digits.length)

/-- Reads a time of day. A leap second is allowed. -/
def time? (cs : List Char) : Option (Time × List Char) := do
  let (hour, cs) ← field? 0 23 2 cs
  let (minute, cs) ← field? 0 59 2 (← mark? ':' cs)
  let (second, cs) ← field? 0 60 2 (← mark? ':' cs)
  match cs with
  | '.' :: cs =>
    let digits := cs.takeWhile Char.isDigit
    if digits.isEmpty then none
    else return ({ hour, minute, second, nanosecond := billionths digits }, cs.drop digits.length)
  | cs => return ({ hour, minute, second }, cs)

/-- Reads an offset that ends the text, or nothing at its end. -/
def offset? : List Char → Option (Option Offset)
  | [] => some none
  | ['Z'] | ['z'] => some (some .zulu)
  | c :: cs => do
    let sign : Int ← if c = '+' then some 1 else if c = '-' then some (-1) else none
    let (hours, cs) ← field? 0 23 2 cs
    let (minutes, cs) ← field? 0 59 2 (← mark? ':' cs)
    if cs.isEmpty then return some (.minutes (sign * (hours * 60 + minutes))) else none

/-- Reads a date, a time, or a date and time with an optional offset. -/
def moment? (cs : List Char) : Option Value :=
  match date? cs with
  | some (date, []) => some (.moment { date := some date })
  | some (date, c :: cs) => do
    if c ≠ 'T' ∧ c ≠ 't' ∧ c ≠ ' ' then none
    else
      let (time, cs) ← time? cs
      return .moment { date := some date, time := some time, offset := ← offset? cs }
  | none =>
    match time? cs with
    | some (time, []) => some (.moment { time := some time })
    | _ => none

/-- Whether `c` ends a word. -/
def endsWord (c : Char) : Bool :=
  c = ' ' || c = '\t' || c = '\n' || c = '\r' || c = '#' || c = ',' || c = ']' || c = '\x7d'

/-- The word that `cs` begins with, and the text after it. A date and a time may be separated by a
space. -/
def splitWord (cs : List Char) : List Char × List Char :=
  let word := cs.takeWhile fun c => !endsWord c
  let rest := cs.dropWhile fun c => !endsWord c
  match date? word, rest with
  | some (_, []), ' ' :: after =>
    let second := after.takeWhile fun c => !endsWord c
    if (time? second).isSome then
      (word ++ ' ' :: second, after.dropWhile fun c => !endsWord c)
    else (word, rest)
  | _, _ => (word, rest)

/-- Reads a `word`. -/
def ofWord? (word : List Char) : Option Value :=
  if word = "true".toList then some (.boolean true)
  else if word = "false".toList then some (.boolean false)
  else moment? word <|> float? word <|> integer? word

end Numeral128.Toml
