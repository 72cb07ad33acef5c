import Numeral128.Decimal.Binary64

/-!
# Values of a TOML document

A document is a table. Dates and times keep their parts and are written in one normal form.
-/

namespace Numeral128.Toml

/-- A day of the calendar. -/
structure Date where
  year : Nat
  month : Nat
  day : Nat
  deriving DecidableEq, Repr

/-- A time of day. Fractions of a second are counted in billionths. -/
structure Time where
  hour : Nat
  minute : Nat
  second : Nat
  nanosecond : Nat := 0
  deriving DecidableEq, Repr

/-- The distance of a local time from universal time. -/
inductive Offset where
  | zulu
  /-- A distance in minutes. -/
  | minutes (n : Int)
  deriving DecidableEq, Repr

/-- A date, a time of day or both, the latter perhaps with an offset. -/
structure Moment where
  date : Option Date := none
  time : Option Time := none
  offset : Option Offset := none
  deriving DecidableEq, Repr

/-- A value. The entries of a table have different keys. -/
inductive Value where
  | text (s : String)
  | integer (n : Int)
  | float (x : Binary64)
  | boolean (b : Bool)
  | moment (m : Moment)
  | array (items : List Value)
  | table (entries : List (String × Value))

/-- A number with at least `width` digits. -/
def padded (width n : Nat) : String :=
  let digits := Nat.toDigits 10 n
  String.ofList (List.replicate (width - digits.length) '0' ++ digits)

/-- The date `d` with a year of four digits. -/
def Date.toText (d : Date) : String :=
  padded 4 d.year ++ "-" ++ padded 2 d.month ++ "-" ++ padded 2 d.day

/-- The time of day `t`. A fraction of a second is written without zeros at its end. -/
def Time.toText (t : Time) : String :=
  let fraction := (padded 9 t.nanosecond).toList.reverse.dropWhile (· = '0') |>.reverse
  padded 2 t.hour ++ ":" ++ padded 2 t.minute ++ ":" ++ padded 2 t.second ++
    (if fraction.isEmpty then "" else "." ++ String.ofList fraction)

/-- An offset in hours and minutes. -/
def Offset.toText : Offset → String
  | zulu => "Z"
  | minutes n =>
    (if n < 0 then "-" else "+") ++ padded 2 (n.natAbs / 60) ++ ":" ++ padded 2 (n.natAbs % 60)

/-- The normal form of the date or time `m`. -/
def Moment.toText (m : Moment) : String :=
  (m.date.map Date.toText).getD "" ++
    (if m.date.isSome && m.time.isSome then "T" else "") ++
    (m.time.map Time.toText).getD "" ++ (m.offset.map Offset.toText).getD ""

end Numeral128.Toml
