import Numeral128.Layout

/-!
# Writing numerals

A numeral is a sign, a base prefix and digits, in this order. Negative values are a minus sign and a
magnitude. The digits are written backward into the tail of a buffer of `bufferSize` cells, which
suffices for every 128-bit magnitude in every base. A field narrower than the width of its layout is
filled up before, inside or after the numeral.
-/

namespace Numeral128

/-- The number of cells for digits: the greatest 128-bit magnitude has 43 digits in base eight. -/
def bufferSize : Nat := 43

/-- A buffer that is filled with digits from its end. -/
structure DigitBuffer where
  cells : List Char
  /-- The index of the first written cell. -/
  start : Nat
  /-- What is left to be written. -/
  magnitude : Nat
  deriving DecidableEq, Repr

namespace DigitBuffer

/-- A buffer for the digits of `magnitude` with nothing written. -/
def ofMagnitude (magnitude : Nat) : DigitBuffer :=
  { cells := List.replicate bufferSize '0', start := bufferSize, magnitude }

/-- Writes the last digit of what is left in base `b`, if there is a cell of `buffer` for it. -/
def write? (b : Base) (uppercase : Bool) (buffer : DigitBuffer) : Option DigitBuffer :=
  match buffer.start with
  | 0 => none
  | start + 1 => some
    { cells := buffer.cells.set start (digitChar uppercase (buffer.magnitude % b.toNat)),
      start, magnitude := buffer.magnitude / b.toNat }

theorem start_lt_of_write? {b : Base} {uppercase : Bool} {buffer buffer' : DigitBuffer}
    (h : buffer.write? b uppercase = some buffer') : buffer'.start < buffer.start := by
  unfold write? at h
  split at h
  · simp at h
  · rename_i start hstart
    cases h
    simp [hstart]

/-- Writes digits to `buffer` until nothing is left. At least one is written. -/
def fill (b : Base) (uppercase : Bool) (buffer : DigitBuffer) : DigitBuffer :=
  match _h : buffer.write? b uppercase with
  | none => buffer
  | some next => if next.magnitude = 0 then next else fill b uppercase next
termination_by buffer.start
decreasing_by exact start_lt_of_write? _h

/-- The digits written so far, the most significant first. -/
def toList (buffer : DigitBuffer) : List Char := buffer.cells.drop buffer.start

end DigitBuffer

/-- The digits of `magnitude` in base `b`; zero has one. -/
def digits (b : Base) (uppercase : Bool) (magnitude : Nat) : List Char :=
  ((DigitBuffer.ofMagnitude magnitude).fill b uppercase).toList

namespace Layout

/-- The sign that `layout` shows. -/
def sign (layout : Layout) (negative : Bool) : List Char :=
  if negative then ['-'] else if layout.showPlus then ['+'] else []

/-- The base prefix that `layout` shows. The zero of base eight begins with a zero already. -/
def basePrefix (layout : Layout) (magnitude : Nat) : List Char :=
  match layout.base with
  | .sixteen =>
    if layout.showPrefix then (if layout.uppercase then ['0', 'X'] else ['0', 'x']) else []
  | .eight => if layout.showPrefix ∧ magnitude ≠ 0 then ['0'] else []
  | .ten => []

/-- The numeral of `value` in `layout`, filled up to its width. -/
def render (layout : Layout) (value : Int) : List Char :=
  let head := layout.sign (value < 0) ++ layout.basePrefix value.natAbs
  let body := digits layout.base layout.uppercase value.natAbs
  let padding := List.replicate (layout.width - (head.length + body.length)) layout.fill
  match layout.alignment with
  | .left => head ++ body ++ padding
  | .right => padding ++ head ++ body
  | .internal => head ++ padding ++ body

/-- A `text` filled up to the width of `layout`. Texts have no inside, so internal fill precedes. -/
def pad (layout : Layout) (text : List Char) : List Char :=
  let padding := List.replicate (layout.width - text.length) layout.fill
  match layout.alignment with
  | .left => text ++ padding
  | .right | .internal => padding ++ text

end Layout

end Numeral128
