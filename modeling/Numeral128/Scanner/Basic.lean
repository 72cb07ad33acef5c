import Numeral128.Reader.Command

/-!
# Scanners

A scanner takes integers and words from a text. It has a base choice and a failure that sticks:
after a scan has failed, later ones do nothing until the scanner is reset. Commands to the reader of
a scanner do not look at the failure.
-/

namespace Numeral128

/-- Whether a scan has failed, and how. -/
inductive ScanStatus where
  | ready
  /-- No word was left. -/
  | outOfWords
  /-- A numeral was rejected. -/
  | rejected (reason : Rejection)
  deriving DecidableEq, Inhabited, Repr

/-- A `reader` of a text with a base `choice` and the `status` of its scans. -/
structure Scanner where
  reader : TextReader
  choice : BaseChoice := .detect
  status : ScanStatus := .ready
  deriving DecidableEq, Repr

/-- What scanning an integer does. -/
structure IntScan where
  scanner : Scanner
  /-- The integer, if there is one. -/
  value : Option Int := none
  /-- The events on the way, in order. -/
  events : List Event := []

namespace Scanner

/-- Whether a scan of `s` has failed since the last reset. -/
def failed (s : Scanner) : Bool := s.status ≠ .ready

/-- The rejection behind the failure of `s`. Running out of words has none. -/
def rejection? (s : Scanner) : Option Rejection :=
  match s.status with
  | .rejected reason => some reason
  | _ => none

/-- The byte offset in the text of the next character of `s`. -/
def offset (s : Scanner) : Nat := s.reader.offset

/-- The text that `s` has not read yet. -/
def rest (s : Scanner) : List Char := s.reader.rest

/-- Forgets the failure of `s`. Scanning goes on where it stopped. -/
def reset (s : Scanner) : Scanner := { s with status := .ready }

/-- Sets the base `choice` of later scans. -/
def setChoice (s : Scanner) (choice : BaseChoice) : Scanner := { s with choice }

/-- Scans an integer of type `t`. A failed scanner is left alone. -/
def scanInt (t : IntType) (s : Scanner) : IntScan :=
  if s.failed then { scanner := s }
  else
    let reading := readNumeral t s.choice s.reader
    match reading.outcome with
    | .ok value =>
      { scanner := { s with reader := reading.reader }, value := some value,
        events := reading.events }
    | .error reason =>
      { scanner := { s with reader := reading.reader, status := .rejected reason },
        events := reading.events ++ [.scanFailed reason reading.reader.offset s.choice] }

/-- Scans a run of characters that are not blank, after any blanks. If `s` has none left, this fails
at the end of the text. -/
def scanWord (s : Scanner) : Option (List Char) × Scanner :=
  if s.failed then (none, s)
  else
    let blanks := s.rest.takeWhile isBlank
    let word := (s.rest.dropWhile isBlank).takeWhile fun c => !isBlank c
    if word.isEmpty then
      (none, { s with reader := s.reader.jump (byteLength s.reader.text), status := .outOfWords })
    else
      let offset := s.offset + byteLength blanks + byteLength word
      (some word, { s with reader := s.reader.jump offset })

end Scanner

end Numeral128
