import Numeral128.Scanner.Session

/-!
# Sessions with a flag and a rejection

A session may keep its failure in two fields, as a stream does: the flag `failed`, which every scan
looks at, and `lastError`, the rejection of the numeral that raised the flag.  A word that is not
there raises the flag alone.  The two fields are written one by one, so that nothing in their types
keeps a rejection from staying behind when the flag is down.
-/

namespace Numeral128

/-- A `reader` of a text with a base `choice`, a failure in the two fields `failed` and `lastError`,
and `variables`. -/
structure FlaggedSession where
  reader : TextReader
  choice : BaseChoice := .detect
  /-- Whether a scan has failed since the last reset. -/
  failed : Bool := false
  /-- The rejection behind the failure. -/
  lastError : Option Rejection := none
  /-- The content of the variable of each type. -/
  «variables» : IntType → Int

/-- What a command does to a session with two fields. -/
structure FlaggedStep where
  session : FlaggedSession
  answer : ScanAnswer := .nothing
  events : List Event := []

namespace FlaggedSession

/-- Whether every character of the text of `s` has been read. -/
def atEnd (s : FlaggedSession) : Bool := byteLength s.reader.text ≤ s.reader.offset

/-- Forgets the failure of `s`, both of its fields. -/
def reset (s : FlaggedSession) : FlaggedSession := { s with failed := false, lastError := none }

/-- Scans an integer into the variable of type `t`. A rejection raises the flag and is kept. -/
def scanInt (t : IntType) (s : FlaggedSession) : FlaggedStep :=
  if s.failed then { session := s }
  else
    let reading := readNumeral t s.choice s.reader
    match reading.outcome with
    | .ok value =>
      { session :=
          { s with reader := reading.reader, «variables» := Session.assign s.«variables» t value },
        events := reading.events }
    | .error reason =>
      { session := { s with reader := reading.reader, failed := true, lastError := some reason },
        events := reading.events ++ [.scanFailed reason reading.reader.offset s.choice] }

/-- Scans a word. If there is none the flag is raised, and `lastError` is not written. -/
def scanWord (s : FlaggedSession) : FlaggedStep :=
  if s.failed then { session := s, answer := .word none }
  else
    let blanks := s.reader.rest.takeWhile isBlank
    let word := (s.reader.rest.dropWhile isBlank).takeWhile fun c => !isBlank c
    if word.isEmpty then
      { session := { s with reader := s.reader.jump (byteLength s.reader.text), failed := true },
        answer := .word none }
    else
      let offset := s.reader.offset + byteLength blanks + byteLength word
      { session := { s with reader := s.reader.jump offset }, answer := .word (some word) }

/-- Obeys a command given to `s`. -/
def step (s : FlaggedSession) : ScanCommand → FlaggedStep
  | .scanInt t => s.scanInt t
  | .scanWord => s.scanWord
  | .reset => { session := s.reset }
  | .setChoice choice => { session := { s with choice } }
  | .reader command =>
    let step := command.step s.reader
    { session := { s with reader := step.reader }, answer := .reader step.answer,
      events := step.events }

/-- Obeys commands in order, beginning with `s`, and keeps every step. -/
def run (s : FlaggedSession) : List ScanCommand → List FlaggedStep
  | [] => []
  | command :: rest => s.step command :: (s.step command).session.run rest

end FlaggedSession

end Numeral128
