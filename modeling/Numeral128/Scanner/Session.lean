import Numeral128.Scanner.Basic

/-!
# Sessions with a scanner

A session is a scanner with a variable of each integer type that scans write to. Its commands are
data, so that a run is a list of them; each step gives a result and the events it caused.
-/

namespace Numeral128

/-- What a session can be told to do. -/
inductive ScanCommand where
  /-- Scans into the variable of type `t`. -/
  | scanInt (t : IntType)
  | scanWord
  | reset
  | setChoice (choice : BaseChoice)
  /-- Lets the reader of the scanner obey a command, whether or not a scan has failed. -/
  | reader (command : ReaderCommand)
  deriving DecidableEq, Repr

/-- A `scanner` and the `variables` that scans write to. -/
structure Session where
  scanner : Scanner
  /-- The content of the variable of each type. -/
  «variables» : IntType → Int

/-- What a command gives back. -/
inductive ScanAnswer where
  | nothing
  | word (w : Option (List Char))
  | reader (answer : ReaderAnswer)

/-- What a command does. -/
structure SessionStep where
  session : Session
  answer : ScanAnswer := .nothing
  events : List Event := []

namespace Session

/-- Writes the variable of the type `t`. -/
def assign (values : IntType → Int) (t : IntType) (value : Int) : IntType → Int :=
  fun u => if u = t then value else values u

/-- Obeys a command given to `s`. A variable is written only if its scan succeeds. -/
def step (s : Session) : ScanCommand → SessionStep
  | .scanInt t =>
    let scan := s.scanner.scanInt t
    { session :=
        { scanner := scan.scanner,
          «variables» := match scan.value with
            | some value => assign s.«variables» t value
            | none => s.«variables» },
      events := scan.events }
  | .scanWord =>
    let (word, scanner) := s.scanner.scanWord
    { session := { s with scanner }, answer := .word word }
  | .reset => { session := { s with scanner := s.scanner.reset } }
  | .setChoice choice => { session := { s with scanner := s.scanner.setChoice choice } }
  | .reader command =>
    let step := command.step s.scanner.reader
    { session := { s with scanner := { s.scanner with reader := step.reader } },
      answer := .reader step.answer, events := step.events }

/-- Obeys commands in order, beginning with `s`, and keeps every step. -/
def run (s : Session) : List ScanCommand → List SessionStep
  | [] => []
  | command :: rest => s.step command :: (s.step command).session.run rest

/-- The events of a run of `commands`, in order. -/
def events (s : Session) (commands : List ScanCommand) : List Event :=
  (s.run commands).flatMap (·.events)

end Session

end Numeral128
