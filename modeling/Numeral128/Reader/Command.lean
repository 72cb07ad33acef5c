import Numeral128.Event
import Numeral128.Reading

/-!
# Commands to a reader

What a reader can be told to do, as data, so that a run is a list of commands. Each step gives an
answer and the events it caused.
-/

namespace Numeral128

/-- What a reader can be told to do. -/
inductive ReaderCommand where
  | read
  | unread
  | readNumeral (t : IntType) (choice : BaseChoice)
  deriving DecidableEq, Repr

/-- What a command gives back. -/
inductive ReaderAnswer where
  | nothing
  | char (c : Option Char)
  | numeral (outcome : Except Rejection Int)

/-- What a command does. -/
structure ReaderStep (σ : Type) where
  reader : σ
  answer : ReaderAnswer := .nothing
  events : List Event := []

/-- The events of reading a numeral: if `detected` has a base, it is reported. -/
def Reading.events {σ : Type} (r : Reading σ) : List Event := r.detected.toList.map .baseDetected

namespace ReaderCommand

variable {σ : Type} [CharReader σ]

/-- Obeys a command given to the reader `s`. -/
def step (s : σ) : ReaderCommand → ReaderStep σ
  | read =>
    let (c, reader) := CharReader.read s
    { reader, answer := .char c }
  | unread => { reader := CharReader.unread s }
  | readNumeral t choice =>
    let reading := Numeral128.readNumeral t choice s
    { reader := reading.reader, answer := .numeral reading.outcome, events := reading.events }

/-- Obeys commands in order, beginning with `s`, and keeps every step. -/
def run (s : σ) : List ReaderCommand → List (ReaderStep σ)
  | [] => []
  | command :: rest => command.step s :: run (command.step s).reader rest

end ReaderCommand

end Numeral128
