import Numeral128.BaseChoice
import Numeral128.Rejection

/-!
# Events

What is reported while numerals are read: the base that a prefix selected, and every scan that
failed. An event has a level, a target (the part of the library it comes from), a message and named
values.
-/

namespace Numeral128

/-- How important an event is, from least to most detailed. -/
inductive Level where
  | error
  | warn
  | info
  | debug
  | trace
  deriving DecidableEq, Inhabited, Repr

/-- The level as lines of a log show it. -/
def Level.label : Level → String
  | error => "ERROR"
  | warn => "WARN"
  | info => "INFO"
  | debug => "DEBUG"
  | trace => "TRACE"

/-- Something that happened while a numeral was read. -/
inductive Event where
  /-- The base was found by the prefix of a numeral. -/
  | baseDetected (base : Base)
  /-- A scan failed at a byte offset of its text. -/
  | scanFailed (reason : Rejection) (offset : Nat) (choice : BaseChoice)
  deriving DecidableEq, Repr

/-- A value that an event carries. -/
inductive FieldValue where
  | text (s : String)
  | number (n : Nat)
  deriving DecidableEq, Repr

/-- The value as running text. -/
def FieldValue.toText : FieldValue → String
  | text s => s
  | number n => toString n

namespace Event

/-- The importance of an event. -/
def level : Event → Level
  | baseDetected _ => .trace
  | scanFailed .. => .debug

/-- The part of the library that an event comes from. -/
def target : Event → String
  | baseDetected _ => "int128io::decoder"
  | scanFailed .. => "int128io::stream"

/-- What happened, in words. -/
def message : Event → String
  | baseDetected _ => "detected numeral base"
  | scanFailed .. => "failed to extract a 128-bit integer"

/-- The named values of an event, besides its message. -/
def fields : Event → List (String × FieldValue)
  | baseDetected base => [("radix", .text base.label)]
  | scanFailed reason offset choice =>
    [("error", .text reason.message), ("position", .number offset), ("mode", .text choice.label)]

end Event

end Numeral128
