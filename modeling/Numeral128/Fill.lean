import Numeral128.Datum

/-!
# Reading a fill character

A fill character is given by a text of one character, or by one of the numbers zero to nine for its
digit, since settings that look like numbers arrive as numbers. What is found where a fill should be
is first told apart (`FillPayload`), and then becomes a character (`FillPayload.toChar?`).
-/

namespace Numeral128

/-- One more than the greatest number of 64 bits. -/
def sizeBound : Nat := Nat.pow 2 64

/-- What a fill character is made from. -/
inductive FillPayload where
  | text (s : String)
  /-- A number of at most 64 bits. -/
  | digit (n : Nat)
  deriving DecidableEq, Repr

/-- Why a payload is no fill character. -/
inductive FillError where
  /-- A text that has no or several characters. -/
  | notSingle (text : String)
  /-- A number above nine. -/
  | notDigit (n : Nat)
  deriving DecidableEq, Repr

/-- The wording of an error. -/
def FillError.message : FillError → String
  | notSingle text => "fill must be a single character, got " ++ Text.quoteText text
  | notDigit n => "fill must be a single character, got " ++ toString n

namespace FillPayload

/-- The number `n` if it fits in 32 bits. It is refused otherwise, and never cut. -/
def narrow? (n : Nat) : Option Nat := if n < Nat.pow 2 32 then some n else none

/-- The character of the digit `n` in base ten. -/
def decimalDigit? (n : Nat) : Option Char :=
  if n < 10 then some (Char.ofNat ('0'.toNat + n)) else none

/-- The fill character that a payload stands for. -/
def toChar? : FillPayload → Except FillError Char
  | text s =>
    match s.toList with
    | [c] => .ok c
    | _ => .error (.notSingle s)
  | digit n =>
    match (narrow? n).bind decimalDigit? with
    | some c => .ok c
    | none => .error (.notDigit n)

/-- The wording where neither kind of payload is found. -/
def mismatchMessage : String := "data did not match any variant of untagged enum FillPayload"

end FillPayload

/-- The payload that something found is, a text or a number below `sizeBound`. -/
def Found.payload? : Found → Option FillPayload
  | .scalar (.text s) => some (.text s)
  | .scalar (.int (.ofNat n)) => if n < sizeBound then some (.digit n) else none
  | _ => none

end Numeral128
