/-!
# Character readers

A reader gives one character after another and can take the last one back. Every reader is finite: a
bound on what is still to come decreases with each character, and reading recurses on it. `Recorded`
keeps a record of all calls beside any reader.
-/

namespace Numeral128

/-- A finite reader of characters with one character of pushback. -/
class CharReader (σ : Type) where
  /-- The next character, or none at the end, and the reader after it. -/
  read : σ → Option Char × σ
  /-- Takes the last character back. -/
  unread : σ → σ
  /-- A bound on the number of characters to come. -/
  bound : σ → Nat
  /-- Every character uses up some of the bound. -/
  bound_lt {s s' : σ} {c : Char} : read s = (some c, s') → bound s' < bound s

/-- A call of a reader, with the answer it gave. -/
inductive ReaderCall where
  | read (answer : Option Char)
  | unread
  deriving DecidableEq, Repr

/-- A reader together with the calls it has had, the earliest first. -/
structure Recorded (σ : Type) where
  reader : σ
  calls : List ReaderCall := []

instance {σ : Type} [CharReader σ] : CharReader (Recorded σ) where
  read s :=
    let (c, reader) := CharReader.read s.reader
    (c, { reader, calls := s.calls ++ [.read c] })
  unread s := { reader := CharReader.unread s.reader, calls := s.calls ++ [.unread] }
  bound s := CharReader.bound s.reader
  bound_lt {s s' c} h := by
    simp only [Prod.mk.injEq] at h
    obtain ⟨hc, rfl⟩ := h
    exact CharReader.bound_lt (Prod.ext hc rfl)

end Numeral128
