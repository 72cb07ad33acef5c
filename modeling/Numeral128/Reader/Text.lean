import Numeral128.Reader.Basic
import Numeral128.Text.Offset

/-!
# Readers of a text

A `ReadPosition` is a byte offset into a text, together with the offset of the character read last
as long as that can be taken back. `TextReader` reads a text through one. Main statements:
`ReadPosition.rest_of_read`, reading a character removes it from what is left, and
`ReadPosition.rest_unread_of_read`, taking it back restores that.
-/

namespace Numeral128

/-- A position in a text, from which the last character may be taken back. -/
structure ReadPosition where
  /-- The byte offset of the next character. -/
  offset : Nat := 0
  /-- The byte offset of the last character while it can be taken back. -/
  last : Option Nat := none
  deriving DecidableEq, Inhabited, Repr

namespace ReadPosition

/-- Reads the character of `text` at the position `p`. At the end nothing changes. -/
def read (text : List Char) (p : ReadPosition) : Option Char × ReadPosition :=
  match suffixAt? text p.offset with
  | some (c :: _) => (some c, { offset := p.offset + c.utf8Size, last := some p.offset })
  | _ => (none, p)

/-- Takes the last character back, at most once. -/
def unread (p : ReadPosition) : ReadPosition :=
  match p.last with
  | some offset => { offset, last := none }
  | none => p

/-- The position at `offset`. Nothing can be taken back there. -/
def ofOffset (offset : Nat) : ReadPosition := { offset, last := none }

/-- The part of `text` from the position `p` on. -/
def rest (text : List Char) (p : ReadPosition) : List Char := (suffixAt? text p.offset).getD []

theorem rest_of_read {text : List Char} {p p' : ReadPosition} {c : Char}
    (h : p.read text = (some c, p')) : p.rest text = c :: p'.rest text := by
  unfold read at h
  split at h
  · rename_i d ds hd
    obtain ⟨rfl, rfl⟩ := Prod.mk.injEq .. ▸ h |>.imp Option.some.inj id
    simp [rest, hd, suffixAt?_add_utf8Size hd]
  · simp at h

theorem read_of_rest {text cs : List Char} {p : ReadPosition} {c : Char}
    (h : p.rest text = c :: cs) :
    p.read text = (some c, { offset := p.offset + c.utf8Size, last := some p.offset }) := by
  unfold rest at h
  unfold read
  cases hs : suffixAt? text p.offset <;> simp_all

theorem read_of_rest_eq_nil {text : List Char} {p : ReadPosition} (h : p.rest text = []) :
    p.read text = (none, p) := by
  unfold rest at h
  unfold read
  cases hs : suffixAt? text p.offset <;> simp_all

/-- Taking a character back leaves the same text as before it was read. -/
theorem rest_unread_of_read {text : List Char} {p p' : ReadPosition} {c : Char}
    (h : p.read text = (some c, p')) : p'.unread.rest text = p.rest text := by
  rw [read_of_rest (rest_of_read h)] at h
  simp only [Prod.mk.injEq, true_and] at h
  rw [← h]
  rfl

end ReadPosition

/-- A reader of a text. -/
structure TextReader where
  text : List Char
  position : ReadPosition := {}
  deriving DecidableEq, Repr

namespace TextReader

/-- The byte offset of the next character of `r`. -/
def offset (r : TextReader) : Nat := r.position.offset

/-- The text that `r` has not read yet. -/
def rest (r : TextReader) : List Char := r.position.rest r.text

/-- The reader of the same text as `r` at another `offset`. -/
def jump (r : TextReader) (offset : Nat) : TextReader := { r with position := .ofOffset offset }

/-- The number of characters that `r` has read. -/
def count (r : TextReader) : Nat := ((prefixAt? r.text r.offset).getD []).length

instance : CharReader TextReader where
  read r :=
    let (c, position) := r.position.read r.text
    (c, { r with position })
  unread r := { r with position := r.position.unread }
  bound r := r.rest.length
  bound_lt {r r' c} h := by
    simp only [Prod.mk.injEq] at h
    obtain ⟨hc, rfl⟩ := h
    have := ReadPosition.rest_of_read (Prod.ext hc rfl : r.position.read r.text = (some c, _))
    simp [rest, this]

end TextReader

end Numeral128
