import Numeral128.Proofs.Reading
import Numeral128.Reader.Command

/-!
# Cursors between characters

A `CharCursor` stands between two characters of a text.  Where a reader of a text keeps byte
offsets, it counts characters, and where the reader keeps the offset to which it can go back, it
only knows whether it may step back.  `TextReader.Tracks r k` says that the reader `r` stands where
the cursor `k` does, with an offset that is a boundary of the text, and that its slot is filled just
in case the cursor may step back, with the offset of the character before it.

Reading and taking back keep the two together (`TextReader.sideBySide_tracks`), and so does all that
is made of these: reading a numeral, and every run of commands (`ReaderCommand.run_alike`).
-/

namespace Numeral128

open CharReader

/-! ### Cursors -/

/-- A position in a text, counted in characters, from which one may step back or not. -/
structure CharCursor where
  text : List Char
  /-- The number of characters before the position. -/
  index : Nat
  /-- Whether the last of them may be taken back. -/
  mayUnread : Bool
  index_le : index ≤ text.length
  index_pos : mayUnread = true → 0 < index

namespace CharCursor

/-- The cursor before `text`. -/
def start (text : List Char) : CharCursor where
  text := text
  index := 0
  mayUnread := false
  index_le := Nat.zero_le _
  index_pos h := nomatch h

/-- The characters from the cursor on. -/
def rest (k : CharCursor) : List Char := k.text.drop k.index

/-- Reads the character at the cursor and steps over it.  At the end nothing changes. -/
def read (k : CharCursor) : Option Char × CharCursor :=
  if h : k.index < k.text.length then
    (some k.text[k.index],
      { k with index := k.index + 1, mayUnread := true, index_le := h,
               index_pos := fun _ => Nat.succ_pos _ })
  else (none, k)

/-- Steps back, at most once. -/
def unread (k : CharCursor) : CharCursor :=
  if k.mayUnread then
    { k with index := k.index - 1, mayUnread := false,
             index_le := (Nat.sub_le _ _).trans k.index_le,
             index_pos := fun h => nomatch h }
  else k

/-- Moves forward by `n` characters, from where one may not step back. -/
def advance (k : CharCursor) (n : Nat) (h : n ≤ k.rest.length) : CharCursor where
  text := k.text
  index := k.index + n
  mayUnread := false
  index_le := by
    have hindex := k.index_le
    rw [rest, List.length_drop] at h
    omega
  index_pos h := nomatch h

instance : CharReader CharCursor where
  read := read
  unread := unread
  bound k := k.text.length - k.index
  bound_lt {k k' c} h := by
    unfold read at h
    split_ifs at h with hlt
    · obtain ⟨-, rfl⟩ := Prod.mk.inj h
      show k.text.length - (k.index + 1) < k.text.length - k.index
      omega
    · exact absurd (congrArg Prod.fst h) (by simp)

/-- Before the end the cursor steps over a character, and may step back then. -/
theorem read_of_lt {k : CharCursor} (h : k.index < k.text.length) :
    CharReader.read k =
      (some k.text[k.index],
        { k with index := k.index + 1, mayUnread := true, index_le := h,
                 index_pos := fun _ => Nat.succ_pos _ }) := dif_pos h

theorem read_of_not_lt {k : CharCursor} (h : ¬ k.index < k.text.length) :
    CharReader.read k = (none, k) := dif_neg h

end CharCursor

/-! ### Readers that stand where a cursor does -/

namespace TextReader

/-- The reader `r` stands where the cursor `k` does, and may step back just in case the cursor may.
-/
structure Tracks (r : TextReader) (k : CharCursor) : Prop where
  text_eq : r.text = k.text
  /-- The offset is the length in bytes of the characters before the cursor. -/
  offset_eq : r.offset = byteLength (k.text.take k.index)
  /-- The offset is a boundary: the text can be cut there. -/
  prefixAt?_eq : prefixAt? r.text r.offset = some (k.text.take k.index)
  suffixAt?_eq : suffixAt? r.text r.offset = some k.rest
  count_eq : r.count = k.index
  rest_eq : r.rest = k.rest
  /-- The slot, if it is filled, is the offset of the character before the cursor. -/
  last_eq : r.position.last =
    if k.mayUnread then some (byteLength (k.text.take (k.index - 1))) else none

namespace Tracks

variable {r : TextReader} {k : CharCursor}

/-- The text, the offset and the slot are enough: the other fields follow from where the reader
stands. -/
theorem of_offset_eq (htext : r.text = k.text)
    (hoffset : r.offset = byteLength (k.text.take k.index))
    (hlast : r.position.last =
      if k.mayUnread then some (byteLength (k.text.take (k.index - 1))) else none) :
    r.Tracks k := by
  have hsplit : r.text = k.text.take k.index ++ k.rest := by
    rw [htext, CharCursor.rest, List.take_append_drop]
  have hprefix : prefixAt? r.text r.offset = some (k.text.take k.index) := by
    rw [hsplit, hoffset, prefixAt?_byteLength]
  have hsuffix : suffixAt? r.text r.offset = some k.rest := by
    rw [hsplit, hoffset, suffixAt?_byteLength]
  refine ⟨htext, hoffset, hprefix, hsuffix, ?_, ?_, hlast⟩
  · rw [count, hprefix, Option.getD_some, List.length_take_of_le k.index_le]
  · show (suffixAt? r.text r.offset).getD [] = k.rest
    rw [hsuffix, Option.getD_some]

theorem start (text : List Char) : ({ text } : TextReader).Tracks (.start text) :=
  of_offset_eq rfl rfl rfl

/-- A reader that tracks the cursor `k` stands between the characters before it and those from it
on. -/
theorem between (h : r.Tracks k) : r.Between (k.text.take k.index) k.rest where
  text_eq := by rw [h.text_eq, CharCursor.rest, List.take_append_drop]
  offset_eq := h.offset_eq
  last_eq o ho := by
    rw [h.last_eq] at ho
    split_ifs at ho with hmay
    have hpos := k.index_pos hmay
    -- the slot is the offset before the last character that was read
    have hlt : k.index - 1 < k.text.length := by have := k.index_le; omega
    refine ⟨k.text.take (k.index - 1), k.text[k.index - 1], ?_, (Option.some.inj ho).symm⟩
    rw [List.take_append_getElem, Nat.sub_add_cancel hpos]

theorem placed (h : r.Tracks k) : r.Placed := ⟨_, _, h.between⟩

/-- Reader `r` and cursor `k` read the same character, and stand behind it together. -/
theorem alike_read (h : r.Tracks k) : Alike Tracks (CharReader.read r) (CharReader.read k) := by
  have hbetween := h.between
  -- the character that is read is the first of the rest, if there is one
  by_cases hlt : k.index < k.text.length
  · have hrest : k.rest = k.text[k.index] :: k.text.drop (k.index + 1) :=
      List.drop_eq_getElem_cons hlt
    rw [hrest] at hbetween
    obtain ⟨r', hread, hr', hlast⟩ := hbetween.read_cons
    rw [hread, CharCursor.read_of_lt hlt]
    refine ⟨rfl, of_offset_eq ?_ ?_ hlast⟩
    · rw [hr'.text_eq, List.take_append_getElem, List.take_append_drop]
    · rw [hr'.offset_eq, List.take_append_getElem]
  · have hrest : k.rest = [] := List.drop_of_length_le (Nat.le_of_not_lt hlt)
    rw [hrest] at hbetween
    rw [hbetween.read_nil, CharCursor.read_of_not_lt hlt]
    exact ⟨rfl, h⟩

theorem unread (h : r.Tracks k) : (CharReader.unread r).Tracks (CharReader.unread k) := by
  show (CharReader.unread r).Tracks k.unread
  have hlast := h.last_eq
  unfold CharCursor.unread
  split_ifs at hlast ⊢ with hmay
  · rw [unread_of_last_some hlast]
    exact of_offset_eq h.text_eq rfl rfl
  · rw [unread_of_last_none hlast]
    exact h

/-- A jump over the characters `cs` that are still to come. -/
theorem jump (h : r.Tracks k) {cs ds : List Char} (hrest : k.rest = cs ++ ds)
    (hlength : cs.length ≤ k.rest.length) :
    (r.jump (r.offset + byteLength cs)).Tracks (k.advance cs.length hlength) := by
  refine of_offset_eq h.text_eq ?_ rfl
  show r.offset + byteLength cs = byteLength (k.text.take (k.index + cs.length))
  -- bytes are added for characters that are passed
  have htake : (k.text.drop k.index).take cs.length = cs := by
    rw [← CharCursor.rest, hrest, List.take_left]
  rw [h.offset_eq, ← byteLength_append, List.take_add, htake]

end Tracks

/-- Readers of a text and cursors do the same, `read` by `read` and `unread` by `unread`. -/
theorem sideBySide_tracks : SideBySide Tracks := ⟨Tracks.alike_read, Tracks.unread⟩

end TextReader

/-! ### Runs of commands -/

namespace ReaderCommand

variable {σ τ : Type} [CharReader σ] [CharReader τ] {R : σ → τ → Prop} {s : σ} {s' : τ}

/-- Readers that are related by `R` answer a command alike. -/
theorem step_alike (h : SideBySide R) (hs : R s s') (command : ReaderCommand) :
    (command.step s).answer = (command.step s').answer ∧
      R (command.step s).reader (command.step s').reader := by
  cases command with
  | read =>
    obtain ⟨hanswer, hs1⟩ := h.read hs
    exact ⟨congrArg ReaderAnswer.char hanswer, hs1⟩
  | unread => exact ⟨rfl, h.unread hs⟩
  | readNumeral t choice =>
    obtain ⟨houtcome, -, hs1⟩ := h.readNumeral_alike t choice hs
    exact ⟨congrArg ReaderAnswer.numeral houtcome, hs1⟩

/-- Readers that are related by `R` give the same answers all along a run. -/
theorem run_alike (h : SideBySide R) (hs : R s s') (commands : List ReaderCommand) :
    List.Forall₂ (fun step step' => step.answer = step'.answer ∧ R step.reader step'.reader)
      (run s commands) (run s' commands) := by
  induction commands generalizing s s' with
  | nil => exact .nil
  | cons command commands ih =>
    have hstep := step_alike h hs command
    exact .cons hstep (ih hstep.2)

end ReaderCommand

end Numeral128
