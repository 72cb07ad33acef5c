import Mathlib.Data.List.Basic
import Numeral128.Reader.Text

/-!
# Readers as lists of characters

A `LawfulReader` gives the characters of a list one after another, and the last character can be put
back in front of the list.  Everything that is read from such a reader is a function of its list
(`LawfulReader.rest`), so nothing further has to be known about offsets or about the character that
can be taken back: `Holds s c cs` says that `c` was read last and that `cs` follows it.

Text readers are lawful.  Their byte offsets are described by `TextReader.Between r before after`:
the text is `before ++ after`, the reader stands between the two, and the slot, if it is filled, is
the offset of the last character of `before`.  Reading and taking back move along the text
(`Between.read_cons`, `Between.read_nil`, `Between.unread`), and `Between.count_eq` turns the byte
offset into the number of characters read.
-/

namespace Numeral128

open CharReader

/-! ### Lawful readers -/

/-- A reader that gives the characters of a list in order and can put the last one back. -/
class LawfulReader (σ : Type) [CharReader σ] where
  /-- The characters to come. -/
  rest : σ → List Char
  /-- What is read is the first character to come. -/
  read_fst (s : σ) : (read s).1 = (rest s).head?
  /-- The others are left. -/
  rest_read (s : σ) : rest (read s).2 = (rest s).tail
  /-- Taking a character back undoes reading it. -/
  rest_unread {s s' : σ} {c : Char} : read s = (some c, s') → rest (unread s') = rest s

namespace LawfulReader

variable {σ : Type} [CharReader σ] [LawfulReader σ]

/-- The character `c` was read last, and `cs` follows it. -/
structure Holds (s : σ) (c : Char) (cs : List Char) : Prop where
  rest_eq : rest s = cs
  rest_unread_eq : rest (unread s) = c :: cs

theorem read_of_rest_nil {s : σ} (h : rest s = []) : ∃ s', read s = (none, s') ∧ rest s' = [] := by
  refine ⟨(read s).2, Prod.ext ?_ rfl, ?_⟩
  · rw [read_fst, h, List.head?_nil]
  · rw [rest_read, h, List.tail_nil]

/-- With `c` to come first, `c` is read, and it can be put back. -/
theorem read_of_rest_cons {s : σ} {c : Char} {cs : List Char} (h : rest s = c :: cs) :
    ∃ s', read s = (some c, s') ∧ Holds s' c cs := by
  have hread : read s = (some c, (read s).2) := by
    refine Prod.ext ?_ rfl
    rw [read_fst, h, List.head?_cons]
  refine ⟨(read s).2, hread, ?_, ?_⟩
  · rw [rest_read, h, List.tail_cons]
  · rw [rest_unread hread, h]

end LawfulReader

/-! ### Byte offsets -/

theorem byteLength_append (xs ys : List Char) :
    byteLength (xs ++ ys) = byteLength xs + byteLength ys := by
  induction xs with
  | nil => rw [List.nil_append, byteLength, Nat.zero_add]
  | cons c xs ih => rw [List.cons_append, byteLength, byteLength, ih, Nat.add_assoc]

theorem byteLength_singleton (c : Char) : byteLength [c] = c.utf8Size := by
  rw [byteLength, byteLength, Nat.add_zero]

/-- Behind the bytes of `xs` stands `ys`. -/
theorem suffixAt?_byteLength (xs ys : List Char) :
    suffixAt? (xs ++ ys) (byteLength xs) = some ys := by
  induction xs with
  | nil => rw [List.nil_append, byteLength, suffixAt?_zero]
  | cons c xs ih =>
    have hc : suffixAt? (c :: (xs ++ ys)) (0 + c.utf8Size) = some (xs ++ ys) :=
      suffixAt?_add_utf8Size (suffixAt?_zero _)
    rw [Nat.zero_add] at hc
    rw [List.cons_append, byteLength, suffixAt?_add hc, ih]

/-- Before the offset behind `xs` stands `xs`. -/
theorem prefixAt?_byteLength (xs ys : List Char) :
    prefixAt? (xs ++ ys) (byteLength xs) = some xs := by
  induction xs with
  | nil => rw [List.nil_append, byteLength, prefixAt?]
  | cons c xs ih =>
    -- a character has a byte at least, so that the offset is not zero
    obtain ⟨k, hk⟩ : ∃ k, c.utf8Size + byteLength xs = k + 1 :=
      ⟨c.utf8Size + byteLength xs - 1, by have := c.utf8Size_pos; omega⟩
    have hsub : k + 1 - c.utf8Size = byteLength xs := by omega
    rw [List.cons_append, byteLength, hk, prefixAt?, if_pos (by omega), hsub, ih, Option.map_some]

/-! ### Text readers -/

namespace TextReader

instance : LawfulReader TextReader where
  rest := TextReader.rest
  read_fst r := by
    show (r.position.read r.text).1 = (r.position.rest r.text).head?
    cases h : r.position.rest r.text with
    | nil => rw [ReadPosition.read_of_rest_eq_nil h, List.head?_nil]
    | cons c cs => rw [ReadPosition.read_of_rest h, List.head?_cons]
  rest_read r := by
    show (r.position.read r.text).2.rest r.text = (r.position.rest r.text).tail
    cases h : r.position.rest r.text with
    | nil => rw [ReadPosition.read_of_rest_eq_nil h, h, List.tail_nil]
    | cons c cs =>
      have hread := ReadPosition.read_of_rest h
      have := ReadPosition.rest_of_read hread
      rw [hread, List.tail_cons]
      exact (List.cons.inj (this.symm.trans h)).2
  rest_unread {r r' c} h := by
    obtain ⟨hc, rfl⟩ := Prod.mk.inj h
    exact ReadPosition.rest_unread_of_read (Prod.ext hc rfl)

theorem lawfulRest_eq (r : TextReader) : LawfulReader.rest r = r.rest := rfl

@[simp] theorem text_read (r : TextReader) : (read r).2.text = r.text := rfl

@[simp] theorem text_unread (r : TextReader) : (unread r).text = r.text := rfl

theorem unread_of_last_none {r : TextReader} (h : r.position.last = none) : unread r = r := by
  show { r with position := r.position.unread } = r
  rw [ReadPosition.unread, h]

/-- A filled slot holds the offset `o` that the reader goes back to. -/
theorem unread_of_last_some {r : TextReader} {o : Nat} (h : r.position.last = some o) :
    unread r = r.jump o := by
  show { r with position := r.position.unread } = r.jump o
  rw [ReadPosition.unread, h]
  rfl

/-- The reader `r` stands between `before` and `after`, and at most the last character of `before`
can be taken back. -/
structure Between (r : TextReader) (before after : List Char) : Prop where
  text_eq : r.text = before ++ after
  offset_eq : r.offset = byteLength before
  last_eq : ∀ o, r.position.last = some o →
    ∃ init c, before = init ++ [c] ∧ o = byteLength init

/-- A reader that has read nothing stands before the whole of `text`. -/
theorem between_start (text : List Char) : Between { text } [] text where
  text_eq := rfl
  offset_eq := rfl
  last_eq o h := by simp at h

namespace Between

variable {r : TextReader} {before after : List Char} {c : Char}

theorem rest_eq (h : r.Between before after) : r.rest = after := by
  show (suffixAt? r.text r.offset).getD [] = after
  rw [h.text_eq, h.offset_eq, suffixAt?_byteLength, Option.getD_some]

/-- As many characters have been read as there are in `before`, although the offset is one of bytes.
-/
theorem count_eq (h : r.Between before after) : r.count = before.length := by
  rw [count, h.text_eq, h.offset_eq, prefixAt?_byteLength, Option.getD_some]

/-- Reading at the end of the text leaves the reader `r` as it is. -/
theorem read_nil (h : r.Between before []) : read r = (none, r) := by
  show ((r.position.read r.text).1, { r with position := (r.position.read r.text).2 }) = (none, r)
  rw [ReadPosition.read_of_rest_eq_nil (show r.position.rest r.text = [] from h.rest_eq)]

/-- Reading moves the reader over the one character `c`, which can be taken back. -/
theorem read_cons (h : r.Between before (c :: after)) :
    ∃ r', read r = (some c, r') ∧ r'.Between (before ++ [c]) after ∧
      r'.position.last = some (byteLength before) := by
  have hread := ReadPosition.read_of_rest (show r.position.rest r.text = c :: after from h.rest_eq)
  refine ⟨{ r with position := { offset := r.offset + c.utf8Size, last := some r.offset } },
    ?_, ⟨?_, ?_, ?_⟩, ?_⟩
  · show ((r.position.read r.text).1, { r with position := (r.position.read r.text).2 }) = _
    rw [hread]
    rfl
  · rw [List.append_assoc, List.singleton_append]
    exact h.text_eq
  · show r.offset + c.utf8Size = _
    rw [byteLength_append, byteLength_singleton, h.offset_eq]
  · intro o ho
    exact ⟨before, c, rfl, (Option.some.inj ho).symm.trans h.offset_eq⟩
  · exact congrArg some h.offset_eq

/-- A slot filled with `o` moves the reader back over one character, `c`. -/
theorem unread_of_last {o : Nat} (h : r.Between before after) (ho : r.position.last = some o) :
    ∃ init c, before = init ++ [c] ∧ (unread r).Between init (c :: after) := by
  obtain ⟨init, c, rfl, rfl⟩ := h.last_eq o ho
  rw [unread_of_last_some ho]
  refine ⟨init, c, rfl, ?_, rfl, ?_⟩
  · show r.text = _
    rw [h.text_eq, List.append_assoc, List.singleton_append]
  · -- after the jump back the slot is empty
    intro o' ho'
    exact absurd ho' (by simp [jump, ReadPosition.ofOffset])

end Between

/-- The reader `r` stands between two characters of its text, or at one of its ends. -/
def Placed (r : TextReader) : Prop := ∃ before after, r.Between before after

/-- Reading keeps the reader between characters. -/
theorem Placed.read {r : TextReader} (h : r.Placed) : (read r).2.Placed := by
  obtain ⟨before, after, h⟩ := h
  cases after with
  | nil =>
    rw [h.read_nil]
    exact ⟨before, [], h⟩
  | cons c after =>
    obtain ⟨r', hread, hr', -⟩ := h.read_cons
    rw [hread]
    exact ⟨_, _, hr'⟩

/-- Taking back keeps `r` there, too: a slot holds the offset before one character. -/
theorem Placed.unread {r : TextReader} (h : r.Placed) : (unread r).Placed := by
  obtain ⟨before, after, h⟩ := h
  cases ho : r.position.last with
  | none =>
    rw [unread_of_last_none ho]
    exact ⟨before, after, h⟩
  | some o =>
    obtain ⟨init, c, -, hr⟩ := h.unread_of_last ho
    exact ⟨_, _, hr⟩

/-- The bytes that `r` has read and those to come make up the text. -/
theorem Placed.offset_add {r : TextReader} (h : r.Placed) :
    r.offset + byteLength r.rest = byteLength r.text := by
  obtain ⟨before, after, h⟩ := h
  rw [h.offset_eq, h.rest_eq, h.text_eq, byteLength_append]

/-- What is to come is the text without the characters that `r` has read. -/
theorem Placed.rest_eq_drop {r : TextReader} (h : r.Placed) : r.rest = r.text.drop r.count := by
  obtain ⟨before, after, h⟩ := h
  rw [h.rest_eq, h.count_eq, h.text_eq, List.drop_left]

/-- The characters that `r` has read and those to come make up the text. -/
theorem Placed.count_add {r : TextReader} (h : r.Placed) :
    r.count + r.rest.length = r.text.length := by
  obtain ⟨before, after, h⟩ := h
  rw [h.count_eq, h.rest_eq, h.text_eq, List.length_append]

end TextReader

end Numeral128
