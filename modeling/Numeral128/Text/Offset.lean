/-!
# Byte offsets into a text

A text is a list of characters, and a position in it is the number of bytes that the characters
before it take in UTF-8. Not every number is a position: `suffixAt?` and `prefixAt?` answer nothing
for an offset inside a character or past the end.
-/

namespace Numeral128

/-- The length of a text in bytes. -/
def byteLength : List Char → Nat
  | [] => 0
  | c :: cs => c.utf8Size + byteLength cs

/-- The text from a byte offset on. -/
def suffixAt? : List Char → Nat → Option (List Char)
  | cs, 0 => some cs
  | [], _ + 1 => none
  | c :: cs, n + 1 => if c.utf8Size ≤ n + 1 then suffixAt? cs (n + 1 - c.utf8Size) else none

/-- The text before a byte offset. -/
def prefixAt? : List Char → Nat → Option (List Char)
  | _, 0 => some []
  | [], _ + 1 => none
  | c :: cs, n + 1 =>
    if c.utf8Size ≤ n + 1 then (prefixAt? cs (n + 1 - c.utf8Size)).map (c :: ·) else none

@[simp] theorem suffixAt?_zero (cs : List Char) : suffixAt? cs 0 = some cs := by
  cases cs <;> rfl

/-- Offsets add up: going on by `m` bytes from the suffix at `n` gives the suffix at `n + m`. -/
theorem suffixAt?_add {cs ds : List Char} {n : Nat} (h : suffixAt? cs n = some ds) (m : Nat) :
    suffixAt? cs (n + m) = suffixAt? ds m := by
  fun_induction suffixAt? cs n with
  | case1 => simp_all
  | case2 => simp at h
  | case3 c cs n hc ih =>
    rw [← ih h, show n + 1 + m = n + m + 1 by omega, suffixAt?, if_pos (by omega)]
    congr 1
    omega
  | case4 => simp at h

/-- The suffix after the character at an offset. -/
theorem suffixAt?_add_utf8Size {cs ds : List Char} {n : Nat} {c : Char}
    (h : suffixAt? cs n = some (c :: ds)) : suffixAt? cs (n + c.utf8Size) = some ds := by
  rw [suffixAt?_add h]
  obtain ⟨k, hk⟩ : ∃ k, c.utf8Size = k + 1 := ⟨c.utf8Size - 1, by have := c.utf8Size_pos; omega⟩
  rw [hk, suffixAt?, hk, if_pos (Nat.le_refl _), Nat.sub_self, suffixAt?_zero]

end Numeral128
