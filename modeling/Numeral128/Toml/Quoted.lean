import Numeral128.Base

/-!
# Strings of TOML

Strings stand in double quotes, with escapes, or in single quotes, without; three quotes of either
kind enclose a string of several lines. Every function here reads what follows an opening quote and
gives the string with the text after the closing quote.
-/

namespace Numeral128.Toml

/-- Whether `c` may stand in a string or comment: no control but the tab. -/
def isPlain (c : Char) : Bool := c = '\t' || (0x20 ≤ c.toNat && c.toNat ≠ 0x7f)

/-- The character with the code point `n`, if there is one. -/
def ofCodePoint? (n : Nat) : Option Char :=
  if h : n.isValidChar then some (Char.ofNatAux n h) else none

/-- The character denoted by the hexadecimal digits `cs`. -/
def ofHexDigits? (cs : List Char) : Option Char := do
  let digits ← cs.mapM hexValue?
  ofCodePoint? (digits.foldl (fun n d => 16 * n + d) 0)

/-- Reads the character denoted by exactly `width` hexadecimal digits. -/
def codePoint? (width : Nat) (cs : List Char) : Option (Char × List Char) :=
  if cs.length < width then none
  else (ofHexDigits? (cs.take width)).map fun c => (c, cs.drop width)

theorem length_of_codePoint? {width : Nat} {cs r : List Char} {c : Char}
    (h : codePoint? width cs = some (c, r)) : r.length ≤ cs.length := by
  unfold codePoint? at h
  split at h
  · simp at h
  · obtain ⟨d, -, hd⟩ := Option.map_eq_some_iff.1 h
    cases hd
    simp

/-- Reads an escape after its backslash. -/
def escape? : List Char → Option (Char × List Char)
  | 'b' :: cs => some ('\x08', cs)
  | 't' :: cs => some ('\t', cs)
  | 'n' :: cs => some ('\n', cs)
  | 'f' :: cs => some ('\x0c', cs)
  | 'r' :: cs => some ('\r', cs)
  | '"' :: cs => some ('"', cs)
  | '\\' :: cs => some ('\\', cs)
  | 'u' :: cs => codePoint? 4 cs
  | 'U' :: cs => codePoint? 8 cs
  | _ => none

theorem length_of_escape? {cs r : List Char} {c : Char} (h : escape? cs = some (c, r)) :
    r.length < cs.length := by
  unfold escape? at h
  split at h
  case h_8 | h_9 => exact Nat.lt_succ_of_le (length_of_codePoint? h)
  all_goals grind

/-- Puts `c` in front of a string that was read. -/
def consResult (c : Char) (r : List Char × List Char) : List Char × List Char := (c :: r.1, r.2)

/-- A string in double quotes. -/
def basic? (cs : List Char) : Option (List Char × List Char) :=
  match cs with
  | [] => none
  | '"' :: cs => some ([], cs)
  | '\\' :: cs =>
    match _h : escape? cs with
    | some (c, rest) => (basic? rest).map (consResult c)
    | none => none
  | c :: cs => if isPlain c then (basic? cs).map (consResult c) else none
termination_by cs.length
decreasing_by
  · have := length_of_escape? _h
    simp only [List.length_cons]
    omega
  · simp

/-- A string in single quotes. -/
def literal? : List Char → Option (List Char × List Char)
  | [] => none
  | '\'' :: cs => some ([], cs)
  | c :: cs => if isPlain c then (literal? cs).map (consResult c) else none

/-- Whether a backslash before `cs` hides the end of its line. -/
def endsLine (cs : List Char) : Bool :=
  match cs.dropWhile fun c => c = ' ' || c = '\t' with
  | '\n' :: _ => true
  | '\r' :: '\n' :: _ => true
  | _ => false

/-- The text after blanks and line ends. -/
def skipLines : List Char → List Char
  | '\r' :: '\n' :: cs => skipLines cs
  | c :: cs => if c = ' ' || c = '\t' || c = '\n' then skipLines cs else c :: cs
  | [] => []

theorem length_skipLines (cs : List Char) : (skipLines cs).length ≤ cs.length := by
  fun_induction skipLines cs <;> grind

/-- A string of several lines in double quotes. A backslash at the end of a line hides it together
with all blanks and line ends that follow. Up to two quotes may stand before the closing ones. -/
def multiBasic? (cs : List Char) : Option (List Char × List Char) :=
  match cs with
  | [] => none
  | '"' :: '"' :: '"' :: '"' :: '"' :: cs => some (['"', '"'], cs)
  | '"' :: '"' :: '"' :: '"' :: cs => some (['"'], cs)
  | '"' :: '"' :: '"' :: cs => some ([], cs)
  | '\\' :: cs =>
    if endsLine cs then multiBasic? (skipLines cs)
    else
      match _h : escape? cs with
      | some (c, rest) => (multiBasic? rest).map (consResult c)
      | none => none
  | '\r' :: '\n' :: cs => (multiBasic? cs).map (consResult '\n')
  | c :: cs => if c = '\n' || isPlain c then (multiBasic? cs).map (consResult c) else none
termination_by cs.length
decreasing_by
  · have := length_skipLines cs
    simp only [List.length_cons]
    omega
  · have := length_of_escape? _h
    simp only [List.length_cons]
    omega
  · simp only [List.length_cons]
    omega
  · simp

/-- A string of several lines in single quotes. -/
def multiLiteral? : List Char → Option (List Char × List Char)
  | [] => none
  | '\'' :: '\'' :: '\'' :: '\'' :: '\'' :: cs => some (['\'', '\''], cs)
  | '\'' :: '\'' :: '\'' :: '\'' :: cs => some (['\''], cs)
  | '\'' :: '\'' :: '\'' :: cs => some ([], cs)
  | '\r' :: '\n' :: cs => (multiLiteral? cs).map (consResult '\n')
  | c :: cs => if c = '\n' || isPlain c then (multiLiteral? cs).map (consResult c) else none

/-- The text without a line end at its start. -/
def dropLineEnd : List Char → List Char
  | '\n' :: cs => cs
  | '\r' :: '\n' :: cs => cs
  | cs => cs

/-- Reads a string of any kind, from its opening quote on. -/
def string? : List Char → Option (List Char × List Char)
  | '"' :: '"' :: '"' :: cs => multiBasic? (dropLineEnd cs)
  | '"' :: cs => basic? cs
  | '\'' :: '\'' :: '\'' :: cs => multiLiteral? (dropLineEnd cs)
  | '\'' :: cs => literal? cs
  | _ => none

end Numeral128.Toml
