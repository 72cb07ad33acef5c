import Mathlib.Data.List.Induction
import Numeral128.Proofs.Rendering
import Numeral128.Toml.Document

/-!
# Characters of documents by their code points

Every character can be written in a string of a document, by its code point in eight hexadecimal
digits (`Toml.escaped`), and is read back (`Toml.basic?_escaped`).  So for every fill there is a
document that gives it and nothing else (`Toml.parse?_fillDocument`).
-/

namespace Numeral128

/-! ### Hexadecimal digits -/

theorem Base.hexValue?_of_isDigit {c : Char} (h : Base.sixteen.isDigit c = true) :
    hexValue? c = some (Base.sixteen.digitValue c) := by
  obtain ⟨d, hd⟩ := Option.isSome_iff_exists.mp h
  rw [digitValue_of_digit? hd]
  exact (Option.filter_eq_some_iff.mp hd).1

theorem mapM_hexValue? {cs : List Char} (h : ∀ c ∈ cs, Base.sixteen.isDigit c = true) :
    cs.mapM hexValue? = some (cs.map Base.sixteen.digitValue) := by
  induction cs with
  | nil => rfl
  | cons c cs ih =>
    rw [List.forall_mem_cons] at h
    rw [List.mapM_cons, Base.hexValue?_of_isDigit h.1, ih h.2]
    rfl

theorem foldl_digitValue (cs : List Char) :
    (cs.map Base.sixteen.digitValue).foldl (fun n d => 16 * n + d) 0 = Base.sixteen.valueOf cs := by
  induction cs using List.reverseRecOn with
  | nil => rfl
  | append_singleton cs c ih =>
    rw [List.map_append, List.foldl_append, ih, Base.valueOf_concat, Nat.mul_comm]
    rfl

namespace Toml

/-- The code point of `c`, in eight hexadecimal digits. -/
def codeDigits (c : Char) : List Char := lastDigits .sixteen false c.toNat 8

/-- The character `c` as an escape in a string. -/
def escaped (c : Char) : List Char := '\\' :: 'U' :: codeDigits c

theorem ofCodePoint?_toNat (c : Char) : ofCodePoint? c.toNat = some c := by
  have hvalid : c.toNat.isValidChar := c.valid
  rw [ofCodePoint?, dif_pos hvalid]
  rfl

/-- Code points fit in eight digits, so that `c` is found again. -/
theorem ofHexDigits?_codeDigits (c : Char) : ofHexDigits? (codeDigits c) = some c := by
  have hdigits : ∀ d ∈ codeDigits c, Base.sixteen.isDigit d = true := fun _ hd =>
    isDigit_of_mem_lastDigits .sixteen false c.toNat hd
  have hsmall : c.toNat < 16 ^ 8 := by
    -- no code point is above `0x10FFFF`
    have hvalid : c.toNat.isValidChar := c.valid
    unfold Nat.isValidChar at hvalid
    omega
  have hvalue : Base.sixteen.valueOf (codeDigits c) = c.toNat :=
    (valueOf_lastDigits .sixteen false c.toNat 8).trans (Nat.mod_eq_of_lt hsmall)
  rw [ofHexDigits?, mapM_hexValue? hdigits]
  show ofCodePoint? _ = _
  rw [foldl_digitValue, hvalue, ofCodePoint?_toNat]

/-- The eight digits are taken off, and `rest` is left. -/
theorem codePoint?_codeDigits (c : Char) (rest : List Char) :
    codePoint? 8 (codeDigits c ++ rest) = some (c, rest) := by
  have hlength : (codeDigits c).length = 8 := length_lastDigits .sixteen false c.toNat 8
  have hlong : ¬ (codeDigits c ++ rest).length < 8 := by
    rw [List.length_append]
    omega
  rw [codePoint?, if_neg hlong, List.take_left' hlength, List.drop_left' hlength,
    ofHexDigits?_codeDigits]
  rfl

/-- **One character.**  The escape of `c` is read back, and it ends where it should. -/
theorem basic?_escaped (c : Char) (rest : List Char) :
    basic? (escaped c ++ '"' :: rest) = some ([c], rest) := by
  have hescape : escape? ('U' :: (codeDigits c ++ '"' :: rest)) = some (c, '"' :: rest) :=
    codePoint?_codeDigits c ('"' :: rest)
  have hend : basic? ('"' :: rest) = some ([], rest) := by rw [basic?]
  show basic? ('\\' :: 'U' :: (codeDigits c ++ '"' :: rest)) = _
  -- the reader has met a backslash, so the escape decides
  rw [basic?]
  split
  next d after hread =>
    rw [hescape] at hread
    cases hread
    rw [hend]
    rfl
  next hread =>
    rw [hescape] at hread
    cases hread

/-! ### Documents of one line -/

section Line

variable {d d' : Draft} {c : Char} {cs afterKey afterMark afterValue rest : List Char}
variable {path : List String} {key : String} {v : Value}

/-- A line that gives `key` the value `v`, step by step: key, mark, value, end, and the new entry in
the draft. -/
theorem line?_of_key? (hc : c ≠ '#' ∧ c ≠ '[') (hkey : key? (c :: cs) = some (path, key, afterKey))
    (hmark : mark? '=' afterKey = some afterMark)
    (hvalue : value? nestingLimit (skipBlanks afterMark) = some (v, afterValue))
    (hend : endLine? afterValue = some rest) (hinsert : d.insert path key v = some d') :
    line? d (c :: cs) = some (d', rest) := by
  unfold line?
  split
  -- the line is neither a comment nor the header of a table
  next h => exact absurd (List.cons.inj h).1 hc.1
  next h => exact absurd (List.cons.inj h).1 hc.2
  next h => exact absurd (List.cons.inj h).1 hc.2
  next =>
    show (key? (c :: cs) >>= _) = _
    rw [hkey]
    show (mark? '=' afterKey >>= _) = _
    rw [hmark]
    show (value? nestingLimit (skipBlanks afterMark) >>= _) = _
    rw [hvalue]
    show (endLine? afterValue >>= _) = _
    rw [hend]
    show (d.insert path key v >>= _) = _
    rw [hinsert]
    rfl

/-- A document that consists of one line.  Its first character `c` begins that line. -/
theorem parse?_of_line? {entries : List (String × Value)}
    (hc : c ≠ '\ufeff' ∧ c ≠ ' ' ∧ c ≠ '\t' ∧ c ≠ '\n' ∧ c ≠ '\r')
    (hline : line? {} (c :: cs) = some (d, []))
    (hresolve : (Value.table (entriesToValues d.entries)).resolve? = some (.table entries)) :
    parse? (c :: cs) = some entries := by
  -- nothing is skipped before the line
  have hblanks : skipBlanks (c :: cs) = c :: cs := by
    rw [skipBlanks, List.dropWhile_cons_of_neg (by simp [hc])]
  have hlines : lines? ((c :: cs).length + 1) {} (c :: cs) = some d := by
    rw [List.length_cons, lines?, hblanks]
    split
    next h => cases h
    next h => exact absurd (List.cons.inj h).1 hc.2.2.2.1
    next h => exact absurd (List.cons.inj h).1 hc.2.2.2.2
    next =>
      show (line? {} (c :: cs) >>= _) = _
      rw [hline]
      rfl
  unfold parse?
  split
  next h => exact absurd (List.cons.inj h).1 hc.1
  next =>
    show (lines? _ _ _ >>= _) = _
    rw [hlines]
    show ((Value.table (entriesToValues d.entries)).resolve? >>= _) = _
    rw [hresolve]
    rfl

end Line

/-! ### Documents that give a fill -/

/-- What stands before the value in a document that gives a fill. -/
def fillKey : List Char :=
  ['f', 'o', 'r', 'm', 'a', 't', '.', 'f', 'i', 'l', 'l', ' ', '=', ' ']

/-- A document that gives the fill `c` and nothing else. -/
def fillDocument (c : Char) : String := String.ofList (fillKey ++ '"' :: (escaped c ++ ['"']))

theorem keyPart?_format (cs : List Char) :
    keyPart? (['f', 'o', 'r', 'm', 'a', 't'] ++ '.' :: cs) = some ("format", '.' :: cs) := by
  simp [keyPart?, isBareKey, List.takeWhile, List.dropWhile]

theorem keyPart?_fill (cs : List Char) :
    keyPart? (['f', 'i', 'l', 'l'] ++ ' ' :: cs) = some ("fill", ' ' :: cs) := by
  simp [keyPart?, isBareKey, List.takeWhile, List.dropWhile]

/-- The key is read as a path of two parts, up to the mark. -/
theorem key?_fillKey (cs : List Char) :
    key? (fillKey ++ cs) = some (["format"], "fill", '=' :: ' ' :: cs) := by
  -- each dot uses up one level of nesting, which is written so that `keyParts?` unfolds
  have hlimit : nestingLimit = 77 + 1 + 1 := rfl
  have hlast : keyParts? (77 + 1) (['f', 'i', 'l', 'l'] ++ ' ' :: '=' :: ' ' :: cs) =
      some (["fill"], '=' :: ' ' :: cs) := by
    rw [keyParts?]
    show (keyPart? (['f', 'i', 'l', 'l'] ++ ' ' :: _) >>= _) = _
    rw [keyPart?_fill]
    rfl
  have hparts : keyParts? (77 + 1 + 1) (fillKey ++ cs) =
      some (["format", "fill"], '=' :: ' ' :: cs) := by
    rw [keyParts?]
    show (keyPart? (['f', 'o', 'r', 'm', 'a', 't'] ++ '.' :: _) >>= _) = _
    rw [keyPart?_format]
    show (keyParts? (77 + 1) (['f', 'i', 'l', 'l'] ++ ' ' :: '=' :: ' ' :: cs)).map
      (fun read => ("format" :: read.1, read.2)) = _
    rw [hlast]
    rfl
  rw [key?, hlimit, hparts]
  rfl

theorem value?_escaped (c : Char) (depth : Nat) :
    value? depth ('"' :: (escaped c ++ ['"'])) = some (.text (String.singleton c), []) := by
  have hstring : string? ('"' :: (escaped c ++ ['"'])) = some ([c], []) := basic?_escaped c []
  rw [value?, value?.text?, hstring]
  rfl

/-- **Every fill.**  The document for the fill `c` is read to a table with this fill and nothing
else. -/
theorem parse?_fillDocument (c : Char) : parse? (fillDocument c).toList =
    some [("format", .table [("fill", .text (String.singleton c))])] := by
  have hvalue := value?_escaped c nestingLimit
  have hinsert : Draft.insert {} ["format"] "fill" (.text (String.singleton c)) =
      some { entries := [("format", .table .dotted
        [("fill", .leaf (.text (String.singleton c)))])] } := rfl
  have hline := line?_of_key? (by decide) (key?_fillKey ('"' :: (escaped c ++ ['"']))) rfl hvalue
    rfl hinsert
  have hformat : "format" ≠ momentKey := by decide
  have hfill : "fill" ≠ momentKey := by decide
  rw [fillDocument, String.toList_ofList]
  -- neither key makes its table stand for a moment
  refine parse?_of_line? (by decide) hline ?_
  simp [entriesToValues, Node.toValue, Value.resolve?, taggedValue?, resolveEntries?, hformat,
    hfill]

end Toml

end Numeral128
