import Numeral128.Text.Printable

/-!
# Quoted characters and texts

Messages show characters in single and texts in double quotes. What has no visible form of its own
is escaped: a few controls by a letter, the rest by its code point. Each form escapes its own quote
only.
-/

namespace Numeral128.Text

/-- The digits of the code point `n` in base sixteen. -/
def hexText (n : Nat) : String := String.ofList (Nat.toDigits 16 n)

/-- A character as it stands between two `quote` characters. -/
def escapeChar (quote : Char) (c : Char) : String :=
  if c = '\x00' then "\\0"
  else if c = '\t' then "\\t"
  else if c = '\n' then "\\n"
  else if c = '\r' then "\\r"
  else if c = '\\' then "\\\\"
  else if c = quote then String.ofList ['\\', quote]
  else if isExtender c || !isPrintable c then "\\u\x7b" ++ hexText c.toNat ++ "\x7d"
  else String.singleton c

/-- The character `c` in single quotes. -/
def quoteChar (c : Char) : String := "'" ++ escapeChar '\'' c ++ "'"

/-- The text `s` in double quotes. -/
def quoteText (s : String) : String :=
  "\"" ++ String.join (s.toList.map (escapeChar '"')) ++ "\""

end Numeral128.Text
