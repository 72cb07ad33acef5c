/-!
# Blank characters

The six characters that separate words and precede numerals. The other spaces of Unicode are
ordinary characters.
-/

namespace Numeral128

/-- Whether `c` is a space, tab, line feed, vertical tab, form feed or carriage return. -/
def isBlank (c : Char) : Bool :=
  c = ' ' || c = '\t' || c = '\n' || c = '\x0b' || c = '\x0c' || c = '\r'

end Numeral128
