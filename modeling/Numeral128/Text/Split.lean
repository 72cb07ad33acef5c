/-!
# Parts of a text between separators
-/

namespace Numeral128.Text

/-- The parts of a text before, between and after the characters `separator`. There is one at
least. -/
def splitAt (separator : Char) : List Char → List (List Char)
  | [] => [[]]
  | c :: cs =>
    if c = separator then [] :: splitAt separator cs
    else match splitAt separator cs with
      | part :: parts => (c :: part) :: parts
      | [] => [[c]]

/-- The parts of `text` between separators that are not empty. -/
def partsOf (separator : Char) (text : String) : List String :=
  ((splitAt separator text.toList).filter fun part => !part.isEmpty).map String.ofList

end Numeral128.Text
