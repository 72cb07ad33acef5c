/-!
# Spelled alternatives

Types of finitely many alternatives whose values are written as words. Settings and serialized forms
read them by their spellings.
-/

namespace Numeral128

/-- A type of finitely many alternatives, each with one spelling. -/
class Spelled (α : Type) where
  /-- The name of the type in messages. -/
  typeName : String
  /-- The alternatives in order, with their spellings. -/
  spellings : List (String × α)
  /-- The spelling of an alternative. -/
  spelling : α → String
  /-- An alternative is found under its spelling. -/
  lookup_spelling (a : α) : spellings.lookup (spelling a) = some a

end Numeral128
