import Numeral128.Toml.Literal

/-!
# Tables that stand for moments

A table whose first key is `momentKey` stands for the moment that the text under it denotes, written
as in a document; what else is in the table is not looked at. `Value.resolve?` puts the moments in
place of such tables; there is no result if something else than a moment stands under the key.
-/

namespace Numeral128.Toml

/-- The first key of a table that stands for a moment. -/
def momentKey : String := "$__toml_private_datetime"

/-- The value under the moment key, if that is the first key of a table. -/
def taggedValue? : List (String × Value) → Option Value
  | (key, v) :: _ => if key = momentKey then some v else none
  | [] => none

mutual

/-- The value with moments in place of the tables that stand for them. -/
def Value.resolve? : Value → Option Value
  | .array items => (resolveItems? items).map .array
  | .table entries =>
    match taggedValue? entries with
    | some (.text s) => moment? s.toList
    | some _ => none
    | none => (resolveEntries? entries).map .table
  | v => some v

/-- The values of a list, each resolved. -/
def resolveItems? : List Value → Option (List Value)
  | [] => some []
  | v :: vs => do return (← v.resolve?) :: (← resolveItems? vs)

/-- The entries of a table, each resolved. -/
def resolveEntries? : List (String × Value) → Option (List (String × Value))
  | [] => some []
  | (key, v) :: entries => do return (key, ← v.resolve?) :: (← resolveEntries? entries)

end

end Numeral128.Toml
