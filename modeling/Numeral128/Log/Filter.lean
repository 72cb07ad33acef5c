import Numeral128.Log.Directive
import Numeral128.Text.Split

/-!
# Filters

A filter is a list of directives, the most specific first: a longer target before a shorter one,
more fields before fewer. The first directive that applies to an event decides whether it passes.
-/

namespace Numeral128.Log

/-- The directives of a filter in the order in which they are tried. -/
structure Filter where
  directives : List Directive
  deriving DecidableEq, Repr

namespace Directive

/-- Compares targets by length, no target being the shortest. -/
def targetSize (d : Directive) : Nat :=
  match d.target with
  | some target => target.utf8ByteSize + 1
  | none => 0

/-- Whether `d` and `e` apply to the same events. -/
def sameScope (d e : Directive) : Bool :=
  d.target = e.target && d.fields.map (·.name) = e.fields.map (·.name)

/-- How specific `d` is in comparison with `e`; equally specific ones are ordered by their texts. -/
def compareScope (d e : Directive) : Ordering :=
  (compare d.targetSize e.targetSize).then <|
    (compare d.fields.length e.fields.length).then <|
      (compare (d.target.getD "") (e.target.getD "")).then <|
        compare (d.fields.map (·.name)) (e.fields.map (·.name))

end Directive

namespace Filter

/-- Puts `d` in its place. It replaces a directive for the same events. -/
def insert (d : Directive) : List Directive → List Directive
  | [] => [d]
  | e :: rest =>
    if d.sameScope e then d :: rest
    else if d.compareScope e = .gt then d :: e :: rest
    else e :: insert d rest

/-- The filter of `directives`. Without any directive only errors pass. -/
def ofDirectives (directives : List Directive) : Filter :=
  if directives.isEmpty then { directives := [{ threshold := some .error }] }
  else { directives := (directives.filter (·.isStatic)).foldl (fun ds d => insert d ds) [] }

/-- The parts of `text` between commas. -/
def parts (text : String) : List (List Char) := (Text.partsOf ',' text).map String.toList

/-- The filter that `text` describes, if every part of it is a directive. -/
def parse? (text : String) : Option Filter :=
  ((parts text).mapM Directive.parse?).map ofDirectives

/-- The filter of those parts of `text` that are directives. -/
def ofText (text : String) : Filter := ofDirectives ((parts text).filterMap Directive.parse?)

/-- Whether the event `e` passes the filter `f`. -/
def admits (f : Filter) (e : Event) : Bool :=
  match f.directives.find? (·.appliesTo e) with
  | some d => d.threshold.admits e.level
  | none => false

end Filter

end Numeral128.Log
