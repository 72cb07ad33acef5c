import Numeral128.Log.Filter
import Numeral128.Log.Library

/-!
# What logs look like

`standard` is the library that events are emitted to. A record of an event has its time, its level,
its values and its place; lines of text have the same in other words. Colours are left out.
-/

namespace Numeral128.Log

/-- What is written for an event. -/
inductive Output where
  | record (fields : List (String × FieldValue))
  | lines (lines : List String)
  deriving DecidableEq, Repr

/-- The values of the event `e`, its message first. -/
def valuesOf (e : Event) : List (String × FieldValue) := ("message", .text e.message) :: e.fields

/-- The `values` of an event as they stand in a record: beside its level, or on their own. -/
def flatten (flattened : Bool) (values : List (String × FieldValue)) :
    List (String × FieldValue) :=
  if flattened then values else values.map fun (name, value) => ("fields." ++ name, value)

/-- The record of the event `e`, emitted at the time and place of `stamp`. -/
def recordOf (layer : Layer) (stamp : Stamp) (e : Event) : List (String × FieldValue) :=
  [("timestamp", .text stamp.time), ("level", .text e.level.label)] ++
    flatten layer.flattened (valuesOf e) ++
    (if layer.showTarget then [("target", .text e.target)] else []) ++
    (if layer.showFile then [("filename", .text stamp.place.file)] else []) ++
    (if layer.showLine then [("line_number", .number stamp.place.line)] else [])

/-- The lines of the event `e`, emitted at the time and place of `stamp`. -/
def linesOf (layer : Layer) (stamp : Stamp) (e : Event) : List String :=
  let target := if layer.showTarget then e.target ++ ": " else ""
  let values := e.fields.map fun (name, value) => ", " ++ name ++ ": " ++ value.toText
  let place := (if layer.showFile then stamp.place.file else "") ++
    (if layer.showLine then ":" ++ toString stamp.place.line else "")
  ["  " ++ stamp.time ++ " " ++ e.level.label ++ " " ++ target ++ e.message ++
      String.join values] ++
    (if layer.showFile || layer.showLine then ["    at " ++ place] else []) ++ [""]

/-- What a subscriber with the format `layer` writes for the event `e`. -/
def render (layer : Layer) (stamp : Stamp) (e : Event) : Output :=
  match layer.style with
  | .record => .record (recordOf layer stamp e)
  | .lines => .lines (linesOf layer stamp e)

/-- The library that events are emitted to. -/
def standard : LogLibrary where
  Filter := Filter
  parse? := Filter.parse?
  lossy := Filter.ofText
  enabled := Filter.admits
  Output := Output
  render := render
  Dispatcher := Option (Subscriber Filter)
  fresh := none
  installed? d := d
  tryInit
    | s, none => (.ok (), some s)
    | _, some s => (.error .alreadyInstalled, some s)
  emit
    | none, _, _ => []
    | some s, stamp, e => if s.filter.admits e then [render s.layer stamp e] else []

instance : DecidableEq standard.Output := inferInstanceAs (DecidableEq Output)

end Numeral128.Log
