import Numeral128.Decimal.Integer
import Numeral128.Settings.Tree

/-!
# Paths into a tree of settings

A name of the outermost table may be a path: names joined by points, and indices in brackets. A path
leads to a place that need not be there yet. Like all names, those in a path are matched in lower
case.
-/

namespace Numeral128

/-- A path into a tree of settings. -/
inductive KeyPath where
  | name (name : String)
  | child (parent : KeyPath) (name : String)
  /-- An element of a list; negative indices count from its end. -/
  | item (parent : KeyPath) (index : Int)
  deriving DecidableEq, Repr

namespace KeyPath

/-- Whether `c` may stand in a name of a path. -/
def isNameChar (c : Char) : Bool := c.isAlphanum || c = ' ' || c = '_' || c = '-'

/-- Whether `c` may stand beside an index. -/
def isIndexBlank (c : Char) : Bool := c = ' ' || c = '\t'

/-- Reads an index from `cs` with blanks around it. It may have a minus sign, but no plus sign. -/
def index? (cs : List Char) : Option Int :=
  match ((cs.dropWhile isIndexBlank).reverse.dropWhile isIndexBlank).reverse with
  | '+' :: _ => none
  | index => Decimal.int64? index

/-- Reads the parts of a path after `path`. There are at most `budget`. -/
def parts? : (budget : Nat) → KeyPath → List Char → Option KeyPath
  | _, path, [] => some path
  | 0, _, _ => none
  | budget + 1, path, '.' :: cs =>
    let name := cs.takeWhile isNameChar
    if name.isEmpty then none
    else parts? budget (.child path (String.ofList name)) (cs.dropWhile isNameChar)
  | budget + 1, path, '[' :: cs => do
    match cs.dropWhile (· ≠ ']') with
    | [] => none
    | _ :: rest => parts? budget (.item path (← index? (cs.takeWhile (· ≠ ']')))) rest
  | _, _, _ => none

/-- Reads `text` as a path. -/
def parse? (text : String) : Option KeyPath :=
  let cs := text.toList
  let name := cs.takeWhile isNameChar
  if name.isEmpty then none
  else parts? cs.length (.name (String.ofList name)) (cs.dropWhile isNameChar)

/-- The place that the name `text` of the outermost table leads to: the name itself if it is no
path. -/
def ofName (text : String) : KeyPath := (parse? text).getD (.name text)

/-- The position in a list of this `length` that `index` means, if there can be one. -/
def position? (length : Nat) (index : Int) : Option Nat :=
  match index with
  | .ofNat n => some n
  | .negSucc n => if n + 1 ≤ length then some (length - (n + 1)) else none

/-- Changes the element at `index` of a list by `f`. The list is extended as far as needed. -/
def changeItem (f : Setting → Setting) (index : Int) (s : Setting) : Setting :=
  let (items, origin) := match s with
    | .list items origin => (items, origin)
    | _ => ([], none)
  match position? items.length index with
  | none => .list items origin
  | some n =>
    let items := items ++ List.replicate (n + 1 - items.length) .null
    .list (items.set n (f (items.getD n .null))) origin

/-- Changes the entry `name` of a table by `f`. -/
def changeEntry (f : Setting → Setting) (name : String) (s : Setting) : Setting :=
  let (entries, origin) := s.asTable
  let name := Text.lowercase name
  .table (Setting.put entries name (f ((entries.lookup name).getD .null))) origin

/-- Changes what a path leads to by `f`, and makes what is missing on the way. -/
def change (f : Setting → Setting) : KeyPath → Setting → Setting
  | name n, root => changeEntry f n root
  | child parent n, root => change (changeEntry f n) parent root
  | item parent index, root => change (changeItem f index) parent root

/-- Puts `value` where a path leads. -/
def set (value : Setting) : KeyPath → Setting → Setting
  | name n, root => root.assign n value
  | child parent n, root => change (fun s => s.assign n value) parent root
  | item parent index, root => change (changeItem (fun _ => value) index) parent root

end KeyPath

end Numeral128
