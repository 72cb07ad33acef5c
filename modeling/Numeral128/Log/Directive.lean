import Numeral128.Decimal.Integer
import Numeral128.Event
import Numeral128.Text.Alphanumeric
import Numeral128.Text.Offset

/-!
# Directives

A directive says how detailed the events of a target may be. In words: a level, a target, or
`target=level`; between target and level a span and fields may stand in brackets,
`target[span{field=value}]=level`.
-/

namespace Numeral128.Log

/-- The most detailed level that passes; none lets nothing pass. -/
abbrev Threshold := Option Level

/-- The number of a level, more for more detail. -/
def rank : Level → Nat
  | .error => 1
  | .warn => 2
  | .info => 3
  | .debug => 4
  | .trace => 5

/-- Whether `level` passes the threshold `t`. -/
def Threshold.admits (t : Threshold) (level : Level) : Bool :=
  match t with
  | some limit => rank level ≤ rank limit
  | none => false

/-- The threshold with the name `text`, in any case, or with this number. -/
def threshold? (text : List Char) : Option Threshold :=
  match Decimal.unsigned? (Nat.pow 2 64 - 1) text with
  | some n => ([none, some .error, some .warn, some .info, some .debug, some .trace][n]?)
  | none =>
    [("off", none), ("error", some .error), ("warn", some .warn), ("info", some .info),
      ("debug", some .debug), ("trace", some Level.trace)].lookup
        (String.ofList (text.map Char.toLower))

/-- A condition on a field of the events or spans a directive applies to. -/
structure FieldCondition where
  name : String
  /-- The text that the value has to match. -/
  value : Option String := none
  deriving DecidableEq, Repr

/-- A directive. -/
structure Directive where
  threshold : Threshold
  /-- What the target of an event begins with. -/
  target : Option String := none
  /-- The span that the event has to be in. -/
  span : Option String := none
  fields : List FieldCondition := []
  deriving DecidableEq, Repr

/-- How far a directive has been read. The offsets are where its current part begins. -/
inductive Stage where
  | start
  | levelOrTarget (first : Nat)
  | span (first : Nat)
  | field (first : Nat)
  | fields
  | target
  | level (first : Nat)
  deriving DecidableEq, Repr

namespace Directive

/-- The part of `text` between the byte offsets `first` and `last`. -/
def slice? (text : List Char) (first last : Nat) : Option (List Char) := do
  prefixAt? (← suffixAt? text first) (last - first)

/-- Reads a field with an optional value from `text`. -/
def fieldCondition? (text : List Char) : Option FieldCondition :=
  if text.isEmpty then none
  else
    let name := String.ofList (text.takeWhile (· ≠ '='))
    match text.dropWhile (· ≠ '=') with
    | [] => some { name }
    | _ :: rest => some { name, value := some (String.ofList (rest.takeWhile (· ≠ '='))) }

/-- Whether a directive may begin with `c`, brackets apart. -/
def isStart (c : Char) : Bool := c = '-' || c = ':' || c = '_' || Text.isAlphanumeric c

/-- Reads the character at an offset. Parts are cut from `text`. -/
def step? (text : List Char) (offset : Nat) (c : Char) (stage : Stage) (d : Directive) :
    Option (Stage × Directive) :=
  match stage with
  | .start =>
    if c = '[' then some (.span (offset + 1), d)
    else if isStart c then some (.levelOrTarget offset, d)
    else none
  | .levelOrTarget first =>
    if c = '=' ∨ c = '[' then do
      let target := String.ofList (← slice? text first offset)
      let stage := if c = '=' then Stage.level (offset + 1) else .span (offset + 1)
      return (stage, { d with target := some target })
    else some (stage, d)
  | .span first =>
    if c = ']' then do
      return (.target, { d with span := some (String.ofList (← slice? text first offset)) })
    else if c = '\x7b' then do
      let name ← slice? text first offset
      let span := if name.isEmpty then none else some (String.ofList name)
      return (.field (offset + 1), { d with span })
    else some (stage, d)
  | .field first =>
    if c = '\x7d' then do
      let condition ← fieldCondition? (← slice? text first offset)
      return (.fields, { d with fields := d.fields ++ [condition] })
    else some (stage, d)
  | .fields => if c = ']' then some (.target, d) else none
  | .target => if c = '=' then some (.level (offset + 1), d) else none
  | .level _ => some (stage, d)

/-- Reads characters from an offset on. -/
def scan? (text : List Char) (offset : Nat) (stage : Stage) (d : Directive) :
    List Char → Option (Stage × Directive)
  | [] => some (stage, d)
  | c :: cs => do
    let (stage, d) ← step? text offset c stage d
    scan? text (offset + c.utf8Size) stage d cs

/-- Whether `c` is white space in some script. -/
def isWhite (c : Char) : Bool :=
  [(0x9, 0xd), (0x20, 0x20), (0x85, 0x85), (0xa0, 0xa0), (0x1680, 0x1680), (0x2000, 0x200a),
    (0x2028, 0x2029), (0x202f, 0x202f), (0x205f, 0x205f), (0x3000, 0x3000)].any
      fun (first, last) => first ≤ c.toNat && c.toNat ≤ last

/-- The `text` without white space at its ends. -/
def trim (text : List Char) : List Char :=
  ((text.dropWhile isWhite).reverse.dropWhile isWhite).reverse

/-- Reads a directive. White space around it is skipped, but offsets count from the start of the
text as it is, so that a directive with white space around it names other targets and levels. -/
def parse? (text : List Char) : Option Directive := do
  let (stage, d) ← scan? text 0 .start { threshold := some .trace } (trim text)
  match stage with
  | .levelOrTarget first =>
    let word ← suffixAt? text first
    match threshold? word with
    | some threshold => return { d with threshold }
    | none => return { d with target := some (String.ofList word) }
  | .level first =>
    let word ← suffixAt? text first
    if word.isEmpty then return d
    return { d with threshold := ← threshold? word }
  | .target => return d
  | _ => none

/-- Whether `d` can apply outside of every span. -/
def isStatic (d : Directive) : Bool := d.span.isNone && d.fields.all (·.value.isNone)

/-- Whether `d` applies to the event `e`: its target begins with that of `d`, and it has all the
fields. -/
def appliesTo (d : Directive) (e : Event) : Bool :=
  (match d.target with
    | some target => target.toList.isPrefixOf e.target.toList
    | none => true) &&
  d.fields.all fun condition =>
    condition.name = "message" || e.fields.any fun (name, _) => name = condition.name

end Directive

end Numeral128.Log
