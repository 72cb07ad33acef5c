import Numeral128.Toml.Literal
import Numeral128.Toml.Quoted
import Numeral128.Toml.Table
import Numeral128.Toml.Tagged

/-!
# TOML documents

A document is a sequence of lines: blank ones, comments, headers of tables and `key = value`. A
value of several parts may go on over several lines. `parse?` gives the table that a text denotes,
or nothing if it is no document.
-/

namespace Numeral128.Toml

/-- The number of arrays and inline tables that may stand inside each other, and of parts of a
key. -/
def nestingLimit : Nat := 79

/-- The text after spaces and tabs. -/
def skipBlanks (cs : List Char) : List Char := cs.dropWhile fun c => c = ' ' || c = '\t'

/-- Whether `c` may stand in a key without quotes. -/
def isBareKey (c : Char) : Bool := c.isAlphanum || c = '_' || c = '-'

/-- Reads one part of a key at the start of `cs`. -/
def keyPart? (cs : List Char) : Option (String × List Char) :=
  match cs with
  | '"' :: cs => (basic? cs).map fun (s, rest) => (String.ofList s, rest)
  | '\'' :: cs => (literal? cs).map fun (s, rest) => (String.ofList s, rest)
  | cs =>
    let bare := cs.takeWhile isBareKey
    if bare.isEmpty then none else some (String.ofList bare, cs.dropWhile isBareKey)

/-- Reads a key of at most `budget` parts, with blanks around each. -/
def keyParts? : (budget : Nat) → List Char → Option (List String × List Char)
  | 0, _ => none
  | budget + 1, cs => do
    let (part, cs) ← keyPart? (skipBlanks cs)
    match skipBlanks cs with
    | '.' :: cs => (keyParts? budget cs).map fun (parts, rest) => (part :: parts, rest)
    | cs => return ([part], cs)

/-- Reads a key. Gives the parts before the last, the last and the text after it. -/
def key? (cs : List Char) : Option (List String × String × List Char) := do
  let (parts, rest) ← keyParts? nestingLimit cs
  return (parts.dropLast, ← parts.getLast?, rest)

/-- The text after a comment, which ends before the end of its line. -/
def skipComment? : List Char → Option (List Char)
  | [] => some []
  | '\n' :: cs => some ('\n' :: cs)
  | '\r' :: '\n' :: cs => some ('\r' :: '\n' :: cs)
  | c :: cs => if isPlain c then skipComment? cs else none

/-- The text after blanks, line ends and comments. `inComment` tells whether it begins in a
comment. -/
def skipFiller? : (inComment : Bool) → List Char → Option (List Char)
  | _, [] => some []
  | _, '\n' :: cs => skipFiller? false cs
  | _, '\r' :: '\n' :: cs => skipFiller? false cs
  | true, c :: cs => if isPlain c then skipFiller? true cs else none
  | false, c :: cs =>
    if c = ' ' || c = '\t' then skipFiller? false cs
    else if c = '#' then skipFiller? true cs
    else some (c :: cs)

/-- Reads the elements of an array after its bracket, with a comma after each but perhaps the last.
There are fewer elements than `budget`. -/
def elements? (value? : List Char → Option (Value × List Char)) :
    (budget : Nat) → List Char → Option (List Value × List Char)
  | 0, _ => none
  | budget + 1, cs => do
    match ← skipFiller? false cs with
    | ']' :: rest => return ([], rest)
    | cs =>
      let (v, cs) ← value? cs
      match ← skipFiller? false cs with
      | ']' :: rest => return ([v], rest)
      | ',' :: cs => (elements? value? budget cs).map fun (vs, rest) => (v :: vs, rest)
      | _ => none

/-- Reads the entries of an inline table after its brace, all in one line and without a comma after
the last. There are at most `budget`. -/
def inlineEntries? (value? : List Char → Option (Value × List Char)) :
    (budget : Nat) → Entries → List Char → Option (Entries × List Char)
  | 0, _, _ => none
  | budget + 1, entries, cs => do
    let (path, key, cs) ← key? cs
    let (v, cs) ← value? (skipBlanks (← mark? '=' cs))
    let entries ← entries.insert path key v .header
    match skipBlanks cs with
    | ',' :: cs => inlineEntries? value? budget entries cs
    | '\x7d' :: rest => return (entries, rest)
    | _ => none

/-- Reads an inline table after its brace. -/
def inlineTable? (value? : List Char → Option (Value × List Char)) (cs : List Char) :
    Option (Value × List Char) :=
  match skipBlanks cs with
  | '\x7d' :: rest => some (.table [], rest)
  | cs => (inlineEntries? value? cs.length [] cs).map fun (entries, rest) =>
    (.table (entriesToValues entries), rest)

/-- Reads a value in which at most `depth` arrays and inline tables stand inside each other. -/
def value? : (depth : Nat) → List Char → Option (Value × List Char)
  | _, '"' :: cs => text? ('"' :: cs)
  | _, '\'' :: cs => text? ('\'' :: cs)
  | 0, '[' :: _ => none
  | depth + 1, '[' :: cs =>
    (elements? (value? depth) (cs.length + 1) cs).map fun (vs, rest) => (.array vs, rest)
  | 0, '\x7b' :: _ => none
  | depth + 1, '\x7b' :: cs => inlineTable? (value? depth) cs
  | _, cs =>
    let (word, rest) := splitWord cs
    (ofWord? word).map (·, rest)
where
  /-- Reads a string. -/
  text? (cs : List Char) : Option (Value × List Char) :=
    (string? cs).map fun (s, rest) => (.text (String.ofList s), rest)

/-- The text after the rest of a line: blanks, perhaps a comment, and its end. -/
def endLine? (cs : List Char) : Option (List Char) := do
  let cs ← match skipBlanks cs with
    | '#' :: cs => skipComment? cs
    | cs => some cs
  match cs with
  | [] => some []
  | '\n' :: cs => some cs
  | '\r' :: '\n' :: cs => some cs
  | _ => none

/-- A document read so far: its entries, and the table that the last header opened. -/
structure Draft where
  entries : Entries := []
  path : List String := []

/-- Opens the table of the header that ends with `key`, below its `parents`. -/
def Draft.openTable (d : Draft) (parents : List String) (key : String) : Option Draft :=
  (d.entries.update .implied (fun _ entries => entries.openTable key) parents .header).map
    fun entries => { entries, path := parents ++ [key] }

/-- Opens a table of the series that ends with `key`, below its `parents`. -/
def Draft.openSeries (d : Draft) (parents : List String) (key : String) : Option Draft :=
  (d.entries.update .implied (fun _ entries => entries.openSeries key) parents .header).map
    fun entries => { entries, path := parents ++ [key] }

/-- Adds `v` under `path` and `key` to the open table. -/
def Draft.insert (d : Draft) (path : List String) (key : String) (v : Value) : Option Draft :=
  (d.entries.update .implied (fun origin entries => entries.insert path key v origin) d.path
    .header).map fun entries => { d with entries }

/-- Reads one line that begins with neither blanks nor a line end. -/
def line? (d : Draft) : List Char → Option (Draft × List Char)
  | '#' :: cs => do return (d, ← endLine? ('#' :: cs))
  | '[' :: '[' :: cs => do
    let (parents, key, cs) ← key? cs
    let cs ← endLine? (← mark? ']' (← mark? ']' cs))
    return (← d.openSeries parents key, cs)
  | '[' :: cs => do
    let (parents, key, cs) ← key? cs
    let cs ← endLine? (← mark? ']' cs)
    return (← d.openTable parents key, cs)
  | cs => do
    let (path, key, cs) ← key? cs
    let (v, cs) ← value? nestingLimit (skipBlanks (← mark? '=' cs))
    let cs ← endLine? cs
    return (← d.insert path key v, cs)

/-- Reads at most `budget` lines, to the end of the text. -/
def lines? : (budget : Nat) → Draft → List Char → Option Draft
  | 0, _, _ => none
  | budget + 1, d, cs =>
    match skipBlanks cs with
    | [] => some d
    | '\n' :: cs => lines? budget d cs
    | '\r' :: '\n' :: cs => lines? budget d cs
    | cs => do
      let (d, cs) ← line? d cs
      lines? budget d cs

/-- The entries of the table that `text` denotes. A byte order mark at its start is skipped. The
document itself may not stand for a moment. -/
def parse? (text : List Char) : Option (List (String × Value)) := do
  let text := match text with
    | '\ufeff' :: cs => cs
    | cs => cs
  let d ← lines? (text.length + 1) {} text
  match ← (Value.table (entriesToValues d.entries)).resolve? with
  | .table entries => return entries
  | _ => none

end Numeral128.Toml
