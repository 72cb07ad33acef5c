import Numeral128.Rendering

/-!
# Writers

A writer is a text that grows at its end, with a layout for what comes next. What is inserted into
the layout uses up its width; raw text is written as it is.
-/

namespace Numeral128

/-- The text written so far and the layout of what comes next. -/
structure Writer where
  text : List Char := []
  layout : Layout := {}
  deriving DecidableEq, Repr

/-- What a writer can be told to do. -/
inductive WriterCommand where
  | setBase (base : Base)
  | setUppercase (on : Bool)
  | setShowPrefix (on : Bool)
  | setShowPlus (on : Bool)
  | setFill (fill : Char)
  | setAlignment (alignment : Alignment)
  | setWidth (width : Nat)
  | setLayout (layout : Layout)
  /-- Inserts a numeral. -/
  | insert (value : Int)
  /-- Inserts a text, filled up to the width. -/
  | insertText (text : List Char)
  /-- Writes a text as it is. -/
  | raw (text : List Char)
  deriving DecidableEq, Repr

namespace Writer

/-- Appends `field` and uses up the width. -/
def insertField (w : Writer) (field : List Char) : Writer :=
  { text := w.text ++ field, layout := { w.layout with width := 0 } }

/-- What the writer `w` becomes by a command. -/
def step (w : Writer) : WriterCommand → Writer
  | .setBase base => { w with layout := { w.layout with base } }
  | .setUppercase uppercase => { w with layout := { w.layout with uppercase } }
  | .setShowPrefix showPrefix => { w with layout := { w.layout with showPrefix } }
  | .setShowPlus showPlus => { w with layout := { w.layout with showPlus } }
  | .setFill fill => { w with layout := { w.layout with fill } }
  | .setAlignment alignment => { w with layout := { w.layout with alignment } }
  | .setWidth width => { w with layout := { w.layout with width } }
  | .setLayout layout => { w with layout }
  | .insert value => w.insertField (w.layout.render value)
  | .insertText text => w.insertField (w.layout.pad text)
  | .raw text => { w with text := w.text ++ text }

/-- Obeys commands in order and keeps what `w` becomes by each. -/
def run (w : Writer) : List WriterCommand → List Writer
  | [] => []
  | command :: rest => w.step command :: (w.step command).run rest

end Writer

end Numeral128
