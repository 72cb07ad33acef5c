import Numeral128.BaseChoice
import Numeral128.DataFormat
import Numeral128.Layout

/-!
# Fields of layouts

A layout has seven fields. Each has a type, a name, and a reader for its values in any format of
data.
-/

namespace Numeral128

/-- A field of a layout. -/
inductive LayoutField where
  | base
  | uppercase
  | showPrefix
  | showPlus
  | width
  | fill
  | alignment
  deriving DecidableEq, Repr

namespace LayoutField

/-- The fields in order. -/
def all : List LayoutField := [base, uppercase, showPrefix, showPlus, width, fill, alignment]

/-- The type of the values of a field. -/
abbrev Value : LayoutField → Type
  | base => Base
  | uppercase => Bool
  | showPrefix => Bool
  | showPlus => Bool
  | width => Nat
  | fill => Char
  | alignment => Alignment

/-- The name of a field. -/
def name : LayoutField → String
  | base => "radix"
  | uppercase => "uppercase"
  | showPrefix => "show_base"
  | showPlus => "show_positive_sign"
  | width => "width"
  | fill => "fill"
  | alignment => "alignment"

/-- The value of a field in the layout `l`. -/
def get (l : Layout) : (f : LayoutField) → f.Value
  | base => l.base
  | uppercase => l.uppercase
  | showPrefix => l.showPrefix
  | showPlus => l.showPlus
  | width => l.width
  | fill => l.fill
  | alignment => l.alignment

/-- The layout with another value of a field. -/
def set : (f : LayoutField) → f.Value → Layout → Layout
  | base, a, l => { l with base := a }
  | uppercase, a, l => { l with uppercase := a }
  | showPrefix, a, l => { l with showPrefix := a }
  | showPlus, a, l => { l with showPlus := a }
  | width, a, l => { l with width := a }
  | fill, a, l => { l with fill := a }
  | alignment, a, l => { l with alignment := a }

/-- The layout with the values `v` of its fields. -/
def layout (v : (f : LayoutField) → f.Value) : Layout where
  base := v .base
  uppercase := v .uppercase
  showPrefix := v .showPrefix
  showPlus := v .showPlus
  width := v .width
  fill := v .fill
  alignment := v .alignment

variable {δ ε : Type}

/-- Reads a value of a field. -/
def read (F : DataFormat δ ε) : (f : LayoutField) → δ → Except ε f.Value
  | base => F.choice Base
  | uppercase => F.bool
  | showPrefix => F.bool
  | showPlus => F.bool
  | width => F.size
  | fill => F.fill
  | alignment => F.choice Alignment

/-- The reader of the field `f` as a part of a layout. -/
def reader (F : DataFormat δ ε) (f : LayoutField) : FieldReader δ ε Layout :=
  .of f.name (f.read F) f.set

end LayoutField

/-- Reads a layout in the format `F`. Fields that are not given are those of the default layout. -/
def Layout.read {δ ε : Type} (F : DataFormat δ ε) : δ → Except ε Layout :=
  F.record "FormatMode" (LayoutField.all.map (LayoutField.reader F)) {}

end Numeral128
