import TagText.Decimal.Layout
import TagText.Json.Writer

/-!
# From values to text

A formatter makes the text that stands in the place of a tag. The simple one writes null as
nothing, scalars as they read, lists and maps as JSON, and an object in its own form, if it has
one.
-/

namespace TagText

/-- Why a value has no text. -/
inductive FormatError where
  | unformattable (typeName : String)
  | serialization (reason : String)
  deriving DecidableEq

/-- The error in words. -/
def FormatError.message : FormatError → String
  | .unformattable typeName => "Cannot format value of type " ++ typeName ++ " as a string."
  | .serialization reason => "Cannot serialize value: " ++ reason

/-- What makes texts of values. -/
abbrev Formatter := Value → Except FormatError String

namespace Formatter

/-- In running text a number never has an exponent, and a whole one no point. -/
def number : Decimal.Style where
  positional := none
  pointZero := false
  plusSign := false
  tie := .up
  nan := "NaN"
  infinity := "inf"

/-- The text of a double. -/
def float (x : Float) : String := String.ofList (number.text x)

/-- The text of a value. Only an object without a form of its own has none. -/
def simple : Formatter
  | .null => .ok ""
  | .bool b => .ok (if b then "true" else "false")
  | .int n => .ok (toString n.toInt)
  | .float x => .ok (float x)
  | .string s => .ok s
  | .list items => .ok (Value.list items).json
  | .map entries => .ok (Value.map entries).json
  | .object face =>
    match face.display with
    | some text => .ok text
    | none => .error (.unformattable face.typeName)

end Formatter

end TagText
