import TagText.Decimal.Layout
import TagText.Text.Quoted
import TagText.Value.Basic

/-!
# Values as shown to a developer

Every value with its kind, strings in quotes, and of objects the name of their type only.
-/

namespace TagText

/-- Here a number always has a point or an exponent, and an exponent when it is 16 or more, or
below -4. -/
def inspectedNumber : Decimal.Style where
  positional := some (-4, 16)
  pointZero := true
  plusSign := false
  tie := .up
  nan := "NaN"
  infinity := "inf"

/-- Entries between braces with commas between them. -/
def bracedEntries (entries : List String) : String :=
  "\x7b" ++ ", ".intercalate entries ++ "\x7d"

namespace Value

mutual

/-- A value with all its parts. -/
def inspect : Value → String
  | .null => "Null"
  | .bool b => "Bool(" ++ (if b then "true" else "false") ++ ")"
  | .int n => "Int(" ++ toString n.toInt ++ ")"
  | .float x => "Float(" ++ String.ofList (inspectedNumber.text x) ++ ")"
  | .string s => "String(" ++ quoted s ++ ")"
  | .list items => "List(" ++ bracketed (inspectItems items) ++ ")"
  | .map entries => "Map(" ++ bracedEntries (inspectEntries entries) ++ ")"
  | .object face => "Object(" ++ face.typeName ++ ")"

/-- The items one by one. -/
def inspectItems : List Value → List String
  | [] => []
  | v :: vs => inspect v :: inspectItems vs

/-- The entries one by one, each after its name. -/
def inspectEntries : List (String × Value) → List String
  | [] => []
  | (name, v) :: rest => (quoted name ++ ": " ++ inspect v) :: inspectEntries rest

end

end Value

/-- Named values with all their parts. -/
def Entries.inspect (entries : Entries) : String := bracedEntries (Value.inspectEntries entries)

/-- An object with its properties and the names of its accessors. -/
def ObjectParts.inspect (o : ObjectParts) : String :=
  braced "DynamicObject" [
    ("type_name", quoted o.typeName),
    ("properties", Entries.inspect o.properties),
    ("accessors", bracketed ((sortNames (Named.names o.accessors)).map quoted))]

end TagText
