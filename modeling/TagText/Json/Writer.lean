import TagText.Decimal.Layout
import TagText.Value.Basic

/-!
# Values as JSON text

The compact form: no blanks, entries in the order of the map. An object is written as the map of
the properties it lists, and what is no number, NaN and the infinities, as `null`.
-/

namespace TagText

namespace Json

/-- In JSON text a number always has a point or an exponent, which has a sign; an exponent is
written when it is 16 or more, or below -5. -/
def number : Decimal.Style where
  positional := some (-5, 16)
  pointZero := true
  plusSign := true
  tie := .even
  nan := "null"
  infinity := "null"

/-- The text of a double. -/
def writeFloat (x : Float) : List Char :=
  match Double.ofFloat x with
  | .nan | .infinite _ => ['n', 'u', 'l', 'l']
  | _ => number.text x

/-- A digit of a number to the base 16, in small letters. -/
def hexDigit (n : Nat) : Char := Nat.digitChar (n % 16)

/-- A character as it stands in a string. -/
def escape (c : Char) : List Char :=
  match c with
  | '"' => ['\\', '"']
  | '\\' => ['\\', '\\']
  | '\x08' => ['\\', 'b']
  | '\x0c' => ['\\', 'f']
  | '\n' => ['\\', 'n']
  | '\r' => ['\\', 'r']
  | '\t' => ['\\', 't']
  | c =>
    if c.toNat < 0x20 then ['\\', 'u', '0', '0', hexDigit (c.toNat / 16), hexDigit c.toNat]
    else [c]

/-- A string in its quotes. -/
def writeString (s : String) : List Char := '"' :: s.toList.flatMap escape ++ ['"']

mutual

/-- The text of a value. -/
def write : Value → List Char
  | .null => ['n', 'u', 'l', 'l']
  | .bool true => ['t', 'r', 'u', 'e']
  | .bool false => ['f', 'a', 'l', 's', 'e']
  | .int n => (toString n.toInt).toList
  | .float x => writeFloat x
  | .string s => writeString s
  | .list items => '[' :: writeItems items
  | .map entries => '\x7b' :: writeEntries entries
  | .object ⟨_, _, _, listed⟩ => '\x7b' :: writeEntries listed

/-- The items of a list with its closing bracket. -/
def writeItems : List Value → List Char
  | [] => [']']
  | v :: vs => write v ++ writeMoreItems vs

/-- The items that follow a first one, with the closing bracket. -/
def writeMoreItems : List Value → List Char
  | [] => [']']
  | v :: vs => ',' :: write v ++ writeMoreItems vs

/-- The entries of a map with its closing brace. -/
def writeEntries : List (String × Value) → List Char
  | [] => ['\x7d']
  | (name, v) :: rest => writeString name ++ ':' :: write v ++ writeMoreEntries rest

/-- The entries that follow a first one, with the closing brace. -/
def writeMoreEntries : List (String × Value) → List Char
  | [] => ['\x7d']
  | (name, v) :: rest => ',' :: writeString name ++ ':' :: write v ++ writeMoreEntries rest

end

end Json

/-- The JSON text of a value. -/
def Value.json (v : Value) : String := String.ofList (Json.write v)

end TagText
