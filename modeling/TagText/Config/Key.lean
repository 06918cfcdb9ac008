import TagText.Config.Setting
import TagText.Text.Digit

/-!
# Keys

A key names the place of a setting: a name, and then further names after dots and numbers of items
in brackets, as in `tokens.tag_open` or `list[0]`. A name is made of ASCII letters and digits,
underscores, hyphens and spaces.
-/

namespace TagText

namespace Key

/-- What a name is made of. -/
def isNameChar (c : Char) : Bool := c.isAlphanum || c == '_' || c == '-' || c == ' '

/-- A space or a tab. -/
def isSpace (c : Char) : Bool := c == ' ' || c == '\t'

/-- The number between brackets, if 64 bits hold it. -/
def index? (s : List Char) : Option Int :=
  let s := ((s.dropWhile isSpace).reverse.dropWhile isSpace).reverse
  let number (negative : Bool) (digits : List Char) : Option Int :=
    let size : Nat := digits.foldl (fun n d => n * 10 + (d.toNat - '0'.toNat)) 0
    let n : Int := if negative then -size else size
    if digits.isEmpty || !digits.all isAsciiDigit || !isInt64 n then none else some n
  match s with
  | '-' :: digits => number true digits
  | digits => number false digits

/-- The steps written after the first name. -/
def steps? (s : List Char) : Option (List KeyStep) :=
  match s with
  | [] => some []
  | '.' :: rest =>
    let name := rest.takeWhile isNameChar
    if name.isEmpty then none
    else (steps? (rest.dropWhile isNameChar)).map (.name (String.ofList name) :: ·)
  | '[' :: rest =>
    have hle := (List.dropWhile_suffix (l := rest) (· != ']')).length_le
    match h : rest.dropWhile (· != ']') with
    | ']' :: after =>
      have : after.length < rest.length := by simp [h] at hle; omega
      match index? (rest.takeWhile (· != ']')) with
      | none => none
      | some i => (steps? after).map (.item i :: ·)
    | _ => none
  | _ => none
termination_by s.length
decreasing_by
  · exact Nat.lt_succ_of_le (List.dropWhile_suffix _).length_le
  · simp
    omega

/-- The steps that a key names. -/
def ofString? (key : String) : Option (List KeyStep) :=
  steps? ('.' :: key.toList)

end Key

end TagText
