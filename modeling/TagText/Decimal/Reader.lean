import TagText.Decimal.Shortest
import TagText.Text.Digit

/-!
# Reading a number as a double

The double nearest to a decimal, and the written forms that are read as one: an optional sign,
digits with a point among them, before or after them, and an exponent; or `inf`, `infinity` and
`nan` in letters of either case.
-/

namespace TagText

namespace Decimal

/-- The value of decimal digits. -/
def digitsValue (digits : List Char) : Nat :=
  digits.foldl (fun n d => n * 10 + (d.toNat - '0'.toNat)) 0

/-- The double nearest to `digits · 10 ^ exponent`. Far outside the range of doubles it is
infinity or zero, and the power need not be built. -/
def Scaled.toFloat (s : Scaled) : Float :=
  let first := s.exponent + digitCount s.digits
  if s.digits = 0 then 0
  else if 400 < first then Float.ofBits 0x7FF0000000000000
  else if first < -400 then 0
  else Float.ofScientific s.digits (decide (s.exponent < 0)) s.exponent.natAbs

/-- The exponent written after the `e` of a number: an optional sign and at least one digit. -/
def readExponent? (s : List Char) : Option Int :=
  let read (digits : List Char) : Option Nat :=
    if digits.isEmpty || !digits.all isAsciiDigit then none else some (digitsValue digits)
  match s with
  | '-' :: digits => (read digits).map fun n => -(n : Int)
  | '+' :: digits => (read digits).map fun n => (n : Int)
  | digits => (read digits).map fun n => (n : Int)

/-- The number written without a sign and without letters but for the `e`. -/
def readUnsigned? (s : List Char) : Option Scaled :=
  let whole := s.takeWhile isAsciiDigit
  let rest := s.dropWhile isAsciiDigit
  let (places, rest) :=
    match rest with
    | '.' :: more => (more.takeWhile isAsciiDigit, more.dropWhile isAsciiDigit)
    | rest => ([], rest)
  let scaled (e : Int) : Scaled := ⟨digitsValue (whole ++ places), e - places.length⟩
  if whole.isEmpty && places.isEmpty then none
  else
    match rest with
    | [] => some (scaled 0)
    | c :: more => if c = 'e' || c = 'E' then (readExponent? more).map scaled else none

/-- The size of a number written without its sign. -/
def readSize? (s : List Char) : Option Float :=
  let lower := String.ofList (s.map Char.toLower)
  if lower = "inf" || lower = "infinity" then some (Float.ofBits 0x7FF0000000000000)
  else if lower = "nan" then some (Float.ofBits 0x7FF8000000000000)
  else (readUnsigned? s).map Scaled.toFloat

/-- The double that a text names. -/
def read? (text : String) : Option Float :=
  match text.toList with
  | '-' :: s => (readSize? s).map fun x => -x
  | '+' :: s => readSize? s
  | s => readSize? s

end Decimal

end TagText
