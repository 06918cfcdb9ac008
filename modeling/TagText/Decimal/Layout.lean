import TagText.Decimal.Shortest

/-!
# How the digits of a number are laid out

The digits of a number are fixed by `Decimal.shortest`; a `Decimal.Style` says how they are
written. The exponent of a number is that of its first digit: 1 for 25 and -1 for 0.25.
-/

namespace TagText

namespace Decimal

/-- The decisions of a format for numbers. -/
structure Style where
  /-- The lowest exponent written without one, and the lowest above it that is written with one;
  with none, no exponent is ever written. -/
  positional : Option (Int × Int)
  /-- Whether a whole number without an exponent ends in `.0`. -/
  pointZero : Bool
  /-- Whether a plus sign stands before an exponent that is not negative. -/
  plusSign : Bool
  tie : Tie
  nan : String
  infinity : String

namespace Style

/-- Whether a number with this exponent is written without it. -/
def isPositional (style : Style) (e : Int) : Bool :=
  match style.positional with
  | none => true
  | some (low, high) => decide (low ≤ e) && decide (e < high)

/-- Digits with the point at its place. -/
def placePoint (style : Style) (digits : List Char) (e : Int) : List Char :=
  if e < 0 then '0' :: '.' :: List.replicate (-e - 1).toNat '0' ++ digits
  else
    let whole := e.toNat + 1
    if digits.length ≤ whole then
      digits ++ List.replicate (whole - digits.length) '0' ++
        (if style.pointZero then ['.', '0'] else [])
    else digits.take whole ++ '.' :: digits.drop whole

/-- Digits with the point after the first of them, and the exponent. -/
def placeExponent (style : Style) (digits : List Char) (e : Int) : List Char :=
  let sign := if e < 0 then ['-'] else if style.plusSign then ['+'] else []
  let mantissa :=
    match digits with
    | d :: more :: rest => d :: '.' :: more :: rest
    | short => short
  mantissa ++ 'e' :: sign ++ Nat.toDigits 10 e.natAbs

/-- The digits of a number, of which the first has the exponent `e`. -/
def layout (style : Style) (digits : List Char) (e : Int) : List Char :=
  if style.isPositional e then style.placePoint digits e else style.placeExponent digits e

/-- The text of a positive number. -/
def sizeText (style : Style) (size : Binary) : List Char :=
  let s := shortest style.tie size
  let digits := Nat.toDigits 10 s.digits
  let e := s.exponent + digits.length - 1
  style.layout (digits.reverse.dropWhile (· == '0')).reverse e

/-- A text with a minus sign before it if so wanted. -/
def signed (negative : Bool) (text : List Char) : List Char :=
  if negative then '-' :: text else text

/-- The text of a double. -/
def text (style : Style) (x : Float) : List Char :=
  match Double.ofFloat x with
  | .nan => style.nan.toList
  | .infinite negative => signed negative style.infinity.toList
  | .zero negative => signed negative (style.layout ['0'] 0)
  | .finite negative size => signed negative (style.sizeText size)

end Style

end Decimal

end TagText
