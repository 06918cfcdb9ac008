import TagText.Decimal.Reader
import TagText.Text.Reading

/-!
# Dates and times in TOML

A date with a time, a date or a time is a value in a document. A configuration has no such values and
takes each as a text, always of the same form: with a `T` between date and time, no zeros at the end
of a fraction, of which nine digits count, and a `Z` in capitals. A second may be the 60th, a leap
second; a day must be one of its month.
-/

namespace TagText

namespace Toml

/-- The number of days of a month. -/
def daysOf (year month : Nat) : Nat :=
  let leap := year % 4 = 0 ∧ (year % 100 ≠ 0 ∨ year % 400 = 0)
  if month = 2 then if leap then 29 else 28
  else if month = 4 ∨ month = 6 ∨ month = 9 ∨ month = 11 then 30
  else 31

/-- What takes a part off the front of a text. -/
abbrev Taker := StateT (List Char) Option

/-- Takes a character that there is a replacement for. -/
def takeMark (replace : Char → Option Char) : Taker Char := fun s =>
  match s with
  | [] => none
  | c :: rest => (replace c).map (·, rest)

/-- Takes a certain character. -/
def takeChar (c : Char) : Taker Char := takeMark fun d => if d = c then some c else none

/-- Takes a number of so many digits, not outside of two bounds. -/
def takeNumber (digits least most : Nat) : Taker (List Char × Nat) := fun s =>
  let taken := s.take digits
  let value := Decimal.digitsValue taken
  if taken.length = digits ∧ taken.all isAsciiDigit ∧ least ≤ value ∧ value ≤ most then
    some ((taken, value), s.drop digits)
  else none

/-- Takes a date. -/
def takeDate : Taker (List Char) := do
  let (year, y) ← takeNumber 4 0 9999
  let dash ← takeChar '-'
  let (month, m) ← takeNumber 2 1 12
  let _ ← takeChar '-'
  let (day, _) ← takeNumber 2 1 (daysOf y m)
  return year ++ dash :: month ++ dash :: day

/-- Takes a fraction of a second, if there is one. -/
def takeFraction : Taker (List Char) := fun s =>
  match s with
  | '.' :: rest =>
    let digits := rest.takeWhile isAsciiDigit
    let told := ((digits.take 9).reverse.dropWhile (· == '0')).reverse
    if digits.isEmpty then some ([], s)
    else some (if told.isEmpty then [] else '.' :: told, rest.dropWhile isAsciiDigit)
  | s => some ([], s)

/-- Takes a time of the day. -/
def takeTime : Taker (List Char) := do
  let (hour, _) ← takeNumber 2 0 23
  let colon ← takeChar ':'
  let (minute, _) ← takeNumber 2 0 59
  let _ ← takeChar ':'
  let (second, _) ← takeNumber 2 0 60
  let fraction ← takeFraction
  return hour ++ colon :: minute ++ colon :: second ++ fraction

/-- Takes what tells how far a time is from the universal one. -/
def takeOffset : Taker (List Char) :=
  (do
    let zulu ← takeMark fun c => if c = 'Z' ∨ c = 'z' then some 'Z' else none
    return [zulu]) <|>
  do
    let sign ← takeMark fun c => if c = '+' ∨ c = '-' then some c else none
    let (hour, h) ← takeNumber 2 0 23
    let colon ← takeChar ':'
    let (minute, m) ← takeNumber 2 0 59
    return (if h = 0 ∧ m = 0 then '+' else sign) :: hour ++ colon :: minute

/-- Takes the time after a date, and what tells how far it is from the universal one. -/
def takeTimeOfDate : Taker (List Char) := do
  let mark ← takeMark fun c => if c = 'T' ∨ c = 't' ∨ c = ' ' then some 'T' else none
  let time ← takeTime
  let offset ← takeOffset <|> pure []
  return mark :: time ++ offset

/-- Takes a date with a time, a date or a time. -/
def takeMoment : Taker (List Char) :=
  (do
    let date ← takeDate
    let time ← takeTimeOfDate <|> pure []
    return date ++ time) <|> takeTime

/-- Reads a date with a time, a date or a time. -/
def readMoment (s : List Char) : Option (Reading String s.length) :=
  match takeMoment.run s with
  | none => none
  | some (moment, rest) =>
    if h : rest.length < s.length then some ⟨String.ofList moment, rest, h⟩ else none

end Toml

end TagText
