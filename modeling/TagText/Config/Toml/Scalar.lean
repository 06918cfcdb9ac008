import TagText.Config.Setting
import TagText.Decimal.Reader
import TagText.Text.Hex
import TagText.Text.Reading

/-!
# Strings and numbers in TOML

Strings stand between quotation marks, with escapes, or between apostrophes, without; three marks
in place of one let them go over lines. A number may have underscores between its digits. A whole
number has 64 bits and a sign, and may be written to the base 16, 8 or 2.
-/

namespace TagText

namespace Toml

/-- Whether a character may not stand in a document: a control character, the tab apart. -/
def isControl (c : Char) : Bool := (c.toNat < 0x20 && c != '\t') || c.toNat == 0x7f

/-- A space or a tab. -/
def isSpace (c : Char) : Bool := c == ' ' || c == '\t'

/-- The text after the spaces in front. -/
def skipSpaces (s : List Char) : List Char := s.dropWhile isSpace

theorem skipSpaces_length_le (s : List Char) : (skipSpaces s).length ≤ s.length :=
  (List.dropWhile_suffix _).length_le

theorem length_lt_of_skipSpaces {s rest : List Char} {c : Char} (h : skipSpaces s = c :: rest) :
    rest.length < s.length := by
  have hle := skipSpaces_length_le s
  rw [h, List.length_cons] at hle
  exact hle

/-- The text without the line feed, or carriage return and line feed, in front. -/
def dropNewline : List Char → List Char
  | '\n' :: s => s
  | '\r' :: '\n' :: s => s
  | s => s

theorem dropNewline_length_le (s : List Char) : (dropNewline s).length ≤ s.length := by
  unfold dropNewline
  split <;> simp
  omega

/-! ## Strings -/

/-- Whether a character may be passed over after a backslash at the end of a line. -/
def isFolded (c : Char) : Bool := isSpace c || c == '\n' || c == '\r'

/-- The character of an escape by a letter or mark. -/
def escaped? (c : Char) : Option Char :=
  match c with
  | 'b' => some '\x08'
  | 't' => some '\t'
  | 'n' => some '\n'
  | 'f' => some '\x0c'
  | 'r' => some '\r'
  | '"' => some '"'
  | '\\' => some '\\'
  | _ => none

/-- What an escape after its backslash gives, and the text after it. Over lines, the end of a line
with all blanks after it gives nothing. -/
def takeEscape (lines : Bool) : List Char → Option (List Char × List Char)
  | 'u' :: a :: b :: c :: d :: rest =>
    ((hexNumber? 0 [a, b, c, d]).bind scalar?).map fun c => ([c], rest)
  | 'U' :: a :: b :: c :: d :: e :: f :: g :: h :: rest =>
    ((hexNumber? 0 [a, b, c, d, e, f, g, h]).bind scalar?).map fun c => ([c], rest)
  | c :: rest =>
    match escaped? c with
    | some d => some ([d], rest)
    | none =>
      match skipSpaces (c :: rest) with
      | '\n' :: more => if lines then some ([], more.dropWhile isFolded) else none
      | '\r' :: '\n' :: more => if lines then some ([], more.dropWhile isFolded) else none
      | _ => none
  | [] => none

theorem takeEscape_length_lt {lines : Bool} {s cs rest : List Char}
    (h : takeEscape lines s = some (cs, rest)) : rest.length < s.length := by
  have fold (more : List Char) : (more.dropWhile isFolded).length ≤ more.length :=
    (List.dropWhile_suffix _).length_le
  unfold takeEscape at h
  split at h
  · simp only [Option.map_eq_some_iff, Prod.mk.injEq] at h
    obtain ⟨_, _, _, rfl⟩ := h
    simp
    omega
  · simp only [Option.map_eq_some_iff, Prod.mk.injEq] at h
    obtain ⟨_, _, _, rfl⟩ := h
    simp
    omega
  · next c r _ _ =>
    have hle := skipSpaces_length_le (c :: r)
    split at h
    · simp at h
      simp [h.2]
    · split at h
      · next more hm =>
        have := fold more
        simp only [hm, List.length_cons] at hle
        split at h
        · simp only [Option.some.injEq, Prod.mk.injEq] at h
          obtain ⟨-, rfl⟩ := h
          simp
          omega
        · simp at h
      · next more hm =>
        have := fold more
        simp only [hm, List.length_cons] at hle
        split at h
        · simp only [Option.some.injEq, Prod.mk.injEq] at h
          obtain ⟨-, rfl⟩ := h
          simp
          omega
        · simp at h
      · simp at h
  · simp at h

/-- The rest of a string between single marks, after the characters `taken`, the last first. -/
def takeLine (mark : Char) (taken : List Char) (s : List Char) :
    Option (List Char × List Char) :=
  match s with
  | [] => none
  | c :: rest =>
    if c = mark then some (taken.reverse, rest)
    else if c = '\\' && mark = '"' then
      match h : takeEscape false rest with
      | none => none
      | some (cs, more) =>
        have := takeEscape_length_lt h
        takeLine mark (cs.reverse ++ taken) more
    else if isControl c then none
    else takeLine mark (c :: taken) rest
termination_by s.length

theorem takeLine_length_lt {mark : Char} {taken s cs rest : List Char}
    (h : takeLine mark taken s = some (cs, rest)) : rest.length < s.length := by
  fun_induction takeLine mark taken s with
  | case1 => simp at h
  | case2 => simp at h; simp [h.2]
  | case3 => simp at h
  | case4 _ _ _ _ _ _ _ _ _ ih => have := ih h; simp at *; omega
  | case5 => simp at h
  | case6 _ _ _ _ _ _ ih => have := ih h; simp; omega

/-- The rest of a string between triple marks. Up to two marks before the closing three belong to
the string. -/
def takeLines (mark : Char) (taken : List Char) (s : List Char) :
    Option (List Char × List Char) :=
  match s with
  | [] => none
  | c :: rest =>
    if c = mark then
      match rest with
      | a :: b :: more =>
        if a = mark && b = mark then
          match more with
          | d :: e :: after =>
            if d = mark && e = mark then some ((mark :: mark :: taken).reverse, after)
            else if d = mark then some ((mark :: taken).reverse, e :: after)
            else some (taken.reverse, d :: e :: after)
          | [d] =>
            if d = mark then some ((mark :: taken).reverse, []) else some (taken.reverse, [d])
          | [] => some (taken.reverse, [])
        else takeLines mark (c :: taken) (a :: b :: more)
      | _ => none
    else if c = '\\' && mark = '"' then
      match h : takeEscape true rest with
      | none => none
      | some (cs, more) =>
        have := takeEscape_length_lt h
        takeLines mark (cs.reverse ++ taken) more
    else if c = '\r' then
      match rest with
      | '\n' :: more => takeLines mark ('\n' :: taken) more
      | _ => none
    else if c != '\n' && isControl c then none
    else takeLines mark (c :: taken) rest
termination_by s.length

theorem takeLines_length_lt {mark : Char} {taken s cs rest : List Char}
    (h : takeLines mark taken s = some (cs, rest)) : rest.length < s.length := by
  fun_induction takeLines mark taken s with
  | case11 _ _ _ _ _ _ _ _ _ ih =>
    have := ih h
    simp at *
    omega
  | _ =>
    simp_all
    try omega

/-- The rest of a string whose first mark was read: over lines when two more follow it. -/
def takeString (mark : Char) : List Char → Option (List Char × List Char)
  | a :: b :: more =>
    if a = mark && b = mark then takeLines mark [] (dropNewline more)
    else takeLine mark [] (a :: b :: more)
  | s => takeLine mark [] s

theorem takeString_length_lt {mark : Char} {s cs rest : List Char}
    (h : takeString mark s = some (cs, rest)) : rest.length < s.length := by
  unfold takeString at h
  split at h
  · next a b more =>
    split at h
    · have := takeLines_length_lt h
      have := dropNewline_length_le more
      simp only [List.length_cons]
      omega
    · exact takeLine_length_lt h
  · exact takeLine_length_lt h

/-- Reads a string whose first mark was read. -/
def readString (mark : Char) (s : List Char) : Option (Reading String s.length) :=
  match h : takeString mark s with
  | none => none
  | some (cs, rest) => some ⟨String.ofList cs, rest, takeString_length_lt h⟩

/-! ## Numbers and truth values -/

/-- The digits of a text that may have single underscores between them. -/
def plainDigits? (isDigit : Char → Bool) : List Char → Option (List Char)
  | [] => none
  | [c] => if isDigit c then some [c] else none
  | c :: '_' :: rest => if isDigit c then (plainDigits? isDigit rest).map (c :: ·) else none
  | c :: rest => if isDigit c then (plainDigits? isDigit rest).map (c :: ·) else none

/-- The value of digits to a base. -/
def digitsValue? (base : Nat) (s : List Char) : Option Nat :=
  let isDigit (c : Char) : Bool := (hexValue? c).any (· < base)
  (plainDigits? isDigit s).map fun digits =>
    digits.foldl (fun n c => n * base + (hexValue? c).getD 0) 0

/-- The digits of a decimal number that does not begin with a needless zero. -/
def wholeDigits? (s : List Char) : Option (List Char) :=
  match plainDigits? isAsciiDigit s with
  | some ('0' :: _ :: _) => none
  | digits => digits

/-- A whole number without a sign. -/
def unsigned? (s : List Char) : Option Nat := (wholeDigits? s).map Decimal.digitsValue

/-- The exponent of a number, which may begin with zeros. -/
def exponent? (s : List Char) : Option Int :=
  match s with
  | '-' :: s => (plainDigits? isAsciiDigit s).map fun d => -(Decimal.digitsValue d : Int)
  | '+' :: s => (plainDigits? isAsciiDigit s).map fun d => (Decimal.digitsValue d : Int)
  | s => (plainDigits? isAsciiDigit s).map fun d => (Decimal.digitsValue d : Int)

/-- A number with a fraction or an exponent, without its sign, if the doubles reach so far. -/
def fraction? (s : List Char) : Option Float := do
  let isMark (c : Char) : Bool := c == 'e' || c == 'E'
  let number := s.takeWhile (!isMark ·)
  let whole := number.takeWhile (· != '.')
  let digits ← wholeDigits? whole
  let places ←
    match number.dropWhile (· != '.') with
    | [] => some []
    | _ :: places => plainDigits? isAsciiDigit places
  let exponent ←
    match s.dropWhile (!isMark ·) with
    | [] => some 0
    | _ :: e => exponent? e
  let x := Decimal.Scaled.toFloat
    ⟨Decimal.digitsValue (digits ++ places), exponent - places.length⟩
  if x.isInf then none else some x

/-- A number or a special value of the doubles without its sign. -/
def float? (s : List Char) : Option Float :=
  if s = ['i', 'n', 'f'] then some (Float.ofBits 0x7FF0000000000000)
  else if s = ['n', 'a', 'n'] then some (Float.ofBits 0x7FF8000000000000)
  else fraction? s

/-- A truth value or a number. -/
def scalarOf? (s : List Char) : Option Setting :=
  let int (n : Int) : Option Setting := if isInt64 n then some (.int n) else none
  match s with
  | ['t', 'r', 'u', 'e'] => some (.bool true)
  | ['f', 'a', 'l', 's', 'e'] => some (.bool false)
  | '0' :: 'x' :: digits => (digitsValue? 16 digits).bind fun n => int n
  | '0' :: 'o' :: digits => (digitsValue? 8 digits).bind fun n => int n
  | '0' :: 'b' :: digits => (digitsValue? 2 digits).bind fun n => int n
  | s =>
    let (negative, size) :=
      match s with
      | '-' :: size => (true, size)
      | '+' :: size => (false, size)
      | size => (false, size)
    match unsigned? size with
    | some n => int (if negative then -(n : Int) else n)
    | none => (float? size).map fun x => .float (if negative then -x else x)

end Toml

end TagText
