import TagText.Json.Number
import TagText.Text.Hex
import TagText.Text.Reading

/-!
# Reading JSON text

The usual grammar, strictly: only space, tab, line feed and carriage return between the parts, no
comma after the last one, no control character in a string, and surrogates in escapes only as
pairs. Lists and maps may nest 127 deep. The entries of a map come out in the order of their
names, and of two entries with one name the later is kept.
-/

namespace TagText

namespace Json

/-- What may stand between the parts of a text. -/
def isSpace (c : Char) : Bool := c == ' ' || c == '\t' || c == '\n' || c == '\r'

/-- The text after the spaces in front. -/
def skipSpaces (s : List Char) : List Char := s.dropWhile isSpace

theorem skipSpaces_length_le (s : List Char) : (skipSpaces s).length ≤ s.length :=
  (List.dropWhile_suffix _).length_le

/-- The character of an escape by number: one unit that is no surrogate, or a high surrogate and
then the unit of a low one. -/
def unitsChar? (unit : Nat) (low : Option Nat) : Option Char :=
  match low with
  | none => scalar? unit
  | some low =>
    if 0xD800 ≤ unit && unit < 0xDC00 && 0xDC00 ≤ low && low < 0xE000 then
      scalar? (0x10000 + (unit - 0xD800) * 0x400 + (low - 0xDC00))
    else none

/-- The character of an escape by a letter or mark. -/
def escaped? (c : Char) : Option Char :=
  match c with
  | '"' => some '"'
  | '\\' => some '\\'
  | '/' => some '/'
  | 'b' => some '\x08'
  | 'f' => some '\x0c'
  | 'n' => some '\n'
  | 'r' => some '\r'
  | 't' => some '\t'
  | _ => none

/-- The rest of a string after the characters `taken`, the last of them first, and the text after
its closing quote. -/
def takeChars (taken : List Char) : List Char → Option (List Char × List Char)
  | '"' :: rest => some (taken.reverse, rest)
  | '\\' :: 'u' :: a :: b :: c :: d :: rest =>
    match hexNumber? 0 [a, b, c, d] with
    | none => none
    | some unit =>
      if 0xD800 ≤ unit && unit < 0xDC00 then
        match rest with
        | '\\' :: 'u' :: a :: b :: c :: d :: rest =>
          match (hexNumber? 0 [a, b, c, d]).bind fun low => unitsChar? unit (some low) with
          | none => none
          | some c => takeChars (c :: taken) rest
        | _ => none
      else
        match unitsChar? unit none with
        | none => none
        | some c => takeChars (c :: taken) rest
  | '\\' :: c :: rest =>
    match escaped? c with
    | none => none
    | some c => takeChars (c :: taken) rest
  | c :: rest => if c.toNat < 0x20 || c == '\\' then none else takeChars (c :: taken) rest
  | [] => none

theorem takeChars_length_lt {taken cs s rest : List Char}
    (h : takeChars taken s = some (cs, rest)) : rest.length < s.length := by
  fun_induction takeChars taken s <;> simp_all <;> omega

/-- The string whose opening quote was read. -/
def readString (s : List Char) : Option (Reading String s.length) :=
  match h : takeChars [] s with
  | none => none
  | some (cs, rest) => some ⟨String.ofList cs, rest, takeChars_length_lt h⟩

/-- A way to read a value off the front of a text. -/
abbrev ValueReader := (s : List Char) → Option (Reading Value s.length)

/-- The items of a list from one that must stand next to its closing bracket, after those taken,
the last of them first. -/
def readItems (read : ValueReader) {n : Nat} (taken : List Value) (s : List Char)
    (h : s.length ≤ n) : Option (Reading Value n) :=
  match read (skipSpaces s) with
  | none => none
  | some ⟨v, rest, shorter⟩ =>
    have := skipSpaces_length_le s
    have := skipSpaces_length_le rest
    match hr : skipSpaces rest with
    | ',' :: more => readItems read (v :: taken) more (by simp [hr] at *; omega)
    | ']' :: after => some ⟨.list (v :: taken).reverse, after, by simp [hr] at *; omega⟩
    | _ => none
termination_by s.length
decreasing_by simp [hr] at *; omega

/-- The entries of a map from one that must stand next to its closing brace, after those taken. -/
def readEntries (read : ValueReader) {n : Nat} (taken : Entries) (s : List Char)
    (h : s.length ≤ n) : Option (Reading Value n) :=
  have := skipSpaces_length_le s
  match hs : skipSpaces s with
  | '"' :: s₁ =>
    match readString s₁ with
    | none => none
    | some ⟨name, s₂, h₂⟩ =>
      have := skipSpaces_length_le s₂
      match h₃ : skipSpaces s₂ with
      | ':' :: s₃ =>
        have := skipSpaces_length_le s₃
        match read (skipSpaces s₃) with
        | none => none
        | some ⟨v, s₄, h₄⟩ =>
          have := skipSpaces_length_le s₄
          match h₅ : skipSpaces s₄ with
          | ',' :: more =>
            readEntries read (Named.put taken name v) more (by simp [hs, h₃, h₅] at *; omega)
          | '\x7d' :: after =>
            some ⟨.map (Named.sort (Named.put taken name v)), after,
              by simp [hs, h₃, h₅] at *; omega⟩
          | _ => none
      | _ => none
  | _ => none
termination_by s.length
decreasing_by simp [hs, h₃, h₅] at *; omega

/-- A value in whose lists and maps others may nest `depth` deep. No space stands before it. -/
def readValue : (depth : Nat) → ValueReader
  | depth, s =>
    match s with
    | 'n' :: 'u' :: 'l' :: 'l' :: rest =>
      some ⟨.null, rest, by simp only [List.length_cons]; omega⟩
    | 't' :: 'r' :: 'u' :: 'e' :: rest =>
      some ⟨.bool true, rest, by simp only [List.length_cons]; omega⟩
    | 'f' :: 'a' :: 'l' :: 's' :: 'e' :: rest =>
      some ⟨.bool false, rest, by simp only [List.length_cons]; omega⟩
    | '"' :: rest =>
      (readString rest).map fun r =>
        (r.map .string).widen (by simp only [List.length_cons]; omega)
    | '[' :: rest =>
      match depth with
      | 0 => none
      | depth + 1 =>
        have := skipSpaces_length_le rest
        match hr : skipSpaces rest with
        | ']' :: after => some ⟨.list [], after, by simp [hr] at *; omega⟩
        | _ => readItems (readValue depth) [] rest (by simp only [List.length_cons]; omega)
    | '\x7b' :: rest =>
      match depth with
      | 0 => none
      | depth + 1 =>
        have := skipSpaces_length_le rest
        match hr : skipSpaces rest with
        | '\x7d' :: after => some ⟨.map [], after, by simp [hr] at *; omega⟩
        | _ => readEntries (readValue depth) [] rest (by simp only [List.length_cons]; omega)
    | s =>
      match h : takeNumber s with
      | none => none
      | some (v, rest) => some ⟨v, rest, takeNumber_length_lt h⟩

/-- How deep lists and maps may nest. -/
def maxDepth : Nat := 127

/-- The value of a text that holds nothing else. -/
def readText (s : List Char) : Option Value :=
  match readValue maxDepth (skipSpaces s) with
  | none => none
  | some ⟨v, rest, _⟩ => if (skipSpaces rest).isEmpty then some v else none

end Json

/-- The value that a JSON text holds. -/
def Value.ofJson? (text : String) : Option Value := Json.readText text.toList

end TagText
