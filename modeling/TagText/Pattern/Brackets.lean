import TagText.Pattern.Basic
import TagText.Text.Hex
import TagText.Text.Reading

/-!
# Escapes and classes in patterns

A backslash before one of `d s w` or its capital names a class of characters, before `n t r f v a` a
control character, before `x u U` the character of a number in base 16, which has two, four or eight
digits or stands in braces, and before any ASCII character that is no letter, digit, `<` or `>` that
character itself. A class in brackets may hold characters, escapes, ranges, other classes in brackets
and names such as `[:space:]`. Two hyphens, ampersands or tildes take what is before them without
what is after them, with it, or one without the other.
-/

namespace TagText

namespace Pattern

/-! ## Escapes -/

/-- The character that an escape with letter or mark `c` stands for. -/
def escapedChar? (c : Char) : Option Char :=
  match c with
  | 'n' => some '\n'
  | 't' => some '\t'
  | 'r' => some '\r'
  | 'a' => some '\x07'
  | 'f' => some '\x0c'
  | 'v' => some '\x0b'
  | '<' | '>' => none
  | c => if c.toNat < 128 && !c.isAlphanum then some c else none

/-- The class that an escape with letter `c` stands for. -/
def escapedClass? (c : Char) : Option CharClass :=
  match c with
  | 'd' => some .digit
  | 'D' => some (.complement .digit)
  | 's' => some .blank
  | 'S' => some (.complement .blank)
  | 'w' => some .word
  | 'W' => some (.complement .word)
  | _ => none

/-- The number of digits after an escape with letter `c`, if it is one by number. -/
def hexLength? (c : Char) : Option Nat :=
  match c with
  | 'x' => some 2
  | 'u' => some 4
  | 'U' => some 8
  | _ => none

theorem length_dropWhile_le (p : Char → Bool) (s : List Char) :
    (s.dropWhile p).length ≤ s.length :=
  (List.dropWhile_suffix p).length_le

/-- Reads the number of a character: `n + 1` digits, or any number of them in braces. -/
def readHex (n : Nat) (s : List Char) : Option (Reading Char s.length) :=
  match s with
  | [] => none
  | '{' :: rest =>
    let digits := rest.takeWhile (· != '}')
    have := length_dropWhile_le (· != '}') rest
    match rest.dropWhile (· != '}'), this with
    | '}' :: after, h =>
      if digits.isEmpty then none
      else ((hexNumber? 0 digits).bind scalar?).map fun c =>
        ⟨c, after, by simp only [List.length_cons] at h ⊢; omega⟩
    | _, _ => none
  | d :: rest =>
    if rest.length < n then none
    else ((hexNumber? 0 (d :: rest.take n)).bind scalar?).map fun c =>
      ⟨c, rest.drop n, by simp only [List.length_drop, List.length_cons]; omega⟩

/-- One member of a class in brackets, with its range if it opens one: a character or a named
class. -/
inductive Member where
  | char (c : Char)
  | named (c : CharClass)

/-- Reads one member of a class. -/
def readMember : (s : List Char) → Option (Reading Member s.length)
  | [] => none
  | ['\\'] => none
  | '\\' :: c :: rest =>
    match hexLength? c, escapedClass? c, escapedChar? c with
    | some n, _, _ =>
      (readHex (n - 1) rest).map fun r =>
        (r.map .char).widen (by simp only [List.length_cons]; omega)
    | none, some k, _ => some ⟨.named k, rest, by simp only [List.length_cons]; omega⟩
    | none, none, some d => some ⟨.char d, rest, by simp only [List.length_cons]; omega⟩
    | none, none, none => none
  | c :: rest => some ⟨.char c, rest, by simp⟩

/-! ## Classes in brackets -/

/-- Reads a member or a range. A `-` opens a range unless `]` or another `-` follows it. -/
def readRange (s : List Char) : Option (Reading CharClass s.length) :=
  match readMember s with
  | none => none
  | some ⟨first, rest, shorter⟩ =>
    let alone : Reading CharClass s.length :=
      match first with
      | .char c => ⟨.single c, rest, shorter⟩
      | .named k => ⟨k, rest, shorter⟩
    match rest, shorter with
    | '-' :: ']' :: _, _ => some alone
    | '-' :: '-' :: _, _ => some alone
    | '-' :: more, shorter =>
      match first, readMember more with
      | .char lo, some ⟨.char hi, after, h⟩ =>
        if lo ≤ hi then some ⟨.range lo hi, after, by simp at shorter; omega⟩ else none
      | _, _ => none
    | _, _ => some alone

/-- The ASCII characters in the class of a name. -/
def asciiRanges? (name : String) : Option (List (Char × Char)) :=
  match name with
  | "alnum" => some [('0', '9'), ('A', 'Z'), ('a', 'z')]
  | "alpha" => some [('A', 'Z'), ('a', 'z')]
  | "ascii" => some [('\x00', '\x7f')]
  | "blank" => some [('\t', '\t'), (' ', ' ')]
  | "cntrl" => some [('\x00', '\x1f'), ('\x7f', '\x7f')]
  | "digit" => some [('0', '9')]
  | "graph" => some [('!', '~')]
  | "lower" => some [('a', 'z')]
  | "print" => some [(' ', '~')]
  | "punct" => some [('!', '/'), (':', '@'), ('[', '\x60'), ('{', '~')]
  | "space" => some [('\t', '\r'), (' ', ' ')]
  | "upper" => some [('A', 'Z')]
  | "word" => some [('0', '9'), ('A', 'Z'), ('_', '_'), ('a', 'z')]
  | "xdigit" => some [('0', '9'), ('A', 'F'), ('a', 'f')]
  | _ => none

/-- The class of several ranges. -/
def ofRanges (ranges : List (Char × Char)) : CharClass :=
  ranges.foldr (fun r k => .union (.range r.1 r.2) k) .nothing

/-- Reads the name of a class and the colon and bracket after it. -/
def readClassName (s : List Char) : Option (Reading CharClass s.length) :=
  let isName (c : Char) : Bool := c != ':'
  have := length_dropWhile_le isName s
  match s.dropWhile isName, this with
  | ':' :: ']' :: after, h =>
    (asciiRanges? (String.ofList (s.takeWhile isName))).map fun ranges =>
      ⟨ofRanges ranges, after, by simp only [List.length_cons] at h; omega⟩
  | _, _ => none

/-- Reads a class by name, such as `[:space:]`, after its bracket. With a `^` before the name it is
all other characters. -/
def readNamed (s : List Char) : Option (Reading CharClass s.length) :=
  match s with
  | ':' :: '^' :: rest =>
    (readClassName rest).map fun r =>
      (r.map .complement).widen (by simp only [List.length_cons]; omega)
  | ':' :: rest => (readClassName rest).map (·.widen (by simp))
  | _ => none

/-- How two parts of a class are put together: the characters of both, those of the first only, or
those of just one. -/
inductive SetOperation where
  | both
  | firstOnly
  | justOne

/-- The characters of two classes put together. -/
def SetOperation.apply (op : SetOperation) (a b : CharClass) : CharClass :=
  let inter (a b : CharClass) : CharClass := .complement (.union (.complement a) (.complement b))
  match op with
  | .both => inter a b
  | .firstOnly => inter a (.complement b)
  | .justOne => .union (inter a (.complement b)) (inter b (.complement a))

/-- A class in brackets as far as it is read: its members since the last operation, and what stands
before that. -/
structure OpenClass where
  negated : Bool
  earlier : Option (CharClass × SetOperation)
  members : CharClass

namespace OpenClass

/-- A class that holds nothing yet. -/
def fresh (negated : Bool) : OpenClass := ⟨negated, none, .nothing⟩

/-- The class with one more member. -/
def add (k : OpenClass) (member : CharClass) : OpenClass :=
  { k with members := .union k.members member }

/-- All that is read of the class. -/
def whole (k : OpenClass) : CharClass :=
  match k.earlier with
  | none => k.members
  | some (left, op) => op.apply left k.members

/-- The class before the second part of an operation. -/
def operate (k : OpenClass) (op : SetOperation) : OpenClass :=
  { k with earlier := some (k.whole, op), members := .nothing }

/-- The class when its bracket closes. -/
def close (k : OpenClass) : CharClass :=
  if k.negated then .complement k.whole else k.whole

/-- Takes the hyphens that stand first in a class for themselves, and after no hyphen a closing
bracket too. -/
def takeLeading (k : OpenClass) (first : Bool) : List Char → OpenClass × List Char
  | '-' :: s => takeLeading (k.add (.single '-')) false s
  | ']' :: s => if first then (k.add (.single ']'), s) else (k, ']' :: s)
  | s => (k, s)

theorem takeLeading_length (k : OpenClass) (first : Bool) (s : List Char) :
    (takeLeading k first s).2.length ≤ s.length := by
  fun_induction takeLeading k first s with
  | case1 k first s ih => exact Nat.le_succ_of_le ih
  | case2 => simp
  | case3 => exact Nat.le_refl _
  | case4 => exact Nat.le_refl _

/-- What a class begins with, after its bracket. -/
def opening : List Char → OpenClass × List Char
  | '^' :: s => takeLeading (fresh true) true s
  | s => takeLeading (fresh false) true s

theorem opening_length (s : List Char) : (opening s).2.length ≤ s.length := by
  unfold opening
  split
  · exact Nat.le_trans (takeLeading_length _ _ _) (by simp)
  · exact takeLeading_length _ _ _

end OpenClass

/-- Reads on in the class `inner`, which stands inside those of `outer`, up to the bracket that
closes the outermost one. -/
def readClass (outer : List OpenClass) (inner : OpenClass) (s : List Char) :
    Option (Reading CharClass s.length) :=
  match s with
  | [] => none
  | '&' :: '&' :: rest =>
    (readClass outer (inner.operate .both) rest).map
      (·.widen (by simp only [List.length_cons]; omega))
  | '-' :: '-' :: rest =>
    (readClass outer (inner.operate .firstOnly) rest).map
      (·.widen (by simp only [List.length_cons]; omega))
  | '~' :: '~' :: rest =>
    (readClass outer (inner.operate .justOne) rest).map
      (·.widen (by simp only [List.length_cons]; omega))
  | '[' :: rest =>
    match readNamed rest with
    | some r =>
      (readClass outer (inner.add r.value) r.rest).map
        (·.widen (by have := r.shorter; simp only [List.length_cons]; omega))
    | none =>
      have := OpenClass.opening_length rest
      (readClass (inner :: outer) (OpenClass.opening rest).1 (OpenClass.opening rest).2).map
        (·.widen (by simp only [List.length_cons]; omega))
  | ']' :: rest =>
    match outer with
    | [] => some ⟨inner.close, rest, by simp⟩
    | next :: outer => (readClass outer (next.add inner.close) rest).map (·.widen (by simp))
  | c :: rest =>
    match readRange (c :: rest) with
    | none => none
    | some r => (readClass outer (inner.add r.value) r.rest).map (·.widen (Nat.le_of_lt r.shorter))
termination_by s.length
decreasing_by
  · simp only [List.length_cons]; omega
  · simp only [List.length_cons]; omega
  · simp only [List.length_cons]; omega
  · have := r.shorter; simp only [List.length_cons]; omega
  · simp only [List.length_cons]; omega
  · simp
  · exact r.shorter

end Pattern

end TagText
