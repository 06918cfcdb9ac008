import TagText.Pattern.Brackets
import TagText.Pattern.Matcher

/-!
# The written form of patterns

The patterns that the command takes, a part of those of the usual library for regular expressions.
Characters stand for themselves, except `\ . + * ? ( ) | [ { ^ $`; escapes and classes are those of
`Brackets`. Groups are `(…)` and `(?:…)`, also with a name that no other group has; a repetition is
`*`, `+`, `?`, `{n}`, `{n,}` or `{n,m}`, lazy with a `?` after it.

`Pattern.read?` refuses what is not closed, a repetition of nothing, an empty or reversed range, and
escapes that there are not.

Mirroring notes:
- `ofString?` is the compiler of patterns that are `anchored`. It also refuses some that the library
  takes: properties of characters (`\p`), boundaries of words (`\b`, `\<`), flags (`(?i)`), and names
  of groups beyond ASCII. A `Finder` or `Matcher` has no such bounds, and parsers, configurations and
  the command take any `PatternCompiler`, so nothing that is proved depends on them.
- There is no limit to the size of a pattern or to how deep its groups nest.
- Why a pattern is refused is left out.
-/

namespace TagText

namespace Pattern

/-- A group as far as it is read: its finished branches and the parts of the current one, each
with the last first. -/
structure OpenGroup where
  branches : List Pattern
  parts : List Pattern

namespace OpenGroup

/-- The parts of a branch one after the other. -/
def sequence : List Pattern → Pattern
  | [] => .empty
  | [p] => p
  | p :: q :: rest => .seq p (sequence (q :: rest))

/-- The branches in the order of preference, the last of them given apart. -/
def alternatives (last : Pattern) : List Pattern → Pattern
  | [] => last
  | p :: rest => alternatives (.choice p last) rest

/-- A group that holds nothing yet. -/
def fresh : OpenGroup := ⟨[], []⟩

/-- The group with one more part. -/
def push (g : OpenGroup) (p : Pattern) : OpenGroup := { g with parts := p :: g.parts }

/-- The group with its current branch finished. -/
def branch (g : OpenGroup) : OpenGroup := ⟨sequence g.parts.reverse :: g.branches, []⟩

/-- The whole group. -/
def close (g : OpenGroup) : Pattern := alternatives (sequence g.parts.reverse) g.branches

/-- The group with its last part changed; there must be one. -/
def change? (g : OpenGroup) (f : Pattern → Pattern) : Option OpenGroup :=
  match g.parts with
  | [] => none
  | p :: parts => some { g with parts := f p :: parts }

end OpenGroup

/-- Takes a decimal number off the front, with the blanks around it. -/
def readCount (s : List Char) : Option Nat × List Char :=
  let s := s.dropWhile isBlank
  let digits := s.takeWhile isAsciiDigit
  let rest := (s.dropWhile isAsciiDigit).dropWhile isBlank
  let value := digits.foldl (fun n d => n * 10 + (d.toNat - '0'.toNat)) 0
  (if digits.isEmpty || UInt32.size ≤ value then none else some value, rest)

theorem readCount_length (s : List Char) : (readCount s).2.length ≤ s.length := by
  unfold readCount
  exact Nat.le_trans (length_dropWhile_le _ _)
    (Nat.le_trans (length_dropWhile_le _ _) (length_dropWhile_le _ _))

/-- What a written repetition does to the pattern before it, greedy or not. -/
abbrev Repetition := Bool → Pattern → Pattern

/-- `p` at least `n` times. -/
def atLeast (n : Nat) : Repetition := fun greedy p =>
  match n with
  | 0 => .star greedy p
  | n + 1 => .seq (p.times n) (.plus greedy p)

/-- `p` from `n` to `m` times. -/
def between (n m : Nat) : Repetition := fun greedy p => .seq (p.times n) (.upTo greedy p (m - n))

/-- Reads the inside of a counted repetition and its closing brace. -/
def readCounted (s : List Char) : Option (Reading Repetition s.length) :=
  have h := readCount_length s
  match readCount s, h with
  | (some n, '}' :: rest), h => some ⟨fun _ p => p.times n, rest, by simp at h; omega⟩
  | (some n, ',' :: '}' :: rest), h => some ⟨atLeast n, rest, by simp at h; omega⟩
  | (some n, ',' :: more), h =>
    have h' := readCount_length more
    match readCount more, h' with
    | (some m, '}' :: rest), h' =>
      if n ≤ m then some ⟨between n m, rest, by simp at h h'; omega⟩ else none
    | _, _ => none
  | _, _ => none

/-- Takes the `?` that makes a repetition lazy, if it stands next. -/
def takeLazyMark {n : Nat} (r : Reading Repetition n) : Reading (Pattern → Pattern) n :=
  match h : r.rest with
  | '?' :: after => ⟨r.value false, after, by have := r.shorter; simp [h] at this; omega⟩
  | _ => ⟨r.value true, r.rest, r.shorter⟩

/-- Reads the mark of a repetition, without the `?` that makes it lazy. -/
def readMark : (s : List Char) → Option (Reading Repetition s.length)
  | '*' :: rest => some ⟨fun greedy => .star greedy, rest, Nat.lt_succ_self _⟩
  | '+' :: rest => some ⟨.plus, rest, Nat.lt_succ_self _⟩
  | '?' :: rest => some ⟨.optional, rest, Nat.lt_succ_self _⟩
  | '{' :: rest => (readCounted rest).map (·.widen (Nat.le_succ _))
  | _ => none

/-- What may stand in the name of a group. -/
def isNameChar (c : Char) : Bool := c.isAlphanum || c == '_' || c == '.' || c == '[' || c == ']'

/-- Reads the name of a group and the `>` after it. -/
def readName (s : List Char) : Option (Reading String s.length) :=
  match s with
  | c :: rest =>
    if c.isAlpha || c == '_' then
      have := length_dropWhile_le isNameChar rest
      match rest.dropWhile isNameChar, this with
      | '>' :: after, h =>
        some ⟨String.ofList (c :: rest.takeWhile isNameChar), after, by simp at h ⊢; omega⟩
      | _, _ => none
    else none
  | [] => none

/-- What follows the parenthesis of a group, with its name if it has one. -/
structure GroupHead (n : Nat) where
  name : Option String
  rest : List Char
  length_le : rest.length ≤ n

/-- Takes what may follow the parenthesis of a group: nothing, `?:` or a name. -/
def readGroupHead (s : List Char) : Option (GroupHead s.length) :=
  match s with
  | '?' :: ':' :: rest => some ⟨none, rest, Nat.le_add_right _ 2⟩
  | '?' :: 'P' :: '<' :: rest =>
    (readName rest).map fun r =>
      ⟨r.value, r.rest, Nat.le_trans (Nat.le_of_lt r.shorter) (Nat.le_add_right _ 3)⟩
  | '?' :: '<' :: rest =>
    (readName rest).map fun r =>
      ⟨r.value, r.rest, Nat.le_trans (Nat.le_of_lt r.shorter) (Nat.le_add_right _ 2)⟩
  | '?' :: _ => none
  | s => some ⟨none, s, Nat.le_refl _⟩

/-- Reads a single character, class or assertion. -/
def readPart : (s : List Char) → Option (Reading Pattern s.length)
  | [] => none
  | '.' :: rest => some ⟨.one .notNewline, rest, Nat.lt_succ_self _⟩
  | '^' :: rest => some ⟨.start, rest, Nat.lt_succ_self _⟩
  | '$' :: rest => some ⟨.finish, rest, Nat.lt_succ_self _⟩
  | '\\' :: 'A' :: rest => some ⟨.start, rest, Nat.lt_succ_of_lt (Nat.lt_succ_self _)⟩
  | '\\' :: 'z' :: rest => some ⟨.finish, rest, Nat.lt_succ_of_lt (Nat.lt_succ_self _)⟩
  | '[' :: rest =>
    have := OpenClass.opening_length rest
    (readClass [] (OpenClass.opening rest).1 (OpenClass.opening rest).2).map fun r =>
      (r.map .one).widen (Nat.le_succ_of_le this)
  | '\\' :: rest =>
    (readMember ('\\' :: rest)).map fun r =>
      r.map fun
        | .char c => .one (.single c)
        | .named k => .one k
  | c :: rest => some ⟨.one (.single c), rest, Nat.lt_succ_self _⟩

/-- Reads on in the group `inner`, which stands inside those of `outer`, to the end. No two groups
may have the same name; those in `names` are taken. -/
def readGroups (names : List String) (outer : List OpenGroup) (inner : OpenGroup) (s : List Char) :
    Option Pattern :=
  match s with
  | [] => if outer.isEmpty then some inner.close else none
  | '|' :: rest => readGroups names outer inner.branch rest
  | '(' :: rest =>
    match readGroupHead rest with
    | none => none
    | some ⟨name, after, _⟩ =>
      if name.any names.contains then none
      else readGroups (name.toList ++ names) (inner :: outer) .fresh after
  | ')' :: rest =>
    match outer with
    | [] => none
    | next :: outer => readGroups names outer (next.push inner.close) rest
  | c :: rest =>
    if c = '*' ∨ c = '+' ∨ c = '?' ∨ c = '{' then
      match (readMark (c :: rest)).map takeLazyMark with
      | none => none
      | some r =>
        match inner.change? r.value with
        | none => none
        | some inner => readGroups names outer inner r.rest
    else
      match readPart (c :: rest) with
      | none => none
      | some r => readGroups names outer (inner.push r.value) r.rest
termination_by s.length
decreasing_by
  · exact Nat.lt_succ_self _
  · exact Nat.lt_succ_of_le (by assumption)
  · exact Nat.lt_succ_self _
  · exact r.shorter
  · exact r.shorter

/-- Reads a whole pattern. -/
def read? (s : List Char) : Option Pattern := readGroups [] [] .fresh s

/-- Reads a pattern that is to match at the front of a text. The text of the pattern is put
between `^(?:` and `)` as it stands, so one that closes that group early, as `a)|(?:b` does, is
read as a choice whose later branches stand outside it. -/
def ofString? (text : String) : Option Pattern :=
  read? ("^(?:".toList ++ text.toList ++ [')'])

/-- The compiler of the patterns that can be read. -/
def compile? : PatternCompiler := fun text => (ofString? text).map matcher

end Pattern

end TagText
