import TagText.Text.Blank
import TagText.Text.Digit
import TagText.Text.Word

/-!
# Patterns: what a text may begin with

A pattern is matched at the front of a text only. Of several ways to match, the first in the
order of preference counts: the left branch of a choice before the right one, and one more
round of a greedy repetition before going on. `Pattern.prefixLength` gives the number of
characters of that match, and 0 when there is none.

A repetition goes round again only after a round that took a character; a round that took
none is its last.
-/

namespace TagText

/-- A set of characters, as written in a pattern. -/
inductive CharClass where
  | nothing
  | range (first last : Char)
  | digit
  | blank
  | word
  | union (a b : CharClass)
  | complement (a : CharClass)

namespace CharClass

/-- The class of one character. -/
def single (c : Char) : CharClass := .range c c

/-- Every character but the line feed. -/
def notNewline : CharClass := .complement (.single '\n')

/-- Whether a character belongs to the class. -/
def holds : CharClass → Char → Bool
  | .nothing, _ => false
  | .range first last, c => first ≤ c && c ≤ last
  | .digit, c => isDigit c
  | .blank, c => isBlank c
  | .word, c => isWord c
  | .union a b, c => a.holds c || b.holds c
  | .complement a, c => !a.holds c

end CharClass

/-- A pattern. Counted repetitions are spelled out by `times` and `upTo`. -/
inductive Pattern where
  | empty
  | start
  | finish
  | one (c : CharClass)
  | seq (p q : Pattern)
  | choice (p q : Pattern)
  | star (greedy : Bool) (p : Pattern)

namespace Pattern

/-- `p` or nothing, in the preferred order. -/
def optional (greedy : Bool) (p : Pattern) : Pattern :=
  if greedy then .choice p .empty else .choice .empty p

/-- `p` one time or more. -/
def plus (greedy : Bool) (p : Pattern) : Pattern := .seq p (.star greedy p)

/-- `p` exactly `n` times. -/
def times (p : Pattern) : Nat → Pattern
  | 0 => .empty
  | n + 1 => .seq p (times p n)

/-- `p` at most `n` times. -/
def upTo (greedy : Bool) (p : Pattern) : Nat → Pattern
  | 0 => .empty
  | n + 1 => optional greedy (.seq p (upTo greedy p n))

/-- A place in `text`: so many characters lie behind it and `rest` before it. -/
structure Spot (text : List Char) where
  behind : Nat
  rest : List Char
  total : behind + rest.length = text.length

namespace Spot

variable {text : List Char}

/-- The front of the text. -/
def front (text : List Char) : Spot text := ⟨0, text, Nat.zero_add _⟩

/-- The place after one character of the class, if one stands here. -/
def step? (c : CharClass) (s : Spot text) : Option (Spot text) :=
  match s with
  | ⟨_, [], _⟩ => none
  | ⟨behind, a :: rest, total⟩ =>
    if c.holds a then some ⟨behind + 1, rest, by simp at total; omega⟩ else none

theorem rest_length_lt {s t : Spot text} (h : s.behind < t.behind) :
    t.rest.length < s.rest.length := by
  have := s.total
  have := t.total
  omega

end Spot

variable {text : List Char}

/-- Rounds of `body` from `s` on, as many as can be had before `next`, then `next`. -/
def roundsGreedy (body : Spot text → (Spot text → Option Nat) → Option Nat)
    (s : Spot text) (next : Spot text → Option Nat) : Option Nat :=
  match body s fun t => if s.behind < t.behind then roundsGreedy body t next else next t with
  | some n => some n
  | none => next s
termination_by s.rest.length
decreasing_by exact Spot.rest_length_lt (by assumption)

/-- Rounds of `body` from `s` on, as few as `next` asks for, then `next`. -/
def roundsLazy (body : Spot text → (Spot text → Option Nat) → Option Nat)
    (s : Spot text) (next : Spot text → Option Nat) : Option Nat :=
  match next s with
  | some n => some n
  | none => body s fun t => if s.behind < t.behind then roundsLazy body t next else next t
termination_by s.rest.length
decreasing_by exact Spot.rest_length_lt (by assumption)

/-- The answer of `next` at the first place where the pattern, begun at `s`, may end and
`next` answers. -/
def run : Pattern → Spot text → (Spot text → Option Nat) → Option Nat
  | .empty, s, next => next s
  | .start, s, next => if s.behind = 0 then next s else none
  | .finish, s, next => if s.rest.isEmpty then next s else none
  | .one c, s, next => (s.step? c).bind next
  | .seq p q, s, next => p.run s fun t => q.run t next
  | .choice p q, s, next =>
    match p.run s next with
    | some n => some n
    | none => q.run s next
  | .star true p, s, next => roundsGreedy p.run s next
  | .star false p, s, next => roundsLazy p.run s next

/-- How many characters at the front of `s` the pattern takes: 0 also when it does not match. -/
def prefixLength (p : Pattern) (s : List Char) : Nat :=
  (p.run (Spot.front s) fun t => some t.behind).getD 0

/-- A run of blanks, at least one: what stands around the parts of a tag. -/
def blanks : Pattern := .plus true (.one .blank)

end Pattern

end TagText
