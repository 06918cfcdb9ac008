import TagText.Pattern.Matcher

/-!
# A place in a text

A cursor stands between the characters of a text that never changes. It counts characters, and
stops at the end of the text however far it is sent. How far to look, read or move is told by a
`Span`: a number of characters, as many as another text has, or what a pattern takes here.

This is the plain cursor, with which one thinks of places. The one that runs is `ByteCursor`, and
each of its operations is shown to be one of these. What is left out here: bytes and their offsets,
the largest number, and how a match is found. A number is any natural number, and nothing fails.
-/

namespace TagText

/-- A place in `source`, of which `ahead` is still to come. -/
structure Cursor where
  source : List Char
  ahead : List Char
  blanks : Matcher
  ahead_suffix : ahead <:+ source

/-- A stretch of text before a cursor. -/
inductive Span where
  | count (n : Nat)
  | sameAs (text : String)
  | pattern (p : Matcher)

namespace Cursor

/-- A cursor at the front of a text. -/
def ofString (source : String) (blanks : Matcher) : Cursor :=
  ⟨source.toList, source.toList, blanks, List.suffix_refl _⟩

/-- The number of characters of the text. -/
def length (c : Cursor) : Nat := c.source.length

/-- The number of characters behind the cursor. -/
def index (c : Cursor) : Nat := c.source.length - c.ahead.length

/-- Whether nothing is ahead. -/
def isAtEnd (c : Cursor) : Bool := c.ahead.isEmpty

/-- The number of characters that a span asks for. -/
def extent (c : Cursor) : Span → Nat
  | .count n => n
  | .sameAs text => text.length
  | .pattern p => p.prefixLength c.ahead

/-- The characters of a span, as far as there are any. -/
def peek (c : Cursor) (span : Span) : List Char := c.ahead.take (c.extent span)

/-- The cursor after a span. -/
def seek (c : Cursor) (span : Span) : Cursor where
  source := c.source
  ahead := c.ahead.drop (c.extent span)
  blanks := c.blanks
  ahead_suffix := (List.drop_suffix _ _).trans c.ahead_suffix

/-- The characters of a span, and the cursor after it. -/
def read (c : Cursor) (span : Span) : List Char × Cursor := (c.peek span, c.seek span)

/-- The cursor after the blanks that stand next. -/
def seekBlanks (c : Cursor) : Cursor := c.seek (.pattern c.blanks)

/-- The cursor back at the front. -/
def rewind (c : Cursor) : Cursor := ⟨c.source, c.source, c.blanks, List.suffix_refl _⟩

/-- Whether `text` stands next. -/
def nextEquals (c : Cursor) (text : String) : Bool := c.peek (.sameAs text) == text.toList

/-- Whether a pattern takes a character here. -/
def nextMatches (c : Cursor) (p : Matcher) : Bool := !(c.peek (.pattern p)).isEmpty

end Cursor

end TagText
