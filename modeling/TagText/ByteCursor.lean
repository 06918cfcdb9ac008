import TagText.Pattern.Finder

/-!
# A cursor over bytes

The cursor that scans a template. It keeps the text with the byte offset of every place between
characters, and counts its own place in characters, as a number of 64 bits. Adding to that number
stops at the largest there is, and then at the number of characters. To look ahead is to ask for
bytes: from the offset of its place to the offset of another one, or as far as a match goes that was
found in the rest of the text. A match is counted again in characters before the cursor moves.

What is asked for may not be there: a place without an offset, or offsets that do not part the text
(`slice?`). The operations give nothing then. That they always give something, and what, is told by
the plain cursor (`Cursor`), to which this one is shown to be equal.

Mirroring notes:
- `peek`, `read` and `seek` go by a number of characters, those with `_same` by as many as another
  text has, and those with `_pattern` by a match, as do `seek_whitespace`, `next_equals` and
  `next_matches`. Each is here with its own steps: `read` takes the offset of its place before it
  moves, and what is read by a match is counted once more.
- Where an index or a part of the text out of bounds would stop the program, there is `none` here.
- A compiled pattern is a `Finder`: what it finds may begin anywhere, and counts only at the front.
- A cursor has a name for each place that it moves to, as values do not change.
-/

namespace TagText

/-- The sum of two numbers, or the largest number if that is smaller. -/
def saturatingAdd (a b : UInt64) : UInt64 := .ofNatClamp (a.toNat + b.toNat)

/-- The number of characters of a text. No text in memory has more than can be counted. -/
def countChars (s : String) : UInt64 := .ofNatClamp s.length

theorem toNat_min_uint64 (a b : UInt64) : (min a b).toNat = min a.toNat b.toNat := by
  rw [Nat.min_def, show min a b = if a ≤ b then a else b from rfl]
  simp only [UInt64.le_iff_toNat_le]
  split <;> rfl

theorem toNat_ofNatClamp (n : Nat) : (UInt64.ofNatClamp n).toNat = min n (UInt64.size - 1) := by
  rcases Nat.lt_or_ge n UInt64.size with h | h
  · rw [UInt64.toNat_ofNatClamp_of_lt h]
    omega
  · rw [UInt64.toNat_ofNatClamp_of_le h]
    omega

theorem countChars_pos {s : String} (h : s ≠ "") : 0 < (countChars s).toNat := by
  have hlength : s.length ≠ 0 := fun hzero => h (String.length_eq_zero_iff.mp hzero)
  rw [countChars, toNat_ofNatClamp]
  exact Nat.lt_min.mpr ⟨Nat.pos_of_ne_zero hlength, by decide⟩

/-- A place in `source`, with the offsets of all places. -/
structure ByteCursor where
  source : String
  boundaries : Array Nat
  index : UInt64
  blanks : Finder

namespace ByteCursor

/-- A cursor at the front of a text. -/
def ofString (source : String) (blanks : Finder) : ByteCursor :=
  ⟨source, TagText.boundaries source, 0, blanks⟩

variable (c : ByteCursor)

/-- The number of characters of the text. -/
def length : UInt64 := .ofNatClamp (c.boundaries.size - 1)

/-- Whether nothing is ahead. -/
def isAtEnd : Bool := c.length ≤ c.index

/-- The place so many characters further on, or the end of the text. -/
def placeAhead (n : UInt64) : UInt64 := min (saturatingAdd c.index n) c.length

/-- The offset of a place. -/
def offset? (place : UInt64) : Option Nat := c.boundaries[place.toNat]?

/-- The next `n` characters, as far as there are any. -/
def peek? (n : UInt64) : Option String := do
  let start ← c.offset? c.index
  let stop ← c.offset? (c.placeAhead n)
  slice? c.source start stop

/-- The cursor `n` characters further on, or at the end. -/
def seek (n : UInt64) : ByteCursor := { c with index := c.placeAhead n }

/-- The next `n` characters, and the cursor after them. -/
def read? (n : UInt64) : Option (String × ByteCursor) := do
  let start ← c.offset? c.index
  let after := c.seek n
  let stop ← after.offset? after.index
  let part ← slice? c.source start stop
  return (part, after)

/-- The cursor back at the front. -/
def rewind : ByteCursor := { c with index := 0 }

/-- As many characters as `text` has, as far as there are any. -/
def peekSame? (text : String) : Option String := c.peek? (countChars text)

/-- As many characters as `text` has, and the cursor after them. -/
def readSame? (text : String) : Option (String × ByteCursor) := c.read? (countChars text)

/-- The cursor after as many characters as `text` has. -/
def seekSame (text : String) : ByteCursor := c.seek (countChars text)

/-- The text from the cursor on. -/
def rest? : Option String := do
  let start ← c.offset? c.index
  slice? c.source start c.source.utf8ByteSize

/-- The match that begins at the cursor, empty if there is none. -/
def peekPattern? (f : Finder) : Option String := do f.front? (← c.rest?)

/-- The match that begins at the cursor, and the cursor after it. -/
def readPattern? (f : Finder) : Option (String × ByteCursor) := do
  let matched ← c.peekPattern? f
  return (matched, c.seekSame matched)

/-- The cursor after the match that begins at it. -/
def seekPattern? (f : Finder) : Option ByteCursor := do
  let matched ← c.peekPattern? f
  return c.seek (countChars matched)

/-- The cursor after the blanks that stand next. -/
def seekBlanks? : Option ByteCursor := c.seekPattern? c.blanks

/-- Whether `expected` stands next. -/
def nextEquals? (expected : String) : Option Bool := do
  let next ← c.peekSame? expected
  return next == expected

/-- Whether a match that is not empty begins at the cursor. -/
def nextMatches? (f : Finder) : Option Bool := do
  let matched ← c.peekPattern? f
  return !matched.isEmpty

/-! ## What is left

A step of a scan leaves fewer characters, even for a cursor whose offsets are not those of its
text. -/

/-- The number of characters ahead. -/
def left : Nat := c.length.toNat - c.index.toNat

variable {c} {d : ByteCursor} {s : String}

theorem left_seek (c : ByteCursor) (n : UInt64) : (c.seek n).left = c.left - n.toNat := by
  have hmax := c.length.toNat_lt_size
  change c.length.toNat - (c.placeAhead n).toNat = _
  rw [placeAhead, toNat_min_uint64, saturatingAdd, toNat_ofNatClamp, left]
  omega

theorem left_seek_le (c : ByteCursor) (n : UInt64) : (c.seek n).left ≤ c.left :=
  (c.left_seek n).symm ▸ Nat.sub_le _ _

theorem left_pos_of_isAtEnd (h : ¬c.isAtEnd = true) : 0 < c.left := by
  rw [isAtEnd, decide_eq_true_iff, UInt64.le_iff_toNat_le] at h
  rw [left]
  omega

theorem left_seekSame_lt (hleft : 0 < c.left) (hs : s ≠ "") : (c.seekSame s).left < c.left := by
  have hpos := countChars_pos hs
  rw [seekSame, left_seek]
  omega

theorem left_read?_lt {n : UInt64} (hleft : 0 < c.left) (hn : 0 < n.toNat)
    (h : c.read? n = some (s, d)) : d.left < c.left := by
  simp only [read?, Option.bind_eq_bind, Option.bind_eq_some_iff, Option.pure_def,
    Option.some.injEq, Prod.mk.injEq] at h
  obtain ⟨_, -, _, -, _, -, -, rfl⟩ := h
  rw [left_seek]
  omega

theorem left_readPattern? {f : Finder} (h : c.readPattern? f = some (s, d)) :
    d.left = c.left - (countChars s).toNat := by
  obtain ⟨matched, -, hafter⟩ := Option.bind_eq_some_iff.mp h
  obtain ⟨rfl, rfl⟩ := Prod.mk.inj (Option.some.inj hafter)
  exact c.left_seek _

theorem left_seekBlanks?_le (h : c.seekBlanks? = some d) : d.left ≤ c.left := by
  obtain ⟨matched, -, hafter⟩ := Option.bind_eq_some_iff.mp h
  obtain rfl := Option.some.inj hafter
  exact c.left_seek_le _

end ByteCursor

end TagText
