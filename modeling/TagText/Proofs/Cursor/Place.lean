import TagText.Cursor

/-!
# Where a cursor stands

A cursor keeps the characters that are still ahead. Seen from outside it is a number, the place, in a
text that stays the same (`ahead_eq_drop`). It is never past the end of the text, however far it is
sent (`index_le`, `index_seek`), and what it passes over is the text from the old place to the new
one (`peek_eq_extract`).
-/

namespace TagText

namespace Cursor

variable {c : Cursor} {span span' : Span}

theorem ahead_eq_drop (c : Cursor) : c.ahead = c.source.drop c.index :=
  List.suffix_iff_eq_drop.mp c.ahead_suffix

theorem index_le (c : Cursor) : c.index ≤ c.source.length :=
  Nat.sub_le _ _

theorem index_add_length (c : Cursor) : c.index + c.ahead.length = c.source.length :=
  Nat.sub_add_cancel c.ahead_suffix.length_le

/-- A span goes as far as it asks for, but never past the end of the text. -/
theorem index_seek (c : Cursor) (span : Span) :
    (c.seek span).index = min (c.index + c.extent span) c.source.length := by
  have htotal := c.index_add_length
  change c.source.length - (c.ahead.drop (c.extent span)).length = _
  rw [List.length_drop]
  omega

/-- A cursor moves by the characters of the span. -/
theorem index_seek_eq_add (c : Cursor) (span : Span) :
    (c.seek span).index = c.index + (c.peek span).length := by
  have htotal := c.index_add_length
  rw [index_seek, peek, List.length_take]
  omega

theorem seek_eq_self (h : c.extent span = 0) : c.seek span = c := by
  obtain ⟨source, ahead, blanks, hsuffix⟩ := c
  simp only [seek, h, List.drop_zero]

/-- Of a span counts only how far it goes within what is ahead. -/
theorem seek_congr (h : min (c.extent span) c.ahead.length = min (c.extent span') c.ahead.length) :
    c.seek span = c.seek span' := by
  simp only [seek, List.drop_eq_drop_min (l := c.ahead) (i := c.extent _), h]

theorem peek_congr (h : min (c.extent span) c.ahead.length = min (c.extent span') c.ahead.length) :
    c.peek span = c.peek span' := by
  rw [peek, peek, List.take_eq_take_iff, h]

/-- To go as far as what a span covers is to go as far as the span. -/
theorem seek_length_peek (c : Cursor) (span : Span) :
    c.seek (.count (c.peek span).length) = c.seek span := by
  refine seek_congr ?_
  rw [extent, peek, List.length_take, Nat.min_assoc, Nat.min_self]

/-- The characters of a span stand between the places before and behind it. -/
theorem peek_eq_extract (c : Cursor) (span : Span) :
    c.peek span = c.source.extract c.index (c.seek span).index := by
  have htotal := c.index_add_length
  rw [List.extract_eq_take_drop, ← ahead_eq_drop, index_seek, peek, List.take_eq_take_iff]
  omega

theorem nextEquals_eq (c : Cursor) (text : String) :
    c.nextEquals text = text.toList.isPrefixOf c.ahead := by
  rw [Bool.eq_iff_iff, List.isPrefixOf_iff_prefix, List.prefix_iff_eq_take, nextEquals, beq_iff_eq,
    eq_comm, String.length_toList]
  rfl

theorem isAtEnd_eq (c : Cursor) : c.isAtEnd = decide (c.length ≤ c.index) := by
  have htotal := c.index_add_length
  rw [Bool.eq_iff_iff, isAtEnd, List.isEmpty_iff, decide_eq_true_iff, length,
    ← List.length_eq_zero_iff]
  omega

end Cursor

end TagText
