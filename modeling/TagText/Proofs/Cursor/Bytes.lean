import TagText.ByteCursor
import TagText.Proofs.Cursor.Place

/-!
# The cursor over bytes is a place in a text

A `ByteCursor` refines a plain `Cursor` when both have the same text and the same place, and its
offsets are those of the text (`ByteCursor.Refines`). There is one lemma for each operation: it gives
what the plain cursor gives, so it never fails, and leads to cursors that again refine. The one thing
asked for is that the characters of the text can be counted, as those of every text in memory can.

Adding up places stops at the largest number, but the place is then cut back to the number of
characters, which is smaller (`Refines.toNat_placeAhead`); so nothing of that is seen outside.
-/

namespace TagText

namespace ByteCursor

/-- Both cursors stand at the same place of the same text, and the offsets are those of the text. -/
structure Refines (c : ByteCursor) (p : Cursor) : Prop where
  source : c.source.toList = p.source
  boundaries : c.boundaries = TagText.boundaries c.source
  index : c.index.toNat = p.index
  blanks : c.blanks.matcher = p.blanks
  counted : c.source.length < UInt64.size

theorem refines_ofString {source : String} (h : source.length < UInt64.size) (blanks : Finder) :
    (ofString source blanks).Refines (.ofString source blanks.matcher) where
  source := rfl
  boundaries := rfl
  index := (Nat.sub_self _).symm
  blanks := rfl
  counted := h

namespace Refines

variable {c : ByteCursor} {p : Cursor}

theorem length_source (h : c.Refines p) : c.source.length = p.source.length := by
  rw [← h.source, String.length_toList]

theorem toNat_length (h : c.Refines p) : c.length.toNat = p.length := by
  have hcounted := h.counted
  rw [length, h.boundaries, size_boundaries, Nat.add_sub_cancel, toNat_ofNatClamp, h.length_source,
    Cursor.length]
  rw [h.length_source] at hcounted
  omega

/-- Where the sum of two places is cut off, the end of the text comes before it. -/
theorem toNat_placeAhead (h : c.Refines p) (n : UInt64) :
    (c.placeAhead n).toNat = (p.seek (.count n.toNat)).index := by
  have hcounted := h.counted
  rw [placeAhead, toNat_min_uint64, h.toNat_length, saturatingAdd, toNat_ofNatClamp, h.index,
    Cursor.index_seek, Cursor.extent, Cursor.length]
  rw [h.length_source] at hcounted
  omega

theorem seek (h : c.Refines p) (n : UInt64) : (c.seek n).Refines (p.seek (.count n.toNat)) where
  source := h.source
  boundaries := h.boundaries
  index := h.toNat_placeAhead n
  blanks := h.blanks
  counted := h.counted

theorem rewind (h : c.Refines p) : c.rewind.Refines p.rewind where
  source := h.source
  boundaries := h.boundaries
  index := (Nat.sub_self _).symm
  blanks := h.blanks
  counted := h.counted

/-! ## Looking ahead -/

theorem offset?_eq (h : c.Refines p) {place : UInt64} (hplace : place.toNat ≤ p.source.length) :
    c.offset? place = some (byteSize (c.source.toList.take place.toNat)) := by
  rw [offset?, h.boundaries, getElem?_boundaries (h.length_source ▸ hplace)]

theorem offset?_index (h : c.Refines p) :
    c.offset? c.index = some (byteSize (c.source.toList.take c.index.toNat)) :=
  h.offset?_eq (h.index ▸ p.index_le)

theorem slice?_eq (h : c.Refines p) (n : UInt64) :
    slice? c.source (byteSize (c.source.toList.take c.index.toNat))
        (byteSize (c.source.toList.take (c.placeAhead n).toNat)) =
      some (String.ofList (p.peek (.count n.toNat))) := by
  have hplace : p.index ≤ (p.seek (.count n.toNat)).index := by
    rw [Cursor.index_seek_eq_add]
    exact Nat.le_add_right _ _
  rw [h.toNat_placeAhead, h.index, slice?_boundaries hplace, h.source, ← Cursor.peek_eq_extract]

theorem offset?_placeAhead (h : c.Refines p) (n : UInt64) :
    c.offset? (c.placeAhead n) =
      some (byteSize (c.source.toList.take (c.placeAhead n).toNat)) := by
  refine h.offset?_eq ?_
  rw [h.toNat_placeAhead]
  exact Cursor.index_le _

theorem peek?_eq (h : c.Refines p) (n : UInt64) :
    c.peek? n = some (String.ofList (p.peek (.count n.toNat))) := by
  rw [peek?, h.offset?_index, h.offset?_placeAhead]
  exact h.slice?_eq n

theorem read?_eq (h : c.Refines p) (n : UInt64) :
    c.read? n = some (String.ofList (p.peek (.count n.toNat)), c.seek n) := by
  have hafter : (c.seek n).offset? (c.seek n).index = c.offset? (c.placeAhead n) := rfl
  simp only [read?, h.offset?_index, hafter, h.offset?_placeAhead, h.slice?_eq,
    Option.bind_eq_bind, Option.bind_some, Option.pure_def]

/-! ## As many characters as another text has -/

theorem length_ahead_lt (h : c.Refines p) : p.ahead.length < UInt64.size := by
  have htotal := p.index_add_length
  have hcounted := h.length_source ▸ h.counted
  omega

/-- A text that cannot be counted is longer than what is ahead, as the largest number is. -/
theorem min_countChars (h : c.Refines p) (text : String) :
    min (p.extent (.count (countChars text).toNat)) p.ahead.length =
      min (p.extent (.sameAs text)) p.ahead.length := by
  have hahead := h.length_ahead_lt
  rw [Cursor.extent, Cursor.extent, countChars, toNat_ofNatClamp]
  omega

theorem peekSame?_eq (h : c.Refines p) (text : String) :
    c.peekSame? text = some (String.ofList (p.peek (.sameAs text))) := by
  rw [peekSame?, h.peek?_eq, Cursor.peek_congr (h.min_countChars text)]

theorem readSame?_eq (h : c.Refines p) (text : String) :
    c.readSame? text = some (String.ofList (p.peek (.sameAs text)), c.seekSame text) := by
  rw [readSame?, h.read?_eq, Cursor.peek_congr (h.min_countChars text), seekSame]

theorem seekSame (h : c.Refines p) (text : String) :
    (c.seekSame text).Refines (p.seek (.sameAs text)) := by
  rw [← Cursor.seek_congr (h.min_countChars text)]
  exact h.seek _

theorem nextEquals?_eq (h : c.Refines p) (expected : String) :
    c.nextEquals? expected = some (p.nextEquals expected) := by
  rw [nextEquals?, h.peekSame?_eq]
  refine congrArg some ?_
  rw [Cursor.nextEquals, Bool.eq_iff_iff, beq_iff_eq, beq_iff_eq, ← String.toList_inj,
    String.toList_ofList]

/-! ## Matches -/

theorem rest?_eq (h : c.Refines p) : c.rest? = some (String.ofList p.ahead) := by
  have hwhole : c.source.toList.take c.source.length = c.source.toList := by
    rw [← String.length_toList, List.take_length]
  have hsize : byteSize (c.source.toList.take c.source.length) = c.source.utf8ByteSize := by
    rw [hwhole, byteSize_toList]
  have hle : c.index.toNat ≤ c.source.length := h.index ▸ h.length_source ▸ p.index_le
  have hahead : c.source.toList.extract c.index.toNat c.source.length = p.ahead := by
    rw [List.extract_eq_take_drop, h.index, h.source, ← Cursor.ahead_eq_drop, List.take_of_length_le]
    have htotal := p.index_add_length
    rw [h.length_source]
    omega
  rw [rest?, h.offset?_index, ← hsize]
  exact (slice?_boundaries hle).trans (by rw [hahead])

theorem peekPattern?_eq (h : c.Refines p) (f : Finder) :
    c.peekPattern? f = some (String.ofList (p.peek (.pattern f.matcher))) := by
  simp only [peekPattern?, h.rest?_eq, Option.bind_eq_bind, Option.bind_some, Finder.front?_eq,
    String.toList_ofList, Cursor.peek, Cursor.extent]

/-- A match is passed over by the characters that it has. -/
theorem seek_countChars (h : c.Refines p) (span : Span) :
    (c.seek (countChars (String.ofList (p.peek span)))).Refines (p.seek span) := by
  have hseek := h.seekSame (String.ofList (p.peek span))
  have hlength : p.seek (.sameAs (String.ofList (p.peek span))) = p.seek span := by
    rw [← Cursor.seek_length_peek p span]
    exact Cursor.seek_congr (by rw [Cursor.extent, Cursor.extent, String.length_ofList])
  exact hlength ▸ hseek

theorem readPattern?_eq (h : c.Refines p) (f : Finder) :
    ∃ d, c.readPattern? f = some (String.ofList (p.peek (.pattern f.matcher)), d) ∧
      d.Refines (p.seek (.pattern f.matcher)) := by
  refine ⟨_, ?_, h.seek_countChars (.pattern f.matcher)⟩
  rw [readPattern?, h.peekPattern?_eq]
  rfl

theorem readPattern?_ofMatcher (h : c.Refines p) (m : Matcher) :
    ∃ d, c.readPattern? (.ofMatcher m) = some (String.ofList (p.peek (.pattern m)), d) ∧
      d.Refines (p.seek (.pattern m)) := by
  have htake := Finder.take_matcher_ofMatcher m p.ahead
  have hlength := List.take_eq_take_iff.mp htake
  have hpeek : p.peek (.pattern (Finder.ofMatcher m).matcher) = p.peek (.pattern m) := htake
  have hseek : p.seek (.pattern (Finder.ofMatcher m).matcher) = p.seek (.pattern m) :=
    Cursor.seek_congr hlength
  exact hpeek ▸ hseek ▸ h.readPattern?_eq (.ofMatcher m)

theorem seekPattern?_eq (h : c.Refines p) (f : Finder) :
    ∃ d, c.seekPattern? f = some d ∧ d.Refines (p.seek (.pattern f.matcher)) := by
  refine ⟨_, ?_, h.seek_countChars (.pattern f.matcher)⟩
  rw [seekPattern?, h.peekPattern?_eq]
  rfl

theorem seekBlanks?_eq (h : c.Refines p) : ∃ d, c.seekBlanks? = some d ∧ d.Refines p.seekBlanks := by
  rw [seekBlanks?, Cursor.seekBlanks, ← h.blanks]
  exact h.seekPattern?_eq c.blanks

theorem nextMatches?_eq (h : c.Refines p) (f : Finder) :
    c.nextMatches? f = some (p.nextMatches f.matcher) := by
  rw [nextMatches?, h.peekPattern?_eq]
  refine congrArg (some ∘ not) ?_
  rw [Bool.eq_iff_iff, String.isEmpty_iff, List.isEmpty_iff, ← String.toList_inj,
    String.toList_ofList, String.toList_empty]

theorem isAtEnd_eq (h : c.Refines p) : c.isAtEnd = p.isAtEnd := by
  rw [Cursor.isAtEnd_eq, isAtEnd, ← h.index, ← h.toNat_length]
  rfl

end Refines

end ByteCursor

end TagText
