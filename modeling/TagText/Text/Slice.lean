/-!
# Parts of a text by the byte

A text in memory is a row of bytes, and a part of it is asked for by two byte offsets. That may
fail: an offset can lie inside a character or outside of the text, and two can be in the wrong
order. `slice?` gives nothing then; a program that asks for such a part does not go on.

> `slice?_eq_some_iff`: a part is had iff the text parts so at both offsets.

So offsets come from where characters begin (`boundaries`), and between two of these lies what
lies between the characters (`slice?_boundaries`).
-/

namespace TagText

/-- The part of a text between two byte offsets, if both are places between characters and the
second is not before the first. -/
def slice? (s : String) (start stop : Nat) : Option String := do
  let p ← s.pos? ⟨start⟩
  let q ← s.pos? ⟨stop⟩
  let part ← s.slice? p q
  return part.copy

/-- The byte offsets at which characters begin, from `offset` on. -/
def charOffsets (offset : Nat) : List Char → List Nat
  | [] => []
  | c :: s => offset :: charOffsets (offset + c.utf8Size) s

/-- The byte offset of every place between characters, the end of the text being the last. -/
def boundaries (s : String) : Array Nat := (charOffsets 0 s.toList ++ [s.utf8ByteSize]).toArray

/-- The number of bytes that characters take. -/
def byteSize (s : List Char) : Nat := (String.ofList s).utf8ByteSize

variable {s part : String} {start stop : Nat}

theorem pos?_eq_some_iff {offset : String.Pos.Raw} {p : s.Pos} :
    s.pos? offset = some p ↔ p.offset = offset := by
  simp only [String.pos?, String.Slice.pos?, Option.map_eq_some_iff]
  constructor
  · rintro ⟨q, hq, rfl⟩
    split at hq
    · obtain rfl := Option.some.inj hq
      rfl
    · exact absurd hq (by simp)
  · rintro rfl
    have hvalid : String.Pos.Raw.isValidForSlice s.toSlice p.offset = true := by
      rw [String.Pos.Raw.isValidForSlice_eq_true_iff, String.Pos.Raw.isValidForSlice_toSlice_iff]
      exact p.isValid
    exact ⟨s.toSlice.pos p.offset _, dif_pos hvalid, rfl⟩

/-- A part is had iff the text parts into what is before it, itself, and what is after it. -/
theorem slice?_eq_some_iff :
    slice? s start stop = some part ↔
      ∃ before after, s = before ++ (part ++ after) ∧ before.utf8ByteSize = start ∧
        (before ++ part).utf8ByteSize = stop := by
  have hpositions : slice? s start stop = some part ↔
      ∃ p q : s.Pos, p.offset = ⟨start⟩ ∧ q.offset = ⟨stop⟩ ∧
        ∃ hle, (s.slice p q hle).copy = part := by
    simp only [slice?, Option.bind_eq_bind, Option.bind_eq_some_iff, pos?_eq_some_iff,
      String.slice?, Option.pure_def, Option.some.injEq, Option.dite_none_right_eq_some]
    constructor
    · rintro ⟨p, hp, q, hq, _, ⟨hle, rfl⟩, rfl⟩
      exact ⟨p, q, hp, hq, hle, rfl⟩
    · rintro ⟨p, q, hp, hq, hle, rfl⟩
      exact ⟨p, hp, q, hq, _, ⟨hle, rfl⟩, rfl⟩
  simp only [hpositions, String.copy_slice_eq_iff_splits]
  constructor
  · rintro ⟨p, q, hp, hq, before, after, hbefore, hafter⟩
    refine ⟨before, after, hbefore.eq_append, ?_, ?_⟩
    · exact congrArg String.Pos.Raw.byteIdx (hbefore.offset_eq_rawEndPos.symm.trans hp)
    · exact congrArg String.Pos.Raw.byteIdx (hafter.offset_eq_rawEndPos.symm.trans hq)
  · rintro ⟨before, after, rfl, rfl, rfl⟩
    have hp : String.Pos.Raw.IsValid (before ++ (part ++ after)) before.rawEndPos :=
      String.Pos.Raw.isValid_iff_exists_append.mpr ⟨before, _, rfl, rfl⟩
    have hparted : before ++ (part ++ after) = before ++ part ++ after :=
      (String.append_assoc ..).symm
    have hq : String.Pos.Raw.IsValid (before ++ (part ++ after)) (before ++ part).rawEndPos :=
      String.Pos.Raw.isValid_iff_exists_append.mpr ⟨_, after, hparted, rfl⟩
    exact ⟨⟨_, hp⟩, ⟨_, hq⟩, rfl, rfl, before, after, ⟨rfl, rfl⟩, ⟨hparted, rfl⟩⟩

/-! ## Offsets of characters -/

theorem byteSize_cons (c : Char) (s : List Char) : byteSize (c :: s) = c.utf8Size + byteSize s := by
  rw [byteSize, String.ofList_cons, String.utf8ByteSize_append, String.utf8ByteSize_singleton,
    byteSize]

theorem byteSize_toList (s : String) : byteSize s.toList = s.utf8ByteSize := by
  rw [byteSize, String.ofList_toList]

theorem length_charOffsets (offset : Nat) (s : List Char) :
    (charOffsets offset s).length = s.length := by
  induction s generalizing offset with
  | nil => rfl
  | cons c s ih => rw [charOffsets, List.length_cons, ih, List.length_cons]

theorem getElem?_charOffsets (offset : Nat) {s : List Char} {i : Nat} (h : i < s.length) :
    (charOffsets offset s)[i]? = some (offset + byteSize (s.take i)) := by
  induction s generalizing offset i with
  | nil => exact absurd h (Nat.not_lt_zero i)
  | cons c s ih =>
    cases i with
    | zero => rfl
    | succ i =>
      rw [charOffsets, List.getElem?_cons_succ, ih _ (Nat.lt_of_succ_lt_succ h),
        List.take_succ_cons, byteSize_cons, Nat.add_assoc]

theorem size_boundaries (s : String) : (boundaries s).size = s.length + 1 := by
  rw [boundaries, List.size_toArray, List.length_append, length_charOffsets, String.length_toList,
    List.length_singleton]

/-- The boundary of a number is the size of the characters before it. -/
theorem getElem?_boundaries {i : Nat} (h : i ≤ s.length) :
    (boundaries s)[i]? = some (byteSize (s.toList.take i)) := by
  rw [boundaries, List.getElem?_toArray, List.getElem?_append, length_charOffsets,
    String.length_toList]
  split
  next hlt =>
    have hlt : i < s.toList.length := String.length_toList.symm ▸ hlt
    rw [getElem?_charOffsets 0 hlt, Nat.zero_add]
  next hlt =>
    obtain rfl := Nat.le_antisymm h (Nat.le_of_not_lt hlt)
    have htake : s.toList.take s.length = s.toList := by
      rw [← String.length_toList, List.take_length]
    rw [Nat.sub_self, htake, byteSize_toList]
    rfl

/-- Between the boundaries of two numbers lie the characters between them. -/
theorem slice?_boundaries {i j : Nat} (h : i ≤ j) :
    slice? s (byteSize (s.toList.take i)) (byteSize (s.toList.take j)) =
      some (String.ofList (s.toList.extract i j)) := by
  have htake : s.toList.take j = s.toList.take i ++ s.toList.extract i j := by
    rw [List.extract_eq_take_drop, ← List.take_add, Nat.add_sub_of_le h]
  refine slice?_eq_some_iff.mpr
    ⟨.ofList (s.toList.take i), .ofList (s.toList.drop j), ?_, rfl, ?_⟩
  · rw [← String.toList_inj, String.toList_append, String.toList_append, String.toList_ofList,
      String.toList_ofList, String.toList_ofList, ← List.append_assoc, ← htake,
      List.take_append_drop]
  · rw [htake, ← String.ofList_append]
    rfl

/-- A part from the front is as many characters as its bytes make up. -/
theorem slice?_zero_eq_some_iff :
    slice? s 0 stop = some part ↔ part.toList <+: s.toList ∧ part.utf8ByteSize = stop := by
  rw [slice?_eq_some_iff]
  constructor
  · rintro ⟨before, after, rfl, hbefore, rfl⟩
    obtain rfl := String.utf8ByteSize_eq_zero_iff.mp hbefore
    simp
  · rintro ⟨⟨after, hafter⟩, rfl⟩
    refine ⟨"", .ofList after, ?_, rfl, by simp⟩
    simp [← String.toList_inj, hafter]

end TagText
