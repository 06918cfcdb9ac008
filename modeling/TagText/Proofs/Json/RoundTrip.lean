import TagText.Proofs.Json.Normal
import TagText.Proofs.Json.Scalars

/-!
# JSON text and JSON loading

The writer and the reader are two recursions over the same text. What ties them together is that a
value is *legible* (`Json.Legible`): whatever mark of a list or a map stands behind its text, the
reader takes the text and nothing more. The pieces of a list or a map that are legible are read one
after the other (`readItems_write`, `readEntries_write`), which makes it legible one level deeper,
and so, by induction, all normal values are (`legible_of_normal`).

> `ofJson?_json_eq`: what is read from the text of a value is its normal form, with the entries of
> every map in the order of their names, which equality does not see.
-/

namespace TagText

namespace Json

/-! ## One part after the other -/

theorem skipSpaces_cons {c : Char} (h : isSpace c = false) (s : List Char) :
    skipSpaces (c :: s) = c :: s := by
  rw [skipSpaces, List.dropWhile_cons_of_neg (by simp [h])]

section
variable {read : ValueReader} {n : Nat} {s rest more after : List Char} {name : String}
  {v w : Value}

/-- Behind an item others follow, or the list ends. -/
theorem readItems_of_item {taken : List Value} {mark : Char}
    (hread : Gives (read (skipSpaces s)) v rest) (hrest : skipSpaces rest = mark :: more)
    (hmark : (mark = ',' ∧ ∀ hle : more.length ≤ n,
        Gives (readItems read (v :: taken) more hle) w after) ∨
      (mark = ']' ∧ w = .list (v :: taken).reverse ∧ after = more))
    (hle : s.length ≤ n) : Gives (readItems read taken s hle) w after := by
  obtain ⟨shorter, hread⟩ := hread
  unfold readItems
  rw [hread]
  dsimp only
  rcases hmark with ⟨rfl, hmore⟩ | ⟨rfl, rfl, rfl⟩
  · split
    next hcomma =>
      obtain ⟨-, rfl⟩ := List.cons.inj (hcomma.symm.trans hrest)
      exact hmore _
    next hclose => exact absurd (hclose.symm.trans hrest) (by simp)
    next hother _ => exact absurd hrest (hother more)
  · split
    next hcomma => exact absurd (hcomma.symm.trans hrest) (by simp)
    next hclose =>
      obtain ⟨-, rfl⟩ := List.cons.inj (hclose.symm.trans hrest)
      exact ⟨_, rfl⟩
    next hother => exact absurd hrest (hother after)

/-- An entry stands next, and this rest behind it. -/
inductive EntryNext (read : ValueReader) (s : List Char) (name : String) (v : Value)
    (rest : List Char) : Prop where
  | intro {s₁ s₂ s₃ : List Char} (hquote : skipSpaces s = '"' :: s₁)
      (hname : Gives (readString s₁) name s₂) (hcolon : skipSpaces s₂ = ':' :: s₃)
      (hread : Gives (read (skipSpaces s₃)) v rest) : EntryNext read s name v rest

/-- Behind an entry others follow, or the map ends. -/
theorem readEntries_of_entry {taken : Entries} {mark : Char}
    (hentry : EntryNext read s name v rest) (hrest : skipSpaces rest = mark :: more)
    (hmark : (mark = ',' ∧ ∀ hle : more.length ≤ n,
        Gives (readEntries read (Named.put taken name v) more hle) w after) ∨
      (mark = '\x7d' ∧ w = .map (Named.sort (Named.put taken name v)) ∧ after = more))
    (hle : s.length ≤ n) : Gives (readEntries read taken s hle) w after := by
  obtain ⟨hquote, ⟨_, hname⟩, hcolon, ⟨_, hread⟩⟩ := hentry
  unfold readEntries
  dsimp only
  split
  next hs₁ =>
    obtain ⟨-, rfl⟩ := List.cons.inj (hs₁.symm.trans hquote)
    rw [hname]
    dsimp only
    split
    next hs₃ =>
      obtain ⟨-, rfl⟩ := List.cons.inj (hs₃.symm.trans hcolon)
      rw [hread]
      dsimp only
      rcases hmark with ⟨rfl, hmore⟩ | ⟨rfl, rfl, rfl⟩
      · split
        next hcomma =>
          obtain ⟨-, rfl⟩ := List.cons.inj (hcomma.symm.trans hrest)
          exact hmore _
        next hclose => exact absurd (hclose.symm.trans hrest) (by simp)
        next hother _ => exact absurd hrest (hother more)
      · split
        next hcomma => exact absurd (hcomma.symm.trans hrest) (by simp)
        next hclose =>
          obtain ⟨-, rfl⟩ := List.cons.inj (hclose.symm.trans hrest)
          exact ⟨_, rfl⟩
        next hother => exact absurd hrest (hother after)
    next hother => exact absurd hcolon (hother _)
  next hother => exact absurd hquote (hother _)

end

/-! ## What is written for a value -/

/-- The reader reads what is written for the value, which does not begin with a space or a closing
bracket. -/
structure Legible (read : ValueReader) (v : Value) : Prop where
  starts : ∃ c s, write v = c :: s ∧ isSpace c = false ∧ c ≠ ']'
  reads : ∀ t, Ends t → Gives (read (write v ++ t)) v.sorted t

variable {read : ValueReader} {n : Nat} {v : Value}

theorem Legible.skipSpaces_eq (h : Legible read v) (t : List Char) :
    skipSpaces (write v ++ t) = write v ++ t := by
  obtain ⟨c, s, hwrite, hspace, -⟩ := h.starts
  rw [hwrite, List.cons_append, skipSpaces_cons hspace]

/-- A legible value is read where a mark stands behind it. -/
theorem Legible.reads_cons (h : Legible read v) {c : Char} (hc : c = ',' ∨ c = ']' ∨ c = '\x7d')
    (t : List Char) : Gives (read (skipSpaces (write v ++ c :: t))) v.sorted (c :: t) := by
  rw [h.skipSpaces_eq]
  refine h.reads _ fun d hd => ?_
  exact Option.some.inj hd ▸ hc

theorem writeMoreItems_cons_append (v : Value) (vs : List Value) (t : List Char) :
    writeMoreItems (v :: vs) ++ t = ',' :: (write v ++ (writeMoreItems vs ++ t)) := by
  simp [writeMoreItems]

theorem writeMoreEntries_cons_append (name : String) (v : Value) (ps : List (String × Value))
    (t : List Char) :
    writeMoreEntries ((name, v) :: ps) ++ t =
      ',' :: (writeString name ++ ':' :: (write v ++ (writeMoreEntries ps ++ t))) := by
  simp [writeMoreEntries]

/-- The items of a list are read one after the other. -/
theorem readItems_write {vs : List Value} (h : ∀ u ∈ v :: vs, Legible read u) (taken : List Value)
    (t : List Char) {s : List Char} (hs : s = write v ++ (writeMoreItems vs ++ t))
    (hle : s.length ≤ n) :
    Gives (readItems read taken s hle) (.list (taken.reverse ++ (v :: vs).map Value.sorted)) t := by
  induction vs generalizing v taken s with
  | nil =>
    obtain ⟨hv, -⟩ := List.forall_mem_cons.mp h
    have hread := hv.reads_cons (c := ']') (by decide) t
    refine readItems_of_item (hs ▸ hread) (skipSpaces_cons rfl t) (.inr ⟨rfl, ?_, rfl⟩) hle
    rw [List.reverse_cons]
    rfl
  | cons u vs ih =>
    obtain ⟨hv, hvs⟩ := List.forall_mem_cons.mp h
    have hread := hv.reads_cons (c := ',') (by decide) (write u ++ (writeMoreItems vs ++ t))
    rw [writeMoreItems_cons_append] at hs
    refine readItems_of_item (hs ▸ hread) (skipSpaces_cons rfl _) (.inl ⟨rfl, fun hle => ?_⟩) hle
    have hrest := ih hvs (v.sorted :: taken) rfl hle
    rwa [List.reverse_cons, List.append_assoc] at hrest

/-- An entry is read from its name in quotes, a colon and its value. -/
theorem entryNext_write (name : String) (h : Legible read v) {c : Char}
    (hc : c = ',' ∨ c = ']' ∨ c = '\x7d') (t : List Char) :
    EntryNext read (writeString name ++ ':' :: (write v ++ c :: t)) name v.sorted (c :: t) := by
  have hname := readString_flatMap_escape name (':' :: (write v ++ c :: t))
  refine .intro ?_ hname (skipSpaces_cons rfl _) (h.reads_cons hc t)
  rw [writeString, List.append_assoc, List.cons_append, skipSpaces_cons rfl]
  rfl

/-- The entries of a map are read one after the other, and kept in the order of their names. -/
theorem readEntries_write {name : String} {ps : List (String × Value)}
    (h : ∀ p ∈ (name, v) :: ps, Legible read p.2) (taken : Entries)
    (hnames : (Named.names (taken ++ (name, v) :: ps)).Nodup) (t : List Char) {s : List Char}
    (hs : s = writeString name ++ ':' :: (write v ++ (writeMoreEntries ps ++ t)))
    (hle : s.length ≤ n) :
    Gives (readEntries read taken s hle)
      (.map (Named.sort (taken ++ ((name, v) :: ps).map fun p => (p.1, p.2.sorted)))) t := by
  induction ps generalizing name v taken s with
  | nil =>
    obtain ⟨hv, -⟩ := List.forall_mem_cons.mp h
    have hentry := entryNext_write name hv (c := '\x7d') (by decide) t
    refine readEntries_of_entry (hs ▸ hentry) (skipSpaces_cons rfl t) (.inr ⟨rfl, ?_, rfl⟩) hle
    rw [Named.put_of_nodup_append hnames]
    rfl
  | cons p ps ih =>
    obtain ⟨other, u⟩ := p
    obtain ⟨hv, hvs⟩ := List.forall_mem_cons.mp h
    have hentry := entryNext_write name hv (c := ',') (by decide)
      (writeString other ++ ':' :: (write u ++ (writeMoreEntries ps ++ t)))
    rw [writeMoreEntries_cons_append] at hs
    refine readEntries_of_entry (hs ▸ hentry) (skipSpaces_cons rfl _)
      (.inl ⟨rfl, fun hle => ?_⟩) hle
    have hnames' : (Named.names (taken ++ [(name, v.sorted)] ++ (other, u) :: ps)).Nodup := by
      simpa [Named.names] using hnames
    have hrest := ih hvs (taken ++ [(name, v.sorted)]) hnames' rfl hle
    rw [List.append_assoc] at hrest
    rw [Named.put_of_nodup_append hnames]
    exact hrest

/-! ## Every normal value -/

-- The equations of `readValue` take long to make, so they are made here, once for all that follows.
attribute [local simp] readValue

section
variable {depth : Nat} {s rest after : List Char} {w : Value}

/-- No other mark is a digit or a minus sign. -/
theorem ne_of_number {c d : Char} (hc : isAsciiDigit c = true ∨ c = '-')
    (hd : isAsciiDigit d = false ∧ d ≠ '-') : c ≠ d := by
  rintro rfl
  rcases hc with hc | rfl
  · cases hc.symm.trans hd.1
  · exact hd.2 rfl

theorem readValue_of_number {c : Char} (hc : isAsciiDigit c = true ∨ c = '-')
    (h : takeNumber (c :: s) = some (w, rest)) : Gives (readValue depth (c :: s)) w rest := by
  have hn := ne_of_number hc (d := 'n') (by decide)
  have ht := ne_of_number hc (d := 't') (by decide)
  have hf := ne_of_number hc (d := 'f') (by decide)
  have hquote := ne_of_number hc (d := '"') (by decide)
  have hbracket := ne_of_number hc (d := '[') (by decide)
  have hbrace := ne_of_number hc (d := '\x7b') (by decide)
  rw [readValue]
  · split
    next hnone => cases h.symm.trans hnone
    next hsome =>
      obtain ⟨rfl, rfl⟩ := Prod.mk.inj (Option.some.inj (h.symm.trans hsome))
      exact ⟨_, rfl⟩
  all_goals simp [hn, ht, hf, hquote, hbracket, hbrace]

theorem readValue_of_string {text : String} (h : Gives (readString s) text rest) :
    Gives (readValue depth ('"' :: s)) (.string text) rest := by
  obtain ⟨_, h⟩ := h
  rw [readValue, h]
  exact ⟨_, rfl⟩

theorem readValue_of_items (hfirst : ∀ more, skipSpaces s ≠ ']' :: more)
    (h : ∀ hle : s.length ≤ ('[' :: s).length,
      Gives (readItems (readValue depth) [] s hle) w after) :
    Gives (readValue (depth + 1) ('[' :: s)) w after := by
  rw [readValue]
  split
  next hclose => exact absurd hclose (hfirst _)
  next => exact h _

theorem readValue_of_entries (hfirst : ∀ more, skipSpaces s ≠ '\x7d' :: more)
    (h : ∀ hle : s.length ≤ ('\x7b' :: s).length,
      Gives (readEntries (readValue depth) [] s hle) w after) :
    Gives (readValue (depth + 1) ('\x7b' :: s)) w after := by
  rw [readValue]
  split
  next hclose => exact absurd hclose (hfirst _)
  next => exact h _

end

theorem legible_null (depth : Nat) : Legible (readValue depth) .null := by
  refine ⟨⟨_, _, rfl, by decide⟩, fun t _ => ?_⟩
  change Gives (readValue depth ('n' :: 'u' :: 'l' :: 'l' :: t)) _ t
  rw [readValue]
  exact ⟨_, rfl⟩

theorem legible_bool (depth : Nat) (b : Bool) : Legible (readValue depth) (.bool b) := by
  cases b with
  | true =>
    refine ⟨⟨_, _, rfl, by decide⟩, fun t _ => ?_⟩
    change Gives (readValue depth ('t' :: 'r' :: 'u' :: 'e' :: t)) _ t
    rw [readValue]
    exact ⟨_, rfl⟩
  | false =>
    refine ⟨⟨_, _, rfl, by decide⟩, fun t _ => ?_⟩
    change Gives (readValue depth ('f' :: 'a' :: 'l' :: 's' :: 'e' :: t)) _ t
    rw [readValue]
    exact ⟨_, rfl⟩

theorem legible_int (depth : Nat) (n : Int64) : Legible (readValue depth) (.int n) := by
  obtain ⟨c, s, hwrite, hc⟩ := exists_write_int_eq_cons n
  have hspace : isSpace c = false := by
    simp [isSpace, ne_of_number hc (d := ' ') (by decide), ne_of_number hc (d := '\t') (by decide),
      ne_of_number hc (d := '\n') (by decide), ne_of_number hc (d := '\r') (by decide)]
  refine ⟨⟨c, s, hwrite, hspace, ne_of_number hc (by decide)⟩, fun t ht => ?_⟩
  have hnumber := takeNumber_int n ht
  rw [hwrite] at hnumber ⊢
  exact readValue_of_number hc hnumber

theorem legible_string (depth : Nat) (s : String) : Legible (readValue depth) (.string s) := by
  refine ⟨⟨_, _, rfl, by decide⟩, fun t _ => ?_⟩
  rw [write, writeString, List.append_assoc]
  exact readValue_of_string (readString_flatMap_escape s t)

theorem legible_list {depth : Nat} {items : List Value}
    (h : ∀ u ∈ items, Legible (readValue depth) u) :
    Legible (readValue (depth + 1)) (.list items) := by
  refine ⟨⟨_, _, rfl, by decide⟩, fun t _ => ?_⟩
  rw [write, List.cons_append, Value.sorted, Value.sortedItems_eq_map]
  cases items with
  | nil =>
    rw [writeItems, List.singleton_append, readValue]
    exact ⟨_, rfl⟩
  | cons u us =>
    have hu := h u List.mem_cons_self
    rw [writeItems, List.append_assoc]
    refine readValue_of_items (fun more hmore => ?_) fun hle => readItems_write h [] t rfl hle
    obtain ⟨c, s, hwrite, -, hc⟩ := hu.starts
    rw [hu.skipSpaces_eq, hwrite] at hmore
    exact hc (List.cons.inj hmore).1

theorem legible_map {depth : Nat} {entries : List (String × Value)}
    (hnames : (Named.names entries).Nodup) (h : ∀ p ∈ entries, Legible (readValue depth) p.2) :
    Legible (readValue (depth + 1)) (.map entries) := by
  refine ⟨⟨_, _, rfl, by decide⟩, fun t _ => ?_⟩
  rw [write, List.cons_append, Value.sorted, Value.sortedEntries_eq_map]
  cases entries with
  | nil =>
    rw [writeEntries, List.singleton_append, readValue, List.map_nil, Named.sort,
      List.mergeSort_nil]
    exact ⟨_, rfl⟩
  | cons p ps =>
    obtain ⟨name, u⟩ := p
    have htext : writeEntries ((name, u) :: ps) ++ t =
        writeString name ++ ':' :: (write u ++ (writeMoreEntries ps ++ t)) := by
      simp [writeEntries]
    refine readValue_of_entries (fun more hmore => ?_) fun hle =>
      readEntries_write h [] hnames t htext hle
    rw [htext, writeString, List.append_assoc, List.cons_append, skipSpaces_cons rfl] at hmore
    exact absurd hmore (by simp)

/-- Where lists and maps may nest so deep, they are legible if their parts are, one deeper. -/
theorem legible_of_normal {depth : Nat} (h : v.Normal) (hdepth : v.depth ≤ depth) :
    Legible (readValue depth) v := by
  induction h generalizing depth with
  | null => exact legible_null depth
  | bool b => exact legible_bool depth b
  | int n => exact legible_int depth n
  | string s => exact legible_string depth s
  | list _ ih =>
    obtain _ | depth := depth
    · exact absurd hdepth (Nat.not_succ_le_zero _)
    · have hitems := Value.depthItems_le_iff.mp (Nat.le_of_succ_le_succ hdepth)
      exact legible_list fun u hu => ih u hu (hitems u hu)
  | map hnames _ ih =>
    obtain _ | depth := depth
    · exact absurd hdepth (Nat.not_succ_le_zero _)
    · have hentries := Value.depthEntries_le_iff.mp (Nat.le_of_succ_le_succ hdepth)
      exact legible_map hnames fun p hp => ih p hp (hentries p hp)

theorem readText_of_gives {s : List Char}
    (hread : Gives (readValue maxDepth (skipSpaces s)) v []) : readText s = some v := by
  obtain ⟨_, hread⟩ := hread
  unfold readText
  rw [hread]
  rfl

end Json

/-- A normal value is read from its text, with its maps in the order of their names. -/
theorem Value.Normal.ofJson?_json {v : Value} (h : v.Normal) (hdepth : v.depth < 128) :
    Value.ofJson? v.json = some v.sorted := by
  have hlegible := Json.legible_of_normal h (Nat.le_of_lt_succ hdepth)
  have hread := hlegible.reads [] (by rintro _ ⟨⟩)
  have hskip := hlegible.skipSpaces_eq []
  rw [← hskip, List.append_nil] at hread
  rw [ofJson?, json, String.toList_ofList]
  exact Json.readText_of_gives hread

/-- **JSON text and JSON loading are inverse.** Let `norm` replace objects by the maps of what they
list and floats that are not finite by null. A value in which no finite float stands, and in whose
`norm` fewer than 128 lists and maps nest, can be read back from its JSON text. What is read is its
`norm` with the entries of every map in the order of their names, which is equal to its `norm`. -/
theorem ofJson?_json_eq {v : Value} (hfloat : v.NoFiniteFloat) (hnames : v.DistinctFields)
    (hdepth : v.norm.depth < 128) :
    Value.ofJson? v.json = some v.norm.sorted ∧ (v.norm.sorted == v.norm) = true := by
  have hnormal := Value.normal_norm hfloat hnames
  have htext : v.json = v.norm.json := by
    rw [Value.json, Value.json, Json.write_norm]
  exact ⟨htext ▸ hnormal.ofJson?_json hdepth, hnormal.sorted_beq⟩

/-- An article in a list, with a title that needs escapes, a rating that is no number, and names out
of order. -/
def Value.escapes : Value :=
  .list [.object ⟨0, "Article", none,
    [("title", .string "\"\\\n\x01𝄞"), ("rating", .float (0 / 0)),
      ("parts", .map [("b", .int (-12)), ("a", .bool true), ("", .list [.null])])]⟩]

theorem ofJson?_json_eq_escapes :
    (Value.escapes.NoFiniteFloat ∧ Value.escapes.DistinctFields ∧
      Value.escapes.norm.depth < 128) ∧
    Value.escapes.norm = .list [.map [
      ("title", .string "\"\\\n\x01𝄞"), ("rating", .null),
      ("parts", .map [("b", .int (-12)), ("a", .bool true), ("", .list [.null])])]] ∧
    Value.ofJson? Value.escapes.json = some Value.escapes.norm.sorted ∧
    (Value.escapes.norm.sorted == Value.escapes.norm) = true := by
  have hfloat : Value.escapes.NoFiniteFloat := by
    have hnan : (0 / 0 : Float).isFinite = false := by decide
    simp [Value.escapes, Value.shown, Value.held, hnan, Value.noFiniteFloat_iff (v := .list _),
      Value.noFiniteFloat_iff (v := .object _), Value.noFiniteFloat_iff (v := .map _),
      Value.noFiniteFloat_iff (v := .string _), Value.noFiniteFloat_iff (v := .float _),
      Value.noFiniteFloat_iff (v := .int _), Value.noFiniteFloat_iff (v := .bool _),
      Value.noFiniteFloat_iff (v := .null)]
  have hnames : Value.escapes.DistinctFields := by
    simp [Value.escapes, Value.shown, Value.held, Value.fields, Named.names,
      Value.distinctFields_iff (v := .list _), Value.distinctFields_iff (v := .object _),
      Value.distinctFields_iff (v := .map _), Value.distinctFields_iff (v := .string _),
      Value.distinctFields_iff (v := .float _), Value.distinctFields_iff (v := .int _),
      Value.distinctFields_iff (v := .bool _), Value.distinctFields_iff (v := .null)]
  have hdepth : Value.escapes.norm.depth < 128 := by
    decide
  exact ⟨⟨hfloat, hnames, hdepth⟩, rfl, ofJson?_json_eq hfloat hnames hdepth⟩

end TagText
