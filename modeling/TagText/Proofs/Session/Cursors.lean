import TagText.Proofs.Cursor.Bytes

/-!
# Sessions of a cursor

A cursor over bytes may be asked to look, to read, to move and to go back, any number of times. What
it answers and where it comes to stand is told by the characters of its text and by its place alone,
without bytes, offsets or a largest number:

> `run?_eq`: a cursor answers calls as `CursorCall.answersFrom` tells it, and stands where
> `CursorCall.placeAfter` does.

The steps of the plain cursor that it refines carry this from one call to the next (`call?_eq`).
Reads that follow each other give a stretch of the text (`readTogether_answersFrom`), since each
begins where the last one ended.
-/

namespace TagText

/-- A stretch of text that a cursor is asked for: so many characters, as many as another text has,
or a match. -/
inductive Stretch where
  | count (n : UInt64)
  | sameAs (text : String)
  | pattern (f : Finder)

/-- The span of a plain cursor that is meant. -/
def Stretch.span : Stretch → Span
  | .count n => .count n.toNat
  | .sameAs text => .sameAs text
  | .pattern f => .pattern f.matcher

/-- What may be asked of a cursor. -/
inductive CursorCall where
  | peek (stretch : Stretch)
  | read (stretch : Stretch)
  | seek (stretch : Stretch)
  | seekBlanks
  | nextEquals (text : String)
  | nextMatches (f : Finder)
  | rewind

/-- What a cursor answers: a text, or whether something stands next. -/
inductive CursorAnswer where
  | text (s : String)
  | stands (b : Bool)

namespace CursorCall

/-- Whether the call only looks at what is ahead. -/
def looks : CursorCall → Bool
  | .peek _ | .nextEquals _ | .nextMatches _ => true
  | .read _ | .seek _ | .seekBlanks | .rewind => false

/-- Whether the call passes over text without giving it, or goes back. -/
def skips : CursorCall → Bool
  | .seek _ | .seekBlanks | .rewind => true
  | .peek _ | .read _ | .nextEquals _ | .nextMatches _ => false

/-- What the reads among calls were answered, together. -/
def readTogether : List CursorCall → List (Option CursorAnswer) → String
  | .read _ :: calls, some (.text s) :: answers => s ++ readTogether calls answers
  | _ :: calls, _ :: answers => readTogether calls answers
  | _, _ => ""

end CursorCall

/-! ## The cursor over bytes -/

namespace ByteCursor

variable (c : ByteCursor)

/-- The text of a stretch. -/
def look? : Stretch → Option String
  | .count n => c.peek? n
  | .sameAs text => c.peekSame? text
  | .pattern f => c.peekPattern? f

/-- The text of a stretch, and the cursor after it. -/
def take? : Stretch → Option (String × ByteCursor)
  | .count n => c.read? n
  | .sameAs text => c.readSame? text
  | .pattern f => c.readPattern? f

/-- The cursor after a stretch. -/
def skip? : Stretch → Option ByteCursor
  | .count n => some (c.seek n)
  | .sameAs text => some (c.seekSame text)
  | .pattern f => c.seekPattern? f

/-- What a call is answered, if it is answered with anything, and the cursor after it. -/
def call? : CursorCall → Option (Option CursorAnswer × ByteCursor)
  | .peek stretch => (c.look? stretch).map fun s => (some (.text s), c)
  | .read stretch => (c.take? stretch).map fun (s, after) => (some (.text s), after)
  | .seek stretch => (c.skip? stretch).map fun after => (none, after)
  | .seekBlanks => c.seekBlanks?.map fun after => (none, after)
  | .nextEquals text => (c.nextEquals? text).map fun b => (some (.stands b), c)
  | .nextMatches f => (c.nextMatches? f).map fun b => (some (.stands b), c)
  | .rewind => some (none, c.rewind)

/-- What calls are answered, and the cursor after them. -/
def run? (c : ByteCursor) : List CursorCall → Option (List (Option CursorAnswer) × ByteCursor)
  | [] => some ([], c)
  | call :: calls => do
    let (answer, after) ← c.call? call
    let (answers, last) ← after.run? calls
    return (answer :: answers, last)

end ByteCursor

/-! ## A place and a text -/

/-- The place behind a stretch at the place `i` of `text`. -/
def Stretch.stop (text : List Char) (i : Nat) : Stretch → Nat
  | .count n => min (i + n.toNat) text.length
  | .sameAs s => min (i + s.length) text.length
  | .pattern f => min (i + f.matcher.prefixLength (text.drop i)) text.length

namespace CursorCall

/-- The place that a call leads to from the place `i` of `text`. -/
def placeAfter (text : List Char) (blanks : Matcher) (i : Nat) : CursorCall → Nat
  | .peek _ | .nextEquals _ | .nextMatches _ => i
  | .read stretch | .seek stretch => stretch.stop text i
  | .seekBlanks => min (i + blanks.prefixLength (text.drop i)) text.length
  | .rewind => 0

/-- The answer to a call at the place `i` of `text`. -/
def answerAt? (text : List Char) (i : Nat) : CursorCall → Option CursorAnswer
  | .peek stretch | .read stretch =>
    some (.text (String.ofList (text.extract i (stretch.stop text i))))
  | .nextEquals s => some (.stands (s.toList.isPrefixOf (text.drop i)))
  | .nextMatches f => some (.stands (decide (i < (Stretch.pattern f).stop text i)))
  | .seek _ | .seekBlanks | .rewind => none

/-- The answers to calls from the place `i` of `text` on. -/
def answersFrom (text : List Char) (blanks : Matcher) (i : Nat) :
    List CursorCall → List (Option CursorAnswer)
  | [] => []
  | call :: calls =>
    call.answerAt? text i :: answersFrom text blanks (call.placeAfter text blanks i) calls

end CursorCall

/-! ## Calls of the plain cursor -/

namespace Cursor

/-- The cursor after a call. -/
def after (p : Cursor) : CursorCall → Cursor
  | .peek _ | .nextEquals _ | .nextMatches _ => p
  | .read stretch | .seek stretch => p.seek stretch.span
  | .seekBlanks => p.seekBlanks
  | .rewind => p.rewind

variable {p : Cursor} {call : CursorCall} {calls : List CursorCall}

theorem index_seek_span (p : Cursor) (stretch : Stretch) :
    (p.seek stretch.span).index = stretch.stop p.source p.index := by
  rw [index_seek]
  cases stretch with
  | count n => rfl
  | sameAs text => rfl
  | pattern f => rw [Stretch.span, extent, Stretch.stop, ahead_eq_drop]

theorem peek_span (p : Cursor) (stretch : Stretch) :
    p.peek stretch.span = p.source.extract p.index (stretch.stop p.source p.index) := by
  rw [peek_eq_extract, index_seek_span]

theorem source_after (p : Cursor) (call : CursorCall) : (p.after call).source = p.source := by
  cases call <;> rfl

theorem blanks_after (p : Cursor) (call : CursorCall) : (p.after call).blanks = p.blanks := by
  cases call <;> rfl

/-- Where a call moves a cursor to is told by the text and the place. -/
theorem index_after (p : Cursor) (call : CursorCall) :
    (p.after call).index = call.placeAfter p.source p.blanks p.index := by
  cases call with
  | peek | nextEquals | nextMatches => rfl
  | read stretch | seek stretch => exact p.index_seek_span stretch
  | seekBlanks =>
    rw [after, seekBlanks, index_seek, extent, CursorCall.placeAfter, ahead_eq_drop]
  | rewind => exact Nat.sub_self _

/-- Only going back to the front moves a cursor backwards. -/
theorem index_le_index_after (hcall : call ≠ .rewind) : p.index ≤ (p.after call).index := by
  have hseek : ∀ span, p.index ≤ (p.seek span).index := by
    intro span
    rw [index_seek_eq_add]
    exact Nat.le_add_right _ _
  cases call with
  | peek | nextEquals | nextMatches => exact Nat.le_refl _
  | read stretch | seek stretch => exact hseek stretch.span
  | seekBlanks => exact hseek (.pattern p.blanks)
  | rewind => exact absurd rfl hcall

theorem source_foldl_after (p : Cursor) (calls : List CursorCall) :
    (calls.foldl after p).source = p.source := by
  induction calls generalizing p with
  | nil => rfl
  | cons call calls ih => rw [List.foldl_cons, ih, source_after]

theorem blanks_foldl_after (p : Cursor) (calls : List CursorCall) :
    (calls.foldl after p).blanks = p.blanks := by
  induction calls generalizing p with
  | nil => rfl
  | cons call calls ih => rw [List.foldl_cons, ih, blanks_after]

/-- The calls of a cursor are those of its place. -/
theorem index_foldl_after (p : Cursor) (calls : List CursorCall) :
    (calls.foldl after p).index =
      calls.foldl (fun i call => call.placeAfter p.source p.blanks i) p.index := by
  induction calls generalizing p with
  | nil => rfl
  | cons call calls ih =>
    rw [List.foldl_cons, List.foldl_cons, ih, source_after, blanks_after, index_after]

theorem index_le_index_foldl_after (hcalls : ∀ call ∈ calls, call ≠ .rewind) :
    p.index ≤ (calls.foldl after p).index := by
  induction calls generalizing p with
  | nil => exact Nat.le_refl _
  | cons call calls ih =>
    obtain ⟨hcall, hcalls⟩ := List.forall_mem_cons.mp hcalls
    exact Nat.le_trans (index_le_index_after hcall) (ih hcalls)

/-- A stretch of a text and the one behind it are a stretch. -/
theorem extract_append_extract {α : Type} (s : List α) {i j k : Nat} (hij : i ≤ j) (hjk : j ≤ k) :
    s.extract i j ++ s.extract j k = s.extract i k := by
  have hj : i + (j - i) = j := Nat.add_sub_of_le hij
  have hk : k - i = (j - i) + (k - j) := by omega
  rw [List.extract_eq_take_drop, List.extract_eq_take_drop, List.extract_eq_take_drop, hk,
    List.take_add, List.drop_drop, hj]

/-- Reads that follow each other give the text from the first place to the last. -/
theorem readTogether_answersFrom (p : Cursor) (hcalls : ∀ call ∈ calls, call.skips = false) :
    CursorCall.readTogether calls (CursorCall.answersFrom p.source p.blanks p.index calls) =
      String.ofList (p.source.extract p.index (calls.foldl after p).index) := by
  induction calls generalizing p with
  | nil => simp [CursorCall.readTogether, List.extract_eq_take_drop]
  | cons call calls ih =>
    obtain ⟨hcall, hcalls⟩ := List.forall_mem_cons.mp hcalls
    have hforward : ∀ call ∈ calls, call ≠ .rewind := by
      rintro call hmem rfl
      exact absurd (hcalls .rewind hmem) (by decide)
    have hrest := ih (p := p.after call) hcalls
    rw [source_after, blanks_after, index_after] at hrest
    cases call with
    | peek | nextEquals | nextMatches => exact hrest
    | read stretch =>
      have hnext : p.index ≤ (p.after (.read stretch)).index := index_le_index_after (by simp)
      have hfirst : p.index ≤ stretch.stop p.source p.index := p.index_seek_span stretch ▸ hnext
      have hlast : stretch.stop p.source p.index ≤
          (calls.foldl after (p.seek stretch.span)).index :=
        p.index_seek_span stretch ▸ index_le_index_foldl_after hforward
      rw [CursorCall.answersFrom, CursorCall.answerAt?, CursorCall.readTogether, hrest,
        ← String.ofList_append]
      exact congrArg String.ofList (extract_append_extract p.source hfirst hlast)
    | seek | seekBlanks | rewind => exact absurd hcall (by simp [CursorCall.skips])

end Cursor

/-! ## Calls of the cursor over bytes -/

namespace ByteCursor

/-- Looking moves nothing. -/
theorem eq_of_looks {c d : ByteCursor} {call : CursorCall} {answer : Option CursorAnswer}
    (hlooks : call.looks = true) (hcall : c.call? call = some (answer, d)) : d = c := by
  cases call with
  | peek | nextEquals | nextMatches =>
    obtain ⟨_, -, heq⟩ := Option.map_eq_some_iff.mp hcall
    exact (Prod.mk.inj heq).2.symm
  | read | seek | seekBlanks | rewind => exact absurd hlooks (by simp [CursorCall.looks])

namespace Refines

variable {c : ByteCursor} {p : Cursor}

theorem look?_eq (h : c.Refines p) (stretch : Stretch) :
    c.look? stretch = some (String.ofList (p.peek stretch.span)) := by
  cases stretch with
  | count n => exact h.peek?_eq n
  | sameAs text => exact h.peekSame?_eq text
  | pattern f => exact h.peekPattern?_eq f

/-- What is read is what would be seen, and reading moves the cursor as skipping does. -/
theorem exists_take? (h : c.Refines p) (stretch : Stretch) :
    ∃ d, c.take? stretch = some (String.ofList (p.peek stretch.span), d) ∧
      c.skip? stretch = some d ∧ d.Refines (p.seek stretch.span) := by
  cases stretch with
  | count n => exact ⟨c.seek n, h.read?_eq n, rfl, h.seek n⟩
  | sameAs text => exact ⟨c.seekSame text, h.readSame?_eq text, rfl, h.seekSame text⟩
  | pattern f =>
    refine ⟨_, ?_, ?_, h.seek_countChars (.pattern f.matcher)⟩
    · rw [take?, readPattern?, h.peekPattern?_eq]
      rfl
    · rw [skip?, seekPattern?, h.peekPattern?_eq]
      rfl

/-- One call keeps to the plain cursor. -/
theorem call?_eq (h : c.Refines p) (call : CursorCall) :
    ∃ d, c.call? call = some (call.answerAt? p.source p.index, d) ∧ d.Refines (p.after call) := by
  cases call with
  | peek stretch =>
    refine ⟨c, ?_, h⟩
    rw [call?, h.look?_eq, Cursor.peek_span]
    rfl
  | read stretch =>
    obtain ⟨d, htake, -, hd⟩ := h.exists_take? stretch
    refine ⟨d, ?_, hd⟩
    rw [call?, htake, Cursor.peek_span]
    rfl
  | seek stretch =>
    obtain ⟨d, -, hskip, hd⟩ := h.exists_take? stretch
    refine ⟨d, ?_, hd⟩
    rw [call?, hskip]
    rfl
  | seekBlanks =>
    obtain ⟨d, hblanks, hd⟩ := h.seekBlanks?_eq
    refine ⟨d, ?_, hd⟩
    rw [call?, hblanks]
    rfl
  | nextEquals text =>
    refine ⟨c, ?_, h⟩
    rw [call?, h.nextEquals?_eq, Cursor.nextEquals_eq, Cursor.ahead_eq_drop]
    rfl
  | nextMatches f =>
    have hmoves := p.index_seek_eq_add (.pattern f.matcher)
    refine ⟨c, ?_, h⟩
    rw [call?, h.nextMatches?_eq, CursorCall.answerAt?, ← Cursor.index_seek_span, Stretch.span,
      hmoves, Cursor.nextMatches]
    cases p.peek (.pattern f.matcher) <;> simp
  | rewind => exact ⟨c.rewind, rfl, h.rewind⟩

/-- The calls of a session keep to the plain cursor. -/
theorem run?_eq (h : c.Refines p) (calls : List CursorCall) :
    ∃ d, c.run? calls = some (CursorCall.answersFrom p.source p.blanks p.index calls, d) ∧
      d.Refines (calls.foldl Cursor.after p) := by
  induction calls generalizing c p with
  | nil => exact ⟨c, rfl, h⟩
  | cons call calls ih =>
    obtain ⟨d, hcall, hd⟩ := h.call?_eq call
    obtain ⟨last, hrun, hlast⟩ := ih hd
    rw [Cursor.source_after, Cursor.blanks_after, Cursor.index_after] at hrun
    refine ⟨last, ?_, hlast⟩
    simp only [run?, hcall, hrun, Option.bind_eq_bind, Option.bind_some, Option.pure_def]
    rfl

/-! ## What a place tells -/

/-- A call is answered by the text and the place, and leads to a place that they tell. -/
theorem call?_place (h : c.Refines p) (call : CursorCall) :
    ∃ d, c.call? call = some (call.answerAt? p.source c.index.toNat, d) ∧
      d.index.toNat = call.placeAfter p.source p.blanks c.index.toNat ∧
      (call ≠ .rewind → c.index ≤ d.index) ∧ (call = .rewind → d.index = 0) ∧
      (call.looks = true → d = c) := by
  obtain ⟨d, hcall, hd⟩ := h.call?_eq call
  have hindex := hd.index.trans (p.index_after call)
  rw [← h.index] at hcall hindex
  refine ⟨d, hcall, hindex, fun hforward => ?_, fun hback => ?_, fun hlooks =>
    ByteCursor.eq_of_looks hlooks hcall⟩
  · rw [UInt64.le_iff_toNat_le, h.index, hd.index]
    exact Cursor.index_le_index_after hforward
  · rw [← UInt64.toNat_inj, hindex, hback]
    rfl

theorem peek?_extract (h : c.Refines p) (n : UInt64) :
    c.peek? n = some (String.ofList
      (p.source.extract c.index.toNat (min (c.index.toNat + n.toNat) p.source.length))) := by
  rw [h.peek?_eq, Cursor.peek_eq_extract, Cursor.index_seek, h.index]
  rfl

/-- Looking, reading and skipping are about the same characters, and a cursor moves by these. -/
theorem moves_by_length (h : c.Refines p) (stretch : Stretch) :
    ∃ s d, c.look? stretch = some s ∧ c.take? stretch = some (s, d) ∧
      c.skip? stretch = some d ∧ d.index.toNat = c.index.toNat + s.length := by
  obtain ⟨d, htake, hskip, hd⟩ := h.exists_take? stretch
  refine ⟨_, d, h.look?_eq stretch, htake, hskip, ?_⟩
  rw [hd.index, Cursor.index_seek_eq_add, h.index, String.length_ofList]

/-- Reads with nothing skipped between them give the text from the first place to the last. -/
theorem reads_together (h : c.Refines p) (calls : List CursorCall)
    (hcalls : ∀ call ∈ calls, call.skips = false) :
    ∃ answers d, c.run? calls = some (answers, d) ∧
      d.index.toNat =
        calls.foldl (fun i call => call.placeAfter p.source p.blanks i) c.index.toNat ∧
      CursorCall.readTogether calls answers =
        String.ofList (p.source.extract c.index.toNat d.index.toNat) := by
  obtain ⟨d, hrun, hd⟩ := h.run?_eq calls
  refine ⟨_, d, hrun, ?_, ?_⟩
  · rw [hd.index, Cursor.index_foldl_after, h.index]
  · rw [Cursor.readTogether_answersFrom p hcalls, hd.index, h.index]

theorem nextEquals?_iff (h : c.Refines p) (next : String) :
    c.nextEquals? next = some true ↔ next.toList <+: p.source.drop c.index.toNat := by
  rw [h.nextEquals?_eq, Option.some.injEq, Cursor.nextEquals_eq, List.isPrefixOf_iff_prefix,
    Cursor.ahead_eq_drop, h.index]

end Refines

end ByteCursor

/-- **Cursors are places in a text.** Take any text whose characters can be counted, as those of a
text in memory can. Whatever is asked of a cursor over its bytes, it is answered: no offset is
missing and none lies inside a character. The answers, and the place that the cursor comes to stand
at, are told by the characters of the text, with no other number than the place. The place is at most
the length of the text, and comes to lie further in front only by going back to 0. To look `n`
characters ahead is to see the text from the place on for `n` characters or, where it has fewer, to
its end. What is read is what would be seen, and moves the cursor by its characters, as skipping it
does; looking moves nothing. Reads with nothing skipped between them give the text from the first
place to the last, and a text stands next if what is ahead begins with it. -/
theorem cursor_is_place (source : String) (hsource : source.length < UInt64.size)
    (blanks : Finder) (calls : List CursorCall) :
    let text := source.toList
    ∃ c, (ByteCursor.ofString source blanks).run? calls =
        some (CursorCall.answersFrom text blanks.matcher 0 calls, c) ∧
      (c.source = source ∧ c.boundaries = boundaries source ∧ c.length.toNat = text.length ∧
        c.index ≤ c.length ∧
        c.index.toNat = calls.foldl (fun i call => call.placeAfter text blanks.matcher i) 0) ∧
      (∀ call, ∃ d, c.call? call = some (call.answerAt? text c.index.toNat, d) ∧
        d.index.toNat = call.placeAfter text blanks.matcher c.index.toNat ∧
        (call ≠ .rewind → c.index ≤ d.index) ∧ (call = .rewind → d.index = 0) ∧
        (call.looks = true → d = c)) ∧
      (∀ n, c.peek? n = some (String.ofList
        (text.extract c.index.toNat (min (c.index.toNat + n.toNat) text.length)))) ∧
      (∀ stretch, ∃ s d, c.look? stretch = some s ∧ c.take? stretch = some (s, d) ∧
        c.skip? stretch = some d ∧ d.index.toNat = c.index.toNat + s.length) ∧
      (∃ s d, c.take? (.pattern c.blanks) = some (s, d) ∧ c.seekBlanks? = some d) ∧
      (∀ more, (∀ call ∈ more, call.skips = false) → ∃ answers d, c.run? more = some (answers, d) ∧
        d.index.toNat =
          more.foldl (fun i call => call.placeAfter text blanks.matcher i) c.index.toNat ∧
        CursorCall.readTogether more answers =
          String.ofList (text.extract c.index.toNat d.index.toNat)) ∧
      ∀ next : String, c.nextEquals? next = some true ↔
        next.toList <+: text.drop c.index.toNat := by
  intro text
  obtain ⟨c, hrun, hc⟩ := (ByteCursor.refines_ofString hsource blanks).run?_eq calls
  have hstart : (Cursor.ofString source blanks.matcher).index = 0 := Nat.sub_self _
  have hplace := hc.index.trans (Cursor.index_foldl_after _ calls)
  rw [hstart] at hrun hplace
  -- From here on the cursor that `c` refines is any cursor over the text.
  generalize hp : calls.foldl Cursor.after (.ofString source blanks.matcher) = p at hc
  have htext : p.source = text := hp ▸ Cursor.source_foldl_after _ calls
  have hblanks : p.blanks = blanks.matcher := hp ▸ Cursor.blanks_foldl_after _ calls
  have hkept : c.source = source := String.toList_inj.mp (hc.source.trans htext)
  have hcalls := hc.call?_place
  have hpeek := hc.peek?_extract
  have hreads := hc.reads_together
  have hnext := hc.nextEquals?_iff
  rw [htext, hblanks] at hcalls hreads
  rw [htext] at hpeek hnext
  refine ⟨c, hrun, ⟨hkept, hkept ▸ hc.boundaries, ?_, ?_, hplace⟩, hcalls, hpeek,
    hc.moves_by_length, ?_, hreads, hnext⟩
  · rw [hc.toNat_length, Cursor.length, htext]
  · rw [UInt64.le_iff_toNat_le, hc.index, hc.toNat_length]
    exact p.index_le
  · obtain ⟨d, htake, hskip, -⟩ := hc.exists_take? (.pattern c.blanks)
    exact ⟨_, d, htake, hskip⟩

/-- Two characters are read, and then the second of them again. -/
def CursorCall.rereading : List CursorCall :=
  [.read (.count 2), .rewind, .seek (.count 1), .read (.sameAs "e")]

/-- Two reads with a look between them. -/
def CursorCall.readingOn : List CursorCall :=
  [.read (.sameAs "...."), .nextEquals "w", .read (.count 2)]

theorem cursor_is_place_rereading :
    ∃ c, (ByteCursor.ofString "héllo wörld" (.ofMatcher .blanks)).run? CursorCall.rereading =
        some ([some (.text "hé"), none, none, some (.text "é")], c) ∧ c.index.toNat = 2 ∧
      c.peek? 0xFFFFFFFFFFFFFFFF = some "llo wörld" ∧
      ∃ answers d, c.run? CursorCall.readingOn = some (answers, d) ∧
        CursorCall.readTogether CursorCall.readingOn answers = "llo wö" := by
  obtain ⟨c, hrun, ⟨-, -, -, -, hplace⟩, -, hpeek, -, -, hreads, -⟩ :=
    cursor_is_place "héllo wörld" (by decide) (.ofMatcher .blanks) CursorCall.rereading
  refine ⟨c, hrun, hplace, ?_, ?_⟩
  · rw [hpeek, hplace]
    rfl
  · obtain ⟨answers, d, hmore, hlast, htogether⟩ := hreads CursorCall.readingOn (by decide)
    refine ⟨answers, d, hmore, htogether.trans ?_⟩
    rw [hlast, hplace]
    rfl

end TagText
