import TagText.Proofs.Cursor.Bytes
import TagText.Proofs.Template.Identifier

/-!
# Names are read as far as they go

A name in a tag is read by a pattern that tries to take many characters and gives some of them back.
What it comes to is said here without the search, of a cursor that stands anywhere in a text:

> `read_longest_name`: in front of a small letter the cursor takes, of the run of letters, digits and
> underscores that begins there, as much as ends in a letter or digit, and elsewhere nothing.

What of the run is left behind a name is therefore underscores only (`LongestEndingIn.rest`), with
which no name begins, so two names are never read one directly behind the other.
-/

namespace TagText

/-! ## The longest part of a run -/

/-- Of what `run` begins with, `w` is the longest that ends in a character of `x`. -/
structure LongestEndingIn (x : Char → Bool) (run w : List Char) : Prop where
  begins : w <+: run
  ends : ∃ last, w.getLast? = some last ∧ x last = true
  longest : ∀ v, v <+: run → (∃ last, v.getLast? = some last ∧ x last = true) → v.length ≤ w.length

section
variable {x : Char → Bool} {run w : List Char}

/-- What is left when the end of a text without `x` is cut off is the longest that ends in `x`. -/
theorem longestEndingIn_rdropWhile (hne : run.rdropWhile (!x ·) ≠ []) :
    LongestEndingIn x run (run.rdropWhile (!x ·)) where
  begins := List.rdropWhile_prefix _ _
  ends := by
    refine ⟨_, List.getLast?_eq_some_getLast hne, ?_⟩
    simpa using List.rdropWhile_last_not (!x ·) run hne
  longest := by
    rintro v hv ⟨last, hlast, hx⟩
    rcases List.prefix_or_prefix_of_prefix hv (List.rdropWhile_prefix (!x ·) run) with h | h
    · exact h.length_le
    · obtain ⟨tail, rfl⟩ := h
      cases tail with
      | nil => rw [List.append_nil]
      | cons a tail =>
        -- What `v` has beyond the cut is of the part that was cut off, which has no `x`.
        have hcut : a :: tail <+: run.rtakeWhile (!x ·) := by
          rw [← List.prefix_append_right_inj (run.rdropWhile (!x ·)),
            List.rdropWhile_append_rtakeWhile]
          exact hv
        rw [List.getLast?_append_of_ne_nil _ (List.cons_ne_nil a tail)] at hlast
        have hmem := hcut.subset (List.mem_of_getLast? hlast)
        have hnot := List.mem_rtakeWhile_imp hmem
        simp [hx] at hnot

theorem LongestEndingIn.ne_nil (h : LongestEndingIn x run w) : w ≠ [] := by
  rintro rfl
  obtain ⟨last, hlast, -⟩ := h.ends
  simp at hlast

/-- Behind the longest part that ends in `x` the run has no `x`. -/
theorem LongestEndingIn.rest (h : LongestEndingIn x run w) :
    ∃ rest, run = w ++ rest ∧ ∀ a ∈ rest, x a = false := by
  obtain ⟨rest, hrest⟩ := h.begins
  refine ⟨rest, hrest.symm, fun a ha => ?_⟩
  by_contra hxa
  -- Up to such an `a` the run would be longer.
  obtain ⟨front, back, rfl⟩ := List.append_of_mem ha
  have hlonger := h.longest (w ++ front ++ [a]) ⟨back, by simp [← hrest]⟩
    ⟨a, by simp, by simpa using hxa⟩
  rw [List.length_append, List.length_append, List.length_singleton] at hlonger
  omega

end

/-! ## The two kinds of names -/

/-- The two kinds of names in a tag: segments of its path, and modifiers. -/
inductive NameKind where
  | segment
  | modifier

namespace NameKind

/-- The pattern that a name of the kind is read by. -/
def pattern : NameKind → Pattern
  | .segment => Identifier.segment
  | .modifier => Identifier.modifier

/-- The letters and digits of the kind. -/
def holds : NameKind → Char → Bool
  | .segment => Char.isAlphanum
  | .modifier => fun c => c.isLower || c.isDigit

/-- The class of the letters and digits of the kind. -/
def letters : NameKind → CharClass
  | .segment => Identifier.letterOrDigit
  | .modifier => Identifier.smallOrDigit

theorem pattern_eq (kind : NameKind) : kind.pattern = Identifier.ofClass kind.letters := by
  cases kind <;> rfl

theorem holds_letters (kind : NameKind) : kind.letters.holds = kind.holds := by
  cases kind with
  | segment => exact Identifier.holds_letterOrDigit
  | modifier => exact Identifier.holds_smallOrDigit

theorem holds_of_isLower (kind : NameKind) {c : Char} (h : c.isLower = true) :
    kind.letters.holds c = true := by
  cases kind with
  | segment => exact Identifier.small_le_letterOrDigit h
  | modifier => exact Identifier.small_le_smallOrDigit h

theorem readsNames (kind : NameKind) : Identifier.ReadsNames kind.pattern kind.holds := by
  cases kind with
  | segment => exact Identifier.readsNames_segment
  | modifier => exact Identifier.readsNames_modifier

/-- The run of letters, digits and underscores at the front of a text. -/
def run (kind : NameKind) (s : List Char) : List Char :=
  s.takeWhile fun a => kind.holds a || a == '_'

theorem run_eq (kind : NameKind) (s : List Char) :
    kind.run s = s.takeWhile (CharClass.union kind.letters (.single '_')).holds := by
  refine congrArg (List.takeWhile · s) (funext fun a => ?_)
  rw [Bool.eq_iff_iff, Identifier.holds_inner, holds_letters, Bool.or_eq_true, beq_iff_eq]

/-- In front of a small letter a name takes the longest part of the run that ends in a letter or
digit. -/
theorem longestEndingIn_take (kind : NameKind) {first : Char} {r : List Char}
    (hfirst : first.isLower = true) :
    LongestEndingIn kind.holds (kind.run (first :: r))
      ((first :: r).take (kind.pattern.prefixLength (first :: r))) := by
  have hsmall : ∀ c : Char, c.isLower = true → kind.letters.holds c = true :=
    fun c => kind.holds_of_isLower
  have hlongest : Identifier.longest kind.letters (first :: r) =
      (kind.run (first :: r)).rdropWhile (!kind.holds ·) := by
    rw [Identifier.longest, ← run_eq, holds_letters]
  have hlength : kind.pattern.prefixLength (first :: r) =
      (Identifier.longest kind.letters (first :: r)).length := by
    rw [pattern_eq, Identifier.prefixLength_ofClass hsmall, if_pos hfirst]
  have hne : (kind.run (first :: r)).rdropWhile (!kind.holds ·) ≠ [] := by
    rw [← hlongest, ← List.length_pos_iff, ← hlength]
    exact Nat.pos_of_ne_zero (kind.readsNames.ne_zero_cons hfirst)
  rw [hlength, ← List.prefix_iff_eq_take.mp (Identifier.prefix_longest _), hlongest]
  exact longestEndingIn_rdropWhile hne

/-- A name is what is taken, and what is ahead behind it is what is left. -/
theorem takes_of_take_ne_nil (kind : NameKind) {s : List Char}
    (h : s.take (kind.pattern.prefixLength s) ≠ []) :
    kind.pattern.Takes (s.take (kind.pattern.prefixLength s))
      (s.drop (kind.pattern.prefixLength s)) := by
  have hsome : kind.pattern.prefixLength s ≠ 0 := by
    intro hzero
    rw [hzero] at h
    exact h List.take_zero
  obtain ⟨w, rest, rfl, hw⟩ := kind.readsNames.exists_takes hsome
  rw [hw.2, List.take_left, List.drop_left]
  exact hw

/-- Where a name of one kind cannot begin none of the other kind can. -/
theorem prefixLength_eq_zero_iff (kind other : NameKind) {s : List Char} :
    kind.pattern.prefixLength s = 0 ↔ other.pattern.prefixLength s = 0 := by
  rw [kind.readsNames.eq_zero_iff, other.readsNames.eq_zero_iff]

end NameKind

/-! ## A cursor that reads a name -/

/-- **Names are read as far as they go.** Where no small letter stands, at the end of the text for
one, reading a name gives nothing and moves nothing, and only there. Before a small letter it gives,
of the run of letters, digits and underscores that begins with it, the longest part that ends in a
letter or digit, and moves the cursor behind it. There stands no letter or digit of the kind, and
what is left of the run is underscores only. So directly behind a name none of either kind is
read. A cursor over bytes at the same place reads the same name and comes to the same place. -/
theorem read_longest_name (c : Cursor) (kind : NameKind) :
    let name := (c.read (.pattern kind.pattern.matcher)).1
    let after := (c.read (.pattern kind.pattern.matcher)).2
    (name = [] ∧ after = c ↔ ∀ first, c.ahead.head? = some first → first.isLower = false) ∧
    (∀ first, c.ahead.head? = some first → first.isLower = true →
      LongestEndingIn kind.holds (kind.run c.ahead) name ∧
      c.ahead = name ++ after.ahead ∧ after.index = c.index + name.length ∧
      (∀ next, after.ahead.head? = some next → kind.holds next = false) ∧
      ∃ rest, kind.run c.ahead = name ++ rest ∧ ∀ a ∈ rest, a = '_') ∧
    (name ≠ [] → ∀ other : NameKind, (after.read (.pattern other.pattern.matcher)).1 = []) ∧
    ∀ bytes : ByteCursor, bytes.Refines c → ∃ behind,
      bytes.readPattern? (.ofMatcher kind.pattern.matcher) = some (String.ofList name, behind) ∧
        behind.Refines after := by
  intro name after
  have hlongest : ∀ first, c.ahead.head? = some first → first.isLower = true →
      LongestEndingIn kind.holds (kind.run c.ahead) name := by
    intro first hhead hfirst
    obtain ⟨r, hahead⟩ := List.head?_eq_some_iff.mp hhead
    have htake := kind.longestEndingIn_take (r := r) hfirst
    rw [← hahead] at htake
    exact htake
  have htakes : name ≠ [] → kind.pattern.Takes name after.ahead := kind.takes_of_take_ne_nil
  refine ⟨⟨fun hnone first hhead => ?_, fun hnone => ?_⟩, fun first hhead hfirst => ?_,
    fun hname other => ?_, fun bytes hbytes => hbytes.readPattern?_ofMatcher _⟩
  · by_contra hfirst
    exact (hlongest first hhead (by simpa using hfirst)).ne_nil hnone.1
  · have hzero := kind.readsNames.eq_zero_iff.mpr hnone
    exact ⟨by simp [name, Cursor.read, Cursor.peek, Cursor.extent, hzero], Cursor.seek_eq_self hzero⟩
  · have hname := hlongest first hhead hfirst
    obtain ⟨rest, hrun, hrest⟩ := hname.rest
    refine ⟨hname, (List.take_append_drop _ _).symm, c.index_seek_eq_add _, fun next hnext => ?_,
      rest, hrun, fun a ha => ?_⟩
    · obtain ⟨r, hahead⟩ := List.head?_eq_some_iff.mp hnext
      exact kind.readsNames.holds_next (hahead ▸ htakes hname.ne_nil)
    · have hmem : a ∈ kind.run c.ahead := hrun ▸ List.mem_append_right name ha
      simpa [hrest a ha] using List.mem_takeWhile_imp hmem
  · have hzero := kind.readsNames.next_eq_zero (htakes hname)
    have hother : other.pattern.prefixLength after.ahead = 0 :=
      (kind.prefixLength_eq_zero_iff other).mp hzero
    simp [Cursor.read, Cursor.peek, Cursor.extent, hother]

/-- Before a name with a capital letter and two underscores at its end. -/
def Cursor.beforeName : Cursor := (Cursor.ofString "|a_B__" .blanks).seek (.count 1)

theorem read_longest_name_underscores :
    Cursor.beforeName.ahead.head? = some 'a' ∧
    (Cursor.beforeName.read (.pattern Identifier.segment.matcher)).1 = "a_B".toList ∧
    LongestEndingIn Char.isAlphanum "a_B__".toList "a_B".toList ∧
    ((Cursor.beforeName.read (.pattern Identifier.segment.matcher)).2.read
      (.pattern Identifier.modifier.matcher)).1 = [] := by
  have hname : (Cursor.beforeName.read (.pattern Identifier.segment.matcher)).1 = "a_B".toList := by
    decide +kernel
  obtain ⟨-, hlongest, hnext, -⟩ := read_longest_name .beforeName .segment
  refine ⟨rfl, hname, ?_, hnext ?_ .modifier⟩
  · rw [← hname]
    exact (hlongest 'a' rfl rfl).1
  · rw [NameKind.pattern, hname]
    decide

end TagText
