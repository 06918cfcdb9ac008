import TagText.Pattern.Matcher
import TagText.Text.Slice

/-!
# Finders

A compiled pattern looks for its first match in a text and tells where that begins and ends, in
bytes. Which match it finds is up to the language of patterns. All that is asked of it is that the
match is a part of the text (`Finder.isSome_slice?`).

A cursor takes a match only where it stands, and by the character: `Finder.matcher` is what a finder
comes to then. A match that begins further on counts as none, and so does an empty one.
-/

namespace TagText

/-- What finds a match in a text, told by its two byte offsets. -/
structure Finder where
  find? : String → Option (Nat × Nat)
  isSome_slice? : ∀ {s start stop}, find? s = some (start, stop) → (slice? s start stop).isSome

namespace Finder

/-- The part that a match at the front of the text covers, empty without such a match. -/
def front? (f : Finder) (s : String) : Option String :=
  match f.find? s with
  | some (start, stop) => if start = 0 then slice? s 0 stop else some ""
  | none => some ""

theorem exists_front? (f : Finder) (s : String) :
    ∃ part, f.front? s = some part ∧ part.toList <+: s.toList := by
  unfold front?
  split
  next start stop hfind =>
    split
    next hstart =>
      subst hstart
      obtain ⟨part, hpart⟩ := Option.isSome_iff_exists.mp (f.isSome_slice? hfind)
      exact ⟨part, hpart, (slice?_zero_eq_some_iff.mp hpart).1⟩
    next => exact ⟨"", rfl, List.nil_prefix⟩
  next => exact ⟨"", rfl, List.nil_prefix⟩

/-- The matcher that a finder comes to for one who stands at the front. -/
def matcher (f : Finder) : Matcher where
  prefixLength s := ((f.front? (.ofList s)).getD "").length

/-- A match at the front is the characters that the matcher takes. -/
theorem front?_eq (f : Finder) (s : String) :
    f.front? s = some (.ofList (s.toList.take (f.matcher.prefixLength s.toList))) := by
  obtain ⟨part, hfront, hprefix⟩ := f.exists_front? s
  have hlength : f.matcher.prefixLength s.toList = part.toList.length := by
    simp only [matcher, String.ofList_toList, hfront, Option.getD_some, String.length_toList]
  rw [hfront, hlength, ← List.prefix_iff_eq_take.mp hprefix, String.ofList_toList]

/-- The finder of a matcher: it has a match at the front of every text, which may be empty. -/
def ofMatcher (m : Matcher) : Finder where
  find? s := some (0, byteSize (s.toList.take (m.prefixLength s.toList)))
  isSome_slice? := by
    intro s start stop hfind
    obtain ⟨rfl, rfl⟩ := Prod.mk.inj (Option.some.inj hfind)
    exact Option.isSome_of_mem
      (slice?_zero_eq_some_iff.mpr ⟨String.toList_ofList ▸ List.take_prefix _ _, rfl⟩)

theorem take_matcher_ofMatcher (m : Matcher) (s : List Char) :
    s.take ((ofMatcher m).matcher.prefixLength s) = s.take (m.prefixLength s) := by
  have hfront : (ofMatcher m).front? (.ofList s) = some (.ofList (s.take (m.prefixLength s))) := by
    simp only [front?, ofMatcher, if_true, slice?_zero_eq_some_iff, String.toList_ofList]
    exact ⟨List.take_prefix _ _, rfl⟩
  rw [front?_eq, String.toList_ofList, Option.some.injEq] at hfront
  simpa using congrArg String.toList hfront

end Finder

end TagText
