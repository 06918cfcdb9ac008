import TagText.Pattern.Basic

/-!
# Matchers

Of a compiled pattern a template needs one thing only: how many of the characters ahead it takes
where a cursor stands. A `Matcher` is just that, so everything that is said of blanks holds in any
language of patterns. `Pattern` is one such language, with what the names in a tag need and more.
-/

namespace TagText

/-- What takes some of the characters ahead, counted from the first: none also when it does not
match. -/
structure Matcher where
  prefixLength : List Char → Nat

/-- What reads the text of a pattern that is to match at the front only, or refuses it. -/
abbrev PatternCompiler := String → Option Matcher

/-- The matcher of a pattern. -/
def Pattern.matcher (p : Pattern) : Matcher := ⟨p.prefixLength⟩

@[simp] theorem Pattern.prefixLength_matcher (p : Pattern) :
    p.matcher.prefixLength = p.prefixLength := rfl

/-- A run of White_Space, at least one character of it. -/
def Matcher.blanks : Matcher := Pattern.blanks.matcher

@[simp] theorem Matcher.prefixLength_blanks :
    Matcher.blanks.prefixLength = Pattern.blanks.prefixLength := rfl

end TagText
