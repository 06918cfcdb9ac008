import TagText.Pattern.Basic

/-!
# The names in a tag

A segment of a path is a small letter and then letters, digits and underscores, the last of
them no underscore. The name of a modifier is the same without capital letters.
-/

namespace TagText

namespace Identifier

/-- The class `a` to `z`. -/
def small : CharClass := .range 'a' 'z'

/-- Small letters and digits. -/
def smallOrDigit : CharClass := .union small (.range '0' '9')

/-- Letters and digits. -/
def letterOrDigit : CharClass := .union small (.union (.range 'A' 'Z') (.range '0' '9'))

/-- A small letter, then any of `inner`, the last of them in `last`. -/
def pattern (inner last : CharClass) : Pattern :=
  .seq (.one small) (.optional true (.seq (.star true (.one inner)) (.one last)))

/-- One segment of a path. -/
def segment : Pattern := pattern (.union letterOrDigit (.single '_')) letterOrDigit

/-- The name of a modifier. -/
def modifier : Pattern := pattern (.union smallOrDigit (.single '_')) smallOrDigit

end Identifier

end TagText
