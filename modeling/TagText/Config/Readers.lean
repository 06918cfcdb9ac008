import TagText.Config.Layers
import TagText.Config.Toml.Reader
import TagText.Pattern.Reader

/-!
# Readers

A program that goes by a configuration reads two languages: that of its documents and that of its
patterns. Both come from elsewhere and may know more than `Toml.read?` and `Pattern.ofString?` do,
which are the ones that the command runs with. What is proved of configurations, parsers and the
command holds with any two readers.
-/

namespace TagText

/-- What reads patterns and documents. -/
structure Readers where
  pattern? : PatternCompiler
  document? : DocumentReader

/-- The readers that the command runs with. -/
def Readers.standard : Readers where
  pattern? := Pattern.compile?
  document? := Toml.read?

end TagText
