import TagText.Tokens

/-!
# What may be wrong with a template

Reading stops at the first fault, which is told with its cause, the number of characters before
it, and the whole template.
-/

namespace TagText

namespace ParseError

/-- The cause of a fault. A cause that shows a found text has it empty at the end of the
template. -/
inductive Kind where
  | tagCloseOutsideTag
  | unexpectedEndWhileEscaping
  | unexpectedEscapedCharacter (found : String)
  | delimiterEscapedOutsideString (role : Role)
  | emptyPathSegment
  | emptyTag
  | unexpectedModifierValue (found : String)
  | expectedTagClose (found : String)
  | emptyToken (role : Role)
  deriving DecidableEq

/-- The cause in words. -/
def Kind.message : Kind → String
  | .tagCloseOutsideTag => "Unexpected token TAG_CLOSE outside tag"
  | .unexpectedEndWhileEscaping => "Unexpected end of string while escaping"
  | .unexpectedEscapedCharacter found => "Unexpected escaped character \"" ++ found ++ "\""
  | .delimiterEscapedOutsideString role =>
    "Unexpected token " ++ role.name ++ " escaped outside string"
  | .emptyPathSegment => "Unexpected token TAG_PATH_SEPARATOR with no preceding segment"
  | .emptyTag => "Unexpected empty tag"
  | .unexpectedModifierValue found => "Unexpected value \"" ++ found ++ "\" in modifiers"
  | .expectedTagClose found => "Unexpected value \"" ++ found ++ "\", expected tag close"
  | .emptyToken role => "Token " ++ role.name ++ " is configured as an empty string"

end ParseError

/-- A fault in a template. -/
structure ParseError where
  kind : ParseError.Kind
  /-- Characters before the place where reading stopped. -/
  offset : Nat
  template : String
  deriving DecidableEq

/-- The cause in words, with its place. -/
def ParseError.message (e : ParseError) : String :=
  e.kind.message ++ " (at offset " ++ toString e.offset ++ " of \"" ++ e.template ++ "\")"

end TagText
