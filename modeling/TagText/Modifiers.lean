import TagText.Text.Blank
import TagText.Text.Casing
import TagText.Text.Quoted
import TagText.Value.Basic

/-!
# Modifiers

A modifier changes a value before it becomes text. A tag names its modifiers, and they are applied
from left to right; each must be registered, and none may make the value null.
-/

namespace TagText

/-- A change of a value. -/
abbrev Modifier := Value → Value

/-- Modifiers under the names by which tags call them. -/
abbrev Modifiers := Named Modifier

/-- Why modifiers could not be applied. -/
inductive ModifierError where
  | undefined (name : String)
  | emptyResult (name : String)
  deriving DecidableEq

/-- The error in words. -/
def ModifierError.message : ModifierError → String
  | .undefined name => "Undefined modifier \"" ++ name ++ "\"."
  | .emptyResult name => "Empty value returned from modifier \"" ++ name ++ "\"."

/-- A change of strings, which leaves all other values as they are. -/
def Modifier.ofText (change : List Char → List Char) : Modifier
  | .string s => .string (String.ofList (change s.toList))
  | v => v

namespace Modifiers

/-- The modifiers `lower`, `upper`, `trim` and `capitalize`. -/
def standard : Modifiers := [
  ("lower", .ofText Casing.lower),
  ("upper", .ofText Casing.upper),
  ("trim", .ofText trimBlanks),
  ("capitalize", .ofText Casing.capitalize)]

/-- The value after the modifiers of these names, one after the other. -/
def apply (modifiers : Modifiers) (v : Value) : List String → Except ModifierError Value
  | [] => .ok v
  | name :: names =>
    match Named.get? modifiers name with
    | none => .error (.undefined name)
    | some modifier =>
      let w := modifier v
      if w.isNull then .error (.emptyResult name) else apply modifiers w names

/-- The names of the modifiers in the order of their characters. -/
def sortedNames (modifiers : Modifiers) : List String := sortNames (Named.names modifiers)

/-- The modifiers as shown to a developer. -/
def inspect (modifiers : Modifiers) : String :=
  braced "ModifierRegistry" [("modifiers", bracketed ((sortedNames modifiers).map quoted))]

end Modifiers

end TagText
