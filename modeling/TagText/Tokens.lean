/-!
# The tokens of a template

Five roles are played by literals that a caller may choose. Every role always has a literal; a
template is read only when none of the five is empty (`Tokens.firstEmpty?`), since an empty
literal would stand everywhere.
-/

namespace TagText

/-- What a literal is for. -/
inductive Role where
  | escape
  | tagOpen
  | tagClose
  | tagModifier
  | tagPathSeparator
  deriving DecidableEq

namespace Role

/-- The roles in their fixed order. -/
def all : List Role := [.escape, .tagOpen, .tagClose, .tagModifier, .tagPathSeparator]

/-- The name of a role in messages. -/
def name : Role → String
  | .escape => "ESCAPE"
  | .tagOpen => "TAG_OPEN"
  | .tagClose => "TAG_CLOSE"
  | .tagModifier => "TAG_MODIFIER"
  | .tagPathSeparator => "TAG_PATH_SEPARATOR"

/-- The role with a name. -/
def ofName? (name : String) : Option Role := all.find? (·.name == name)

end Role

/-- The literal of every role. -/
structure Tokens where
  escape : String
  tagOpen : String
  tagClose : String
  tagModifier : String
  tagPathSeparator : String
  deriving DecidableEq

namespace Tokens

/-- Tags such as `{user.name|upper}`, and a backslash to escape with. -/
def default : Tokens where
  escape := "\\"
  tagOpen := "\x7b"
  tagClose := "\x7d"
  tagModifier := "|"
  tagPathSeparator := "."

instance : Inhabited Tokens := ⟨default⟩

/-- The literal of a role. -/
def get (t : Tokens) : Role → String
  | .escape => t.escape
  | .tagOpen => t.tagOpen
  | .tagClose => t.tagClose
  | .tagModifier => t.tagModifier
  | .tagPathSeparator => t.tagPathSeparator

/-- The tokens with another literal for one role. -/
def set (t : Tokens) : Role → String → Tokens
  | .escape, literal => { t with escape := literal }
  | .tagOpen, literal => { t with tagOpen := literal }
  | .tagClose, literal => { t with tagClose := literal }
  | .tagModifier, literal => { t with tagModifier := literal }
  | .tagPathSeparator, literal => { t with tagPathSeparator := literal }

/-- The tokens after several assignments, the later over the earlier. -/
def merge (t : Tokens) (assignments : List (Role × String)) : Tokens :=
  assignments.foldl (fun t a => t.set a.1 a.2) t

/-- The first role, in their fixed order, whose literal is empty. -/
def firstEmpty? (t : Tokens) : Option Role := Role.all.find? fun role => (t.get role).isEmpty

theorem firstEmpty?_eq_none_iff {t : Tokens} : t.firstEmpty? = none ↔ ∀ role, t.get role ≠ "" := by
  rw [firstEmpty?, List.find?_eq_none]
  constructor
  · intro h role
    simpa using h role (by cases role <;> decide)
  · intro h role _
    simpa using h role

theorem get_set_self (t : Tokens) (role : Role) (literal : String) :
    (t.set role literal).get role = literal := by
  cases role <;> rfl

theorem get_set_of_ne (t : Tokens) {role other : Role} (literal : String) (h : other ≠ role) :
    (t.set role literal).get other = t.get other := by
  cases role <;> cases other <;> first | rfl | exact absurd rfl h

end Tokens

end TagText
