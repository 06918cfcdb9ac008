import TagText.Text.Casing
import TagText.Text.Digit
import TagText.Value.Basic

/-!
# Following a path through values

A path is a list of keys, taken one after the other. In a map a key names an entry; in a list it
is the number of an item; an object is asked for the accessor of the key, and when it has none for
the property of that name; through anything else no path leads. Where a path is blocked, the error
tells it up to the key that could not be taken.
-/

namespace TagText

namespace Path

/-- The parts of a text between the dots in it. -/
def splitDots : List Char → List (List Char)
  | [] => [[]]
  | c :: s =>
    if c = '.' then [] :: splitDots s
    else
      match splitDots s with
      | [] => [[c]]
      | part :: parts => (c :: part) :: parts

/-- The keys of a path written with dots between them. There is always at least one. -/
def ofDotted (dotted : String) : List String := (splitDots dotted.toList).map String.ofList

/-- A path as told in errors, with one more key. A dot stands before the key unless nothing
stands before the dot. -/
def extend (path key : String) : String := if path.isEmpty then key else path ++ "." ++ key

/-- The name of the accessor for a key: `getName` for `name`. -/
def accessorName (key : String) : String :=
  "get" ++ String.ofList (Casing.capitalize key.toList)

/-- The digits of a number that may have a plus sign before it. -/
def unsignedDigits : List Char → List Char
  | '+' :: digits => digits
  | digits => digits

/-- The number with one more digit behind it. There is none if the character is no digit, nor if the
number leaves the 64 bits that an index has. -/
def pushDigit? (n : Nat) (c : Char) : Option Nat :=
  if isAsciiDigit c then
    let next := n * 10 + (c.toNat - '0'.toNat)
    if next < UInt64.size then some next else none
  else none

/-- The index that a key writes in decimal digits. -/
def index? (key : String) : Option Nat :=
  match unsignedDigits key.toList with
  | [] => none
  | digits => digits.foldlM pushDigit? 0

end Path

/-- What keeps a path from going on. -/
inductive Obstacle where
  | nullContainer
  | undefinedKey
  | noProperty
  | scalar (typeName : String)
  | accessorFailure (message : String)
  deriving DecidableEq

/-- Why a path leads to no value. -/
inductive ValueError where
  | emptyPath
  | blocked (obstacle : Obstacle) (path : String)
  deriving DecidableEq

/-- The kinds of reasons why a path leads to no value: it has no keys, there is no such value, or an
object failed to get it. -/
inductive ValueError.Kind where
  | emptyPath
  | inaccessible
  | accessor
  deriving DecidableEq

namespace Obstacle

/-- The obstacle in words. -/
def message : Obstacle → String
  | .nullContainer => "Container is null."
  | .undefinedKey => "Undefined key."
  | .noProperty => "Cannot access property."
  | .scalar typeName => "Cannot access properties on " ++ typeName ++ "."
  | .accessorFailure message => "Accessor failed: " ++ message

/-- Whether the obstacle means that there is no such value, not that getting it failed. -/
def isAbsence : Obstacle → Bool
  | .accessorFailure _ => false
  | _ => true

end Obstacle

namespace ValueError

/-- The error in words. -/
def message : ValueError → String
  | .emptyPath => "Value paths cannot be empty."
  | .blocked obstacle path => obstacle.message ++ " (at path \"" ++ path ++ "\")"

/-- The path up to the key that could not be taken. -/
def path? : ValueError → Option String
  | .emptyPath => none
  | .blocked _ path => some path

/-- Whether the error means that there is no such value. -/
def isAbsence : ValueError → Bool
  | .emptyPath => false
  | .blocked obstacle _ => obstacle.isAbsence

/-- The kind of the error. -/
def kind : ValueError → Kind
  | .emptyPath => .emptyPath
  | .blocked obstacle _ => if obstacle.isAbsence then .inaccessible else .accessor

theorem kind_eq_inaccessible_iff {e : ValueError} : e.kind = .inaccessible ↔ e.isAbsence = true := by
  cases e with
  | emptyPath => simp [kind, isAbsence]
  | blocked obstacle path => cases h : obstacle.isAbsence <;> simp [kind, isAbsence, h]

end ValueError

variable (objects : Objects)

/-- The value under one key. -/
def Value.member (v : Value) (key : String) : Except Obstacle Value :=
  match v with
  | .map entries =>
    match Named.get? entries key with
    | some w => .ok w
    | none => .error .undefinedKey
  | .list items =>
    match (Path.index? key).bind (items[·]?) with
    | some w => .ok w
    | none => .error .undefinedKey
  | .object face =>
    match objects.accessor face.id (Path.accessorName key) with
    | some (.ok w) => .ok w
    | some (.error message) => .error (.accessorFailure message)
    | none =>
      match objects.property face.id key with
      | some w => .ok w
      | none => .error .noProperty
  | scalar => .error (.scalar scalar.typeName)

/-- The value at the end of `keys`, begun at `v`, when `path` was followed already. -/
def Value.descend (v : Value) (path : String) : List String → Except ValueError Value
  | [] => .ok v
  | key :: keys =>
    match v.member objects key with
    | .ok w => descend w (Path.extend path key) keys
    | .error obstacle => .error (.blocked obstacle (Path.extend path key))

/-- The value at the end of a path that begins in `v`. -/
def Value.resolve (v : Value) (keys : List String) : Except ValueError Value :=
  if keys.isEmpty then .error .emptyPath
  else if v.isNull then .error (.blocked .nullContainer "")
  else v.descend objects "" keys

end TagText
