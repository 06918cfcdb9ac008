import TagText.Json.Writer
import TagText.Template.Node

/-!
# JSON text over lines

Every item and entry on a line of its own, two spaces deeper than what it belongs to. Empty lists
and maps stay on their line.
-/

namespace TagText

namespace Json

/-- A line feed, and the spaces in front of a line at this depth. -/
def newLine (depth : Nat) : List Char := '\n' :: List.replicate (2 * depth) ' '

mutual

/-- The text of a value whose closing mark stands at `depth`. -/
def writePretty (depth : Nat) : Value → List Char
  | .list (v :: vs) =>
    '[' :: newLine (depth + 1) ++ writePretty (depth + 1) v ++ writePrettyItems depth vs
  | .map ((name, v) :: rest) =>
    '\x7b' :: newLine (depth + 1) ++ writeString name ++ ':' :: ' ' ::
      writePretty (depth + 1) v ++ writePrettyEntries depth rest
  | v => write v

/-- The items after the first one, with the closing bracket. -/
def writePrettyItems (depth : Nat) : List Value → List Char
  | [] => newLine depth ++ [']']
  | v :: vs =>
    ',' :: newLine (depth + 1) ++ writePretty (depth + 1) v ++ writePrettyItems depth vs

/-- The entries after the first one, with the closing brace. -/
def writePrettyEntries (depth : Nat) : List (String × Value) → List Char
  | [] => newLine depth ++ ['\x7d']
  | (name, v) :: rest =>
    ',' :: newLine (depth + 1) ++ writeString name ++ ':' :: ' ' ::
      writePretty (depth + 1) v ++ writePrettyEntries depth rest

end

end Json

/-- A node as a value. -/
def Node.toValue : Node → Value
  | .text content => .map [("type", .string "text"), ("content", .string content)]
  | .tag t =>
    .map [("type", .string "tag"), ("path", .list (t.path.map .string)),
      ("modifiers", .list (t.modifiers.map .string))]

/-- A tree as JSON text over lines. -/
def Tree.json (tree : Tree) : String :=
  String.ofList (Json.writePretty 0 (.list (tree.map Node.toValue)))

end TagText
