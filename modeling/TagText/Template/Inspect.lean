import TagText.Template.Node
import TagText.Text.Quoted

/-!
# Trees as shown to a developer

The form in which messages of failed expectations show nodes and trees.
-/

namespace TagText

/-- Texts in quotes between brackets. -/
def inspectList (items : List String) : String := bracketed (items.map quoted)

/-- A node with all its parts. -/
def Node.inspect : Node → String
  | .text content => "Text(" ++ braced "TextNode" [("content", quoted content)] ++ ")"
  | .tag t =>
    "Tag(" ++
      braced "TagNode" [("path", inspectList t.path), ("modifiers", inspectList t.modifiers)] ++
      ")"

/-- A tree with all its nodes. -/
def Tree.inspect (tree : Tree) : String :=
  braced "Ast" [("tree", bracketed (tree.map Node.inspect))]

end TagText
