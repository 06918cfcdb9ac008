/-!
# Syntax trees of templates

A template is text with tags in it, so its tree is a list of nodes in the order of the text.
-/

namespace TagText

/-- A place for a value: the path that names it, and the modifiers to apply, first to last. -/
structure Tag where
  path : List String
  modifiers : List String
  deriving DecidableEq, Repr

/-- The path with dots between its segments. -/
def Tag.dottedPath (t : Tag) : String := ".".intercalate t.path

/-- A piece of a template. -/
inductive Node where
  | text (content : String)
  | tag (tag : Tag)
  deriving DecidableEq, Repr

namespace Node

/-- Whether the node is text. -/
def isText : Node → Bool
  | .text _ => true
  | .tag _ => false

/-- Text is empty when it has no characters; a tag never is. -/
def isEmpty : Node → Bool
  | .text content => content.isEmpty
  | .tag _ => false

/-- The text of a text node. -/
def text? : Node → Option String
  | .text content => some content
  | .tag _ => none

/-- The tag of a tag node. -/
def tag? : Node → Option Tag
  | .text _ => none
  | .tag t => some t

end Node

/-- A parsed template. -/
abbrev Tree := List Node

namespace Tree

/-- The tree without its empty nodes. -/
def prune (tree : Tree) : Tree := tree.filter (!·.isEmpty)

/-- The node that stands last, if there is one. -/
def current? (tree : Tree) : Option Node := tree.getLast?

/-- The tags of the tree, in order. -/
def tags (tree : Tree) : List Tag := tree.filterMap Node.tag?

theorem mem_tags_of_mem {tree : Tree} {tag : Tag} (h : .tag tag ∈ tree) : tag ∈ tags tree :=
  List.mem_filterMap.mpr ⟨.tag tag, h, rfl⟩

end Tree

end TagText
