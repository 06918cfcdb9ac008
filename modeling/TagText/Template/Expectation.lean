import TagText.Template.Inspect

/-!
# Expectations of a tree

What a test may ask of a parsed template, one question at a time, and how it is told that the
tree is different.
-/

namespace TagText

/-- A question about a tree. -/
inductive Expectation where
  | nodeCount (n : Nat)
  | isEmpty
  /-- The node at a place is text with this content. -/
  | text (index : Nat) (content : String)
  /-- The kinds of the nodes in order: `t` for text and `#` for a tag. -/
  | shape (kinds : String)
  | tagPath (index : Nat) (path : List String)
  | tagDotted (index : Nat) (path : String)
  | tagModifiers (index : Nat) (modifiers : List String)
  | tagNoModifiers (index : Nat)

/-- How a tree differs from what was expected. -/
inductive Mismatch where
  | nodeCount (expected : Nat) (tree : Tree)
  | notEmpty (tree : Tree)
  | outOfRange (index size : Nat)
  | notText (index : Nat) (node : Node)
  | notTag (index : Nat) (node : Node)
  | content (index : Nat)
  | shape
  | path (index : Nat)
  | modifiers (index : Nat)
  | someModifiers (index : Nat) (modifiers : List String)

namespace Mismatch

/-- The difference in words. -/
def message : Mismatch → String
  | .nodeCount expected tree =>
    "Expected " ++ toString expected ++ " nodes, found " ++ toString tree.length ++ ": " ++
      Tree.inspect tree
  | .notEmpty tree => "Expected an empty tree, found " ++ Tree.inspect tree
  | .outOfRange index size =>
    "node " ++ toString index ++ " out of range, tree has " ++ toString size ++ " nodes"
  | .notText index node => "node " ++ toString index ++ ": expected text, found " ++ node.inspect
  | .notTag index node => "node " ++ toString index ++ ": expected tag, found " ++ node.inspect
  | .content index => "node " ++ toString index ++ ": text content mismatch"
  | .shape => "tree shape mismatch"
  | .path index => "node " ++ toString index ++ ": path mismatch"
  | .modifiers index => "node " ++ toString index ++ ": modifiers mismatch"
  | .someModifiers index names =>
    "node " ++ toString index ++ ": expected no modifiers, found " ++ inspectList names

end Mismatch

namespace Tree

/-- The kinds of the nodes in order: `t` for text and `#` for a tag. -/
def shape (tree : Tree) : String :=
  String.ofList (tree.map fun node => if node.isText then 't' else '#')

/-- The node at a place. -/
def node (tree : Tree) (index : Nat) : Except Mismatch Node :=
  match tree[index]? with
  | some node => .ok node
  | none => .error (.outOfRange index tree.length)

/-- The tag at a place. -/
def tag (tree : Tree) (index : Nat) : Except Mismatch Tag :=
  match Tree.node tree index with
  | .error e => .error e
  | .ok (.tag t) => .ok t
  | .ok node => .error (.notTag index node)

end Tree

/-- No answer if `holds`, else the mismatch. -/
def expect (holds : Bool) (otherwise : Mismatch) : Except Mismatch Unit :=
  if holds then .ok () else .error otherwise

/-- Whether a tree is as expected. -/
def Expectation.check (tree : Tree) : Expectation → Except Mismatch Unit
  | .nodeCount n => expect (tree.length == n) (.nodeCount n tree)
  | .isEmpty => expect tree.isEmpty (.notEmpty tree)
  | .text index content =>
    match Tree.node tree index with
    | .error e => .error e
    | .ok (.text found) => expect (found == content) (.content index)
    | .ok node => .error (.notText index node)
  | .shape kinds => expect (Tree.shape tree == kinds) .shape
  | .tagPath index path => do
    let t ← Tree.tag tree index
    expect (t.path == path) (.path index)
  | .tagDotted index path => do
    let t ← Tree.tag tree index
    expect (t.dottedPath == path) (.path index)
  | .tagModifiers index modifiers => do
    let t ← Tree.tag tree index
    expect (t.modifiers == modifiers) (.modifiers index)
  | .tagNoModifiers index => do
    let t ← Tree.tag tree index
    expect t.modifiers.isEmpty (.someModifiers index t.modifiers)

end TagText
