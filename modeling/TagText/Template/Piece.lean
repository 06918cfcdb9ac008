import TagText.Template.Scan

/-!
# Templates in pieces

A template is written as one piece after another: a character that stands for itself, a literal
behind the escape literal, or a tag with blanks around its parts. `Piece.writeAll` gives the text
of pieces, and `Piece.assemble` the tree that they stand for, in which everything between two tags
is one text.

A tree is printed by way of its pieces (`Tree.pieces`): in text every literal that would mean
something is escaped, and a tag has no blanks.
-/

namespace TagText

open Scan

/-- A modifier in a tag: its name and the blanks around it. -/
structure WrittenModifier where
  before : List Char
  name : String
  after : List Char
  deriving DecidableEq

/-- A tag with the blanks between its parts. -/
structure WrittenTag where
  afterOpen : List Char
  path : List String
  /-- Whether a separator stands after the last segment. -/
  trailing : Bool
  afterPath : List Char
  modifiers : List WrittenModifier
  beforeClose : List Char
  deriving DecidableEq

/-- A piece of a template. -/
inductive Piece where
  | char (c : Char)
  | escaped (role : Role)
  | tag (t : WrittenTag)
  deriving DecidableEq

namespace WrittenTag

/-- The tag that is meant. -/
def toTag (t : WrittenTag) : Tag := ⟨t.path, t.modifiers.map WrittenModifier.name⟩

/-- A tag written without blanks. -/
def ofTag (t : Tag) : WrittenTag where
  afterOpen := []
  path := t.path
  trailing := false
  afterPath := []
  modifiers := t.modifiers.map fun name => ⟨[], name, []⟩
  beforeClose := []

theorem toTag_ofTag (t : Tag) : (ofTag t).toTag = t := by
  simp [toTag, ofTag, Function.comp_def]

end WrittenTag

variable (l : Literals)

/-- The text of a modifier with its mark. -/
def WrittenModifier.write (m : WrittenModifier) : List Char :=
  l.of .tagModifier ++ m.before ++ m.name.toList ++ m.after

/-- The text of a tag. -/
def WrittenTag.write (t : WrittenTag) : List Char :=
  l.of .tagOpen ++ t.afterOpen ++
    (l.of .tagPathSeparator).intercalate (t.path.map String.toList) ++
    (if t.trailing then l.of .tagPathSeparator else []) ++ t.afterPath ++
    t.modifiers.flatMap (WrittenModifier.write l) ++ t.beforeClose ++ l.of .tagClose

namespace Piece

/-- The text of a piece. -/
def write : Piece → List Char
  | .char c => [c]
  | .escaped role => l.of .escape ++ l.of role
  | .tag t => t.write l

/-- The text of pieces that follow each other. -/
def writeAll (pieces : List Piece) : List Char := pieces.flatMap (write l)

/-- Text in front of a tree, in one node with a text that stands first there. -/
def joinText (s : List Char) (tree : Tree) : Tree :=
  match s, tree with
  | [], tree => tree
  | s, .text content :: tree => .text (String.ofList (s ++ content.toList)) :: tree
  | s, tree => .text (String.ofList s) :: tree

/-- The tree that pieces stand for. -/
def assemble : List Piece → Tree
  | [] => []
  | .tag t :: pieces => .tag t.toTag :: assemble pieces
  | .char c :: pieces => joinText [c] (assemble pieces)
  | .escaped role :: pieces => joinText (l.of role) (assemble pieces)

/-- Goes on taking pieces from text after passing over `skip` characters, which belong to the
last literal. -/
def ofTextFrom : (skip : Nat) → List Char → List Piece
  | _, [] => []
  | skip + 1, _ :: s => ofTextFrom skip s
  | 0, c :: s =>
    match [Role.escape, .tagOpen, .tagClose].find? (l.starts · (c :: s)) with
    | some role => .escaped role :: ofTextFrom ((l.of role).length - 1) s
    | none => .char c :: ofTextFrom 0 s

/-- The pieces that stand for a text. Of several literals at one place the escape literal is
taken, else the opening one. -/
def ofText (s : List Char) : List Piece := ofTextFrom l 0 s

end Piece

/-- The pieces that stand for a node. -/
def Node.pieces : Node → List Piece
  | .text content => Piece.ofText l content.toList
  | .tag t => [.tag (.ofTag t)]

namespace Tree

/-- The pieces that stand for a tree. -/
def pieces (tree : Tree) : List Piece := tree.flatMap (Node.pieces l)

/-- A tree as a template. -/
def print (tree : Tree) : String := String.ofList (Piece.writeAll l (pieces l tree))

end Tree

end TagText
