import TagText.Formatter
import TagText.Modifiers
import TagText.Store
import TagText.Template.Node

/-!
# Rendering

A tree is rendered node by node. Text goes into the output as it stands. For a tag its path is
looked up in the store, its modifiers change the value, the formatter makes a text of it, and the
processor of the call, if there is one, gets that text last. The first failure ends it all.
-/

namespace TagText

/-- Why a tree could not be rendered. -/
inductive RenderError where
  | value (e : ValueError)
  | modifier (e : ModifierError)
  | format (e : FormatError)
  deriving DecidableEq

/-- The error in words. -/
def RenderError.message : RenderError → String
  | .value e => e.message
  | .modifier e => e.message
  | .format e => e.message

/-- A last change of the texts that tags give, for one call. -/
abbrev Processor := String → String

/-- What renders trees. -/
structure Renderer where
  store : Store
  modifiers : Modifiers
  formatter : Formatter

namespace Renderer

/-- No values, no modifiers, and the simple formatter. -/
def empty : Renderer := ⟨∅, [], .simple⟩

/-- No values, the standard modifiers, and the simple formatter. -/
def standard : Renderer := { empty with modifiers := .standard }

instance : Inhabited Renderer := ⟨empty⟩

/-- The renderer with more values. -/
def addValues (r : Renderer) (values : Entries) : Renderer := { r with store := r.store.add values }

/-- The renderer with one more value. -/
def addValue (r : Renderer) (key : String) (v : Value) : Renderer := r.addValues [(key, v)]

/-- The renderer with one more modifier, over an earlier one of its name. -/
def addModifier (r : Renderer) (name : String) (m : Modifier) : Renderer :=
  { r with modifiers := Named.put r.modifiers name m }

/-- The renderer with more modifiers, one after the other. -/
def addModifiers (r : Renderer) (ms : List (String × Modifier)) : Renderer :=
  ms.foldl (fun r m => r.addModifier m.1 m.2) r

/-- The renderer with another formatter. -/
def setFormatter (r : Renderer) (formatter : Formatter) : Renderer := { r with formatter }

/-- The renderer with another store in place of its own. -/
def setStore (r : Renderer) (store : Store) : Renderer := { r with store }

variable (objects : Objects)

/-- The text that a tag gives with the values of `store`. -/
def renderTag (r : Renderer) (store : Store) (tag : Tag) : Except RenderError String :=
  match store.get objects tag.path with
  | .error e => .error (.value e)
  | .ok v =>
    match r.modifiers.apply v tag.modifiers with
    | .error e => .error (.modifier e)
    | .ok w =>
      match r.formatter w with
      | .error e => .error (.format e)
      | .ok text => .ok text

/-- What a node adds to the output. -/
def renderNode (r : Renderer) (store : Store) (processor : Option Processor) :
    Node → Except RenderError String
  | .text content => .ok content
  | .tag tag =>
    match r.renderTag objects store tag with
    | .error e => .error e
    | .ok text =>
      match processor with
      | none => .ok text
      | some process => .ok (process text)

/-- The output of the nodes after what was put out already. -/
def renderOnto (r : Renderer) (store : Store) (processor : Option Processor) (output : String) :
    Tree → Except RenderError String
  | [] => .ok output
  | node :: nodes =>
    match r.renderNode objects store processor node with
    | .error e => .error e
    | .ok text => renderOnto r store processor (output ++ text) nodes

/-- The text of a tree. The values `extra` stand over those of the store in this call. -/
def render (r : Renderer) (tree : Tree) (extra : Entries) (processor : Option Processor) :
    Except RenderError String :=
  let store := if extra.isEmpty then r.store else r.store.add extra
  r.renderOnto objects store processor "" tree

/-- A renderer as shown to a developer, without its formatter. -/
def inspect (r : Renderer) : String :=
  "Renderer \x7b value_bag: " ++ r.store.inspect ++ ", modifiers: " ++ r.modifiers.inspect ++
    ", .. \x7d"

end Renderer

end TagText
