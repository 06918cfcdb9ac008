import TagText.Encoding
import TagText.Renderer
import TagText.Template.Parser

/-!
# Building texts from templates

A builder is a parser with a renderer. It can also tell, without rendering, whether every tag of a
template leads to a value.
-/

namespace TagText

/-- Why a text could not be built. -/
inductive BuildError where
  | parse (e : ParseError)
  | render (e : RenderError)
  | value (e : ValueError)
  deriving DecidableEq

/-- The error in words. -/
def BuildError.message : BuildError → String
  | .parse e => e.message
  | .render e => e.message
  | .value e => e.message

/-- What builds texts. -/
structure Builder where
  parser : Parser
  renderer : Renderer

namespace Builder

/-- Tags such as `{{ name }}`, no values, and no modifiers. -/
def default : Builder where
  parser := Parser.default.setTokens [(.tagOpen, "\x7b\x7b"), (.tagClose, "\x7d\x7d")]
  renderer := .empty

instance : Inhabited Builder := ⟨default⟩

variable (objects : Objects)

/-- The text of a template. -/
def build (b : Builder) (template : String) (extra : Entries) (processor : Option Processor) :
    Except BuildError String :=
  match b.parser.parse template with
  | .error e => .error (.parse e)
  | .ok tree =>
    match b.renderer.render objects tree extra processor with
    | .error e => .error (.render e)
    | .ok text => .ok text

/-- The text of a template with every value in an encoding. -/
def buildEncoded (b : Builder) (template : String) (extra : Entries) (encoding : Encoding) :
    Except BuildError String :=
  match encoding with
  | .plain => b.build objects template extra none
  | encoding => b.build objects template extra (some encoding.encode)

/-- The text of a template that is a URL. -/
def buildUrl (b : Builder) (template : String) (extra : Entries) (raw : Bool) :
    Except BuildError String :=
  b.buildEncoded objects template extra (if raw then .urlRaw else .url)

/-- The text of a template that is HTML. -/
def buildHtml (b : Builder) (template : String) (extra : Entries) : Except BuildError String :=
  b.buildEncoded objects template extra .html

/-- Whether every one of the tags leads to a value, asked in order up to the first that does not. -/
def allResolve (store : Store) : List Tag → Except ValueError Bool
  | [] => .ok true
  | tag :: tags =>
    match store.has objects tag.path with
    | .error e => .error e
    | .ok false => .ok false
    | .ok true => allResolve store tags

/-- Whether every tag of a template leads to a value. -/
def canBuild (b : Builder) (template : String) (extra : Entries) : Except BuildError Bool :=
  match b.parser.parse template with
  | .error e => .error (.parse e)
  | .ok tree =>
    match allResolve objects (b.renderer.store.add extra) (Tree.tags tree) with
    | .error e => .error (.value e)
    | .ok answer => .ok answer

end Builder

end TagText
