import TagText.Builder
import TagText.Config.Setting

/-!
# The configuration

What the settings say in the end: the tokens and the pattern of blanks of the parser, the encoding
of inserted values, and whether the standard modifiers are there. A section may be a table with
its entries under their names, or an array of them in their order.
-/

namespace TagText

/-- Why there is no configuration. -/
inductive ConfigError where
  /-- A document is no TOML. -/
  | badDocument
  /-- A document that must be there is not. -/
  | missingDocument
  /-- The key of an override is no key. -/
  | badKey
  /-- A setting cannot be read as the text or truth value that it should be. -/
  | wrongType
  /-- No encoding has the name that is set. -/
  | unknownEncoding
  /-- A section is neither a table nor an array. -/
  | badSection
  /-- A section lacks an entry. -/
  | missingEntry
  deriving DecidableEq

/-- The error in words. -/
def ConfigError.message : ConfigError → String
  | .badDocument => "configuration file is not a TOML document"
  | .missingDocument => "configuration file not found"
  | .badKey => "invalid configuration key"
  | .wrongType => "configuration value of the wrong type"
  | .unknownEncoding => "unknown encoding in configuration"
  | .badSection => "configuration section is not a table"
  | .missingEntry => "configuration entry missing"

/-- The settings that a program goes by. -/
structure Configuration where
  tokens : Tokens
  blankPattern : String
  encoding : Encoding
  standardModifiers : Bool

namespace Configuration

/-- The parser of a configuration, if its pattern of blanks is one. -/
def parser? (compile : PatternCompiler) (c : Configuration) : Option Parser :=
  Parser.setBlanks? compile ⟨c.tokens, .blanks⟩ c.blankPattern

/-- The renderer of a configuration, without values. -/
def renderer (c : Configuration) : Renderer :=
  if c.standardModifiers then .standard else .empty

/-- The builder of a configuration, if its pattern of blanks is one. -/
def builder? (compile : PatternCompiler) (c : Configuration) : Option Builder :=
  (c.parser? compile).map fun parser => ⟨parser, c.renderer⟩

end Configuration

namespace Setting

/-- The setting as a text. -/
def readText (s : Setting) : Except ConfigError String :=
  match s.text? with
  | some text => .ok text
  | none => .error .wrongType

/-- The setting as a truth value. -/
def readTruth (s : Setting) : Except ConfigError Bool :=
  match s.truth? with
  | some b => .ok b
  | none => .error .wrongType

/-- The encoding of a name in any letter case. -/
def encodingNamed (name : String) : Except ConfigError Encoding :=
  match Encoding.all.find? fun e => foldName e.name == foldName name with
  | some e => .ok e
  | none => .error .unknownEncoding

/-- The setting as an encoding: its name, or a table with the name as the only key. -/
def readEncoding : Setting → Except ConfigError Encoding
  | .string name => encodingNamed name
  | .table [(name, _)] => encodingNamed name
  | _ => .error .unknownEncoding

/-- The entries of a section under these names, or in their order if the section is an array. -/
def parts (names : List String) : Setting → Except ConfigError (List (Option Setting))
  | .table entries => .ok (names.map (Named.get? entries))
  | .array items => .ok ((List.range names.length).map (items[·]?))
  | _ => .error .badSection

/-- What is there, read. -/
def readPart {α : Type} (read : Setting → Except ConfigError α) :
    Option Setting → Except ConfigError (Option α)
  | none => .ok none
  | some s => (read s).map some

/-- The section of the tokens. An entry of the wrong type is told before one that is missing. -/
def readTokens (s : Setting) : Except ConfigError Tokens := do
  let parts ← s.parts ["escape", "tag_open", "tag_close", "tag_modifier", "tag_path_separator"]
  match ← parts.mapM (readPart readText) with
  | [some escape, some tagOpen, some tagClose, some tagModifier, some tagPathSeparator] =>
    .ok ⟨escape, tagOpen, tagClose, tagModifier, tagPathSeparator⟩
  | _ => .error .missingEntry

/-- The section of the parser. -/
def readParser (s : Setting) : Except ConfigError String := do
  match ← (← s.parts ["whitespace_pattern"]).mapM (readPart readText) with
  | [some pattern] => .ok pattern
  | _ => .error .missingEntry

/-- The section of the renderer. -/
def readRender (s : Setting) : Except ConfigError (Encoding × Bool) := do
  match ← s.parts ["encoding", "standard_modifiers"] with
  | [encoding, standard] =>
    match ← readPart readEncoding encoding, ← readPart readTruth standard with
    | some encoding, some standard => .ok (encoding, standard)
    | _, _ => .error .missingEntry
  | _ => .error .missingEntry

/-- A section of the whole. -/
def section? (root : Setting) (name : String) : Except ConfigError Setting :=
  match Named.get? root.entries name with
  | some s => .ok s
  | none => .error .missingEntry

/-- The whole configuration. -/
def readConfiguration (root : Setting) : Except ConfigError Configuration := do
  let tokens ← readTokens (← root.section? "tokens")
  let blankPattern ← readParser (← root.section? "parser")
  let (encoding, standardModifiers) ← readRender (← root.section? "render")
  .ok { tokens, blankPattern, encoding, standardModifiers }

end Setting

end TagText
