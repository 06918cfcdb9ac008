import TagText.Config.Configuration
import TagText.Config.Key

/-!
# Layers of a configuration

The built-in settings lie at the bottom. Documents are merged over them in the order in which they
are layered, name by name, so that a document needs to say only what it changes. Overrides lie on
top of all documents, wherever among the layers they were given, a later one over an earlier.

How the text of a document comes to be a table is not said here: `load` takes any reader of
documents.

Mirroring notes:
- `with_file`, `with_optional_file` and `set_override` each add a `Layer`, and `build` is `load`. A
  file that cannot be read and one that is not there are the same, a document of which there is no
  text.
- A bad key of an override is told when the override is added, so before all else here.
- Putting settings together is the work of a library: a name at the root of a document is read as a
  key (`mergeDocument`), and setting below a value that is no table replaces it (`Setting.putAt`).
  Letter cases do not count in names, which settings keep in small letters (`Setting.put`).
- The built-in document is given as the settings that it holds.
-/

namespace TagText

/-- What is layered over the built-in settings. A document is given by its text, or by none if it
is not there. -/
inductive Layer where
  | document (required : Bool) (text : Option String)
  | override (key : String) (value : Setting)

/-- What reads the text of a document into its root table, or refuses it. -/
abbrev DocumentReader := String → Option (Named Setting)

namespace Configuration

/-- The built-in settings: tags such as `{user.name|upper}`, blanks of all kinds, values as they
are, and the standard modifiers. -/
def builtIn : Setting := .table [
  ("tokens", .table [
    ("escape", .string Tokens.default.escape),
    ("tag_open", .string Tokens.default.tagOpen),
    ("tag_close", .string Tokens.default.tagClose),
    ("tag_modifier", .string Tokens.default.tagModifier),
    ("tag_path_separator", .string Tokens.default.tagPathSeparator)]),
  ("parser", .table [("whitespace_pattern", .string "\\s+")]),
  ("render", .table [
    ("encoding", .string Encoding.plain.name),
    ("standard_modifiers", .bool true)])]

/-- The overrides among the layers, with their keys read. -/
def overrides : List Layer → Except ConfigError (List (List KeyStep × Setting))
  | [] => .ok []
  | .document _ _ :: layers => overrides layers
  | .override key value :: layers =>
    match Key.ofString? key with
    | none => .error .badKey
    | some steps => (overrides layers).map ((steps, value) :: ·)

/-- The settings with a document merged over them. Where a name at the root can be read as a key,
it is one. -/
def mergeDocument (root : Setting) (entries : Named Setting) : Setting :=
  entries.foldl (fun root entry =>
    match Key.ofString? entry.1 with
    | some steps => root.putAt entry.2 steps
    | none => root.put entry.1 entry.2) root

/-- The settings with the documents among the layers merged over them. -/
def mergeDocuments (read : DocumentReader) (root : Setting) :
    List Layer → Except ConfigError Setting
  | [] => .ok root
  | .override _ _ :: layers => mergeDocuments read root layers
  | .document required none :: layers =>
    if required then .error .missingDocument else mergeDocuments read root layers
  | .document _ (some text) :: layers =>
    match read text with
    | none => .error .badDocument
    | some entries => mergeDocuments read (mergeDocument root entries) layers

/-- The configuration of the layers. A bad key is told before anything else, and a document that
cannot be had before a setting that cannot be used. -/
def load (read : DocumentReader) (layers : List Layer) : Except ConfigError Configuration :=
  match overrides layers with
  | .error e => .error e
  | .ok last =>
    match mergeDocuments read builtIn layers with
    | .error e => .error e
    | .ok root => (last.foldl (fun root o => root.putAt o.2 o.1) root).readConfiguration

end Configuration

end TagText
