import TagText.CommandLine.Arguments
import TagText.Config.Readers
import TagText.Json.Pretty
import TagText.Json.Reader

/-!
# Running the command

What a run of `tokenise` writes, and the code that it ends with, as a function of its arguments,
of the files that it reads, and of what reads patterns and documents. Values come from a file that
holds a JSON map and from assignments `key=value` on top of it; the value is read as JSON if it can
be, and is else a string.
-/

namespace TagText

/-- The text of the file at a path, or why it cannot be read. -/
abbrev Files := String → Except String String

/-- Why a run fails. -/
inductive CommandError where
  | config (e : ConfigError)
  | badPattern
  | templateFile (path reason : String)
  | valuesFile (path reason : String)
  | valuesText
  | valuesType (typeName : String)
  | assignment (text : String)
  | build (e : BuildError)

/-- The error in words. -/
def CommandError.message : CommandError → String
  | .config e => e.message
  | .badPattern => "Invalid whitespace pattern"
  | .templateFile path reason => "cannot read template '" ++ path ++ "': " ++ reason
  | .valuesFile path reason => "cannot read values '" ++ path ++ "': " ++ reason
  | .valuesText => "values file is not JSON text"
  | .valuesType typeName => "values file must hold a JSON object, found " ++ typeName
  | .assignment text => "expected key=value, found '" ++ text ++ "'"
  | .build e => e.message

/-- What a run writes and ends with. -/
structure Outcome where
  exit : Nat
  stdout : String
  stderr : String
  deriving DecidableEq

namespace Invocation

/-- The paths at which a document of settings is looked for. -/
def configPaths (path : String) : List String := [path, path ++ ".toml"]

/-- The layers over the built-in settings: the document of the option, if there is one. -/
def layers (files : Files) (i : Invocation) : List Layer :=
  match i.config with
  | none => []
  | some path => [.document true ((configPaths path).findSome? fun path => (files path).toOption)]

/-- The configuration of the layers. -/
def readConfig (readers : Readers) (files : Files) (i : Invocation) :
    Except CommandError Configuration :=
  (Configuration.load readers.document? (i.layers files)).mapError .config

/-- The builder of a configuration. -/
def builderOf (readers : Readers) (c : Configuration) : Except CommandError Builder :=
  match c.builder? readers.pattern? with
  | some b => .ok b
  | none => .error .badPattern

/-- The text of the template. -/
def readTemplate (files : Files) (i : Invocation) : Except CommandError String :=
  if i.file then (files i.template).mapError (.templateFile i.template) else .ok i.template

/-- The key and the value of an assignment, parted at the first equals sign. -/
def assignment? (text : String) : Option (String × String) :=
  let s := text.toList
  match s.dropWhile (· != '=') with
  | [] => none
  | _ :: value => some (String.ofList (s.takeWhile (· != '=')), String.ofList value)

/-- The value of an assignment. -/
def assignedValue (text : String) : Value := (Value.ofJson? text).getD (.string text)

/-- The values with those of the assignments put over them, one after the other. -/
def assignAll (values : Entries) : List String → Except CommandError Entries
  | [] => .ok values
  | text :: rest =>
    match assignment? text with
    | none => .error (.assignment text)
    | some (key, value) => assignAll (Named.put values key (assignedValue value)) rest

/-- The values of the file at a path. -/
def readValuesFile (files : Files) (path : String) : Except CommandError Entries :=
  match files path with
  | .error reason => .error (.valuesFile path reason)
  | .ok text =>
    match Value.ofJson? text with
    | none => .error .valuesText
    | some (.map entries) => .ok (Named.ofList entries)
    | some v => .error (.valuesType v.typeName)

/-- All values of the run. -/
def readValues (files : Files) (i : Invocation) : Except CommandError Entries := do
  let values ←
    match i.values with
    | none => .ok []
    | some path => readValuesFile files path
  assignAll values i.sets

/-- What the command `render` writes. -/
def render (readers : Readers) (files : Files) (i : Invocation) : Except CommandError String := do
  let config ← i.readConfig readers files
  let builder ← builderOf readers config
  let template ← i.readTemplate files
  let values ← i.readValues files
  (builder.buildEncoded .none template values (i.encoding.getD config.encoding)).mapError .build

/-- What the command `check` finds out: whether every tag of the template leads to a value. -/
def check (readers : Readers) (files : Files) (i : Invocation) : Except CommandError Bool := do
  let config ← i.readConfig readers files
  let builder ← builderOf readers config
  let template ← i.readTemplate files
  let values ← i.readValues files
  (builder.canBuild .none template values).mapError .build

/-- The tree that the command `parse` writes. -/
def parse (readers : Readers) (files : Files) (i : Invocation) : Except CommandError Tree := do
  let config ← i.readConfig readers files
  let builder ← builderOf readers config
  let template ← i.readTemplate files
  (builder.parser.parse template).mapError fun e => .build (.parse e)

/-- Output on a line of its own, and the code to end with. -/
def said (exit : Nat) (line : String) : Outcome := ⟨exit, line ++ "\n", ""⟩

/-- What becomes of a run. -/
def run (readers : Readers) (files : Files) (i : Invocation) : Outcome :=
  let outcome : Except CommandError Outcome :=
    match i.command with
    | .render => (i.render readers files).map (said 0)
    | .check =>
      (i.check readers files).map fun found => if found then said 0 "ok" else said 1 "missing values"
    | .parse => (i.parse readers files).map fun tree => said 0 (Tree.json tree)
  match outcome with
  | .ok outcome => outcome
  | .error e => ⟨1, "", "Error: " ++ e.message ++ "\n"⟩

/-- The paths of all files that a run may read. -/
def paths (i : Invocation) : List String :=
  (i.config.map configPaths).getD [] ++ (if i.file then [i.template] else []) ++ i.values.toList

end Invocation

namespace CommandLine

/-- What is written when the arguments do not follow the rules. -/
def usage : String :=
  "Usage: tokenise [--config <file>] render <template> [--file] [--values <file>]" ++
  " [--set <key=value>]... [--encoding <name>]\n" ++
  "       tokenise [--config <file>] check <template> [--file] [--values <file>]" ++
  " [--set <key=value>]...\n" ++
  "       tokenise [--config <file>] parse <template> [--file]\n"

/-- The name and the version of the command. -/
def version : String := "tokenise 0.1.0\n"

/-- What becomes of a run with these arguments. -/
def run (readers : Readers) (files : Files) (args : List String) : Outcome :=
  if Arguments.asksVersion .none args then ⟨0, version, ""⟩
  else
    match Invocation.ofArguments? args with
    | some i => i.run readers files
    | none => ⟨2, "", usage⟩

end CommandLine

end TagText
