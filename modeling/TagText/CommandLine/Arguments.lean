import TagText.Encoding

/-!
# The arguments of the command

`tokenise` has three commands, `render`, `check` and `parse`, each with a template. An option may
stand before or after the template, with its value as the next argument, after an equals sign,
or, for a short option, right behind it; short options may be joined. After `--` nothing is an
option. All but `--set` may be given once only; `--config` once before the command and once after,
where the latter counts. Before the command `--version` or `-V` asks for the version instead.
-/

namespace TagText

/-- What is to be done with a template. -/
inductive Command where
  | render
  | check
  | parse
  deriving DecidableEq

/-- An option. -/
inductive Switch where
  | file
  | values
  | set
  | encoding
  | config
  deriving DecidableEq

namespace Switch

/-- The long name of an option. -/
def long : Switch → String
  | .file => "file"
  | .values => "values"
  | .set => "set"
  | .encoding => "encoding"
  | .config => "config"

/-- The letter of an option, if it has one. -/
def short? : Switch → Option Char
  | .file => some 'f'
  | .values => none
  | .set => some 's'
  | .encoding => some 'e'
  | .config => some 'c'

/-- Whether an option has a value. -/
def hasValue : Switch → Bool
  | .file => false
  | _ => true

end Switch

namespace Command

/-- The name of a command. -/
def name : Command → String
  | .render => "render"
  | .check => "check"
  | .parse => "parse"

/-- The command of a name. -/
def ofName? (name : String) : Option Command :=
  [Command.render, .check, .parse].find? (·.name == name)

/-- The options of a command. -/
def switches : Command → List Switch
  | .render => [.file, .values, .set, .encoding, .config]
  | .check => [.file, .values, .set, .config]
  | .parse => [.file, .config]

end Command

/-- What the arguments of a command say. -/
structure Options where
  template : Option String
  file : Bool
  values : Option String
  /-- The values set, the last first. -/
  sets : List String
  encoding : Option Encoding
  config : Option String

namespace Options

/-- Nothing said. -/
def none : Options := ⟨.none, false, .none, [], .none, .none⟩

/-- Puts a value where none may be yet. -/
def once {α : Type} (old : Option α) (new : α) : Option (Option α) :=
  match old with
  | .none => some (some new)
  | some _ => .none

/-- The options with one more. -/
def add (o : Options) (switch : Switch) (value : String) : Option Options :=
  match switch with
  | .file => if o.file then .none else some { o with file := true }
  | .values => (once o.values value).map fun values => { o with values }
  | .set => some { o with sets := value :: o.sets }
  | .encoding =>
    (Encoding.ofName? value).bind fun e =>
      (once o.encoding e).map fun encoding => { o with encoding }
  | .config => (once o.config value).map fun config => { o with config }

/-- The options with the template, of which there is one only. -/
def addTemplate (o : Options) (template : String) : Option Options :=
  (once o.template template).map fun template => { o with template }

end Options

/-- An option, its value if it stands in the same argument, and the letters joined to it. -/
structure Joined where
  switch : Switch
  value : Option String

namespace Arguments

/-- What an argument looks like. -/
inductive Shape where
  /-- `--`, after which nothing is an option. -/
  | endOfOptions
  /-- A long option with the value after an equals sign. -/
  | long (name : String) (value : Option String)
  /-- Letters of short options. -/
  | letters (s : List Char)
  | plain

/-- The shape of an argument. A lone hyphen is none of an option. -/
def shape (arg : String) : Shape :=
  match arg.toList with
  | ['-', '-'] => .endOfOptions
  | '-' :: '-' :: s =>
    match s.dropWhile (· != '=') with
    | [] => .long (String.ofList s) none
    | _ :: value => .long (String.ofList (s.takeWhile (· != '='))) (some (String.ofList value))
  | '-' :: c :: s => .letters (c :: s)
  | _ => .plain

/-- Whether an argument may be the value of an option that stands before it. -/
def isPlain (arg : String) : Bool :=
  match shape arg with
  | .plain => true
  | _ => false

/-- Takes the options of joined letters, and gives back the one at the end that still needs a
value. A value may follow its letter, with an equals sign between them or not. -/
def takeLetters (allowed : List Switch) (o : Options) :
    List Char → Option (Options × Option Switch)
  | [] => some (o, none)
  | c :: s =>
    match allowed.find? (·.short? == some c) with
    | none => none
    | some switch =>
      if switch.hasValue then
        match s with
        | [] => some (o, some switch)
        | '=' :: value => (o.add switch (String.ofList value)).map (·, none)
        | value => (o.add switch (String.ofList value)).map (·, none)
      else (o.add switch "").bind fun o => takeLetters allowed o s

/-- Takes an argument that is an option, and gives back the option if it still needs a value. -/
def takeOption (allowed : List Switch) (o : Options) :
    Shape → Option (Options × Option Switch)
  | .long name value =>
    match allowed.find? (·.long == name) with
    | none => none
    | some switch =>
      match switch.hasValue, value with
      | true, none => some (o, some switch)
      | true, some value => (o.add switch value).map (·, none)
      | false, none => (o.add switch "").map (·, none)
      | false, some _ => none
  | .letters s => takeLetters allowed o s
  | .endOfOptions | .plain => none

/-- The arguments after a command. -/
def takeAll (allowed : List Switch) (o : Options) : List String → Option Options
  | [] => some o
  | arg :: args =>
    match shape arg with
    | .plain => (o.addTemplate arg).bind fun o => takeAll allowed o args
    | .endOfOptions => args.foldlM Options.addTemplate o
    | option =>
      match takeOption allowed o option with
      | none => none
      | some (o, none) => takeAll allowed o args
      | some (o, some switch) =>
        match args with
        | [] => none
        | value :: args =>
          if isPlain value then (o.add switch value).bind fun o => takeAll allowed o args
          else none

/-- The arguments up to the command, which is given back with those after it. -/
def takeCommand (o : Options) : List String → Option (Options × Command × List String)
  | [] => none
  | arg :: args =>
    match shape arg with
    | .plain => (Command.ofName? arg).map fun command => (o, command, args)
    | option =>
      match takeOption [.config] o option with
      | none => none
      | some (o, none) => takeCommand o args
      | some (o, some switch) =>
        match args with
        | [] => none
        | value :: args =>
          if isPlain value then (o.add switch value).bind fun o => takeCommand o args else none

/-- Whether the arguments up to the command ask for the version. Nothing after that is looked at. -/
def asksVersion (o : Options) : List String → Bool
  | [] => false
  | arg :: args =>
    match shape arg with
    | .plain => false
    | .long "version" none => true
    | .letters ('V' :: _) => true
    | option =>
      match takeOption [.config] o option with
      | none => false
      | some (o, none) => asksVersion o args
      | some (o, some switch) =>
        match args with
        | [] => false
        | value :: args =>
          if isPlain value then
            match o.add switch value with
            | none => false
            | some o => asksVersion o args
          else false

end Arguments

/-- What is to be run. -/
structure Invocation where
  command : Command
  template : String
  /-- Whether the template is the path of a file. -/
  file : Bool
  values : Option String
  sets : List String
  encoding : Option Encoding
  config : Option String

/-- What the arguments say, if they follow the rules. -/
def Invocation.ofArguments? (args : List String) : Option Invocation := do
  let (before, command, args) ← Arguments.takeCommand .none args
  let o ← Arguments.takeAll command.switches .none args
  let template ← o.template
  some {
    command, template
    file := o.file
    values := o.values
    sets := o.sets.reverse
    encoding := o.encoding
    config := o.config.or before.config }

end TagText
