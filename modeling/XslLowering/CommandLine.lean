import XslLowering.Transpiler.Builder

/-!
# The command line

`Request.ofArguments` reads the arguments of the command from left to right, and `Request.run` does
what they ask for on a set of files.
-/

namespace XslLowering.CommandLine

/-- What a run is asked to do. -/
structure Options where
  input : Option String
  output : Option String
  settings : Option String
  allowEntities : Bool
deriving DecidableEq

/-- What the arguments of a command ask for. -/
inductive Request where
  | version
  | help
  /-- The arguments make no sense. -/
  | misuse
  | transpile (input : String) (options : Options)
deriving DecidableEq

/-- An option that takes a value. -/
inductive ValueOption where
  | output | settings
deriving DecidableEq

/-- Gives an option its value, which must not be empty. An option is given at most once. -/
def Options.set (o : Options) (option : ValueOption) (value : String) : Option Options :=
  if value.isEmpty then none
  else
    match option with
    | .output => if o.output.isSome then none else some { o with output := some value }
    | .settings => if o.settings.isSome then none else some { o with settings := some value }

/-- Takes the input, which is given at most once. -/
def Options.setInput (o : Options) (value : String) : Option Options :=
  if value.isEmpty || o.input.isSome then none else some { o with input := some value }

/-- What a single argument is. -/
inductive Argument where
  | escape
  | value (text : String)
  /-- An option with two hyphens, and what follows an equals sign. -/
  | long (name : String) (attached : Option String)
  /-- An option with one hyphen. -/
  | short (letter : Char) (rest : List Char)

def Argument.ofText (text : String) : Argument :=
  match text.toList with
  | ['-', '-'] => .escape
  | '-' :: '-' :: name =>
    match Text.cutAt '=' (String.ofList name) with
    | some (name, attached) => .long name (some attached)
    | none => .long (String.ofList name) none
  | '-' :: letter :: rest => .short letter rest
  | _ => .value text

/-- The end of the reading: there has to be an input. -/
def Options.finish (o : Options) : Request :=
  match o.input with
  | some input => .transpile input o
  | none => .misuse

/-- Reads arguments that follow the end of options. -/
def readValues (o : Options) : List String → Request
  | [] => o.finish
  | value :: rest =>
    match o.setInput value with
    | some o => readValues o rest
    | none => .misuse

/-- Reads arguments; `pending` is an option that waits for its value. -/
def readArguments (o : Options) (pending : Option ValueOption) : List String → Request
  | [] => if pending.isSome then .misuse else o.finish
  | text :: rest =>
    match pending, Argument.ofText text with
    | some option, .value value =>
      match o.set option value with
      | some o => readArguments o none rest
      | none => .misuse
    | some _, _ => .misuse
    | none, .value value =>
      match o.setInput value with
      | some o => readArguments o none rest
      | none => .misuse
    | none, .escape => readValues o rest
    | none, .long name attached =>
      let option? : Option ValueOption :=
        if name == "output" then some .output
        else if name == "config" then some .settings
        else none
      match option?, attached with
      | some option, some value =>
        match o.set option value with
        | some o => readArguments o none rest
        | none => .misuse
      | some option, none => readArguments o (some option) rest
      | none, some _ => .misuse
      | none, none =>
        if name == "version" then .version
        else if name == "help" then .help
        else if name == "allow-entities" && !o.allowEntities then
          readArguments { o with allowEntities := true } none rest
        else .misuse
    | none, .short letter attached =>
      if letter == 'V' then .version
      else if letter == 'h' then .help
      else if letter == 'o' then
        match attached with
        | [] => readArguments o (some .output) rest
        | _ =>
          let value := match attached with
            | '=' :: value => value
            | _ => attached
          match o.set .output (String.ofList value) with
          | some o => readArguments o none rest
          | none => .misuse
      else .misuse

def Request.ofArguments (args : List String) : Request :=
  readArguments ⟨none, none, none, false⟩ none args

/-- What a run leaves behind. -/
structure Outcome where
  exitCode : Nat
  /-- What is written to standard output. -/
  output : String
  /-- What is written to standard error. -/
  complaint : String
  files : Files

def versionText : String := "downlevel 0.1.0\n"

def usageText : String := "Usage: downlevel [OPTIONS] <INPUT>\n"

def helpText : String := "Rewrites an XSLT 2.0-style stylesheet for a 1.0 processor

" ++ usageText ++ "
Arguments:
  <INPUT>  Stylesheet to transpile

Options:
  -o, --output <OUTPUT>  Write the result here instead of standard output
      --config <CONFIG>  JSON configuration file
      --allow-entities   Accept documents whose doctype declares entities
  -h, --help             Print help
  -V, --version          Print version
"

/-- The settings for a run. -/
def Options.settingsFor (o : Options) (files : Files) : Except Transpiler.Error Settings := do
  let settings ← match o.settings with
    | some path => Transpiler.settingsOfFile files path
    | none => .ok .standard
  return if o.allowEntities then { settings with disableEntities := false } else settings

/-- The lowered stylesheet. -/
def Options.lower (o : Options) (input : String) (files : Files) :
    Attempt Transpiler.Error String := do
  let settings ← Attempt.ofExcept (o.settingsFor files)
  let transpiler ← { Transpiler.Builder.standard with settings }.build
  ((transpiler.transpileFile files input).run ((), .empty)).2

/-- The exit code after an error; a run that is broken off has one of its own. -/
def exitCodeOf : Transpiler.Error → Nat
  | .document .splitCharacter => 101
  | _ => 1

/-- The end of a run that failed. -/
def Outcome.failed (error : Transpiler.Error) (files : Files) : Outcome :=
  ⟨exitCodeOf error, "", "Error: " ++ error.message ++ "\n", files⟩

/-- Does what is asked for. -/
def Request.run (r : Request) (files : Files) : Outcome :=
  match r with
  | .version => ⟨0, versionText, "", files⟩
  | .help => ⟨0, helpText, "", files⟩
  | .misuse => ⟨2, "", usageText, files⟩
  | .transpile input options =>
    match (options.lower input files).result with
    | .error e => .failed e files
    | .ok text =>
      match options.output with
      | none => ⟨0, text ++ "\n", "", files⟩
      | some path =>
        match files.write path text.toUTF8 with
        | .ok files => ⟨0, "", "", files⟩
        | .error fault => .failed (.file fault) files

/-- The file that a run writes. -/
def Request.output? : Request → Option String
  | .transpile _ options => options.output
  | _ => none

/-- All files that a run reads or writes. -/
def Request.paths : Request → List String
  | .transpile input options => input :: options.settings.toList ++ options.output.toList
  | _ => []

end XslLowering.CommandLine
