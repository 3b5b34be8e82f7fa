import Intake.Environment
import Intake.Text.Terminal

/-!
The command line: the arguments that the program takes, and what it says about them.

Arguments are read from left to right. The value of an option may be attached to it or come
next, and takes effect when the next option is reached, or the end; only then is an option
that came twice, or without its value, refused.
-/

namespace Intake

/-- What the command line asks for. -/
structure Arguments where
  /-- The path of the configuration document. -/
  config : String
  /-- Whether to check the configuration only. -/
  validate : Bool
deriving DecidableEq, Repr

/-- How the log shows arguments. -/
def Arguments.shown (a : Arguments) : String :=
  "Args \x7b config: " ++ Text.quoted a.config ++ ", validate: " ++ toString a.validate ++ " \x7d"

namespace CommandLine

/-- Why there is nothing to run. -/
inductive Stop where
  | unknownArgument
  /-- An option has no value. -/
  | missingValue
  /-- An option came twice. -/
  | repeated
  /-- An option has a value that takes none. -/
  | needlessValue
  /-- Help is asked for. -/
  | help
  /-- The version is asked for. -/
  | version
deriving DecidableEq, Repr

/-- Asking for help or the version is no fault. -/
def Stop.exitCode : Stop → Nat
  | help | version => 0
  | _ => 2

/-! ## Words -/

inductive Flag where
  | config
  | validate
  | help
  | version
deriving DecidableEq, Repr

def Flag.ofLong? : List Char → Option Flag
  | ['c', 'o', 'n', 'f', 'i', 'g'] => some config
  | ['v', 'a', 'l', 'i', 'd', 'a', 't', 'e'] => some validate
  | ['h', 'e', 'l', 'p'] => some help
  | ['v', 'e', 'r', 's', 'i', 'o', 'n'] => some version
  | _ => none

def Flag.ofShort? : Char → Option Flag
  | 'f' => some config
  | 'h' => some help
  | 'V' => some version
  | _ => none

/-- What an argument looks like. -/
inductive Word where
  /-- Two hyphens, behind which there are no options. -/
  | separator
  /-- An option by its long name, and the value attached to it. -/
  | long (name : List Char) (attached : Option String)
  /-- Options by their letters. -/
  | short (letters : List Char)
  /-- Anything else, a single hyphen included. -/
  | plain
deriving DecidableEq, Repr

/-- The value that is attached to a long name. -/
def attachedLong : List Char → Option String
  | '=' :: value => some (String.ofList value)
  | _ => none

def Word.ofArgument (argument : String) : Word :=
  match argument.toList with
  | ['-', '-'] => .separator
  | '-' :: '-' :: rest =>
    .long (rest.takeWhile (· != '=')) (attachedLong (rest.dropWhile (· != '=')))
  | '-' :: letter :: letters => .short (letter :: letters)
  | _ => .plain

/-! ## Reading -/

/-- What is known of the value of an option that was reached last. -/
inductive Pending where
  | nothing
  /-- The next argument is to be the value. -/
  | awaited
  | given (value : String)
deriving DecidableEq, Repr

/-- What was read so far. -/
structure Progress where
  config : Option String := none
  validate : Bool := false
  pending : Pending := .nothing
deriving DecidableEq, Repr

namespace Progress

/-- Takes the path of the document, which may come only once. -/
def setConfig (p : Progress) (value : String) : Except Stop Progress :=
  if p.config.isSome then .error .repeated else .ok { p with config := some value }

/-- Lets a pending value take effect. -/
def settle (p : Progress) : Except Stop Progress :=
  match p.pending with
  | .nothing => .ok p
  | .awaited => .error .missingValue
  | .given value => { p with pending := .nothing }.setConfig value

/-- Takes a flag on its own, after everything before it has taken effect. -/
def takeAlone (p : Progress) : Flag → Except Stop Progress
  | .config => .ok { p with pending := .awaited }
  | .validate => if p.validate then .error .repeated else .ok { p with validate := true }
  | .help => .error .help
  | .version => .error .version

/-- Takes an option with the value that is attached to it. -/
def takeOption (p : Progress) (flag : Flag) (attached : Option String) : Except Stop Progress :=
  match flag, attached with
  | .config, some value => p.settle >>= fun p => p.setConfig value
  | _, some _ => .error .needlessValue
  | flag, none => p.settle >>= fun p => p.takeAlone flag

/-- The value that is attached to a letter. -/
def attachedShort : List Char → Option String
  | [] => none
  | '=' :: value => some (String.ofList value)
  | value => some (String.ofList value)

/-- Takes options by their letters. -/
def takeLetters (p : Progress) : List Char → Except Stop Progress
  | [] => .ok p
  | letter :: letters =>
    match Flag.ofShort? letter with
    | none => .error .unknownArgument
    | some .config => p.takeOption .config (attachedShort letters)
    | some flag => p.takeOption flag none >>= fun p => p.takeLetters letters

/-- Takes an argument that is no separator. -/
def take (p : Progress) (argument : String) : Except Stop Progress :=
  match Word.ofArgument argument, p.pending with
  | .long name attached, _ =>
    match Flag.ofLong? name with
    | some flag => p.takeOption flag attached
    | none => .error .unknownArgument
  | .short letters, _ => p.takeLetters letters
  | _, .awaited => .ok { p with pending := .given argument }
  | _, _ => .error .unknownArgument

/-- Takes all arguments. Nothing may follow a separator. -/
def takeAll (p : Progress) : List String → Except Stop Progress
  | [] => p.settle
  | argument :: rest =>
    if Word.ofArgument argument = .separator then
      if rest = [] then p.settle else .error .unknownArgument
    else p.take argument >>= fun p => p.takeAll rest

end Progress

/-- The variable that names the document when no argument does. -/
def configVariable : String :=
  "INGESTCTL_CONFIG"

/-- The document that is read when nothing names one. -/
def defaultConfig : String :=
  "config.yaml"

/-- Reads the command line. -/
def read (arguments : List String) (env : Environment) : Except Stop Arguments :=
  (Progress.takeAll {} arguments).map fun p =>
    { config := p.config.getD ((env.get? configVariable).getD defaultConfig)
      validate := p.validate }

/-! ## Texts -/

def versionText : String :=
  "ingestctl 0.1.0\n"

/-- The column at which the help texts of the options start. -/
def helpColumn : Nat := 25

/-- A text whose further lines start at the column of the help texts. -/
def hanging (text : String) : String :=
  String.ofList (text.toList.flatMap fun c =>
    if c = '\n' then '\n' :: List.replicate helpColumn ' ' else [c])

/-- What the options are, where the variable that names the document is shown with its value.
Nothing in it commands the terminal. -/
def helpText (env : Environment) : String :=
  Text.shown <|
  "Bounded multipart upload ingestion: size-capped in-memory artifacts persisted with " ++
  "create-exclusive writes\n\n" ++
  Text.heading "Usage:" ++ " " ++ Text.bold "ingestctl" ++ " [OPTIONS]\n\n" ++
  Text.heading "Options:" ++ "\n" ++
  "  " ++ Text.bold "-f" ++ ", " ++ Text.bold "--config" ++ " <CONFIG>  " ++
  "Path to configuration file [env: " ++ configVariable ++ "=" ++
  hanging ((env.get? configVariable).getD "") ++ "] [default: " ++ defaultConfig ++ "]\n" ++
  "      " ++ Text.bold "--validate" ++ "         " ++
  "Validate configuration and exit without starting the server\n" ++
  "  " ++ Text.bold "-h" ++ ", " ++ Text.bold "--help" ++ "             Print help\n" ++
  "  " ++ Text.bold "-V" ++ ", " ++ Text.bold "--version" ++ "          Print version\n"

/-- What is told of arguments that are refused. -/
def Stop.message : Stop → String
  | unknownArgument => "error: unexpected argument found\n"
  | missingValue => "error: a value is required for '--config <CONFIG>' but none was supplied\n"
  | repeated => "error: an argument cannot be used multiple times\n"
  | needlessValue => "error: unexpected value found\n"
  | help | version => ""

end CommandLine

end Intake
