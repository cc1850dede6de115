import Bindery.Target

/-!
# The command line

Two commands are understood: one generates targets, one checks a description. Options have a long
and perhaps a short name, and each may be given once. The value of an option stands in the same
argument or in the next one; a next argument that looks like an option is none.
-/
namespace Bindery.Command

/-- What one can ask for help about: the program or one of its commands. -/
inductive Topic where
  | program | generate | check | help
  deriving DecidableEq, Repr

/-- Why no command is run. -/
inductive Stop where
  | usage
  | help (topic : Topic)
  deriving DecidableEq, Repr

structure Flag where
  long : String
  short : Option Char := none
  accepts : String → Bool := fun _ => true

structure Generate where
  api : String
  layout : Option String := none
  modulePath : Option String := none
  targets : List Target := Target.all
  out : Option String := none
  deriving DecidableEq, Repr

inductive Request where
  | generate (options : Generate)
  | check (api : String)
  deriving DecidableEq, Repr

def isPathValue (value : String) : Bool := value != ""

/-- The targets with a given name. -/
def targetsOf? (name : String) : Option (List Target) :=
  if name = "all" then some Target.all
  else (Target.all.find? (·.name == name)).map ([·])

def Topic.flags : Topic → List Flag
  | generate => [
      { long := "api", accepts := isPathValue },
      { long := "config", short := some 'c', accepts := isPathValue },
      { long := "module", short := some 'm' },
      { long := "target", short := some 't', accepts := fun v => (targetsOf? v).isSome },
      { long := "out", short := some 'o', accepts := isPathValue }]
  | check => [{ long := "api", accepts := isPathValue }]
  | program | help => []

/-- Whether an argument can be the value of the option before it. -/
def isValue (argument : String) : Bool :=
  argument == "-" || !argument.startsWith "-"

/-- The options given so far, with one more. -/
def addOption (given : List (String × String)) (flag : Flag) (value : String) :
    Except Stop (List (String × String)) :=
  if (given.lookup flag.long).isSome || !flag.accepts value then .error .usage
  else .ok ((flag.long, value) :: given)

/-- An argument taken apart: the option that it names, and the value in it, if any. -/
def splitOption (command : Topic) (argument : String) : Except Stop (Flag × Option String) :=
  match argument.toList with
  | '-' :: '-' :: body =>
    let name := String.ofList (body.takeWhile (· != '='))
    match command.flags.find? (·.long == name), body.dropWhile (· != '=') with
    | some flag, [] => .ok (flag, none)
    | some flag, _ :: value => .ok (flag, some (String.ofList value))
    | none, rest => .error (if name == "help" && rest.isEmpty then .help command else .usage)
  | '-' :: letter :: body =>
    match command.flags.find? (·.short == some letter), body with
    | some flag, [] => .ok (flag, none)
    | some flag, '=' :: value => .ok (flag, some (String.ofList value))
    | some flag, value => .ok (flag, some (String.ofList value))
    | none, _ => .error (if letter == 'h' then .help command else .usage)
  | _ => .error .usage

/-- The options in a list of arguments. Two dashes end the options, and nothing may follow. -/
def readOptions (command : Topic) (given : List (String × String)) :
    List String → Except Stop (List (String × String))
  | [] => .ok given
  | argument :: rest =>
    if argument = "--" then if rest.isEmpty then .ok given else .error .usage
    else
      match splitOption command argument, rest with
      | .error stop, _ => .error stop
      | .ok (flag, some value), rest => do
        readOptions command (← addOption given flag value) rest
      | .ok (flag, none), value :: rest =>
        if isValue value then do readOptions command (← addOption given flag value) rest
        else .error .usage
      | .ok (_, none), [] => .error .usage

def required (given : List (String × String)) (long : String) : Except Stop String :=
  match given.lookup long with
  | some value => .ok value
  | none => .error .usage

/-- What arguments ask for. -/
def parse : List String → Except Stop Request
  | "generate" :: rest => do
    let given ← readOptions .generate [] rest
    return .generate {
      api := ← required given "api"
      layout := given.lookup "config"
      modulePath := given.lookup "module"
      targets := ((given.lookup "target").bind targetsOf?).getD Target.all
      out := given.lookup "out" }
  | "check" :: rest => do
    let given ← readOptions .check [] rest
    return .check (← required given "api")
  | ["help"] | "-h" :: _ | "--help" :: _ => .error (.help .program)
  | ["help", "generate"] => .error (.help .generate)
  | ["help", "check"] => .error (.help .check)
  | ["help", "help"] => .error (.help .help)
  | _ => .error .usage

def help : Topic → String
  | .program => Text.lines [
      "Generate foreign-function bridges from an API description", "",
      "Usage: portal <COMMAND>", "",
      "Commands:",
      "  generate  Generate bridge code",
      "  check     Load and validate an API description",
      "  help      Print this message or the help of the given subcommand(s)", "",
      "Options:",
      "  -h, --help  Print help"]
  | .generate => Text.lines [
      "Generate bridge code", "",
      "Usage: portal generate [OPTIONS] --api <API>", "",
      "Options:",
      "      --api <API>        API description (JSON)",
      "  -c, --config <CONFIG>  Target configuration (TOML)",
      "  -m, --module <MODULE>  Go module path, overrides the config",
      "  -t, --target <TARGET>  Target to generate [default: all] "
        ++ "[possible values: cgo, go-api, go-stubs, c-header, all]",
      "  -o, --out <OUT>        Output directory (prints to stdout when absent)",
      "  -h, --help             Print help"]
  | .check => Text.lines [
      "Load and validate an API description", "",
      "Usage: portal check --api <API>", "",
      "Options:",
      "      --api <API>  API description (JSON)",
      "  -h, --help       Print help"]
  | .help => Text.lines [
      "Print this message or the help of the given subcommand(s)", "",
      "Usage: portal help [COMMAND]...", "",
      "Arguments:",
      "  [COMMAND]...  Print help for the subcommand(s)"]

end Bindery.Command
