/-!
The arguments of the program. Options stand before the command, and what follows the command belongs to
it. An option takes its value from the same argument, as in -cFILE and --config=FILE, or from the next
one. Arguments are looked at from left to right, and the first that does not fit ends the program.
-/
namespace Switchboard.Cli

inductive Refusal
  | help (text : String)
  | version
  | misuse (reason : String)
deriving DecidableEq, Repr

inductive Command
  /-- Keep connections to every destination until interrupted. -/
  | run
  | genConfig (output : String)
  | validate (config : String)
  | status
  | invoke (target payload : String)
deriving DecidableEq, Repr

structure Arguments where
  config : Option String := none
  /-- Seconds between two reports, none when zero. -/
  statsInterval : Nat := 10
  logLevel : String := "info"
  command : Command := .run
deriving DecidableEq, Repr

inductive Meaning
  /-- It takes a value that passes the test. -/
  | value (fits : String → Bool)
  | help
  | version

structure Flag where
  short : Option Char
  long : String
  meaning : Meaning

structure Form where
  flags : List Flag
  words : Nat := 0
  commands : List String := []
  help : String

structure Found where
  values : List (String × String) := []
  words : List String := []
  /-- The option that the next argument is the value of. -/
  expecting : Option String := none
  /-- Everything from here on is a word. -/
  plain : Bool := false

def unexpected (arg : String) : Refusal := .misuse ("unexpected argument '" ++ arg ++ "' found")

def valueMissing (name : String) : Refusal :=
  .misuse ("a value is required for '--" ++ name ++ "' but none was supplied")

namespace Found

/-- Set an option, once. -/
def assign (form : Form) (name value : String) (f : Found) : Except Refusal Found :=
  if (f.values.lookup name).isSome then
    .error (.misuse ("the argument '--" ++ name ++ "' cannot be used multiple times"))
  else if form.flags.any fun flag => flag.long == name && match flag.meaning with
      | .value fits => !fits value
      | _ => false then
    .error (.misuse ("invalid value '" ++ value ++ "' for '--" ++ name ++ "'"))
  else .ok { f with values := f.values ++ [(name, value)], expecting := none }

def meet (form : Form) (flag : Flag) (value : Option String) (f : Found) : Except Refusal Found :=
  match flag.meaning, value with
  | .value _, some v => f.assign form flag.long v
  | .value _, none => .ok { f with expecting := some flag.long }
  | .help, none => .error (.help form.help)
  | .version, none => .error .version
  | _, some v => .error (.misuse ("unexpected value '" ++ v ++ "' for '--" ++ flag.long ++ "' found"))

def meetLong (form : Form) (chars : List Char) (f : Found) : Except Refusal Found :=
  let name := String.ofList (chars.takeWhile (· != '='))
  let value := match chars.dropWhile (· != '=') with
    | [] => none
    | _ :: v => some (String.ofList v)
  match form.flags.find? (·.long == name) with
  | some flag => f.meet form flag value
  | none => .error (unexpected ("--" ++ name))

/-- An argument with one dash, which is left off: flags, up to one that takes the rest as its value. -/
def meetShort (form : Form) (chars : List Char) (f : Found) : Except Refusal Found :=
  match chars with
  | [] => .ok f
  | c :: rest =>
    match form.flags.find? (·.short == some c), rest with
    | none, _ => .error (unexpected ("-" ++ String.ofList [c]))
    | some flag, [] => f.meet form flag none
    | some flag, rest =>
      match flag.meaning, rest with
      | .value _, '=' :: v => f.meet form flag (some (String.ofList v))
      | .value _, v => f.meet form flag (some (String.ofList v))
      | _, _ => f.meet form flag none

def word (form : Form) (arg : String) (f : Found) : Except Refusal Found :=
  if f.words.length < form.words then .ok { f with words := f.words ++ [arg] } else .error (unexpected arg)

/-- Whether an argument is a flag by its looks; a dash alone is a word. -/
def looksLikeFlag : List Char → Bool
  | '-' :: _ :: _ => true
  | _ => false

def next (form : Form) (arg : String) (f : Found) : Except Refusal Found :=
  match f.plain, f.expecting, arg.toList with
  | true, _, _ => f.word form arg
  | false, some name, chars =>
    if looksLikeFlag chars then .error (valueMissing name) else f.assign form name arg
  | false, none, ['-', '-'] => .ok { f with plain := true }
  | false, none, '-' :: '-' :: chars => f.meetLong form chars
  | false, none, '-' :: c :: chars => f.meetShort form (c :: chars)
  | false, none, _ => f.word form arg

/-- Look at the arguments up to the name of a command, which is given back with what follows it. -/
def scan (form : Form) : List String → Found → Except Refusal (Found × Option (String × List String))
  | [], f => match f.expecting with
    | some name => .error (valueMissing name)
    | none => .ok (f, none)
  | arg :: rest, f =>
    if !f.plain && f.expecting.isNone && form.commands.contains arg then .ok (f, some (arg, rest))
    else do scan form rest (← f.next form arg)

end Found

def name : String := "hdds-remote"

def version : String := "1.0.10"

/-! ### Forms -/

def lines (all : List String) : String := String.join (all.map (· ++ "\n"))

def isPath (value : String) : Bool := value != ""

/-- A count below `2^64`; a plus sign in front is allowed. -/
def count? (value : String) : Option Nat :=
  let digits := match value.toList with
    | '+' :: rest => rest
    | cs => cs
  if digits.isEmpty || !digits.all (·.isDigit) then none
  else
    let n := digits.foldl (fun n c => n * 10 + (c.toNat - '0'.toNat)) 0
    if n < 0x10000000000000000 then some n else none

def helpFlag : Flag := ⟨some 'h', "help", .help⟩

def genConfigForm : Form where
  flags := [⟨some 'o', "output", .value isPath⟩, helpFlag]
  help := lines [
    "Generate example configuration file",
    "",
    "Usage: hdds-remote gen-config [OPTIONS]",
    "",
    "Options:",
    "  -o, --output <OUTPUT>  Output file path [default: remote.toml]",
    "  -h, --help             Print help"]

def validateForm : Form where
  flags := [⟨some 'c', "config", .value isPath⟩, helpFlag]
  help := lines [
    "Validate a configuration file",
    "",
    "Usage: hdds-remote validate --config <CONFIG>",
    "",
    "Options:",
    "  -c, --config <CONFIG>  Configuration file path",
    "  -h, --help             Print help"]

def statusForm : Form where
  flags := [helpFlag]
  help := lines [
    "Connect to every destination once and print its state",
    "",
    "Usage: hdds-remote status",
    "",
    "Options:",
    "  -h, --help  Print help"]

def invokeForm : Form where
  flags := [helpFlag]
  words := 2
  help := lines [
    "Invoke a remote component once",
    "",
    "Usage: hdds-remote invoke <TARGET> <PAYLOAD>",
    "",
    "Arguments:",
    "  <TARGET>   Target as module/component!interface",
    "  <PAYLOAD>  Payload (UTF-8)",
    "",
    "Options:",
    "  -h, --help  Print help"]

def helpForm : Form where
  flags := []
  help := lines [
    "Print this message or the help of the given subcommand(s)",
    "",
    "Usage: hdds-remote help [COMMAND]...",
    "",
    "Arguments:",
    "  [COMMAND]...  Print help for the subcommand(s)"]

def commandForms : List (String × Form) :=
  [("gen-config", genConfigForm), ("validate", validateForm), ("status", statusForm),
    ("invoke", invokeForm), ("help", helpForm)]

def programForm : Form where
  flags := [⟨some 'c', "config", .value isPath⟩,
    ⟨none, "stats-interval", .value fun v => (count? v).isSome⟩,
    ⟨none, "log-level", .value fun _ => true⟩, helpFlag, ⟨some 'V', "version", .version⟩]
  commands := commandForms.map (·.1)
  help := lines [
    "HDDS Remote Invocation Client - Outbound connections and receiver routing",
    "",
    "Usage: hdds-remote [OPTIONS] [COMMAND]",
    "",
    "Commands:",
    "  gen-config  Generate example configuration file",
    "  validate    Validate a configuration file",
    "  status      Connect to every destination once and print its state",
    "  invoke      Invoke a remote component once",
    "  help        Print this message or the help of the given subcommand(s)",
    "",
    "Options:",
    "  -c, --config <CONFIG>",
    "          Configuration file path",
    "      --stats-interval <STATS_INTERVAL>",
    "          Statistics reporting interval (seconds, 0 to disable) [default: 10]",
    "      --log-level <LOG_LEVEL>",
    "          Log level (trace, debug, info, warn, error) [default: info]",
    "  -h, --help",
    "          Print help",
    "  -V, --version",
    "          Print version"]

/-! ### Commands -/

/-- The help of the command that is named, or of the program. Every word is taken for a name, whatever
it looks like, and no command has commands of its own. -/
def helpFor : List String → Refusal
  | [] => .help programForm.help
  | [name] => match commandForms.lookup name with
    | some form => .help form.help
    | none => .misuse ("unrecognized subcommand '" ++ name ++ "'")
  | _ :: name :: _ => .misuse ("unrecognized subcommand '" ++ name ++ "'")

def readCommand (name : String) (args : List String) : Except Refusal Command := do
  if name = "help" then throw (helpFor args)
  let form := (commandForms.lookup name).getD programForm
  let (f, _) ← ({} : Found).scan form args
  match name, f.words with
  | "gen-config", _ => .ok (.genConfig ((f.values.lookup "output").getD "remote.toml"))
  | "validate", _ => match f.values.lookup "config" with
    | some config => .ok (.validate config)
    | none => .error (.misuse "the following required arguments were not provided: --config <CONFIG>")
  | "status", _ => .ok .status
  | "invoke", [target, payload] => .ok (.invoke target payload)
  | _, _ => .error (.misuse "the following required arguments were not provided: <TARGET> <PAYLOAD>")

def Arguments.read (args : List String) : Except Refusal Arguments := do
  let (f, rest) ← ({} : Found).scan programForm args
  let command ← match rest with
    | some (name, rest) => readCommand name rest
    | none => pure .run
  return {
    config := f.values.lookup "config"
    statsInterval := ((f.values.lookup "stats-interval").bind count?).getD 10
    logLevel := (f.values.lookup "log-level").getD "info"
    command := command }

end Switchboard.Cli
