import PbrTelemetry.Config.File

/-!
# Command line arguments

An option has a long name behind two dashes and may have a letter behind one.  A value stands in the
next word, or in the same word: behind an equals sign, or right behind a letter.  A word that looks
like an option is no value of the option before it.

Every option but `--policy` can be given once, names cannot be shortened, and there are no other
arguments.
-/

namespace PbrTelemetry.Cli

/-! ## Options -/

inductive ValueOption where
  | config
  | username
  | password
  | mode
  | policy
  | durationSecs
  | logLevel
  deriving DecidableEq, Repr

inductive FlagOption where
  | json
  | help
  | version
  deriving DecidableEq, Repr

inductive AnyOption where
  | value (option : ValueOption)
  | flag (option : FlagOption)
  deriving DecidableEq, Repr

structure Spelling where
  option : AnyOption
  long : String
  letter : Option Char := none
  valueName : String := ""
  help : String

/-- The variable of the surroundings that goes before the log filter of the command line. -/
def logVariable : String := "LOG_FILTER"

def defaultLogLevel : String := "info"

def spellings : List Spelling := [
  { option := .value .config, long := "config", letter := 'c', valueName := "CONFIG"
    help := "Configuration file [default: " ++ TelemetryConfig.defaultPath ++ "]" },
  { option := .value .username, long := "username", letter := 'u', valueName := "USERNAME"
    help := "gNMI username" },
  { option := .value .password, long := "password", letter := 'p', valueName := "PASSWORD"
    help := "gNMI password" },
  { option := .value .mode, long := "mode", letter := 'm', valueName := "MODE"
    help := "Subscription mode, overrides the configuration file "
      ++ "[possible values: once, stream]" },
  { option := .value .policy, long := "policy", valueName := "POLICY:RULE"
    help := "Additional policy/rule pair to subscribe to" },
  { option := .value .durationSecs, long := "duration-secs", letter := 'd'
    valueName := "DURATION_SECS", help := "Close a stream after this many seconds" },
  { option := .flag .json, long := "json", help := "Print records as JSON lines" },
  { option := .value .logLevel, long := "log-level", letter := 'l', valueName := "LOG_LEVEL"
    help := "Log filter used when " ++ logVariable ++ " is not set "
      ++ "[default: " ++ defaultLogLevel ++ "]" },
  { option := .flag .help, long := "help", letter := 'h', help := "Print help" },
  { option := .flag .version, long := "version", letter := 'V', help := "Print version" }]

def AnyOption.ofLong? (name : List Char) : Option AnyOption :=
  (spellings.find? fun s => s.long.toList = name).map Spelling.option

def AnyOption.ofLetter? (letter : Char) : Option AnyOption :=
  (spellings.find? fun s => s.letter = some letter).map Spelling.option

/-! ## Arguments -/

structure Arguments where
  config : String
  username : String
  password : String
  mode : Option StreamMode
  policies : List String
  /-- After how many seconds a stream is closed. -/
  durationSecs : Option UInt64
  json : Bool
  logLevel : String
  deriving DecidableEq, Repr

/-- What the words so far have given. -/
structure Given where
  config : Option String := none
  username : Option String := none
  password : Option String := none
  mode : Option StreamMode := none
  policies : List String := []
  durationSecs : Option UInt64 := none
  json : Bool := false
  logLevel : Option String := none
  deriving DecidableEq, Repr

inductive Command where
  | run (arguments : Arguments)
  | showVersion
  | showHelp
  | misuse
  deriving DecidableEq, Repr

def once? {α : Type} (before : Option α) (value : Option α) : Option (Option α) :=
  match before, value with
  | none, some a => some (some a)
  | _, _ => none

def fileName? (value : String) : Option String := if value = "" then none else some value

def Given.setValue (given : Given) (value : String) : ValueOption → Option Given
  | .config => (once? given.config (fileName? value)).map fun v => { given with config := v }
  | .username => (once? given.username (some value)).map fun v => { given with username := v }
  | .password => (once? given.password (some value)).map fun v => { given with password := v }
  | .mode => (once? given.mode (Setting.modeOfName? value)).map fun v => { given with mode := v }
  | .policy => some { given with policies := given.policies ++ [value] }
  | .durationSecs =>
    (once? given.durationSecs (Text.word? value.toList)).map fun v =>
      { given with durationSecs := v }
  | .logLevel => (once? given.logLevel (some value)).map fun v => { given with logLevel := v }

/-- The arguments of a run, of which only the credentials must be given. -/
def Given.command (given : Given) : Command :=
  match given.username, given.password with
  | some username, some password =>
    .run {
      config := given.config.getD TelemetryConfig.defaultPath
      username, password
      mode := given.mode
      policies := given.policies
      durationSecs := given.durationSecs
      json := given.json
      logLevel := given.logLevel.getD defaultLogLevel }
  | _, _ => .misuse

/-! ## Words -/

inductive Word where
  /-- An option, with the value that is attached to it. -/
  | option (option : AnyOption) (attached : Option (List Char))
  | ending
  | other
  deriving DecidableEq, Repr

/-- The value attached to a letter: the rest of the word without an equals sign in front. -/
def attachedValue : List Char → Option (List Char)
  | [] => none
  | rest => some (Text.dropLeading '=' rest)

def Word.ofText (text : String) : Word :=
  match text.toList with
  | ['-', '-'] => .ending
  | '-' :: '-' :: name =>
    let (name, attached) := match Text.cut '=' name with
      | some (name, value) => (name, some value)
      | none => (name, none)
    match AnyOption.ofLong? name with
    | some named => .option named attached
    | none => .other
  | '-' :: letter :: rest =>
    match AnyOption.ofLetter? letter with
    | some (.value named) => .option (.value named) (attachedValue rest)
    | some (.flag named) => .option (.flag named) none
    | none => .other
  | _ => .other

def isValue (text : String) : Bool :=
  match text.toList with
  | '-' :: _ :: _ => false
  | _ => true

def Given.read (given : Given) : List String → Command
  | [] => given.command
  | text :: words =>
    match Word.ofText text with
    | .other => .misuse
    | .ending => if words.isEmpty then given.command else .misuse
    | .option (.flag _) (some _) => .misuse
    | .option (.flag .help) none => .showHelp
    | .option (.flag .version) none => .showVersion
    | .option (.flag .json) none =>
      if given.json then .misuse else Given.read { given with json := true } words
    | .option (.value option) (some value) =>
      match given.setValue (String.ofList value) option with
      | some given => given.read words
      | none => .misuse
    | .option (.value option) none =>
      match words with
      | [] => .misuse
      | value :: words =>
        if isValue value then
          match given.setValue value option with
          | some given => given.read words
          | none => .misuse
        else .misuse

def Command.ofWords (words : List String) : Command := Given.read {} words

/-! ## Texts -/

def programName : String := "gnmi-pbr-stats"

def versionLine : String := programName ++ " 0.1.0"

def Spelling.lines (spelling : Spelling) : List String :=
  let letter := match spelling.letter with
    | some c => String.ofList ['-', c] ++ ", "
    | none => "    "
  let value := if spelling.valueName = "" then "" else " <" ++ spelling.valueName ++ ">"
  ["  " ++ letter ++ "--" ++ spelling.long ++ value, "          " ++ spelling.help]

def helpLines : List String :=
  ["SONiC gNMI PBR statistics client", "",
    "Usage: " ++ programName ++ " [OPTIONS] --username <USERNAME> --password <PASSWORD>", "",
    "Options:"] ++ spellings.flatMap Spelling.lines

end PbrTelemetry.Cli
