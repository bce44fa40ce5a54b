import EnvProfiles.Cli.Scan
import EnvProfiles.Command.RunRequest
import EnvProfiles.Dict

/-!
# Invocations

What a user asks for on the command line: options that hold for every command,
and one of ten commands. The path of the database may be given in the
environment as well.

The words of a command are checked before the options in front of it. Within
each part the words are taken in first, then what excludes each other is looked
for, and last what is missing.

## Main definitions

* `GlobalOptions`: The options that hold for every command.
* `Request`: One of the commands.
* `Invocation`: What was asked for.
* `Invocation.ofWords`: What the words of a command line ask for.
* `GlobalOptions.overrides`: The settings that the options amount to.
-/

namespace EnvProfiles.Cli

/-- The options that hold for every command. -/
structure GlobalOptions where
  path : Option String
  settingsFile : Option String
  logLevel : Option Nat
  fileLogLevel : Option Nat
  logFile : Option String
deriving DecidableEq, Repr

/-- A command with what it was given. -/
inductive Request where
  | run (request : RunRequest)
  | print (key : String)
  | keys
  | delete (key : String)
  | rename (key newKey : String)
  | edit (key : String)
  | importFrom (dir : String)
  | exportTo (outdir : Option String)
  | settings
  | version
deriving DecidableEq, Repr

/-- What was asked for. -/
structure Invocation where
  options : GlobalOptions
  request : Option Request
deriving DecidableEq, Repr

/-- The variable of the environment that holds the path of the database. -/
def pathVariable : String := "DENV_PATH"

/-- The variable of the environment that lists the profiles whose environment is wanted. -/
def keysVariable : String := "DENV_KEYS"

/-- The option that asks for help. -/
def helpOption : OptionForm := ⟨"help", some 'h', .help⟩

/-- The names of the commands, with the name that each stands for. -/
def commandNames : List (String × String) :=
  [("run", "run"), ("cat", "cat"), ("keys", "keys"), ("del", "del"), ("rm", "del"),
    ("rename", "rename"), ("mv", "rename"), ("edit", "edit"), ("import", "import"),
    ("export", "export"), ("config", "config"), ("version", "version"), ("help", "help")]

/-- The options that hold for every command, and the commands. -/
def rootForm : CommandForm where
  options :=
    [⟨"path", some 'p', .value .path⟩, ⟨"config", some 'c', .value .path⟩,
      ⟨"log-level", some 'l', .value .level⟩, ⟨"file-log-level", none, .value .level⟩,
      ⟨"log-file", none, .value .path⟩, helpOption, ⟨"version", some 'V', .version⟩]
  places := []
  rest := false
  commands := commandNames

/-- A command that takes words only. -/
def plainForm (places : List Check) : CommandForm := ⟨[helpOption], places, false, []⟩

/-- The command that uses an environment. -/
def runForm : CommandForm where
  options :=
    [⟨"env", some 'e', .values⟩, ⟨"export", none, .flag⟩, ⟨"json", none, .flag⟩,
      ⟨"clean-env", none, .flag⟩, helpOption]
  places := []
  rest := true
  commands := []

/-- The command that writes profiles to files. -/
def exportForm : CommandForm := ⟨[⟨"outdir", some 'o', .value .path⟩, helpOption], [], false, []⟩

/-- The form of a command. -/
def formOf (command : String) : CommandForm :=
  match command with
  | "run" => runForm
  | "cat" => plainForm [.anything]
  | "del" => plainForm [.anything]
  | "edit" => plainForm [.anything]
  | "rename" => plainForm [.anything, .anything]
  | "import" => plainForm [.path]
  | "export" => exportForm
  | _ => plainForm []

/-- The request that was found to use an environment. -/
def runOf (m : Matches) : Except UsageFault Request :=
  let r : RunRequest := ⟨m.all "env", m.has "export", m.has "json", m.has "clean-env", m.words⟩
  if r.printed && !r.command.isEmpty then .error .argumentConflict
  else if r.json && !r.printed && r.command.isEmpty then .error .missingRequiredArgument
  else .ok (.run r)

/-- What was found after the name of a command. -/
def requestOf (command : String) (m : Matches) : Except UsageFault Request :=
  let one (make : String → Request) : Except UsageFault Request :=
    match m.words with
    | [word] => .ok (make word)
    | _ => .error .missingRequiredArgument
  match command with
  | "run" => runOf m
  | "cat" => one .print
  | "keys" => .ok .keys
  | "del" => one .delete
  | "rename" =>
    match m.words with
    | [key, newKey] => .ok (.rename key newKey)
    | _ => .error .missingRequiredArgument
  | "edit" => one .edit
  | "import" => one .importFrom
  | "export" => .ok (.exportTo (m.value? "outdir"))
  | "config" => .ok .settings
  | _ => .ok .version

/-- What is wrong with a request for help: it may name one command, and is answered with help. -/
def helpFault : List String → UsageFault
  | [] => .displayHelp
  | [word] => if (commandNames.lookup word).isSome then .displayHelp else .invalidSubcommand
  | _ => .invalidSubcommand

/-- Reads the words after the name of a command. -/
def readRequest (command : String) (words : List String) : Except UsageFault Request := do
  if command == "help" then throw (helpFault words)
  let (s, _) ← Scan.run (formOf command) words .start
  let s ← s.settle
  requestOf command s.found

/-- The path of the database: the one that is given, or the one in the environment. -/
def pathOf (m : Matches) (environment : Dict) : Except UsageFault (Option String) :=
  match m.value? "path" with
  | some path => .ok (some path)
  | none =>
    match environment.get? pathVariable with
    | some path => (Check.path.run path).map fun _ => some path
    | none => .ok none

/-- The options that hold for every command. -/
def optionsOf (m : Matches) (environment : Dict) : Except UsageFault GlobalOptions := do
  let path ← pathOf m environment
  return ⟨path, m.value? "config", (m.value? "log-level").bind level?,
    (m.value? "file-log-level").bind level?, m.value? "log-file"⟩

/-- What the words of a command line ask for. -/
def Invocation.ofWords (words : List String) (environment : Dict) :
    Except UsageFault Invocation := do
  let (s, rest) ← Scan.run rootForm words .start
  let request ← match rest with
    | some (command, words) => (readRequest command words).map some
    | none => .ok none
  let s ← s.settle
  let options ← optionsOf s.found environment
  return ⟨options, request⟩

/-- The settings that the options amount to. The level of the console also holds for the file,
unless that has a level of its own. -/
def GlobalOptions.overrides (o : GlobalOptions) : List (String × String) :=
  (o.path.map fun p => ("store.path", p)).toList ++
    (o.logLevel.map fun l => ("log.level", toString l)).toList ++
    ((o.fileLogLevel.or o.logLevel).map fun l => ("log.file_level", toString l)).toList ++
    (o.logFile.map fun f => ("log.file", f)).toList

end EnvProfiles.Cli
