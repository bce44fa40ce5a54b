import EnvProfiles.Cli.Invocation
import EnvProfiles.Command.Edit
import EnvProfiles.Command.Run
import EnvProfiles.Command.Stored
import EnvProfiles.Command.Transfer
import EnvProfiles.Log.File
import EnvProfiles.Settings.Effective
import EnvProfiles.Settings.Loader

/-!
# The Program

From the words of a command line to what is printed and what the program ends
with: the words are read, the settings are loaded, the file of messages is
opened, and the command is carried out. Each of these can end the program, with
a report that tells which one it was.

## Main definitions

* `Program.loader`: The sources of the settings.
* `Program.carryOut`: What a command comes to.
* `Program.run`: What a command line comes to.
-/

namespace EnvProfiles

/-- What a run of the program leaves behind. -/
structure Result where
  code : Nat
  output : String
  /-- What the programs that were started have complained about, before anything is reported. -/
  complaints : String
  /-- What is reported of a failure. -/
  report : Option String
  files : FileSystem

namespace Program

/-- The name of the program. -/
def name : String := "denv"

/-- The version of the program. -/
def version : String := "0.1.0"

/-- How the names of the variables begin that set options. -/
def variableStart : String := "DENV"

/-- The sources of the settings: the user's own file, the file that the command line names, the
variables of the environment, and the options of the command line. -/
def loader (options : Cli.GlobalOptions) (home : String) : Except SettingsFault Loader :=
  let own := Loader.empty.add (.optional (Settings.userFile home))
  let files := match options.settingsFile with
    | some path => own.add (.file path)
    | none => own
  options.overrides.foldlM (fun l o => l.set? o.1 (.text o.2)) (files.withVariables variableStart)

/-- The settings, and the list of the files they come from. -/
def loadSettings (options : Cli.GlobalOptions) (environment : Dict) (fs : FileSystem) :
    Except SettingsFault (Settings × List String) := do
  let loader ← loader options (homeDirectory environment)
  let settings ← loader.load fs environment
  return (settings, loader.listing fs)

/-- What a command comes to. -/
def carryOut (host : Host) (environment : Dict) (settings : Settings) (listing : List String)
    (fs : FileSystem) : Cli.Request → Completion
  | .run request =>
    Command.run settings home request (environment.get? Cli.keysVariable) host environment fs
  | .print key => withStore fun db fs => Command.showStore db (Command.print db key) fs
  | .keys => withStore fun db fs => Command.showStore db (Command.listKeys db) fs
  | .delete key => withStore fun db fs => Command.changeStore db (Command.remove db key) fs
  | .rename key newKey =>
    withStore fun db fs => Command.changeStore db (Command.rename db key newKey) fs
  | .edit key => Command.edit settings home key host environment fs
  | .importFrom dir => withStore fun db fs =>
    let r := Command.importAll db dir settings.transfer fs
    (r.store, ⟨r.outcome.map fun _ => 0, r.output, "", fs⟩)
  | .exportTo outdir => withStore fun db fs =>
    let dir := outdir.getD settings.transfer.outdir
    match Command.exportAll db dir settings.transfer fs with
    | (.ok _, fs) => (db, .done (Command.exported dir) fs)
    | (.error fault, fs) => (db, .failed fault fs)
  | .settings => .done (settings.overview home listing) fs
  | .version => .done (version ++ "\n") fs
where
  home : String := homeDirectory environment
  withStore (act : Database → FileSystem → Database × Completion) : Completion :=
    Command.withStore settings home fs act

/-- What is reported of a fault that has ended a command. -/
def reportOf (fault : Fault) : String := "Error: " ++ fault.report

/-- A code as the system takes it: one that is too great is only told to be no success. -/
def exitCode (code : Nat) : Nat := if code < 256 then code else 1

/-- What a command leaves behind, with a report if it failed. -/
def resultOf (c : Completion) : Result :=
  match c.outcome with
  | .ok code => ⟨exitCode code, c.output, c.complaints, none, c.files⟩
  | .error fault => ⟨1, c.output, c.complaints, some (reportOf fault), c.files⟩

/-- What is printed for a command line that is not carried out. Neither the text of the help nor
that of the mistake is given here. -/
def usageOutput : Cli.UsageFault → String
  | .displayVersion => name ++ " " ++ version ++ "\n"
  | _ => ""

/-- What is reported if a command line holds no command. -/
def missingCommand : String :=
  "No command specified. Use --help for usage information.\n" ++
    reportOf (.other "No command specified")

/-- What a command line comes to whose words have been read. -/
def runInvocation (host : Host) (environment : Dict) (fs : FileSystem) (i : Cli.Invocation) :
    Result :=
  match loadSettings i.options environment fs with
  | .error fault =>
    ⟨1, "", "", some ("Failed to load config: " ++ (Fault.settings fault).report), fs⟩
  | .ok (settings, listing) =>
    match (LogOptions.ofSettings settings.log).openFile fs with
    | (.error fault, fs) =>
      ⟨1, "", "", some ("Failed to initialize logging: " ++ fault.message), fs⟩
    | (.ok (), fs) =>
      match i.request with
      -- The settings are loaded even if there is nothing to do with them.
      | none => ⟨1, "", "", some missingCommand, fs⟩
      | some request => resultOf (carryOut host environment settings listing fs request)

/-- What a command line comes to. -/
def run (host : Host) (environment : Dict) (fs : FileSystem) (words : List String) : Result :=
  match Cli.Invocation.ofWords words environment with
  | .error fault => ⟨fault.exitCode, usageOutput fault, "", none, fs⟩
  | .ok invocation => runInvocation host environment fs invocation

end Program

end EnvProfiles
