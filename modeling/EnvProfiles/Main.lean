import EnvProfiles.Program
import EnvProfiles.Machine.Programs

/-!
# The Command Line

The outer layer of the program. It collects the variables of the environment and
the settings files that a command line can depend on, hands them to the program
together with the words, and shows what comes of them. It decides nothing.

## Main definitions

* `main`: Carries out a command line.
-/

namespace EnvProfiles.Main

/-- The variables of the environment that the program itself looks at. -/
def watchedVariables : List String :=
  ["HOME", searchVariable, Command.editorVariable, Cli.pathVariable, Cli.keysVariable,
    "DENV__STORE__PATH", "DENV__EXPORT__OUTDIR", "DENV__EXPORT__EXTENSION",
    "DENV__EDITOR__COMMAND", "DENV__LOG__LEVEL", "DENV__LOG__FILE_LEVEL", "DENV__LOG__FILE"]

/-- Adds a variable of the environment, if it is set. -/
def addVariable (environment : Dict) (name : String) : IO Dict := do
  match ← IO.getEnv name with
  | some value => return environment.insert name value
  | none => return environment

/-- Adds a file, if it can be read. -/
def addFile (fs : FileSystem) (path : String) : IO FileSystem := do
  match ← (IO.FS.readFile path).toBaseIO with
  | .ok content => return fs.provide path content
  | .error _ => return fs

/-- The paths of the settings files that a command line can depend on: the user's own, and every one
that a word may name, with or without the ending. -/
def settingsFiles (environment : Dict) (words : List String) : List String :=
  Settings.userFile (homeDirectory environment) :: words ++ words.map (· ++ ".toml")

end EnvProfiles.Main

open EnvProfiles in
/-- Carries out a command line. -/
def main (words : List String) : IO UInt32 := do
  let environment ← EnvProfiles.Main.watchedVariables.foldlM EnvProfiles.Main.addVariable Dict.empty
  let files := EnvProfiles.Main.settingsFiles environment words
  let fs ← files.foldlM EnvProfiles.Main.addFile FileSystem.fresh
  let result := Program.run Machine.host environment fs words
  IO.print result.output
  IO.eprint result.complaints
  if let some report := result.report then IO.eprintln report
  return result.code.toUInt32
