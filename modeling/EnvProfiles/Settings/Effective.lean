import EnvProfiles.Dict
import EnvProfiles.Files.Path
import EnvProfiles.Settings.Basic
import EnvProfiles.Text.Blank

/-!
# Settings in Effect

What holds where a setting leaves a choice open: the place of the database and
of the user's own file of settings, and the editor. And the settings as a list
for the user, one option to a line in ascending order.

## Main definitions

* `homeDirectory`: The home directory that an environment tells.
* `Settings.storePath`: Where the database is.
* `Settings.userFile`: Where the user's own settings are.
* `Settings.editorCommand`: The editor with its arguments.
* `Settings.lines`: The settings as a list.
* `Settings.overview`: The list, and the files the settings were read from.
-/

namespace EnvProfiles

/-- The home directory that an environment tells; if it tells none, it is that of the user with all
rights. -/
def homeDirectory (environment : Dict) : String :=
  match environment.get? "HOME" with
  | some "" => "/root"
  | some home => home
  | none => "/root"

namespace Settings

/-- The path of the user's own file of settings, given the home directory. -/
def userFile (home : String) : String :=
  Path.join (Path.join (Path.join home ".config") "denv") "config.toml"

/-- The path of the database, given the home directory. -/
def storePath (s : Settings) (home : String) : String :=
  s.store.path.getD (Path.join (Path.join home ".config") "denv.db")

/-- The editor with its arguments: the one that is set, or else the one that the environment
names. A blank command is none. -/
def editorCommand (s : Settings) (environment : Option String) : Except ChildFault String :=
  match s.editor.command.or environment with
  | some command => if isBlankText command then .error .noEditor else .ok command
  | none => .error .noEditor

/-- The options with their values, in ascending order of their names. -/
def options (s : Settings) (home : String) : List (String × String) :=
  (s.editor.command.map fun c => ("editor.command", c)).toList ++
    [("export.extension", s.transfer.extension), ("export.outdir", s.transfer.outdir)] ++
    (s.log.file.map fun f => ("log.file", f)).toList ++
    [("log.file_level", toString s.log.fileLevel.toNat), ("log.level", toString s.log.level.toNat),
      ("store.path", s.storePath home)]

/-- A text with spaces after it up to a width. -/
def padEnd (width : Nat) (text : String) : String :=
  text ++ String.ofList (List.replicate (width - text.length) ' ')

/-- The options, one to a line, with their values in one column. -/
def lines (s : Settings) (home : String) : List String :=
  let options := s.options home
  let width := (options.map fun o => o.1.length).foldl max 0
  options.map fun o => padEnd width o.1 ++ " = " ++ o.2

/-- The settings as a list, and after it the files that they were read from. -/
def overview (s : Settings) (home : String) (files : List String) : String :=
  let origin :=
    if files.isEmpty then ["No configuration files loaded"]
    else "Configuration files:" :: files.map ("  " ++ ·)
  String.join ((s.lines home ++ "" :: origin).map (· ++ "\n"))

end Settings

end EnvProfiles
