import EnvProfiles.Decimal.Literal
import EnvProfiles.Dict
import EnvProfiles.Files.FileSystem
import EnvProfiles.Settings.Decode
import EnvProfiles.Settings.KeyPath
import EnvProfiles.Text.LowerCase
import EnvProfiles.Toml.Read

/-!
# Loading Settings

Settings come from several sources, each laid over the ones before it: texts and
files of TOML in the order in which they were added, then variables of the
environment whose names begin in a certain way, and last the values that were
set outright.

A file need not be named in full: one that is not there is looked for with
`.toml` at the end of its name. A file that is optional is passed over if it is
found under neither name.

## Main definitions

* `Source`: A text or a file of TOML.
* `Loader`: The sources that have been added.
* `Loader.set?`: Sets a value outright.
* `Loader.load`: The settings that all sources come to.
* `Loader.listing`: The files and texts that were added, one to a line.
-/

namespace EnvProfiles

/-- A text or a file of TOML. -/
inductive Source where
  | text (content : String)
  | file (path : String)
  /-- A file that may be missing. -/
  | optional (path : String)
deriving DecidableEq, Repr

namespace Source

/-- Whether the name of a file has an ending: a dot that is not its first character. -/
def hasEnding (name : String) : Bool := (name.toList.drop 1).contains '.'

/-- The path with an ending added to the name of its file. -/
def withEnding? (path : String) : Option String :=
  (Path.fileName? path).map fun name =>
    if hasEnding name then
      -- Next to an ending that is there already, what follows the last slash counts as the name.
      let last := (Path.parts path).getLastD ""
      let front := String.ofList (path.toList.take (path.length - last.length))
      front ++ (if last == "" then ".placeholder" else last) ++ ".toml"
    else Path.join ((Path.parent? path).getD "") (name ++ ".toml")

/-- The path of the file that is read for a path: the file itself, or else the one with an ending
added to its name. -/
def fileAt? (fs : FileSystem) (path : String) : Option String :=
  if fs.isFile path then some path
  else
    match withEnding? path with
    | some other => if fs.isFile other then some other else none
    | none => none

/-- The table in a file. A byte order mark at the start of the file is no part of its text. -/
def fileTable? (fs : FileSystem) (path : String) : Option TomlTable :=
  match fs.read path with
  | .ok content => Toml.read? (Toml.withoutMark content)
  | .error _ => none

/-- The table that a source holds. -/
def table? (fs : FileSystem) : Source → Option TomlTable
  | text content => Toml.read? content
  | file path => (fileAt? fs path).bind (fileTable? fs)
  | optional path =>
    match fileAt? fs path with
    | some found => fileTable? fs found
    | none => some []

/-- What is told of a source, if it is told of at all: an optional file is, if there is something at
its path. -/
def label? (fs : FileSystem) : Source → Option String
  | text _ => some "[string] <string>"
  | file path => some ("[file] " ++ path)
  | optional path => if fs.contains path then some ("[optional] " ++ path) else none

end Source

/-- The sources that have been added. -/
structure Loader where
  sources : List Source
  /-- How the names of the variables begin that are taken from the environment. -/
  variableStart : Option String
  /-- The values that were set outright, in the order in which they were set. -/
  overrides : List (KeyPath × Setting)

namespace Loader

/-- No source has been added. -/
def empty : Loader := ⟨[], none, []⟩

/-- Adds a text or a file. -/
def add (l : Loader) (source : Source) : Loader := { l with sources := l.sources ++ [source] }

/-- Takes variables from the environment whose names begin in a certain way. -/
def withVariables (l : Loader) (start : String) : Loader := { l with variableStart := some start }

/-- Sets a value outright, in place of the one that was set under the same path. -/
def set? (l : Loader) (key : String) (value : Setting) : Except SettingsFault Loader :=
  match KeyPath.ofText? key with
  | none => .error (.unreadable "the key is not a path")
  | some path =>
    .ok { l with overrides := l.overrides.filter (fun o => o.1 != path) ++ [(path, value)] }

/-- Lays a value over what a key leads to. A key that is no path is taken as it is. -/
def assignKey (root : Setting) (key : String) (value : Setting) : Setting :=
  ((KeyPath.ofText? key).getD (.single key)).assign value root

/-- Lays the keys of a table over the values so far. -/
def assignTable (root : Setting) (entries : TomlTable) : Setting :=
  entries.foldl (fun root e => assignKey root e.1 (.ofToml e.2)) root

/-- A whole number of 64 bits with a sign, written in digits. -/
def int? (cs : List Char) : Option Int :=
  let (negative, ds) := Literal.sign cs
  let n : Int := Literal.value ds
  let n := if negative then -n else n
  if ds.isEmpty || !ds.all Char.isDigit || !fitsSigned 64 n then none else some n

/-- What the value of a variable says: a truth value, a number or a text. -/
def variableValue (value : String) : Setting :=
  let cs := value.toList
  if lowerCase value == "true" then .bool true
  else if lowerCase value == "false" then .bool false
  else
    match int? cs with
    | some n => .int n
    | none =>
      match Double.ofText? cs with
      | some x => .float x
      | none => .text value

/-- A name with a dot in place of every two underscores. -/
def dotted : List Char → List Char
  | '_' :: '_' :: r => '.' :: dotted r
  | c :: r => c :: dotted r
  | [] => []

/-- The key that a variable sets, if its name begins with a given word and two underscores. Case
does not matter. -/
def variableKey? (start name : String) : Option String :=
  let front := (lowerCase (start ++ "__")).toList
  let cs := (lowerCase name).toList
  if front.isPrefixOf cs then some (String.ofList (dotted (cs.drop front.length))) else none

/-- Lays the variables of the environment over the values so far. -/
def assignVariables (root : Setting) (start : String) (environment : Dict) : Setting :=
  environment.toList.foldl
    (fun root e =>
      match variableKey? start e.1 with
      | some key => assignKey root key (variableValue e.2)
      | none => root)
    root

/-- Lays sources over each other, unless one of them cannot be read. -/
def assignSources (fs : FileSystem) : List Source → Setting → Option Setting
  | [], root => some root
  | source :: r, root =>
    match source.table? fs with
    | some entries => assignSources fs r (assignTable root entries)
    | none => none

/-- All values, with every source laid over the ones before it. -/
def values? (l : Loader) (fs : FileSystem) (environment : Dict) : Option Setting := do
  let root ← assignSources fs l.sources (.table [])
  -- Wherever the start was given among the sources, variables come after all of them.
  let root := match l.variableStart with
    | some start => assignVariables root start environment
    | none => root
  return l.overrides.foldl (fun root o => o.1.assign o.2 root) root

/-- The settings that all sources come to. -/
def load (l : Loader) (fs : FileSystem) (environment : Dict) : Except SettingsFault Settings :=
  match (l.values? fs environment).bind Settings.ofSetting? with
  | some settings => .ok settings
  | none => .error (.unreadable "the sources do not have the form of settings")

/-- The files and texts that were added, numbered from one. -/
def listing (l : Loader) (fs : FileSystem) : List String :=
  (l.sources.filterMap (Source.label? fs)).mapIdx fun i label =>
    toString (i + 1) ++ ". " ++ label

end Loader

end EnvProfiles
