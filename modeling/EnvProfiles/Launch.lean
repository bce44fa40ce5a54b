import EnvProfiles.Dict
import EnvProfiles.Fault
import EnvProfiles.Files.FileSystem

/-!
# Starting Other Programs

A launch says which program is to be started, with which arguments, and what it
is to find in its environment: some variables of its own, laid over those that
the starting program has, or those alone. The machine on which programs run is a
parameter, since nothing said here depends on what the programs do.

A program that was stopped by a signal has a code above those with which
programs end by themselves, as shells report it.

## Main definitions

* `Ending`: How a program ends, and `Ending.code`, the number that tells it.
* `Host`: The machine on which programs run.
* `Launch`: A program that is to be started.
* `Launch.environment`: What the program finds in its environment.
* `Launch.locate`: The launch of a program that is looked up on the search path.
* `Launch.run`: Starts the program and waits for its end.

## Theorems

* `Launch.get?_environment_clean`, `Launch.get?_environment_inherited`: Which
  value a variable has in the program.
-/

namespace EnvProfiles

/-- How a program ends. -/
inductive Ending where
  | exited (status : Nat)
  /-- The program was stopped by a signal. -/
  | killed (signal : Nat)
deriving DecidableEq, Repr

/-- The number that tells how a program ended. -/
def Ending.code : Ending → Nat
  | exited status => status
  | killed signal => 128 + signal

/-- A program at its start: its path or name, its arguments, its whole environment, and what it can
read from its standard input. -/
structure Start where
  program : String
  arguments : List String
  environment : Dict
  input : String
deriving DecidableEq, Repr

/-- What a program leaves behind at its end. -/
structure Finish where
  ending : Ending
  /-- What it wrote to its standard output. -/
  output : String
  /-- What it wrote to the standard output for complaints. -/
  complaints : String
  files : FileSystem

/-- The machine on which programs run. -/
structure Host where
  /-- Whether a path leads to a program. -/
  isProgram : FileSystem → String → Bool
  /-- Runs a program until it ends, unless it cannot be started. -/
  start : Start → FileSystem → Except Refusal Finish

/-- The variable of the environment that lists the directories in which programs are looked for. -/
def searchVariable : String := "PATH"

/-- The directories of a search path. -/
def searchDirectories (path : String) : List String :=
  (splitAt ':' path.toList).map String.ofList

/-- Whether the name of a program is a path, which is not searched for. -/
def isProgramPath (name : String) : Bool := name.toList.contains '/'

/-- The path of a program, searched for in directories unless the name is a path itself. -/
def Host.find? (host : Host) (fs : FileSystem) (directories : List String) (name : String) :
    Option String :=
  let candidates :=
    if isProgramPath name then [name] else directories.map fun d => Path.join d name
  candidates.find? (host.isProgram fs)

/-- A program that is to be started. -/
structure Launch where
  program : String
  arguments : List String
  /-- Variables for the program. -/
  own : Dict
  /-- Whether the program is to have no other variables. -/
  clean : Bool
deriving DecidableEq, Repr

namespace Launch

/-- The launch of a program with nothing said about its arguments and its environment. -/
def ofProgram (program : String) : Launch := ⟨program, [], .empty, false⟩

/-- The launch of a program that is looked up on the search path of an environment. -/
def locate (host : Host) (fs : FileSystem) (outer : Dict) (name : String) :
    Except ChildFault Launch :=
  let directories := ((outer.get? searchVariable).map searchDirectories).getD []
  match host.find? fs directories name with
  | some path => .ok (ofProgram path)
  | none => .error (.notFound name)

/-- The launch of a command for the shell. -/
def ofCommand (command : String) : Launch := ⟨"/bin/sh", ["-c", command], .empty, false⟩

/-- Adds arguments after those there are. -/
def withArguments (l : Launch) (arguments : List String) : Launch :=
  { l with arguments := l.arguments ++ arguments }

/-- Lays variables over those there are. -/
def withVariables (l : Launch) (own : Dict) : Launch :=
  { l with own := l.own.merge own }

/-- Says whether the program is to have no variables but its own. -/
def withClean (l : Launch) (clean : Bool) : Launch := { l with clean }

/-- What the program finds in its environment, given that of the program that starts it. -/
def environment (l : Launch) (outer : Dict) : Dict :=
  if l.clean then l.own else outer.merge l.own

theorem get?_environment_clean (l : Launch) (outer : Dict) (name : String) (h : l.clean = true) :
    (l.environment outer).get? name = l.own.get? name := by
  simp only [environment, h, if_true]

theorem get?_environment_inherited (l : Launch) (outer : Dict) (name : String)
    (h : l.clean = false) :
    (l.environment outer).get? name = (l.own.get? name).or (outer.get? name) := by
  simp only [environment, h, Bool.false_eq_true, if_false, Dict.get?_merge]

/-- An argument as messages show it: in quotes if it holds a space. -/
def shown (argument : String) : String :=
  if argument.toList.contains ' ' then "\"" ++ argument ++ "\"" else argument

/-- The program and its arguments as messages show them. -/
def commandLine (l : Launch) : String :=
  String.intercalate " " (l.program :: l.arguments.map shown)

/-- Whether a text can be handed to another program, which is not told where it ends otherwise than
by a null character. -/
def isPassable (text : String) : Bool := !text.toList.contains '\x00'

/-- Whether all that is handed to the program can be handed to it. -/
def passable (l : Launch) : Bool :=
  isPassable l.program && l.arguments.all isPassable &&
    l.own.toList.all fun e => isPassable e.1 && isPassable e.2

/-- Starts the program and waits for its end. -/
def run (l : Launch) (host : Host) (outer : Dict) (fs : FileSystem) : Except ChildFault Finish :=
  if l.passable then
    match host.start ⟨l.program, l.arguments, l.environment outer, ""⟩ fs with
    | .ok finish => .ok finish
    | .error refusal => .error (.notStarted l.commandLine refusal.detail)
  else .error (.notStarted l.commandLine Refusal.nullCharacter.detail)

end Launch

end EnvProfiles
