import EnvProfiles.Machine.Boundary
import EnvProfiles.Shell.Run

/-!
# The Machine

The machine on which programs run: where they are found, and what one leaves
behind that is started from outside, with nothing but its own input, output and
complaints at hand.

This is one machine among many. What is said elsewhere of programs that are
started is said of every `Host`, and nothing that is proved depends on what the
shell and the tools of this one do. They are here for the program to be run.

## Main definitions

* `Machine.programs`: The names of the programs.
* `Machine.host`: The machine, as this library sees it.
-/

namespace EnvProfiles.Machine

/-- The names of the programs that start others. -/
def starters : List String := ["sh", "dash", "bash"] ++ Shell.Starter.table.map (·.1)

/-- The names of the programs. -/
def programs : List String := starters ++ Tool.table.map (·.1)

/-- How deeply scripts and programs may start each other. -/
def depthLimit : Nat := 12000

/-- The state in which a program is started from outside: it reads an input, and what it writes and
what it complains about are kept. -/
def launcher (fs : FileSystem) (input : String) : Shell.Session :=
  { machine :=
      { disk := Disk.ofFiles programs fs
        streams := #[.source (octetText input), .sink [] 0, .sink [] 0]
        clock := 0
        deadline := none
        process := 1000 }
    base := fs.workplace.map octetText
    path := Shell.absolutePath (fs.workplace.map octetText)
    mask := 0o022
    name := "", arguments := [], bindings := [], functions := [], aliases := [], flags := []
    traps := [], signals := []
    descriptors := [(0, 0), (1, 1), (2, 2)]
    status := 0, outputStatus := 0, line := 0, readLine := 0, functionLine := none, command := ""
    saved := []
    loops := 0, depth := 0, documents := [], nextDocument := 0, process := 1000, parent := 1
    isInner := false, background := [], lastProcess := none, located := [], limits := []
    savedFlags := [], optionPlace := 0, savedStatus := none }

/-- Whether a path leads to a program. -/
def isProgram (fs : FileSystem) (path : String) : Bool :=
  let d := Disk.ofFiles programs fs
  match d.find (fs.workplace.map octetText) (octetText path) with
  | .ok (_, node) => Disk.isRunnable node
  | .error _ => false

/-- The directories in which programs are looked for if no search path is known. -/
def standardDirectories : List String := ["/bin", "/usr/bin"]

/-- The path of a program that is started, which is looked for unless its name is a path. -/
def located (s : Start) (fs : FileSystem) : Option String :=
  let directories :=
    ((s.environment.get? searchVariable).map searchDirectories).getD standardDirectories
  if isProgramPath s.program then some s.program
  else (directories.map fun d => Path.join d s.program).find? (isProgram fs)

/-- Runs a program that is found at a path until it ends, unless it cannot be started. -/
def startAt (s : Start) (path : String) (fs : FileSystem) : Except Refusal Finish :=
  let program := octetText s.program
  let environment := s.environment.toList.map fun e => (octetText e.1, octetText e.2)
  let arguments := s.arguments.map octetText
  let action := Shell.execute depthLimit (octetText path) program arguments environment
  let finish (ending : Ending) (t : Shell.Session) : Finish :=
    { ending
      output := readableText (t.machine.written 1)
      complaints := readableText (t.machine.written 2)
      files := t.machine.disk.toFiles fs.workplace }
  match action.run.run (launcher fs s.input) with
  | (.ok (.ok ending), t) => .ok (finish ending t)
  | (.ok (.error refusal), _) => .error refusal
  | (.error (.ended ending), t) => .ok (finish ending t)
  | (.error _, t) => .ok (finish (.exited t.status) t)

/-- Runs a program until it ends, unless it cannot be started. -/
def start (s : Start) (fs : FileSystem) : Except Refusal Finish :=
  match located s fs with
  | some path => startAt s path fs
  | none => .error .absent

/-- The machine, as this library sees it. -/
def host : Host := ⟨isProgram, start⟩

end EnvProfiles.Machine
