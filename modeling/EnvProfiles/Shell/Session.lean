import EnvProfiles.Launch
import EnvProfiles.Machine.Job
import EnvProfiles.Shell.Pattern
import EnvProfiles.Shell.Read

/-!
# The State of a Script

What a script has at hand while it runs: its variables and functions, its
arguments, what its descriptors refer to, what it does about signals, and the
machine it runs on. A part of a script that runs by itself starts with all of
this and gives back the machine alone.

## Main definitions

* `Shell.Flow`: Why a command is not followed by the next one.
* `Shell.Session`: The state of a script.
* `Shell.Action`: A step of a script.
* `Shell.value?`, `Shell.assign`: The values of parameters.
* `Shell.warn`, `Shell.die`: What a script says about mistakes.
-/

namespace EnvProfiles.Shell

/-- Why a command is not followed by the next one. -/
inductive Flow where
  /-- So many loops are left. -/
  | breaking (levels : Nat)
  /-- The loop so many levels above goes on with its next turn. -/
  | continuing (levels : Nat)
  /-- A function or a script that was read in is left. -/
  | returning
  /-- A mistake was made; what runs by itself ends. -/
  | failed
  | ended (ending : Ending)
deriving DecidableEq, Repr

/-- A variable of a script. -/
structure Variable where
  value : Option String
  exported : Bool
  readOnly : Bool
deriving DecidableEq, Repr

/-- A program that was started in the background. -/
structure Background where
  process : Nat
  /-- The number of the job. -/
  slot : Nat
  /-- How it has ended. -/
  ending : Option Ending
  /-- What it is to do, unless that is done already, and when it will have ended. -/
  pending : Option (Command × Nat)
  /-- Whether the script has noticed the end, and whether it has waited for it. -/
  noticed : Bool
  waited : Bool

/-- A program that was found on the search path. -/
structure Located where
  name : String
  path : String
  /-- Whether the directory has been changed since. -/
  stale : Bool
deriving DecidableEq, Repr

/-- A limit that the script can raise, up to one that it cannot. -/
structure Limit where
  soft : Option Nat
  hard : Option Nat
deriving DecidableEq, Repr

/-- The state of a script. -/
structure Session where
  machine : Machine
  /-- The directory at which paths begin, and the path that led there. -/
  base : Location
  path : String
  mask : Nat
  name : String
  arguments : List String
  /-- The variables, in the order in which they came up. -/
  bindings : List (String × Variable)
  functions : List (String × Command)
  aliases : List (String × String)
  flags : List Char
  /-- What is done when a signal comes; the number zero stands for the end of the script. -/
  traps : List (Nat × String)
  /-- Signals that have come and were not dealt with. -/
  signals : List Nat
  /-- The numbers of the streams that descriptors refer to. -/
  descriptors : List (Nat × Nat)
  status : Nat
  /-- The status of the last command whose output was taken. -/
  outputStatus : Nat
  line : Nat
  /-- The line up to which the script has been read. -/
  readLine : Nat
  /-- The line at which the function began that runs. -/
  functionLine : Option Nat
  /-- The command of the shell that runs, as messages name it. -/
  command : String
  /-- The variables as they were before functions changed them, for every function that runs. -/
  saved : List (List (String × Option Variable))
  /-- How many loops run. -/
  loops : Nat
  /-- How many functions run. -/
  depth : Nat
  documents : List (Nat × Word)
  nextDocument : Nat
  process : Nat
  parent : Nat
  /-- Whether this is a part of a script that runs by itself. -/
  isInner : Bool
  background : List Background
  /-- The last program that was started in the background. -/
  lastProcess : Option Nat
  /-- The programs that were found on the search path. -/
  located : List Located
  /-- The limits that the script has set. -/
  limits : List (Char × Limit)
  /-- The flags as they were before functions changed them, for every function that runs. -/
  savedFlags : List (Option (List Char))
  /-- Where `getopts` goes on within an argument. -/
  optionPlace : Nat
  /-- The status before what is done when a signal comes. -/
  savedStatus : Option Nat

/-- A step of a script. -/
abbrev Action := ExceptT Flow (StateM Session)

/-! ### Writing -/

/-- The stream that a descriptor refers to. -/
def stream? (descriptor : Nat) : Action (Option Nat) := return (← get).descriptors.lookup descriptor

/-- Writes to a descriptor; the outcome tells why that could not be done. A script that writes to a
pipe from which nobody reads any more is stopped. -/
def writeTo (descriptor : Nat) (text : String) : Action (Option Refusal) := do
  if text == "" then return none
  match ← stream? descriptor with
  | none => return some .badDescriptor
  | some number =>
    let s ← get
    if s.machine.isOverfull number then throw (.ended (.killed 13))
    match s.machine.write number text with
    | .ok machine =>
      set { s with machine }
      return none
    | .error refusal => return some refusal

/-- Says something to whoever looks at the script. -/
def warn (text : String) : Action Unit := do
  let s ← get
  let command := if s.command == "" then "" else s.command ++ ": "
  let _ ← writeTo 2 (s.name ++ ": " ++ toString s.line ++ ": " ++ command ++ text ++ "\n")

/-- Sets the status of the last command. -/
def setStatus (status : Nat) : Action Unit := modify fun s => { s with status }

/-- The status of a script that cannot go on. -/
def failedStatus : Nat := 2

/-- Ends what runs by itself, for a mistake that is told. -/
def die {α : Type} (text : String) (status : Nat) : Action α := do
  warn text
  setStatus status
  throw .failed

/-- Ends what runs by itself, for a common mistake. -/
def fail {α : Type} (text : String) : Action α := die text failedStatus

/-! ### Variables -/

/-- The characters at which values are cut, unless a script says otherwise. -/
def standardSeparators : String := " \t\n"

/-- The search path of a script that has none. -/
def standardPath : String :=
  "/usr/local/sbin:/usr/local/bin:/usr/sbin:/usr/bin:/sbin:/bin"

/-- The variable that says at which characters values are cut. -/
def separatorVariable : String := "IFS"

/-- The variable that says where `getopts` goes on. -/
def optionVariable : String := "OPTIND"

namespace Session

/-- A variable of a script. -/
def variableOf? (s : Session) (name : String) : Option Variable := s.bindings.lookup name

/-- Replaces a variable, or adds one after all others. -/
def setVariable (s : Session) (name : String) (v : Variable) : Session :=
  if (s.variableOf? name).isSome then
    { s with bindings := s.bindings.map fun e => if e.1 == name then (name, v) else e }
  else { s with bindings := s.bindings ++ [(name, v)] }

/-- Removes a variable. -/
def dropVariable (s : Session) (name : String) : Session :=
  { s with bindings := s.bindings.filter fun e => e.1 != name }

/-- The number of the line, counted from the start of the function that runs. -/
def shownLine (s : Session) : Nat :=
  match s.functionLine with
  | some first => s.line - (first - 1)
  | none => s.line

/-- The value of a variable. -/
def variableValue? (s : Session) (name : String) : Option String :=
  if name == "LINENO" then some (toString s.shownLine)
  else (s.variableOf? name).bind (·.value)

/-- Whether a flag is set. -/
def has (s : Session) (flag : Char) : Bool := s.flags.contains flag

/-- The letters of the flags that are set, in the order in which they are shown. -/
def shownFlags (s : Session) : String := String.ofList ("pubaCEVvxisnmIfe".toList.filter s.has)

/-- The value of a parameter that is no list of values. -/
def value? (s : Session) (name : String) : Option String :=
  match name with
  | "#" => some (toString s.arguments.length)
  | "?" => some (toString s.status)
  | "$" => some (toString s.process)
  | "-" => some s.shownFlags
  | "!" => s.lastProcess.map toString
  | _ =>
    if !name.isEmpty && name.toList.all Char.isDigit then
      match name.toNat?.getD 0 with
      | 0 => some s.name
      | n + 1 => s.arguments[n]?
    else s.variableValue? name

/-- The characters at which values are cut. -/
def separators (s : Session) : List Char :=
  ((s.variableValue? separatorVariable).getD standardSeparators).toList

/-- The place of a variable in the environment: the remainder of a weight of its name. -/
def bucket (name : String) : Nat :=
  match name.toList with
  | c :: r => ((c :: r).foldl (fun n d => n + d.toNat) (c.toNat * 16)) % 39
  | [] => 0

/-- The environment of the programs that a script starts. -/
def environment (s : Session) : List (String × String) :=
  let exported := s.bindings.filterMap fun (name, v) =>
    if v.exported then v.value.map fun value => (name, value) else none
  (List.range 39).flatMap fun b => exported.filter fun e => bucket e.1 == b

end Session

/-- Sets a variable, which is exported if it is so far or is to be. -/
def assignAs (name value : String) (exported : Bool) : Action Unit := do
  let s ← get
  let v := (s.variableOf? name).getD ⟨none, false, false⟩
  if v.readOnly then fail (name ++ ": is read only")
  let exported := v.exported || exported || s.has 'a'
  set (s.setVariable name { v with value := some value, exported })
  if name == optionVariable then modify fun s => { s with optionPlace := 0 }
  if name == searchVariable then modify fun s => { s with located := [] }

/-- Sets a variable. -/
def assign (name value : String) : Action Unit := assignAs name value false

/-- Keeps a variable as it is, so that it comes back when the function that runs is left. -/
def keepVariable (name : String) : Action Unit := modify fun s =>
  match s.saved with
  | frame :: saved => { s with saved := ((name, s.variableOf? name) :: frame) :: saved }
  | [] => s

/-- Begins to keep variables. -/
def pushFrame : Action Unit := modify fun s => { s with saved := [] :: s.saved }

/-- Puts variables back as they were when they were kept. -/
def popFrame : Action Unit := modify fun s =>
  match s.saved with
  | frame :: saved =>
    let s := frame.foldl (fun s (name, v) => match v with
      | some v => s.setVariable name v
      | none => s.dropVariable name) s
    { s with saved }
  | [] => s

/-! ### Parts that run by themselves -/

/-- The state of a part of a script that runs by itself: what is done when a signal comes is not
handed on, unless it is nothing. -/
def Session.inner (s : Session) : Session :=
  { s with
    traps := s.traps.filter fun t => t.2 == "" && t.1 != 0
    signals := [], isInner := true, background := [], saved := [] }

/-- The state after a part that ran by itself. -/
def Session.leave (s inner : Session) : Session := { s with machine := inner.machine }

/-- Does something whatever way an action ends. -/
def afterwards {α : Type} (act : Action α) (after : Action Unit) : Action α := do
  let a ← tryCatch act fun flow => do
    after
    throw flow
  after
  return a

end EnvProfiles.Shell
