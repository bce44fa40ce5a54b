import EnvProfiles.Shell.Surroundings

/-!
# Jobs of a Script

What a script has started in the background: how its jobs are named, and what is
shown of them. A job keeps its number until it has been waited for and the number
is needed again; until then the script can ask how the job has ended.

## Main definitions

* `Shell.jobOf`: The job that a text names.
* `Shell.claimSlot`: The number of the next job.
* `Shell.jobsBuiltin`, `Shell.killBuiltin`: Commands of the shell.
-/

namespace EnvProfiles.Shell

namespace Background

/-- What is shown of how a job goes. -/
def state (b : Background) : String :=
  match b.ending with
  | some ending =>
    if !b.noticed then "Running"
    else
      match ending with
      | .exited 0 => "Done"
      | .exited n => "Done(" ++ toString n ++ ")"
      | .killed signal => (Signal.description? signal).getD ("Signal " ++ toString signal)
  | none => "Running"

/-- A job as it is shown, with its mark and maybe with its process. -/
def shown (b : Background) (mark : Char) (withProcess : Bool) : String :=
  let text := "[" ++ toString b.slot ++ "] " ++ String.singleton mark ++ " " ++
    (if withProcess then toString b.process ++ " " else "") ++ b.state
  text ++ String.ofList (List.replicate (33 - text.length) ' ') ++ "\n"

end Background

/-- The jobs, the current one first. -/
def Session.jobs (s : Session) : List Background := s.background.reverse

/-- The number of the next job. It takes the place of the first job that nobody can ask for any
more. -/
def claimSlot (s : Session) : Session × Nat :=
  let isKept (slot : Nat) : Bool := s.background.any fun b => b.slot == slot && !b.waited
  let slot := ((List.range (s.background.length + 1)).map (· + 1)).find? fun n => !isKept n
  let slot := slot.getD (s.background.length + 1)
  ({ s with background := s.background.filter fun b => b.slot != slot }, slot)

/-- Takes the place of a job for a program that is waited for. -/
def claimForNow : Action Unit := modify fun s => (claimSlot s).1

/-- Notices which jobs have ended. -/
def noticeEnds : Action Unit := modify fun s =>
  let notice (b : Background) : Background := { b with noticed := b.noticed || b.ending.isSome }
  { s with background := s.background.map notice }

/-- The job that a text names. Only a script that controls jobs can have one control of it. -/
def jobOf (name : String) (controls : Bool) : Action Background := do
  let s ← get
  let found : Except String Background :=
    let demand (b : Option Background) (message : String) : Except String Background :=
      match b with
      | some b => .ok b
      | none => .error message
    let unknown := "No such job: " ++ name
    match name.toList with
    | '%' :: spec =>
      match spec with
      | [] => demand s.jobs.head? "No current job"
      | ['+'] => demand s.jobs.head? "No current job"
      | ['%'] => demand s.jobs.head? "No current job"
      | ['-'] => demand s.jobs[1]? "No previous job"
      | spec =>
        if spec.all Char.isDigit then
          demand (s.jobs.find? fun b => some b.slot == (String.ofList spec).toNat?) unknown
        -- The commands of jobs are known to be empty, and only an empty text is a part of them.
        else if spec == ['?'] then
          match s.jobs with
          | [b] => .ok b
          | [] => .error unknown
          | _ => .error (name ++ ": ambiguous")
        else .error unknown
    | _ => .error unknown
  match found with
  | .error message => fail message
  | .ok b =>
    if controls then fail ("job " ++ name ++ " not created under job control")
    return b

/-- Shows jobs. -/
def jobsBuiltin : Builtin := fun arguments => do
  let (flags, names) ← readFlags "lp" arguments
  let s ← get
  let jobs ← match names with
    | [] => pure s.jobs
    | names => names.mapM fun name => jobOf name false
  if flags.getLast? == some 'p' then
    return (0, String.join (jobs.map fun b => toString b.process ++ "\n"))
  -- A job whose end has been shown is gone.
  let (left, lines) := jobs.foldl (fun (left, lines) b =>
    let isAt (j : Option Background) : Bool := j.any fun j => j.slot == b.slot
    let mark := if isAt left.head? then '+' else if isAt left[1]? then '-' else ' '
    (if b.noticed then left.filter fun j => j.slot != b.slot else left,
      b.shown mark (!flags.isEmpty) :: lines)) (s.jobs, ([] : List String))
  set { s with background := left.reverse }
  return (0, String.join lines.reverse)

/-- Brings a job to the foreground, or lets it go on: there is no control of jobs. -/
def controlBuiltin : Builtin := fun arguments => do
  let (_, names) ← readFlags "" arguments
  match names with
  | name :: _ =>
    let _ ← jobOf name true
  | [] =>
    if (← get).background.isEmpty then fail "No current job"
    fail "job (null) not created under job control"
  return (0, "")

/-! ### Signals -/

/-- What is said if `kill` is called in a wrong way. -/
def killUsage : String :=
  "Usage: kill [-s sigspec | -signum | -sigspec] [pid | job]... or\nkill -l [exitstatus]"

/-- The names of all signals, or of the one that a status tells. -/
def listSignals (arguments : List String) : Action (Nat × String) := do
  match arguments with
  | [] =>
    let others := (List.range 64).map fun n => trapName (n + 1) ++ "\n"
    return (0, "0\n" ++ String.join others)
  | a :: _ =>
    let n ← number a
    let signal := if 128 < n then n - 128 else n
    if 0 < signal && signal ≤ Signal.last then return (0, trapName signal ++ "\n")
    fail ("invalid signal number or exit status: " ++ a)

/-- Sends a signal to a program, if there is one of the number. A job is no group of programs, so
that nothing can be sent to one by its name. -/
def sendSignal (signal : Nat) (target : String) : Action Bool := do
  if "%".isPrefixOf target then
    let _ ← jobOf target false
    return false
  let s ← get
  let n ← number (String.ofList (target.toList.dropWhile (· == '-')))
  if n == s.process || target == "0" then
    if signal != 0 then set { s with signals := s.signals ++ [signal] }
    return true
  match s.background.find? fun b => b.process == n && !b.noticed with
  | some _ =>
    if Signal.stops signal then
      let stopped (b : Background) : Background :=
        if b.process == n && b.ending.isNone then
          { b with pending := none, ending := some (.killed signal) }
        else b
      set { s with background := s.background.map stopped }
    return true
  | none => return n == s.parent && signal == 0

/-- Sends signals. -/
def killBuiltin : Builtin := fun arguments => do
  if arguments.isEmpty then fail killUsage
  let first := arguments.head?.getD ""
  let direct :=
    if "-".isPrefixOf first then
      (Signal.ofText? (String.ofList (first.toList.drop 1))).filter (0 < ·)
    else none
  let direct := if first == "-0" then some 0 else direct
  let (signal, lists, targets) ←
    if direct.isSome then pure (direct, false, arguments.drop 1)
    else if "-".isPrefixOf first then do
      let (options, r) ← readOptions ['l'] ['s'] (arguments.length + 1) arguments
      let mut signal := none
      for (letter, value) in options do
        if letter == 's' then
          match Signal.ofText? value with
          | some n => signal := some n
          | none => fail ("invalid signal number or name: " ++ value)
      pure (signal, options.any (·.1 == 'l'), r)
    else pure (none, false, arguments)
  if lists then
    if signal.isSome then fail killUsage
    listSignals targets
  else
    if targets.isEmpty then fail killUsage
    let mut status := 0
    for target in targets do
      if !(← sendSignal (signal.getD Signal.standard) target) then
        warn "No such process\n"
        status := 1
    return (status, "")

end EnvProfiles.Shell
