import EnvProfiles.Shell.Arithmetic
import EnvProfiles.Shell.Input
import EnvProfiles.Shell.Find
import EnvProfiles.Shell.Jobs
import EnvProfiles.Shell.Limits
import EnvProfiles.Tool.Table

/-!
# Running Scripts

What a script does, line by line, and with it what a program does that is
started, since scripts start programs and one of these is the shell itself.

Scripts and programs start each other without an end in sight, so everything
here takes a bound on its depth first. A script that gets to the bound is
stopped like one for which there is no more room.

## Main definitions

* `Shell.evaluate`: What a command does.
* `Shell.runText`: What a text of commands does.
* `Shell.execute`: What a program does that is started.
-/

namespace EnvProfiles.Shell

/-! ### Repetition -/

/-- Takes turns, of which each may ask for another one, up to a limit. -/
def turns {σ : Type} : Nat → (σ → Action (Option σ)) → σ → Session →
    Except Flow Unit × Session
  | 0, _, _, s => (.error (.ended (.killed 9)), s)
  | n + 1, turn, state, s =>
    match (turn state).run.run s with
    | (.ok (some state), s) => turns n turn state s
    | (.ok none, s) => (.ok (), s)
    | (.error flow, s) => (.error flow, s)

/-- How many turns a loop may take. -/
def turnLimit : Nat := 2000000

/-- Takes turns as long as each asks for another one. -/
def repeatTurns {σ : Type} (turn : σ → Action (Option σ)) (state : σ) : Action Unit :=
  ExceptT.mk fun s => turns turnLimit turn state s

/-- The flow of a script for which there is no more room. -/
def exhausted : Flow := .ended (.killed 11)

/-! ### Words -/

/-- How a word is replaced. -/
structure Mode where
  /-- Whether the word is cut into fields. -/
  full : Bool
  /-- Whether a tilde at the start stands for a directory. -/
  tilde : Bool
  /-- Whether one after a colon does. -/
  colons : Bool
  /-- Whether text that stands without quotes is cut like a value. -/
  loose : Bool

/-- The directory that a tilde and a name stand for. -/
def homeOf? (s : Session) (name : String) : Option String :=
  if name == "" then s.variableValue? "HOME"
  else if name == "root" then some "/root"
  else none

/-- The cells of a text that stands without quotes; the first flag tells whether a tilde may come
next, and the second one whether nothing follows the text in its word. -/
def textCells (s : Session) (mode : Mode) (last : Bool) : Nat → Bool → List Char → List Cell
  | 0, _, _ => []
  | _ + 1, _, [] => []
  | n + 1, start, c :: r =>
    let plain := Cell.char c true mode.loose :: textCells s mode last n (mode.colons && c == ':') r
    if start && c == '~' then
      let name := r.takeWhile fun c => c != '/' && !(mode.colons && c == ':')
      let rest := r.drop name.length
      if rest.isEmpty && !last then plain
      else
        match homeOf? s (String.ofList name) with
        | some home => .quotes :: solidCells false home ++ textCells s mode last n false rest
        | none => plain
    else plain

/-- The cells of a value. A null character stands between the values of a list. -/
def valueCells (quoted : Bool) (value : String) : List Cell :=
  if quoted then value.toList.map fun c => if c == '\x00' then .boundary else .char c false false
  else looseCells value

/-- The values of all arguments of a script in one text. -/
def argumentList (s : Session) (full quoted : Bool) (name : String) : String :=
  if full && (name == "@" || !quoted) then String.intercalate "\x00" s.arguments
  else
    let separator := match s.variableValue? separatorVariable with
      | none => " "
      | some separators => String.ofList (separators.toList.take 1)
    String.intercalate separator s.arguments

/-- A text without the line feeds at its end, and without null characters. -/
def trimLines (text : String) : String :=
  String.ofList ((text.toList.filter (· != '\x00')).reverse.dropWhile (· == '\n')).reverse

/-- Whether quotes that begin here hold nothing but a list, which makes no field if it is empty. -/
def isBareList : List Part → Bool
  | [.parameter "@" .value _ true] => true
  | .parameter "@" .value _ true :: .text "" true :: _ => true
  | .parameter "@" .value _ true :: .text _ _ :: _ => false
  | .parameter "@" .value _ true :: .parameter _ _ _ quoted :: _ => !quoted
  | .parameter "@" .value _ true :: .output _ quoted :: _ => !quoted
  | .parameter "@" .value _ true :: .arithmetic _ quoted :: _ => !quoted
  | _ => false

/-- The value that a parameter has in an expression. -/
def numberOf (name : String) : Action Int := do
  let value := ((← get).value? name).getD ""
  if value == "" then return 0
  match Arithmetic.whole? value with
  | some n => return n
  | none => fail ("Illegal number: " ++ value)

/-- The value of an expression. -/
def calculate (text : String) : Action Int := do
  let refuse {α : Type} (what : String) : Action α :=
    fail ("arithmetic expression: " ++ what ++ ": \"" ++ text ++ "\"")
  match Expression.ofText text with
  | .error missing => refuse missing
  | .ok expression =>
    expression.evaluate numberOf (fun name n => assign name (toString n))
      (refuse "division by zero")

/-- The name of a parameter that can be set. -/
def checkSettable (name : String) : Action Unit := checkName name

/-! ### Commands of the shell itself -/

/-- What is written by a command of the shell, and its status. Output that cannot be written makes
the command fail. -/
def report (name : String) (outcome : Nat × String) : Action Unit := do
  match ← writeTo 1 outcome.2 with
  | none => setStatus outcome.1
  | some _ =>
    warn (name ++ ": I/O error")
    setStatus 1

/-- The facts about files that a script can ask for. -/
def facts (s : Session) : Condition.Facts := ⟨s.machine.disk, s.base⟩

/-- Answers a condition. -/
def testBuiltin (name : String) : Builtin := fun arguments => do
  let words ←
    if name == "[" then
      -- Only the first character of the last word counts.
      if (arguments.getLast?.all fun a => !"]".isPrefixOf a) then fail "missing ]"
      else pure arguments.dropLast
    else pure arguments
  match Condition.holdsInShell (facts (← get)) words with
  | .ok holds => return (if holds then 0 else 1, "")
  | .error message => fail message

/-- Writes arguments by a format. -/
def printfBuiltin : Builtin := fun arguments => do
  let (_, r) ← readOptions [] [] (arguments.length + 1) arguments
  match r with
  | [] => fail "usage: printf format [arg ...]"
  | format :: r =>
    let (pieces, status) := Printf.run .shell format r
    for (descriptor, text) in pieces do
      if descriptor == 2 then warn text
    return (status, String.join ((pieces.filter fun p => p.1 == 1).map (·.2)))

/-- Leaves loops, or goes on with one. -/
def leaveLoops (flow : Nat → Flow) : Builtin := fun arguments => do
  let n ← match arguments with
    | a :: _ =>
      let n ← number a
      if n == 0 then fail ("Illegal number: " ++ a)
      pure n
    | [] => pure 1
  let n := min n (← get).loops
  setStatus 0
  if 0 < n then throw (flow n)
  return (0, "")

/-- Ends a script. -/
def exitBuiltin : Builtin := fun arguments => do
  let s ← get
  let status ← match arguments with
    | a :: _ => number a
    | [] => pure (s.savedStatus.getD s.status)
  throw (.ended (.exited (status % 256)))

/-- Leaves a function. -/
def returnBuiltin : Builtin := fun arguments => do
  let status ← match arguments with
    | a :: _ => number a
    | [] => pure (← get).status
  setStatus status
  throw .returning

/-- The commands of the shell that run no other commands. -/
def simpleBuiltin? (name : String) : Option Builtin :=
  match name with
  | ":" => some fun _ => return (0, "")
  | "true" => some fun _ => return (0, "")
  | "false" => some fun _ => return (1, "")
  | "echo" => some fun arguments => return (0, Escape.echo arguments)
  | "printf" => some printfBuiltin
  | "test" => some (testBuiltin "test")
  | "[" => some (testBuiltin "[")
  | "read" => some readBuiltin
  | "export" => some exportBuiltin
  | "readonly" => some readonlyBuiltin
  | "unset" => some unsetBuiltin
  | "set" => some setBuiltin
  | "local" => some localBuiltin
  | "shift" => some shiftBuiltin
  | "getopts" => some getoptsBuiltin
  | "cd" => some cdBuiltin
  | "pwd" => some pwdBuiltin
  | "umask" => some umaskBuiltin
  | "trap" => some trapBuiltin
  | "kill" => some killBuiltin
  | "type" => some typeBuiltin
  | "alias" => some aliasBuiltin
  | "unalias" => some unaliasBuiltin
  | "break" => some (leaveLoops .breaking)
  | "continue" => some (leaveLoops .continuing)
  | "exit" => some exitBuiltin
  | "return" => some returnBuiltin
  | "hash" => some hashBuiltin
  | "jobs" => some jobsBuiltin
  | "times" => some fun _ => return (0, "0m0.000000s 0m0.000000s\n0m0.000000s 0m0.000000s\n")
  | "ulimit" => some ulimitBuiltin
  | "fg" => some controlBuiltin
  | "bg" => some controlBuiltin
  | _ => none

/-! ### Programs -/

/-- Sets the status that a program has ended with. What has stopped a program is told. -/
def noteEnding (ending : Ending) : Action Unit := do
  match ending with
  | .killed signal =>
    match Signal.notice? signal with
    | some message =>
      let _ ← writeTo 2 (message ++ "\n")
    | none => pure ()
  | .exited _ => pure ()
  setStatus ending.code

/-- Stops a script whose time is over. -/
def checkDeadline : Action Unit := do
  let s ← get
  match s.machine.deadline with
  | some time =>
    if time ≤ s.machine.clock then
      set { s with machine := { s.machine with clock := time } }
      throw (.ended (.killed 15))
  | none => return

/-- Runs a program that starts no other one. -/
def runTool (work : Job → Job) (name : String) (arguments : List String)
    (environment : List (String × String)) : Action Ending := do
  let s ← get
  let inputStream := s.descriptors.lookup 0
  let input : Except Refusal String := match inputStream with
    | none => .error .badDescriptor
    | some number => s.machine.available number
  let job : Job :=
    { call := ⟨name, arguments, environment, s.base, s.mask, s.machine.process + 1⟩
      disk := s.machine.disk, input
      seekable := inputStream.any s.machine.isSeekable
      sent := [], kept := [], status := 0, elapsed := 0 }
  let job := (work job).flush
  let used := match input, job.input with
    | .ok before, .ok after => before.length - after.length
    | _, _ => 0
  let machine := { s.machine with
    disk := job.disk, process := s.machine.process + 1, clock := s.machine.clock + job.elapsed }
  let machine := match inputStream with
    | some number => machine.consume number used
    | none => machine
  set { s with machine }
  checkDeadline
  let mut status := job.status
  for (descriptor, text) in job.sent.reverse do
    match ← writeTo descriptor text with
    | none => pure ()
    | some refusal =>
      let _ ← writeTo 2 (name ++ ": write error: " ++ refusal.detail ++ "\n")
      status := max status 1
  return .exited status

/-- The program that a script names in its first line, with one argument. -/
def interpreter? (octets : String) : Option (String × List String) :=
  match octets.toList with
  | '#' :: '!' :: r =>
    let line := (r.takeWhile (· != '\n')).dropWhile isBlank
    let program := line.takeWhile fun c => !isBlank c
    let argument := ((line.drop program.length).dropWhile isBlank).reverse.dropWhile isBlank
    if program.isEmpty then none
    else some (String.ofList program,
      if argument.isEmpty then [] else [String.ofList argument.reverse])
  | _ => none

/-- The state of a script that begins, which has no variables but those of its environment and some
of its own. -/
def newSession (s : Session) (name : String) (environment : List (String × String)) : Session :=
  let own : List (String × String) :=
    [(separatorVariable, standardSeparators), (searchVariable, standardPath), ("PS1", "# "),
      ("PS2", "> "), ("PS4", "+ "), (optionVariable, "1")]
  let fresh : Session :=
    { s with
      name, arguments := []
      bindings := own.map fun (name, value) => (name, ⟨some value, false, false⟩)
      functions := [], aliases := [], flags := []
      traps := s.traps.filter fun t => t.2 == "" && t.1 != 0
      signals := [], status := 0, outputStatus := 0
      line := 0, readLine := 0, functionLine := none, command := "", saved := [], loops := 0
      depth := 0
      documents := [], nextDocument := 0, process := s.machine.process + 1, parent := s.process
      isInner := false, background := [], lastProcess := none, located := [], savedFlags := []
      optionPlace := 0, savedStatus := none
      machine := { s.machine with process := s.machine.process + 1 } }
  let named := environment.filter fun e => isName e.1.toList
  let t := named.foldl (fun t (name, value) => t.setVariable name ⟨some value, true, false⟩) fresh
  let reset (t : Session) (name value : String) : Session :=
    t.setVariable name { (t.variableOf? name).getD ⟨none, false, false⟩ with value := some value }
  let t := reset (reset t separatorVariable standardSeparators) optionVariable "1"
  let t := reset t "PPID" (toString s.process)
  -- The path of the directory is believed if it leads there.
  let believed := (environment.lookup "PWD").filter fun path =>
    Path.isAbsolute path &&
      (match s.machine.disk.find s.base path with
        | .ok (place, _) => place == s.base
        | .error _ => false)
  let path := believed.getD (absolutePath s.base)
  { t with path }.setVariable "PWD" ⟨some path, true, false⟩

mutual

/-- The cells that the parts of a word make. -/
def expandParts : Nat → Mode → List Part → Action (List Cell)
  | 0, _, _ => throw exhausted
  | _ + 1, _, [] => return []
  | n + 1, mode, part :: parts => do
    let cells ← match part with
      | .text content false =>
        pure (textCells (← get) mode parts.isEmpty (content.length + 1) mode.tilde content.toList)
      | .text "" true => pure (if isBareList parts then [] else [.quotes])
      | .text content true => pure (solidCells false content)
      | .parameter name operation word quoted => expandParameter n mode name operation word quoted
      | .output body quoted => pure (valueCells quoted (← takeOutput n body))
      | .arithmetic expression quoted =>
        let text := joined (← expandParts n ⟨false, false, false, false⟩ expression)
        pure (valueCells quoted (toString (← calculate text)))
    return cells ++ (← expandParts n { mode with tilde := false } parts)

/-- The cells that a parameter makes. -/
def expandParameter : Nat → Mode → String → Operation → List Part → Bool → Action (List Cell)
  | 0, _, _, _, _, _ => throw exhausted
  | n + 1, mode, name, operation, word, quoted => do
    let s ← get
    let isList := name == "@" || name == "*"
    let value : Option String :=
      if isList then some (argumentList s mode.full quoted name) else s.value? name
    let wordCells : Action (List Cell) :=
      expandParts n ⟨mode.full, !quoted, false, !quoted && mode.full⟩ word
    let demand : Action Unit := do
      if value.isNone && s.has 'u' then fail (name ++ ": parameter not set")
    match operation with
    | .malformed => fail "Bad substitution"
    | .value =>
      demand
      return valueCells quoted (value.getD "")
    | .length =>
      demand
      let length := (value.getD "").length
      return valueCells quoted (toString length)
    | .trim atEnd longest =>
      demand
      let pattern := patternOf (← expandParts n ⟨false, true, false, false⟩ word)
      return valueCells quoted
        (String.ofList (Pattern.trim pattern (value.getD "").toList atEnd longest))
    | .choose choice orEmpty =>
      let present := value.any fun v => !(orEmpty && v == "")
      match choice, present with
      | .replacement, true => wordCells
      | .replacement, false => return if isList then [] else valueCells quoted ""
      | .fallback, false => wordCells
      | .assigned, false =>
        let text := joined (← expandParts n ⟨false, true, false, false⟩ word)
        checkSettable name
        assign name text
        return valueCells quoted text
      | .demanded, false =>
        let text := joined (← expandParts n ⟨false, true, false, false⟩ word)
        let message :=
          if word.isEmpty then "parameter not set" ++ (if orEmpty then " or null" else "") else text
        fail (name ++ ": " ++ message)
      | _, true => return valueCells quoted (value.getD "")

/-- What a command writes, without the line feeds at its end. -/
def takeOutput : Nat → Command → Action String
  | 0, _ => throw exhausted
  | n + 1, body => do
    let s ← get
    let (machine, number) := s.machine.addStream (.sink [] 0)
    set { s with machine }
    claimForNow
    let ending ← runInner n (evaluate n false body) fun s =>
      { s with descriptors := (1, number) :: s.descriptors.filter fun d => d.1 != 1 }
    noteWait n
    modify fun s => { s with outputStatus := ending.code }
    return trimLines ((← get).machine.written number)

/-- The texts that a word comes to. -/
def expandFields : Nat → Word → Action (List String)
  | 0, _ => throw exhausted
  | n + 1, word => do
    let cells ← expandParts n ⟨true, true, false, false⟩ word
    let s ← get
    let found := fields s.separators cells
    if s.has 'f' then return found.map Field.text
    return found.flatMap fun f => f.paths s.machine.disk s.base

/-- The texts that words come to; those that set variables are not cut for some commands. -/
def expandWords : Nat → List String → List Word → Action (List String)
  | 0, _, _ => throw exhausted
  | _ + 1, done, [] => return done
  | n + 1, done, word :: words => do
    let isSetting := Word.isAssignment word &&
      ((done.dropWhile fun w => w == "command" || "-".isPrefixOf w).head?.any fun name =>
        ["export", "readonly", "local", "alias"].contains name)
    let texts ←
      if isSetting then do
        let (name, value) := readSimple.splitAssignment word
        let cells ← expandParts n ⟨false, true, true, false⟩ value
        pure [name ++ "=" ++ joined cells]
      else expandFields n word
    expandWords n (done ++ texts) words

/-- What redirections refer to. A mistake here ends the script. -/
def expandTargets : Nat → List Redirection → Action (List (Nat × Direction × String))
  | 0, _ => throw exhausted
  | _ + 1, [] => return []
  | n + 1, .mk descriptor direction target :: more => do
    let text ← match direction with
      | .document _ => pure ""
      | _ => pure <| joined (← expandParts n ⟨false, true, false, false⟩ target)
    match direction with
    | .duplicate _ =>
      let isDigit := match text.toList with
        | [c] => c.isDigit
        | _ => false
      if !isDigit && text != "-" then
        -- The line is that of what has been read so far.
        modify fun s => { s with line := s.readLine }
        fail "Syntax error: Bad fd number"
    | _ => pure ()
    return (descriptor, direction, text) :: (← expandTargets n more)

/-- Carries out redirections one after the other. -/
def redirectAll : Nat → List (Nat × Direction × String) → Action Unit
  | 0, _ => throw exhausted
  | _ + 1, [] => return
  | n + 1, (descriptor, direction, text) :: more => do
    let setTo (number : Nat) : Action Unit := modify fun s =>
      { s with descriptors := (descriptor, number) :: s.descriptors.filter fun d =>
          d.1 != descriptor }
    let add (stream : Stream) : Action Unit := do
      let s ← get
      let (machine, number) := s.machine.addStream stream
      set { s with machine }
      setTo number
    let duplicate (text : String) : Action Unit := do
      if text == "-" then
        modify fun s => { s with descriptors := s.descriptors.filter fun d => d.1 != descriptor }
      else
        match ← stream? (text.toNat?.getD 0) with
        | some number => setTo number
        | none => fail (text ++ ": Bad file descriptor")
    let openAs (path : String) (how : Opening) : Action Unit := do
      let s ← get
      match s.machine.openFile s.base path how (0o666 &&& (0o777 - s.mask)) with
      | .ok (machine, .device (.descriptor d)) =>
        set { s with machine }
        duplicate (toString d)
      | .ok (machine, stream) =>
        set { s with machine }
        add stream
      | .error refusal =>
        let creating := how.creates
        let reason :=
          if refusal == .absent || refusal == .notDirectory then
            if creating then "Directory nonexistent" else "No such file"
          else refusal.detail
        fail ((if creating then "cannot create " else "cannot open ") ++ path ++ ": " ++ reason)
    match direction with
    | .document number =>
      let s ← get
      let cells ← expandParts n ⟨false, false, false, false⟩ ((s.documents.lookup number).getD [])
      add (.source (joined cells))
    | .read => openAs text .reading
    | .write =>
      let s ← get
      let exclusive := s.has 'C' && Condition.fileHolds (facts s) 'f' text
      openAs text { Opening.writing with exclusive }
    | .overwrite => openAs text .writing
    | .append => openAs text .adding
    | .readWrite => openAs text .both
    | .duplicate _ => duplicate text
    redirectAll n more

/-- Does something with redirections around it. If one of them cannot be carried out, the outcome
is that. -/
def withRedirections : Nat → List Redirection → Action Unit → Action Bool
  | 0, _, _ => throw exhausted
  | n + 1, redirections, act => do
    let redirections ← expandTargets n redirections
    let before := (← get).descriptors
    let restore : Action Unit := modify fun s => { s with descriptors := before }
    let carriedOut ← tryCatch (do redirectAll n redirections; return true) fun flow => do
      restore
      if flow == .failed then return false
      throw flow
    if !carriedOut then return false
    afterwards act restore
    return true

/-- Runs a part of a script by itself. -/
def runInner : Nat → Action Unit → (Session → Session) → Action Ending
  | 0, _, _ => throw exhausted
  | n + 1, act, prepare => do
    let outer ← get
    set (prepare outer.inner)
    let ending ← finishShell n act
    let inner ← get
    set { outer.leave inner with signals := outer.signals ++ inner.signals }
    return ending

/-- Runs a script or a part of one to its end, and what it does at its end. -/
def finishShell : Nat → Action Unit → Action Ending
  | 0, _ => throw exhausted
  | n + 1, act => do
    let endingOf (act : Action Unit) : Action Ending :=
      tryCatch (do act; return .exited ((← get).status % 256)) fun flow => do
        match flow with
        | .ended ending => return ending
        | _ => return .exited ((← get).status % 256)
    let ending ← endingOf act
    let s ← get
    let ending ← match ending, s.traps.lookup 0 with
      | .exited status, some action =>
        set { s with
          traps := s.traps.filter fun t => t.1 != 0
          status, savedStatus := some status, loops := 0 }
        match ← endingOf (do runText n action; setStatus status) with
        | .exited other => pure (.exited other)
        | killed => pure killed
      | ending, _ => pure ending
    settle n none
    return ending

/-- Runs what was started in the background and is over at a time, or all of it. -/
def settle : Nat → Option Nat → Action Unit
  | 0, _ => throw exhausted
  | n + 1, time => do
    let s ← get
    let isDue (b : Background) : Bool := b.pending.any fun p => time.all fun t => p.2 ≤ t
    match s.background.find? isDue with
    | none => return
    | some job =>
      match job.pending with
      | none => return
      | some (command, finish) =>
        let mark (ending : Option Ending) : Action Unit := modify fun s =>
          let update (b : Background) : Background :=
            if b.process == job.process then { b with pending := none, ending } else b
          { s with background := s.background.map update }
        mark none
        let clock := (← get).machine.clock
        let ending ← runInBackground n command
        mark (some ending)
        modify fun s => { s with machine := { s.machine with clock := max clock finish } }
        settle n time

/-- Runs a command that nothing waits for. It has nothing to read. -/
def runInBackground : Nat → Command → Action Ending
  | 0, _ => throw exhausted
  | n + 1, command => do
    let s ← get
    let (machine, number) := s.machine.addStream (.device .null)
    set { s with machine }
    runInner n (evaluate n false command) fun s =>
      { s with descriptors := (0, number) :: s.descriptors.filter fun d => d.1 != 0 }

/-- Starts a command that nothing waits for. If it takes its time, it is run only when that has
passed. -/
def startBackground : Nat → Command → Action Unit
  | 0, _ => throw exhausted
  | n + 1, command => do
    modify fun s => { s with machine := { s.machine with process := s.machine.process + 1 } }
    let (before, slot) := claimSlot (← get)
    set before
    let process := before.machine.process
    let ending ← runInBackground n command
    let after ← get
    let isOver := after.machine.clock == before.machine.clock
    let job : Background :=
      { process, slot, noticed := false, waited := false
        ending := if isOver then some ending else none
        pending := if isOver then none else some (command, after.machine.clock) }
    let s := if isOver then after else before
    set { s with background := s.background ++ [job], lastProcess := some process, status := 0 }

/-- Waits for a program that has been started: time has passed for jobs as well. -/
def noteWait : Nat → Action Unit
  | 0 => throw exhausted
  | n + 1 => do
    settle n (some (← get).machine.clock)
    noticeEnds

/-- Does what is to be done about signals that have come. -/
def deliver : Nat → Action Unit
  | 0 => throw exhausted
  | n + 1 => do
    checkDeadline
    let s ← get
    match s.signals with
    | [] => return
    | signal :: signals =>
      -- A part of a script leaves them to the whole.
      if s.isInner then return
      set { s with signals }
      match s.traps.lookup signal with
      | some "" => pure ()
      | some action =>
        let saved := s.savedStatus
        modify fun s => { s with savedStatus := some s.status }
        runText n action
        modify fun t => { t with savedStatus := saved, status := s.status }
      | none => if Signal.stops signal then throw (.ended (.killed signal))
      deliver n

/-- Runs the commands of a text, line by line. -/
def runText : Nat → String → Action Unit
  | 0, _ => throw exhausted
  | n + 1, text => runSource n false text

/-- Runs the commands of a text, line by line, given whether somebody looks at how they end. -/
def runSource : Nat → Bool → String → Action Unit
  | 0, _, _ => throw exhausted
  | n + 1, tested, text => do
    let s ← get
    let source : Source := ⟨text.toList, 1, s.aliases, [], [], [], s.nextDocument, none, [], false⟩
    repeatTurns (fun ((source, before) : Source × Bool) => do
      let s ← get
      let source :=
        { source with aliases := s.aliases, documents := [], next := s.nextDocument }
      match readLine source with
      | .last =>
        -- A text without commands has gone well.
        if !before then setStatus 0
        return none
      | .malformed message line =>
        modify fun s => { s with line }
        fail message
      | .command command rest =>
        modify fun s => { s with
          documents := rest.documents ++ s.documents, nextDocument := rest.next
          readLine := rest.line }
        evaluate n tested command
        let isEmpty := match command with
          | .nothing => true
          | _ => false
        return some (rest, before || !isEmpty)) (source, false)

/-- What a command does. The flag tells whether somebody looks at how it ends. -/
def evaluate : Nat → Bool → Command → Action Unit
  | 0, _, _ => throw exhausted
  | n + 1, tested, command => do
    -- A script that is only to be read does nothing any more.
    if (← get).has 'n' then return
    deliver n
    let checked : Action Unit := do
      let s ← get
      if s.has 'e' && !tested && s.status != 0 then throw (.ended (.exited (s.status % 256)))
    match command with
    | .nothing => return
    | .simple line assignments words redirections =>
      modify fun s => { s with line, outputStatus := 0 }
      runSimple n tested assignments words redirections
      deliver n
      checked
    | .redirected line body redirections =>
      modify fun s => { s with line }
      if !(← withRedirections n redirections (evaluate n tested body)) then
        setStatus failedStatus
    | .subshell line body redirections =>
      modify fun s => { s with line }
      let redirections ← expandTargets n redirections
      claimForNow
      let ending ← runInner n (do
        redirectAll n redirections
        evaluate n tested body) id
      noteWait n
      noteEnding ending
      deliver n
      checked
    | .background line body redirections =>
      modify fun s => { s with line }
      startBackground n (if redirections.isEmpty then body
        else .redirected line body redirections)
    | .sequence first second =>
      evaluate n tested first
      evaluate n tested second
    | .both first second =>
      evaluate n true first
      if (← get).status == 0 then evaluate n tested second
    | .either first second =>
      evaluate n true first
      if (← get).status != 0 then evaluate n tested second
    | .pipe commands background =>
      if background then startBackground n (.pipe commands false)
      else
        claimForNow
        findAhead commands
        let ending ← runPipe n tested none commands
        noteWait n
        noteEnding ending
        deliver n
        checked
    | .negation body =>
      evaluate n true body
      setStatus (if (← get).status == 0 then 1 else 0)
    | .branch condition yes no =>
      evaluate n true condition
      if (← get).status == 0 then evaluate n tested yes
      else
        match no with
        | .nothing => setStatus 0
        | no => evaluate n tested no
    | .repeated untilHolds condition body =>
      runLoop (fun (last : Nat) => do
        if !(← guarded (evaluate n true condition)) then return none
        if ((← get).status == 0) == untilHolds then
          setStatus last
          return none
        if !(← guarded (evaluate n tested body)) then return none
        return some (← get).status) 0
    | .each line name items body =>
      modify fun s => { s with line }
      let texts ← expandEach n items
      if texts.isEmpty then setStatus 0
      runLoop (fun (left : List String) => do
        match left with
        | [] => return none
        | text :: left =>
          assign name text
          if !(← guarded (evaluate n tested body)) then return none
          return some left) texts
    | .cases line subject clauses =>
      modify fun s => { s with line }
      let text := joined (← expandParts n ⟨false, true, false, false⟩ subject)
      runClauses n tested text clauses
    | .function _ name body =>
      modify fun s => { s with
        functions := (name, body) :: s.functions.filter fun f => f.1 != name, status := 0 }
where
  /-- Looks for the programs of a pipe, so that they are remembered. -/
  findAhead (commands : List Command) : Action Unit := do
    for command in commands do
      match command with
      | .simple _ _ ([.text name false] :: _) _ =>
        let s ← get
        let isOwn := specialBuiltins.contains name || builtinNames.contains name ||
          (s.functions.lookup name).isSome
        if isName name.toList && !isOwn then
          let _ ← locateProgram name
      | _ => pure ()
  /-- Runs a part of a loop. The outcome tells whether the loop goes on. -/
  guarded (act : Action Unit) : Action Bool :=
    tryCatch (do act; return true) fun flow => match flow with
      | .breaking (k + 2) => throw (.breaking (k + 1))
      | .breaking _ => return false
      | .continuing (k + 2) => throw (.continuing (k + 1))
      | .continuing _ => return true
      | flow => throw flow
  /-- Runs a loop by its turns. -/
  runLoop {σ : Type} (turn : σ → Action (Option σ)) (state : σ) : Action Unit := do
    modify fun s => { s with loops := s.loops + 1 }
    let leave : Action Unit := modify fun s => { s with loops := s.loops - 1 }
    afterwards (repeatTurns turn state) leave

/-- The texts that the words of a loop come to. -/
def expandEach : Nat → List Word → Action (List String)
  | 0, _ => throw exhausted
  | _ + 1, [] => return []
  | n + 1, word :: words => do
    let texts ← expandFields n word
    return texts ++ (← expandEach n words)

/-- Runs the command of the first clause that matches a text. -/
def runClauses : Nat → Bool → String → List Clause → Action Unit
  | 0, _, _, _ => throw exhausted
  | _ + 1, _, _, [] => setStatus 0
  | n + 1, tested, text, .mk patterns body :: clauses => do
    if ← anyMatches n text patterns then
      match body with
      | .nothing => setStatus 0
      | body => evaluate n tested body
    else runClauses n tested text clauses

/-- Whether one of some patterns matches a text. -/
def anyMatches : Nat → String → List Word → Action Bool
  | 0, _, _ => throw exhausted
  | _ + 1, _, [] => return false
  | n + 1, text, word :: words => do
    let pattern := patternOf (← expandParts n ⟨false, true, false, false⟩ word)
    if Pattern.covers pattern text.toList then return true
    anyMatches n text words

/-- Runs commands of which each reads what the one before it writes. -/
def runPipe : Nat → Bool → Option Nat → List Command → Action Ending
  | 0, _, _, _ => throw exhausted
  | _ + 1, _, _, [] => return .exited 0
  | n + 1, tested, input, command :: commands => do
    let replace (descriptor : Nat) (number : Option Nat) (s : Session) : Session :=
      match number with
      | some number =>
        { s with descriptors := (descriptor, number) :: s.descriptors.filter fun d =>
            d.1 != descriptor }
      | none => s
    if commands.isEmpty then runInner n (evaluate n tested command) (replace 0 input)
    else
      let s ← get
      let (machine, number) := s.machine.addStream (.sink [] 0)
      set { s with machine }
      let _ ← runInner n (evaluate n tested command) fun s =>
        replace 1 (some number) (replace 0 input s)
      let s ← get
      let (machine, next) := s.machine.addStream (.source (s.machine.written number))
      set { s with machine := machine.setStream number (.device .null) }
      runPipe n tested (some next) commands

/-- Runs a simple command. -/
def runSimple : Nat → Bool → List (String × Word) → List Word → List Redirection → Action Unit
  | 0, _, _, _, _ => throw exhausted
  | n + 1, tested, assignments, words, redirections => do
    let texts ← expandWords n [] words
    let (isDirect, texts) := stripCommand (texts.length + 1) texts
    let name := texts.head?.getD ""
    let isFunction := isDirect && ((← get).functions.lookup name).isSome
    let isSpecial := isDirect && specialBuiltins.contains name && !texts.isEmpty
    let keeps := texts.isEmpty || isSpecial
    let redirections ← expandTargets n redirections
    let before := (← get).descriptors
    let restore : Action Unit := modify fun s => { s with descriptors := before }
    let carriedOut ← tryCatch (do redirectAll n redirections; return true) fun flow => do
      restore
      if flow == .failed then return false
      throw flow
    if !carriedOut then
      setStatus failedStatus
      if isSpecial then throw .failed
      return
    let isExec := isDirect && name == "exec"
    let work : Action Unit := do
      assignAll n keeps (isExec && 1 < texts.length) assignments
      trace n assignments texts
      match texts with
      | [] =>
        let s ← get
        setStatus s.outputStatus
      | name :: arguments =>
        if isFunction then
          match (← get).functions.lookup name with
          | some body => runFunction n tested body arguments
          | none => return
        else runNamed n tested isDirect name arguments
    let located := (← get).located
    let framed : Action Unit :=
      if keeps then work
      else do
        pushFrame
        afterwards work popFrame
        -- What was found on another search path is not remembered.
        if assignments.any (·.1 == searchVariable) then modify fun s => { s with located }
    if isExec && texts.length == 1 then framed
    else afterwards framed restore
where
  /-- The texts of a call without what says that no function is meant. -/
  stripCommand : Nat → List String → Bool × List String
    | k + 1, "command" :: r =>
      match afterFlags r with
      | some texts => (false, (stripCommand k texts).2)
      | none => (true, "command" :: r)
    | _, texts => (true, texts)
  /-- What follows the flags of a call, unless something is asked about a command. -/
  afterFlags : List String → Option (List String)
    | [] => none
    | a :: r =>
      if a == "--" then (if r.isEmpty then none else some r)
      else if a == "-" || !"-".isPrefixOf a then some (a :: r)
      else if (a.toList.drop 1).all (· == 'p') then afterFlags r
      else none

/-- Sets variables, for a command only or for good. -/
def assignAll : Nat → Bool → Bool → List (String × Word) → Action Unit
  | 0, _, _, _ => throw exhausted
  | _ + 1, _, _, [] => return
  | n + 1, keeps, exported, (name, word) :: more => do
    let value := joined (← expandParts n ⟨false, true, true, false⟩ word)
    if !keeps then keepVariable name
    assignAs name value (exported || !keeps)
    assignAll n keeps exported more

/-- Shows a command that is about to be run, if the script asks for it. -/
def trace : Nat → List (String × Word) → List String → Action Unit
  | 0, _, _ => throw exhausted
  | _ + 1, assignments, texts => do
    let s ← get
    if s.has 'x' then
      let set := assignments.map fun (name, _) => name ++ "=" ++ (s.variableValue? name).getD ""
      let start := (s.variableValue? "PS4").getD ""
      let _ ← writeTo 2 (start ++ String.intercalate " " (set ++ texts) ++ "\n")

/-- Runs a function. -/
def runFunction : Nat → Bool → Command → List String → Action Unit
  | 0, _, _, _ => throw exhausted
  | n + 1, tested, body, arguments => do
    let before ← get
    set { before with
      arguments, loops := 0, depth := before.depth + 1, optionPlace := 0
      savedFlags := none :: before.savedFlags }
    let leave : Action Unit := modify fun s => { s with
      arguments := before.arguments, loops := before.loops, depth := before.depth
      functionLine := before.functionLine, optionPlace := before.optionPlace
      flags := (s.savedFlags.head?.join).getD s.flags, savedFlags := before.savedFlags }
    afterwards (tryCatch (evaluate n tested body) fun flow => match flow with
      | .returning => return
      | flow => throw flow) leave

/-- Runs a command of the shell or a program. -/
def runNamed : Nat → Bool → Bool → String → List String → Action Unit
  | 0, _, _, _, _ => throw exhausted
  | n + 1, tested, isDirect, name, arguments => do
    if specialBuiltins.contains name || builtinNames.contains name then
      let before := (← get).command
      modify fun s => { s with command := name }
      let restore : Action Unit := modify fun s => { s with command := before }
      afterwards (tryCatch (runBuiltin n tested name arguments) fun flow => do
        -- A mistake ends the command only, unless the command is special.
        if flow == .failed && !(isDirect && specialBuiltins.contains name) then return
        throw flow) restore
    else callProgram n name arguments

/-- Runs a command of the shell. -/
def runBuiltin : Nat → Bool → String → List String → Action Unit
  | 0, _, _, _ => throw exhausted
  | n + 1, tested, name, arguments => do
    match name with
    | "eval" =>
      runSource n tested (String.intercalate " " arguments)
    | "." =>
      match arguments with
      | [] => setStatus 0
      | path :: _ =>
        let s ← get
        let found := if isProgramPath path then some path
          else ((searchPlaces s).map fun d => if d == "" then path else Path.join d path).find?
            fun p => Condition.fileHolds (facts s) 'f' p
        match found with
        | none => fail (path ++ ": not found")
        | some path =>
          match s.machine.disk.read s.base path with
          -- A directory can be opened, but holds no commands.
          | .error .isDirectory => setStatus 0
          | .error refusal =>
            fail ("cannot open " ++ path ++ ": " ++
              (if refusal == .absent || refusal == .notDirectory then "No such file"
                else refusal.detail))
          | .ok octets =>
            modify fun s => { s with command := path }
            tryCatch (runText n octets) fun flow => match flow with
              | .returning => return
              | flow => throw flow
    | "exec" =>
      match arguments with
      | [] => setStatus 0
      | name :: arguments =>
        let s ← get
        let refuse (refusal : Refusal) : Action Unit :=
          die (name ++ ": " ++ refusalText refusal) (refusalStatus refusal)
        match if isProgramPath name then .ok name else searchProgram s name with
        | .error refusal => refuse refusal
        | .ok path =>
          match ← execute n path name arguments s.environment with
          | .ok ending => throw (.ended ending)
          | .error .noProgram =>
            throw (.ended (← runShell n "/bin/sh" (path :: arguments) s.environment))
          | .error refusal => refuse refusal
    | "command" =>
      let (flags, r) ← readFlags "vVp" arguments
      match r with
      | [] => setStatus 0
      | name :: _ =>
        let (status, text) ← describe name (flags.getLast? == some 'v')
        report "command" (status, text)
    | "wait" =>
      let (_, arguments) ← readFlags "" arguments
      match arguments with
      | [] =>
        settle n none
        noticeEnds
        modify fun s =>
          { s with background := s.background.map fun b => { b with waited := true }, status := 0 }
      | arguments =>
        for a in arguments do
          let job ←
            if "%".isPrefixOf a then do pure (some (← jobOf a false))
            else do
              let process ← number a
              pure ((← get).jobs.find? fun b => b.process == process)
          match job with
          | none => setStatus 127
          | some job =>
            match job.pending with
            | some (_, finish) => settle n (some finish)
            | none => pure ()
            let ending := ((← get).background.find? fun b => b.slot == job.slot).bind (·.ending)
            let ending := ending.getD (.exited 0)
            match ending with
            | .killed signal =>
              if !job.noticed then
                match Signal.notice? signal with
                | some text =>
                  let _ ← writeTo 2 (text ++ "\n")
                | none => pure ()
            | .exited _ => pure ()
            let update (b : Background) : Background :=
              if b.slot == job.slot then { b with noticed := true, waited := true } else b
            modify fun s => { s with
              background := s.background.map update, status := ending.code }
            noticeEnds
    | name =>
      match simpleBuiltin? name with
      | some run => report name (← run arguments)
      | none => setStatus 0

/-- Runs a program that a script names. -/
def callProgram : Nat → String → List String → Action Unit
  | 0, _, _ => throw exhausted
  | n + 1, name, arguments => do
    match ← locateProgram name with
    | .error refusal =>
      warn (name ++ ": " ++ refusalText refusal)
      setStatus 127
    | .ok path =>
      claimForNow
      let s ← get
      match ← execute n path name arguments s.environment with
      | .ok ending =>
        noteWait n
        noteEnding ending
      | .error .noProgram =>
        -- A file that may be run and is no program is a script.
        let ending ← runShell n "/bin/sh" (path :: arguments) s.environment
        noteWait n
        noteEnding ending
      | .error refusal =>
        warn (name ++ ": " ++ refusalText refusal)
        setStatus (refusalStatus refusal)

/-- What a program does that is started by its path, unless it cannot be started. -/
def execute : Nat → String → String → List String → List (String × String) →
    Action (Except Refusal Ending)
  | 0, _, _, _, _ => throw exhausted
  | n + 1, path, name, arguments, environment => do
    let s ← get
    match s.machine.disk.find s.base path with
    | .error refusal => return .error refusal
    | .ok (_, node) =>
      match node.content with
      | .program program => return .ok (← runProgram n program name arguments environment)
      | .file octets =>
        if !Disk.isRunnable node then return .error .denied
        match interpreter? octets with
        | some (program, own) =>
          execute n program program (own ++ path :: arguments) environment
        | none => return .error .noProgram
      | _ => return .error .denied

/-- What a program of the machine does. -/
def runProgram : Nat → String → String → List String → List (String × String) → Action Ending
  | 0, _, _, _, _ => throw exhausted
  | n + 1, program, name, arguments, environment => do
    if ["sh", "dash", "bash"].contains program then runShell n name arguments environment
    else
      match Starter.table.lookup program, Tool.table.lookup program with
      | some work, _ => work ⟨name, arguments, environment, launchNamed n⟩
      | none, some work => runTool work name arguments environment
      | none, none => return .exited 127

/-- Starts a program by its name, which is looked for unless it is a path. A file that may be run
and is no program is a script. -/
def launchNamed : Nat → String → List String → List (String × String) →
    Action (Except Refusal Ending)
  | 0, _, _, _ => throw exhausted
  | n + 1, name, arguments, environment => do
    let s ← get
    let directories := searchDirectories ((environment.lookup searchVariable).getD "/bin:/usr/bin")
    let candidates := if isProgramPath name then [name]
      else directories.map fun d => if d == "" then name else Path.join d name
    let found := candidates.find? fun path => (s.machine.disk.find s.base path).isOk
    match found with
    | none => return .error (match s.machine.disk.find s.base (candidates.head?.getD "") with
        | .error refusal => if isProgramPath name then refusal else .absent
        | .ok _ => .absent)
    | some path =>
      match ← execute n path name arguments environment with
      | .error .noProgram => return .ok (← runShell n "/bin/sh" (path :: arguments) environment)
      | outcome => return outcome

/-- What the shell does as a program. -/
def runShell : Nat → String → List String → List (String × String) → Action Ending
  | 0, _, _, _ => throw exhausted
  | n + 1, name, arguments, environment => do
    let outer ← get
    set (newSession outer name environment)
    let ending ← finishShell n do
      let (takesText, readsInput, r) ← startFlags (arguments.length + 1) arguments
      match r with
      | [] =>
        if takesText then fail "-c requires an argument"
        readScript n
      | first :: more =>
        if takesText then
          modify fun s => { s with name := more.head?.getD s.name, arguments := more.drop 1 }
          runTop n first
        else if readsInput then
          modify fun s => { s with arguments := r }
          readScript n
        else
          let s ← get
          match s.machine.disk.read s.base first with
          | .error .isDirectory => return
          | .error refusal =>
            let missing := refusal == .absent || refusal == .notDirectory
            fail ("cannot open " ++ first ++ ": " ++
              (if missing then "No such file" else refusal.detail))
          | .ok octets =>
            modify fun s => { s with name := first, arguments := more }
            runTop n octets
    let inner ← get
    set { outer with machine := inner.machine }
    return ending
where
  /-- The flags at the start of the arguments: whether a text of commands follows, whether they are
  read from the standard input, and what follows. -/
  startFlags : Nat → List String → Action (Bool × Bool × List String)
    | 0, r => return (false, false, r)
    | k + 1, arguments => do
      match arguments with
      | [] => return (false, false, [])
      | a :: r =>
        let letters := a.toList.drop 1
        let isOn := "-".isPrefixOf a
        if !isOn && !"+".isPrefixOf a then return (false, false, arguments)
        if isOn && (letters.isEmpty || letters == ['-']) then return (false, false, r)
        let mut rest := r
        let mut text := false
        let mut input := false
        for letter in letters do
          if letter == 'c' then text := true
          else if letter == 'l' then pure ()
          else if letter == 'o' then
            match rest with
            | [] => let _ ← writeTo 1 (← listFlags isOn true)
            | name :: more =>
              match flagNames.lookup name with
              | some flag => setFlag flag isOn
              | none => fail ("Illegal option -o " ++ name)
              rest := more
          else
            if letter == 's' && isOn then input := true
            setLetter letter isOn
        let (moreText, moreInput, r) ← startFlags k rest
        return (text || moreText, input || moreInput, r)

/-- Runs the commands that are read from the standard input. -/
def readScript : Nat → Action Unit
  | 0 => throw exhausted
  | n + 1 => do
    setFlag 's' true
    match ← stream? 0 with
    | none => return
    | some number =>
      match (← get).machine.available number with
      | .error _ => return
      | .ok text =>
        modify fun s => { s with machine := s.machine.consume number text.length }
        runTop n text

/-- Runs the commands of a whole script. -/
def runTop : Nat → String → Action Unit
  | 0, _ => throw exhausted
  | n + 1, text =>
    tryCatch (runSource n false text) fun flow => match flow with
      | .returning => return
      | flow => throw flow

end

end EnvProfiles.Shell
