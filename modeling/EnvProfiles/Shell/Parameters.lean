import EnvProfiles.Shell.Session
import EnvProfiles.Tool.Condition

/-!
# Variables, Arguments and Flags

The commands of the shell that change what a script knows: variables, the
arguments of the script, and the flags it runs with.

What a command of the shell comes to is its status and what it writes. A mistake
in how it is called ends the command, and for some commands the script.

## Main definitions

* `Shell.Builtin`: A command of the shell.
* `Shell.exportBuiltin`, `Shell.unsetBuiltin`, `Shell.setBuiltin`, `Shell.localBuiltin`,
  `Shell.shiftBuiltin`, `Shell.getoptsBuiltin`: Commands of the shell.
-/

namespace EnvProfiles.Shell

/-- A command of the shell: from its arguments to its status and what it writes. -/
abbrev Builtin := List String → Action (Nat × String)

/-- A natural number that an argument says. -/
def number (text : String) : Action Nat := do
  match Condition.decimal? text with
  | some n =>
    if 0 ≤ n && fitsSigned 32 n then return n.toNat
    fail ("Illegal number: " ++ text)
  | none => fail ("Illegal number: " ++ text)

/-- The options at the start of some arguments, as letters with the values of those that take one,
and the arguments that follow. -/
def readOptions (letters valued : List Char) : Nat → List String →
    Action (List (Char × String) × List String)
  | 0, arguments => return ([], arguments)
  | n + 1, arguments =>
    match arguments with
    | [] => return ([], [])
    | a :: r =>
      if a == "--" then return ([], r)
      else if !"-".isPrefixOf a || a == "-" then return ([], arguments)
      else do
        let (options, r) ← readLetters (a.toList.drop 1) r
        let (more, r) ← readOptions letters valued n r
        return (options ++ more, r)
where
  readLetters : List Char → List String → Action (List (Char × String) × List String)
    | [], r => return ([], r)
    | c :: cs, r => do
      if valued.contains c then
        if !cs.isEmpty then return ([(c, String.ofList cs)], r)
        match r with
        | value :: r => return ([(c, value)], r)
        | [] => fail ("No arg for -" ++ String.singleton c ++ " option")
      else if letters.contains c then
        let (more, r) ← readLetters cs r
        return ((c, "") :: more, r)
      else fail ("Illegal option -" ++ String.singleton c)

/-- The options at the start of some arguments, none of which takes a value. -/
def readFlags (letters : String) (arguments : List String) : Action (List Char × List String) := do
  let (options, r) ← readOptions letters.toList [] (arguments.length + 1) arguments
  return (options.map (·.1), r)

/-- A text in single quotes, such that the shell would read it back. -/
def singleQuoted (text : String) : String :=
  String.join (("'" :: text.toList.map fun c => if c == '\'' then "'\"'\"'" else String.singleton c)
    ++ ["'"])

/-- The variables that satisfy a condition, in ascending order, each in a line with something before
its name. -/
def listVariables (start : String) (p : Variable → Bool) : Action String := do
  let shown := ((← get).bindings.filter fun e => p e.2).mergeSort fun a b => a.1 ≤ b.1
  return String.join (shown.map fun (name, v) =>
    start ++ name ++ (match v.value with
      | some value => "=" ++ singleQuoted value
      | none => "") ++ "\n")

/-- The name and the value of an argument that may set a variable. -/
def splitArgument (argument : String) : String × Option String :=
  let name := argument.toList.takeWhile (· != '=')
  (String.ofList name,
    if name.length < argument.length then
      some (String.ofList (argument.toList.drop (name.length + 1)))
    else none)

/-- The name of a variable, which an equals sign may end. -/
def nameOf (text : String) : String := String.ofList (text.toList.takeWhile (· != '='))

/-- Fails if a text is not the name of a variable. -/
def checkName (name : String) : Action Unit := do
  if !isName name.toList then fail (name ++ ": bad variable name")

/-- Marks variables, and sets those that are given a value. -/
def markBuiltin (word : String) (mark : Variable → Variable) (isMarked : Variable → Bool) :
    Builtin := fun arguments => do
  let (flags, names) ← readFlags "p" arguments
  if names.isEmpty || flags.contains 'p' then
    return (0, ← listVariables (word ++ " ") isMarked)
  for argument in names do
    let (name, value) := splitArgument argument
    checkName name
    match value with
    | some value => assign name value
    | none => pure ()
    modify fun s => s.setVariable name (mark ((s.variableOf? name).getD ⟨none, false, false⟩))
  return (0, "")

/-- Marks variables for the environment of programs. -/
def exportBuiltin : Builtin :=
  markBuiltin "export" (fun v => { v with exported := true }) (·.exported)

/-- Marks variables that are not to change any more. -/
def readonlyBuiltin : Builtin :=
  markBuiltin "readonly" (fun v => { v with readOnly := true }) (·.readOnly)

/-- Removes variables or functions. -/
def unsetBuiltin : Builtin := fun arguments => do
  let (flags, names) ← readFlags "vf" arguments
  for name in names do
    if flags.getLast? == some 'f' then
      modify fun s => { s with functions := s.functions.filter fun f => f.1 != name }
    else
      let name := nameOf name
      checkName name
      if ((← get).variableOf? name).any (·.readOnly) then fail (name ++ ": is read only")
      modify fun s => s.dropVariable name
  return (0, "")

/-- The names of flags and their letters. -/
def flagNames : List (String × Char) :=
  [("errexit", 'e'), ("noglob", 'f'), ("ignoreeof", 'I'), ("interactive", 'i'), ("monitor", 'm'),
    ("noexec", 'n'), ("stdin", 's'), ("xtrace", 'x'), ("verbose", 'v'), ("vi", 'V'), ("emacs", 'E'),
    ("noclobber", 'C'), ("allexport", 'a'), ("notify", 'b'), ("nounset", 'u'), ("privileged", 'p'),
    ("nolog", '0'), ("debug", '1')]

/-- Sets a flag or takes it away. -/
def setFlag (letter : Char) (on : Bool) : Action Unit := modify fun s =>
  { s with flags := if on then letter :: s.flags.filter (· != letter)
      else s.flags.filter (· != letter) }

/-- Sets the flag of a letter, if there is one. -/
def setLetter (letter : Char) (on : Bool) : Action Unit := do
  if flagNames.any fun f => f.2 == letter && !letter.isDigit then setFlag letter on
  else fail ("Illegal option -" ++ String.singleton letter)

/-- All flags with their names. While a script begins, no flag counts as taken away yet. -/
def listFlags (on beginning : Bool) : Action String := do
  let s ← get
  let isOn (letter : Char) : Bool := beginning || s.has letter
  if on then
    return "Current option settings\n" ++ String.join (flagNames.map fun (name, letter) =>
      name ++ String.ofList (List.replicate (16 - name.length) ' ') ++
        (if isOn letter then "on" else "off") ++ "\n")
  return String.join (flagNames.map fun (name, letter) =>
    "set " ++ (if isOn letter then "-" else "+") ++ "o " ++ name ++ "\n")

/-- Sets flags by arguments that begin with a sign. The outcome is what is to be written, and the
arguments that follow, unless there are to be none and no change. -/
def setFlags (atStart : Bool) : Nat → List String → Action (String × Option (List String))
  | 0, arguments => return ("", some arguments)
  | n + 1, arguments =>
    match arguments with
    | [] => return ("", none)
    | a :: r => do
      let letters := a.toList.drop 1
      let isOn := "-".isPrefixOf a
      if !isOn && !"+".isPrefixOf a then return ("", some arguments)
      if isOn && letters.isEmpty then
        if !atStart then
          setFlag 'x' false
          setFlag 'v' false
        return ("", if r.isEmpty then none else some r)
      if isOn && letters == ['-'] then
        return ("", some r)
      let mut written := ""
      let mut rest := r
      for letter in letters do
        if letter == 'o' then
          match rest with
          | [] => written := written ++ (← listFlags isOn false)
          | name :: more =>
            match flagNames.lookup name with
            | some flag => setFlag flag isOn
            | none => fail ("Illegal option -o " ++ name)
            rest := more
        else setLetter letter isOn
      let (more, r) ← setFlags atStart n rest
      return (written ++ more, r)

/-- Sets flags and arguments, or lists all variables. -/
def setBuiltin : Builtin := fun arguments => do
  if arguments.isEmpty then return (0, ← listVariables "" (·.value.isSome))
  let (written, rest) ← setFlags false (arguments.length + 1) arguments
  match rest with
  | some r => modify fun s => { s with arguments := r, optionPlace := 0 }
  | none => pure ()
  return (0, written)

/-- Variables that belong to the function that runs. -/
def localBuiltin : Builtin := fun arguments => do
  if (← get).depth == 0 then fail "not in a function"
  for argument in arguments do
    if argument == "-" then
      -- The flags come back when the function is left.
      modify fun s => match s.savedFlags with
        | none :: r => { s with savedFlags := some s.flags :: r }
        | _ => s
    else
      let (name, value) := splitArgument argument
      checkName name
      keepVariable name
      match value with
      | some value => assign name value
      | none => pure ()
  return (0, "")

/-- Drops arguments of the script. -/
def shiftBuiltin : Builtin := fun arguments => do
  let n ← match arguments with
    | a :: _ => number a
    | [] => pure 1
  let s ← get
  if s.arguments.length < n then fail "can't shift that many"
  set { s with arguments := s.arguments.drop n, optionPlace := 0 }
  return (0, "")

/-- What `getopts` finds next: the letter to be reported, the value that goes with it, a message,
and where to go on. -/
structure NextOption where
  letter : Char
  value : Option String
  message : Option String
  /-- How many arguments have been read. -/
  count : Nat
  /-- Where to go on within the last of them. -/
  place : Nat
  done : Bool

/-- Looks for the next option, given the letters that are known, of which those that take a value
have a colon after them. -/
def nextOption (known : List Char) (arguments : List String) (count place : Nat) : NextOption :=
  let silent := known.head? == some ':'
  let last := ((arguments[count - 1]?).getD "").toList
  let within := if count == 0 || place == 0 then [] else last.drop place
  let atEnd (count : Nat) : NextOption := ⟨'?', none, none, count, 0, true⟩
  let take (c : Char) (rest : List Char) (count place : Nat) : NextOption :=
    let after := (known.dropWhile (· != c)).drop 1
    if c == ':' || !known.contains c then
      if silent then ⟨'?', some (String.singleton c), none, count, place, false⟩
      else ⟨'?', none, some ("Illegal option -" ++ String.singleton c), count, place, false⟩
    else if after.head? == some ':' then
      if !rest.isEmpty then ⟨c, some (String.ofList rest), none, count, 0, false⟩
      else
        match arguments[count]? with
        | some value => ⟨c, some value, none, count + 1, 0, false⟩
        | none =>
          if silent then ⟨':', some (String.singleton c), none, count, place, false⟩
          else ⟨'?', none, some ("No arg for -" ++ String.singleton c ++ " option"), count, place,
            false⟩
    else ⟨c, some "", none, count, if rest.isEmpty then 0 else place, false⟩
  match within with
  | c :: rest => take c rest count (place + 1)
  | [] =>
    match arguments[count]? with
    | none => atEnd count
    | some a =>
      match a.toList with
      | ['-', '-'] => atEnd (count + 1)
      | '-' :: c :: rest => take c rest (count + 1) 2
      | _ => atEnd count

/-- Finds the next option among arguments. -/
def getoptsBuiltin : Builtin := fun arguments => do
  match arguments with
  | known :: name :: own =>
    let s ← get
    let given := if own.isEmpty then s.arguments else own
    let index ← number ((s.variableValue? optionVariable).getD "1")
    let next := nextOption known.toList given (max index 1 - 1) s.optionPlace
    match next.message with
    | some message =>
      let _ ← writeTo 2 (message ++ "\n")
    | none => pure ()
    if !next.done then
      match next.value with
      | some value => assign "OPTARG" value
      | none => modify fun s => s.dropVariable "OPTARG"
    assign optionVariable (toString (next.count + 1))
    let name := nameOf name
    checkName name
    assign name (String.singleton next.letter)
    modify fun s => { s with optionPlace := next.place }
    return (if next.done then 1 else 0, "")
  | _ => fail "Usage: getopts optstring var [arg...]"

end EnvProfiles.Shell
