import EnvProfiles.Shell.Parameters
import EnvProfiles.Shell.Signal

/-!
# The Surroundings of a Script

The commands of the shell that deal with what is around a script: the directory
it is in, the permissions of new files, signals, and names of commands.

## Main definitions

* `Shell.cdBuiltin`, `Shell.pwdBuiltin`, `Shell.umaskBuiltin`: Directories and permissions.
* `Shell.trapBuiltin`: Signals.
* `Shell.aliasBuiltin`, `Shell.hashBuiltin`, `Shell.describe`: Names of commands.
* `Shell.locateProgram`: The path of a program.
-/

namespace EnvProfiles.Shell

/-- The names of a path without dots, where two of them take back the name before. -/
def simplified (names : List String) : List String :=
  (names.foldl (fun done name =>
    if name == "." || name == "" then done
    else if name == ".." then done.drop 1
    else name :: done) []).reverse

/-- A path from the root. -/
def absolutePath (names : List String) : String := "/" ++ String.intercalate "/" names

/-- The path that leads to the same place from the root, as it is named. -/
def namedPath (s : Session) (path : String) : String :=
  let names := Terrain.names path
  absolutePath (simplified (if Path.isAbsolute path then names
    else Terrain.names s.path ++ names))

/-- Makes a directory the one at which paths begin, and says by which path it was reached. -/
def enter (target : String) (physical : Bool) : Action Bool := do
  let s ← get
  let path := if physical then target else namedPath s target
  match s.machine.disk.find s.base path with
  | .ok (place, ⟨.directory, _, _⟩) =>
    let shown := if physical then absolutePath place else path
    let located := s.located.map fun l : Located => { l with stale := true }
    set { s with base := place, path := shown, located }
    assignAs "OLDPWD" s.path true
    assignAs "PWD" shown true
    return true
  | _ => return false

/-- Changes the directory. -/
def cdBuiltin : Builtin := fun arguments => do
  let (flags, r) ← readFlags "LP" arguments
  let s ← get
  let home := s.variableValue? "HOME"
  let (target, shows) := match r with
    | [] => (home.getD "", false)
    | "-" :: _ => ((s.variableValue? "OLDPWD").getD "", true)
    | a :: _ => (a, false)
  let physical := flags.getLast? == some 'P'
  let direct := Path.isAbsolute target || ["." , ".."].contains ((Terrain.names target).head?.getD
    "")
  let target := if target == "" then "." else target
  let places := if direct then []
    else (s.variableValue? "CDPATH").elim [] fun p => splitAt ':' p.toList |>.map String.ofList
  for place in places do
    if ← enter (Path.join place target) physical then
      let path := (← get).path
      return (0, if place == "" && !shows then "" else path ++ "\n")
  if ← enter target physical then
    let path := (← get).path
    return (0, if shows then path ++ "\n" else "")
  fail ("can't cd to " ++ target)

/-- Writes the path of the directory. -/
def pwdBuiltin : Builtin := fun arguments => do
  let (flags, _) ← readFlags "LP" arguments
  let s ← get
  return (0, (if flags.getLast? == some 'P' then absolutePath s.base else s.path) ++ "\n")

/-! ### Permissions -/

/-- A number in octal digits, at least four of them. -/
def octalText (n : Nat) : String :=
  let ds := Nat.toDigits 8 n
  String.ofList (List.replicate (4 - ds.length) '0' ++ ds)

/-- The letters of three bits. -/
def permissionLetters (bits : Nat) : String :=
  (if bits &&& 4 != 0 then "r" else "") ++ (if bits &&& 2 != 0 then "w" else "") ++
    (if bits &&& 1 != 0 then "x" else "")

/-- What letters say about permissions, for whoever is meant, as bits that are given or taken. -/
def clauseBits (clause : List Char) (mode : Nat) : Option Nat :=
  let who := clause.takeWhile fun c => "ugoa".toList.contains c
  let among (bits : Nat) : Nat :=
    let part (c : Char) (shift : Nat) : Nat :=
      if who.isEmpty || who.contains c || who.contains 'a' then bits * shift else 0
    part 'u' 64 + part 'g' 8 + part 'o' 1
  match clause.drop who.length with
  | sign :: letters =>
    if letters.all fun c => "rwxXst".toList.contains c then
      let bits := among ((if letters.contains 'r' then 4 else 0) +
        (if letters.contains 'w' then 2 else 0) +
        (if letters.contains 'x' || letters.contains 'X' then 1 else 0))
      match sign with
      | '+' => some (mode ||| bits)
      | '-' => some (mode - (mode &&& bits))
      | '=' => some (mode - (mode &&& among 7) + bits)
      | _ => none
    else none
  | [] => none

/-- The permissions that a text says, given the ones so far. -/
def symbolicMode (text : String) (mode : Nat) : Option Nat :=
  (splitAt ',' text.toList).foldlM (fun mode clause => clauseBits clause mode) mode

/-- Shows or changes the permissions that new files do not get. -/
def umaskBuiltin : Builtin := fun arguments => do
  let (flags, r) ← readFlags "S" arguments
  let s ← get
  match r with
  | [] =>
    if flags.contains 'S' then
      let kept := 0o777 - s.mask
      return (0, "u=" ++ permissionLetters (kept / 64) ++ ",g=" ++ permissionLetters (kept / 8 % 8)
        ++ ",o=" ++ permissionLetters (kept % 8) ++ "\n")
    return (0, octalText s.mask ++ "\n")
  | a :: _ =>
    if a.toList.head?.any Char.isDigit then
      if !a.toList.all fun c => '0' ≤ c && c ≤ '7' then fail ("Illegal number: " ++ a)
      set { s with mask := (Arithmetic.value 8 a.toList) % 0o1000 }
      return (0, "")
    match symbolicMode a (0o777 - s.mask) with
    | some mode =>
      set { s with mask := 0o777 - mode % 0o1000 }
      return (0, "")
    | none => fail ("Illegal mode: " ++ a)

/-! ### Signals -/

/-- The number of a signal or of the end of the script. -/
def trapNumber? (text : String) : Option Nat :=
  if text.map Char.toUpper == "EXIT" then some 0 else Signal.ofText? text

/-- The name of a signal or of the end of the script. -/
def trapName (number : Nat) : String :=
  if number == 0 then "EXIT" else (Signal.names[number - 1]?).getD (toString number)

/-- Says what is done when a signal comes. -/
def trapBuiltin : Builtin := fun arguments => do
  let (_, r) ← readFlags "" arguments
  let s ← get
  match r with
  | [] =>
    let lines := (List.range 65).filterMap fun n => (s.traps.lookup n).map fun action =>
      "trap -- " ++ singleQuoted action ++ " " ++ trapName n ++ "\n"
    return (0, String.join lines)
  | first :: more =>
    let resets := more.isEmpty || (!first.isEmpty && first.toList.all Char.isDigit)
    let (action, names) := if resets then (none, r) else (some first, more)
    for name in names do
      match trapNumber? name with
      | none =>
        let _ ← writeTo 2 ("trap: " ++ name ++ ": bad trap\n")
        return (1, "")
      | some number =>
        modify fun s =>
          let others := s.traps.filter fun t => t.1 != number
          match action with
          | some "-" => { s with traps := others }
          | some action => { s with traps := (number, action) :: others }
          | none => { s with traps := others }
    return (0, "")

/-! ### Names of commands -/

/-- The other commands of the shell. -/
def builtinNames : List String :=
  ["[", "alias", "bg", "cd", "command", "echo", "false", "fg", "getopts", "hash", "jobs", "kill",
    "printf", "pwd", "read", "test", "true", "type", "ulimit", "umask", "unalias", "wait"]

/-- The directories in which a script looks for programs. -/
def searchPlaces (s : Session) : List String :=
  searchDirectories ((s.variableValue? searchVariable).getD standardPath)

/-- The path of a program that is looked for, or why there is none. -/
def searchProgram (s : Session) (name : String) : Except Refusal String :=
  (searchPlaces s).foldl (fun found d =>
    match found with
    | .ok path => .ok path
    | .error refusal =>
      let path := if d == "" then name else Path.join d name
      match s.machine.disk.find s.base path with
      | .ok (_, node) => if Disk.isRunnable node then .ok path else .error .denied
      | .error other =>
        .error (if other == .absent || other == .notDirectory then refusal else other))
    (.error .absent)

/-- The path of a program, which is looked for unless its name is a path itself. What has been found
is remembered. -/
def locateProgram (name : String) : Action (Except Refusal String) := do
  if isProgramPath name then return .ok name
  let s ← get
  match s.located.find? fun l => l.name == name && !l.stale with
  | some l => return .ok l.path
  | none =>
    match searchProgram s name with
    | .ok path =>
      let found : Located := ⟨name, path, false⟩
      let known := s.located.any (·.name == name)
      let located := if known then s.located.map fun l => if l.name == name then found else l
        else s.located ++ [found]
      set { s with located }
      return .ok path
    | .error refusal =>
      set { s with located := s.located.filter fun l => l.name != name }
      return .error refusal

/-- What is said of a program that cannot be run. -/
def refusalText (refusal : Refusal) : String :=
  if refusal == .absent || refusal == .notDirectory then "not found" else refusal.detail

/-- The status of a program that cannot be run. -/
def refusalStatus (refusal : Refusal) : Nat :=
  if [.absent, .notDirectory, .nameTooLong, .tooManyLinks].contains refusal then 127 else 126

/-- What a name stands for as a command, in short or in words. -/
def describe (name : String) (short : Bool) : Action (Nat × String) := do
  let s ← get
  let answer (brief long : String) : Action (Nat × String) :=
    return (0, if short then brief ++ "\n" else name ++ long ++ "\n")
  if keywords.contains name then answer name " is a shell keyword"
  else
    match s.aliases.lookup name with
    | some value =>
      answer ("alias " ++ name ++ "=" ++ singleQuoted value) (" is an alias for " ++ value)
    | none =>
      if specialBuiltins.contains name then answer name " is a special shell builtin"
      else if (s.functions.lookup name).isSome then answer name " is a shell function"
      else if builtinNames.contains name then answer name " is a shell builtin"
      else
        let missing : Nat × String := (127, if short then "" else name ++ ": not found\n")
        match s.located.find? (·.name == name) with
        | some known => answer known.path (" is a tracked alias for " ++ known.path)
        | none =>
          match ← locateProgram name with
          | .ok path =>
            if isProgramPath name && !s.machine.disk.contains s.base path then return missing
            else answer path (" is " ++ path)
          | .error _ => return missing

/-- Says what names stand for. -/
def typeBuiltin : Builtin := fun arguments => do
  let answers ← arguments.mapM fun name => describe name false
  return (answers.foldl (fun status a => if a.1 == 0 then status else a.1) 0,
    String.join (answers.map (·.2)))

/-- The place of a command among those that are remembered: the remainder of a weight of its
name. -/
def commandBucket (name : String) : Nat :=
  match name.toList with
  | c :: r => ((c :: r).foldl (fun n d => n + d.toNat) (c.toNat * 16)) % 31
  | [] => 0

/-- Shows which programs have been found, looks for others, or forgets them all. -/
def hashBuiltin : Builtin := fun arguments => do
  let (flags, names) ← readFlags "r" arguments
  if !flags.isEmpty then
    modify fun s => { s with located := [] }
    return (0, "")
  match names with
  | [] =>
    let located := (← get).located
    let line (l : Located) : String := l.path ++ (if l.stale then "*\n" else "\n")
    return (0, String.join ((List.range 31).flatMap fun b =>
      (located.filter fun l => commandBucket l.name == b).map line))
  | names =>
    let mut status := 0
    for name in names do
      let s ← get
      let isOwn := specialBuiltins.contains name || builtinNames.contains name ||
        (s.functions.lookup name).isSome
      if !isOwn then
        match ← locateProgram name with
        | .ok _ => pure ()
        | .error refusal =>
          warn (name ++ ": " ++ refusalText refusal)
          status := 1
    return (status, "")

/-- Gives short names to commands. -/
def aliasBuiltin : Builtin := fun arguments => do
  if arguments.isEmpty then
    let sorted := (← get).aliases.mergeSort fun a b => a.1 ≤ b.1
    return (0, String.join (sorted.map fun (name, value) =>
      name ++ "=" ++ singleQuoted value ++ "\n"))
  let mut status := 0
  let mut written := ""
  for argument in arguments do
    -- The name has at least one character, whatever that is.
    let (tail, value) := splitArgument (String.ofList (argument.toList.drop 1))
    match String.ofList (argument.toList.take 1) ++ tail, value with
    | name, some value =>
      modify fun s => { s with aliases := (name, value) :: s.aliases.filter fun a => a.1 != name }
    | name, none =>
      match (← get).aliases.lookup name with
      | some value => written := written ++ name ++ "=" ++ singleQuoted value ++ "\n"
      | none =>
        let _ ← writeTo 2 ("alias: " ++ name ++ " not found\n")
        status := 1
  return (status, written)

/-- Takes short names away. -/
def unaliasBuiltin : Builtin := fun arguments => do
  let (flags, names) ← readFlags "a" arguments
  if flags.contains 'a' then
    modify fun s => { s with aliases := [] }
    return (0, "")
  let mut status := 0
  for name in names do
    if ((← get).aliases.lookup name).isSome then
      modify fun s => { s with aliases := s.aliases.filter fun a => a.1 != name }
    else
      let _ ← writeTo 2 ("unalias: " ++ name ++ " not found\n")
      status := 1
  return (status, "")

end EnvProfiles.Shell
