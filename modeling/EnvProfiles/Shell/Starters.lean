import EnvProfiles.Shell.Session
import EnvProfiles.Shell.Signal
import EnvProfiles.Tool.Blocks
import EnvProfiles.Tool.System

/-!
# Programs that Start Others

Programs whose arguments are a command: they change what it finds around it, run
it with arguments that they read, or stop it after some time. How a program is
started is a parameter here, since starting one may lead to any other.

## Main definitions

* `Starter.Launcher`: Starts a program by its name.
* `Starter.env`, `Starter.timeout`, `Starter.xargs`: The programs.
-/

namespace EnvProfiles.Shell.Starter

/-- Starts a program by its name, with arguments and an environment. -/
abbrev Launcher := String → List String → List (String × String) → Action (Except Refusal Ending)

/-- What a program is that starts others, given how it was called. -/
structure Caller where
  name : String
  arguments : List String
  environment : List (String × String)
  launch : Launcher

/-- Says something about a failure. -/
def complain (c : Caller) (text : String) : Action Unit := do
  let _ ← writeTo 2 (c.name ++ ": " ++ text ++ "\n")

/-- Ends because of a call that is wrong. -/
def misuse (c : Caller) (text : String) (status : Nat) : Action Ending := do
  complain c text
  let _ ← writeTo 2 ("Try '" ++ c.name ++ " --help' for more information.\n")
  return .exited status

/-- Reads the options of a call, which end at the command. -/
def withOptions (c : Caller) (status : Nat) (form : Options.Form)
    (work : List Options.Given → List String → Action Ending) : Action Ending := do
  match Options.read { form with strict := true } c.arguments with
  | .error message => misuse c message status
  | .ok (given, rest) =>
    if Options.has given "help" || Options.has given "version" then return .exited 0
    work given rest

/-- Runs a command in place of the program itself. -/
def become (c : Caller) (environment : List (String × String)) (command : List String)
    (quotes : Bool) : Action Ending := do
  match command with
  | [] => return .exited 0
  | name :: arguments =>
    match ← c.launch name arguments environment with
    | .ok ending => return ending
    | .error refusal =>
      let start := if quotes then "" else "failed to run command "
      complain c (start ++ Quote.always name ++ ": " ++ refusal.detail)
      return .exited (if refusal == .absent || refusal == .notDirectory then 127 else 126)

/-! ### The environment -/

/-- The words of a text, of which blanks between quotes are a part. -/
def wordsOf : Nat → Option Char → Option (List Char) → List Char → List String
  | 0, _, _, _ => []
  | _ + 1, _, word, [] => (word.map fun w => String.ofList w.reverse).toList
  | n + 1, quote, word, c :: r =>
    let add (d : Char) (r : List Char) : List String :=
      wordsOf n quote (some (d :: word.getD [])) r
    match quote with
    | some q =>
      if c == q then wordsOf n none (some (word.getD [])) r
      else
        match c, r with
        | '\\', d :: r' => if q == '"' || d == '\'' || d == '\\' then add d r' else add c r
        | _, _ => add c r
    | none =>
      if c == '\'' || c == '"' then wordsOf n (some c) (some (word.getD [])) r
      else if c == ' ' || c == '\t' || c == '\n' then
        match word with
        | some w => String.ofList w.reverse :: wordsOf n none none r
        | none => wordsOf n none none r
      else
        match c, r with
        | '\\', d :: r' => add d r'
        | _, _ => add c r

/-- Assignments at the start of words, and the words after them. -/
def assignments : List String → List (String × String) × List String
  | [] => ([], [])
  | w :: r =>
    let name := w.toList.takeWhile (· != '=')
    if name.length < w.length then
      let (more, rest) := assignments r
      ((String.ofList name, String.ofList (w.toList.drop (name.length + 1))) :: more, rest)
    else ([], w :: r)

/-- `env`: runs a command in a changed environment, or shows it. -/
def env (c : Caller) : Action Ending := do
  -- The text of one option holds words that stand in its place.
  let expanded := c.arguments.flatMap fun a =>
    if "-S".isPrefixOf a && a != "-S" then wordsOf (a.length + 2) none none (a.toList.drop 2)
    else [a]
  let expanded := match expanded.span (· != "-S") with
    | (before, _ :: text :: after) =>
      if before.all fun a => "-".isPrefixOf a then
        before ++ wordsOf (text.length + 2) none none text.toList ++ after
      else expanded
    | _ => expanded
  withOptions { c with arguments := expanded } 125 ⟨"iu:0C:v", [("ignore-environment", "i"),
    ("unset", "u"), ("null", "0"), ("chdir", "C"), ("debug", "v"), ("split-string", "S:")], true⟩
    fun given rest => do
    let (clears, rest) := match rest with
      | "-" :: r => (true, r)
      | r => (Options.has given "i", r)
    let start := if clears then [] else c.environment
    let kept := given.foldl (fun e g => match g with
      | ("u", some name) => e.filter fun v => v.1 != name
      | _ => e) start
    let (own, command) := assignments rest
    let environment := own.foldl (fun e (name, value) =>
      if e.any (·.1 == name) then e.map fun v => if v.1 == name then (name, value) else v
      else e ++ [(name, value)]) kept
    let before := (← get).base
    let moved ← match Options.value? given "C" with
      | none => pure true
      | some path =>
        match (← get).machine.disk.find before path with
        | .ok (place, ⟨.directory, _, _⟩) =>
          modify fun s => { s with base := place }
          pure true
        | found =>
          let reason := match found with
            | .error refusal => refusal.detail
            | .ok _ => Refusal.notDirectory.detail
          complain c ("cannot change directory to " ++ Quote.always path ++ ": " ++ reason)
          pure false
    if !moved then return .exited 125
    let leave : Action Unit := modify fun s => { s with base := before }
    match command with
    | [] =>
      if Options.has given "C" then
        leave
        misuse c "must specify command with --chdir (-C)" 125
      else
        let stop := if Options.has given "0" then "\x00" else "\n"
        let _ ← writeTo 1 (String.join (environment.map fun (n, v) => n ++ "=" ++ v ++ stop))
        return .exited 0
    | command =>
      if Options.has given "0" then
        leave
        misuse c "cannot specify --null (-0) with command" 125
      else afterwards (become c environment command true) leave

/-! ### Ways to run a command -/

/-- `nohup` and others: run a command in a way that makes no difference here. -/
def plainly (form : Options.Form) (failure : Nat) (c : Caller) : Action Ending :=
  withOptions c failure form fun _ rest => do
    if rest.isEmpty then misuse c "missing operand" failure
    else become c c.environment rest false

/-- `nice`: runs a command with another priority, or shows it. -/
def nice (c : Caller) : Action Ending := do
  let arguments := match c.arguments with
    | a :: r =>
      if "-".isPrefixOf a && 1 < a.length && (a.toList.drop 1).all Char.isDigit then
        "-n" :: dropText 1 a :: r
      else a :: r
    | [] => []
  withOptions { c with arguments } 125 ⟨"n:", [("adjustment", "n")], true⟩ fun given rest => do
    match Options.value? given "n", rest with
    | none, [] =>
      let _ ← writeTo 1 "0\n"
      return .exited 0
    | some _, [] => misuse c "a command must be given with an adjustment" 125
    | _, command => do
      match command with
      | [] => return .exited 0
      | name :: arguments =>
        match ← c.launch name arguments c.environment with
        | .ok ending => return ending
        | .error refusal =>
          complain c (Quote.always name ++ ": " ++ refusal.detail)
          return .exited (if refusal == .absent || refusal == .notDirectory then 127 else 126)

/-- `timeout`: stops a command after some time. -/
def timeout (c : Caller) : Action Ending :=
  let hint : Action Ending := do
    let _ ← writeTo 2 ("Try '" ++ c.name ++ " --help' for more information.\n")
    return .exited 125
  withOptions c 125 ⟨"k:s:vfp", [("kill-after", "k"), ("signal", "s"), ("verbose", "v"),
    ("foreground", "f"), ("preserve-status", "p")], true⟩ fun given rest => do
    match rest with
    | [] => hint
    | [_] => hint
    | time :: command =>
      match Tool.pause? time with
      | none => misuse c ("invalid time interval " ++ Quote.always time) 125
      | some pause =>
        let signal := ((Options.value? given "s").bind Signal.ofText?).getD 15
        if Options.has given "s" &&
          ((Options.value? given "s").bind Signal.ofText?).isNone then
          misuse c (Quote.always ((Options.value? given "s").getD "") ++ ": invalid signal") 125
        else
          let s ← get
          let outer := s.machine.deadline
          let limit := s.machine.clock + pause
          let own := match outer with
            | some t => min t limit
            | none => limit
          if 0 < pause then modify fun s => { s with machine := { s.machine with
            deadline := some own } }
          let leave : Action Unit := modify fun s =>
            { s with machine := { s.machine with deadline := outer } }
          let act : Action Ending := match command with
            | [] => return .exited 0
            | name :: arguments => do
              match ← c.launch name arguments c.environment with
              | .ok ending => return ending
              | .error refusal =>
                complain c ("failed to run command " ++ Quote.always name ++ ": " ++ refusal.detail)
                return .exited (if refusal == .absent || refusal == .notDirectory then 127 else 126)
          let ending ← afterwards (tryCatch act fun flow => do
            -- What is stopped by this limit ends here, unless an outer one has passed as well.
            let isOver := 0 < pause && limit ≤ (← get).machine.clock && outer.all (limit ≤ ·)
            match flow with
            | .ended (.killed 15) =>
              if isOver then return .killed 15
              else throw flow
            | _ => throw flow) leave
          if 0 < pause && limit ≤ (← get).machine.clock && outer.all (limit ≤ ·) then
            if Options.has given "p" then return .exited ending.code
            else if signal == 9 then return .killed 9
            else return .exited 124
          else return .exited ending.code

/-! ### Arguments that are read -/

/-- The words of an input: blanks and line feeds separate them, unless they are quoted. The bound is
the length of the input. The flag tells whether a quote is left open. -/
def inputWords : Nat → Option (List Char) → List Char → List String × Bool
  | 0, _, _ => ([], false)
  | _ + 1, word, [] => ((word.map fun w => String.ofList w.reverse).toList, false)
  | n + 1, word, c :: r =>
    if c == '\'' || c == '"' then
      let inner := r.takeWhile fun d => d != c && d != '\n'
      match r.drop inner.length with
      | d :: rest =>
        if d == c then inputWords n (some (inner.reverse ++ word.getD [])) rest else ([], true)
      | [] => ([], true)
    else if c == '\\' then
      match r with
      | d :: r => inputWords n (some (d :: word.getD [])) r
      | [] => inputWords n word []
    else if c == ' ' || c == '\t' || c == '\n' then
      match word with
      | some w =>
        let (more, opened) := inputWords n none r
        (String.ofList w.reverse :: more, opened)
      | none => inputWords n none r
    else inputWords n (some (c :: word.getD [])) r

/-- A text with another one in place of each occurrence of a third. The bound is its length. -/
def replaceAll (old new : List Char) : Nat → List Char → List Char
  | 0, cs => cs
  | _ + 1, [] => []
  | n + 1, c :: r =>
    if !old.isEmpty && old.isPrefixOf (c :: r) then
      new ++ replaceAll old new n ((c :: r).drop old.length)
    else c :: replaceAll old new n r

/-- The status after several commands, given that after one more. -/
def collected (status : Nat) (ending : Ending) : Nat × Bool :=
  match ending with
  | .exited 0 => (status, true)
  | .exited 255 => (124, false)
  | .exited 126 => (126, false)
  | .exited 127 => (127, false)
  | .exited _ => (max status 123, true)
  | .killed _ => (125, false)

/-- Runs commands one after the other, unless one of them says that the rest is not run. -/
def runEach (c : Caller) (shows : Bool) : List (List String) → Nat → Action Nat
  | [], status => return status
  | command :: more, status => do
    match command with
    | [] => runEach c shows more status
    | name :: arguments =>
      if shows then
        let _ ← writeTo 2 (String.intercalate " " (command.map Quote.ifNeeded) ++ "\n")
      match ← c.launch name arguments c.environment with
      | .error refusal =>
        complain c (name ++ ": " ++ refusal.detail)
        return if refusal == .absent || refusal == .notDirectory then 127 else 126
      | .ok ending =>
        let (status, goesOn) := collected status ending
        if status == 124 && !goesOn then
          complain c (name ++ ": exited with status 255; aborting")
        match ending with
        | .killed signal =>
          complain c (name ++ ": terminated by signal " ++ toString signal)
          return status
        | .exited _ => if goesOn then runEach c shows more status else return status

/-- `xargs`: runs a command with the words of the input as arguments. -/
def xargs (c : Caller) : Action Ending :=
  withOptions c 1 ⟨"0a:d:E:eI:i::L:l::n:oP:prs:tx", [("null", "0"), ("arg-file", "a"),
    ("delimiter", "d"), ("replace", "i"), ("max-lines", "l"), ("max-args", "n"),
    ("max-procs", "P"), ("no-run-if-empty", "r"), ("max-chars", "s"), ("verbose", "t"),
    ("exit", "x")], true⟩ fun given rest => do
    let has := Options.has given
    let command := if rest.isEmpty then ["echo"] else rest
    let s ← get
    let input : Except Refusal String := match Options.value? given "a", s.descriptors.lookup 0 with
      | some path, _ => s.machine.disk.read s.base path
      | none, some number => s.machine.available number
      | none, none => .ok ""
    match input with
    | .error refusal =>
      complain c ("Cannot open input file " ++ Quote.always ((Options.value? given "a").getD "") ++
        ": " ++ refusal.detail)
      return .exited 1
    | .ok text =>
      if !has "a" then
        match s.descriptors.lookup 0 with
        | some number =>
          modify fun s => { s with machine := s.machine.consume number text.length }
        | none => pure ()
      let replaced := (Options.value? given "I").orElse fun _ =>
        if has "i" then some ((Options.value? given "i").getD "\x7b\x7d") else none
      let byLine := (Options.value? given "L").orElse fun _ =>
        if has "l" then some ((Options.value? given "l").getD "1") else none
      let delimiter : Option Char :=
        if has "0" then some '\x00'
        else (Options.value? given "d").bind fun t => match t with
          | "\\n" => some '\n'
          | "\\t" => some '\t'
          | "\\0" => some '\x00'
          | t => t.toList.head?
      let (words, opened) : List String × Bool := match delimiter, replaced with
        | some d, _ => (Lines.split d text, false)
        | none, some _ =>
          ((Lines.split '\n' text).filterMap fun l =>
            let l := String.ofList (l.toList.dropWhile fun c => c == ' ' || c == '\t')
            if l == "" then none
            else
              let quotesGone := inputWords (l.length + 2) (some []) (l.toList.flatMap fun c =>
                if c == ' ' || c == '\t' then ['\\', c] else [c])
              some ((quotesGone.1.head?).getD ""), false)
        | none, none => inputWords (text.length + 2) none text.toList
      if opened then
        complain c ("unmatched single quote; by default quotes are special to xargs unless you " ++
          "use the -0 option")
        return .exited 1
      let words := match Options.value? given "E" with
        | some stop => words.takeWhile (· != stop)
        | none => words
      let count := (Options.value? given "n").bind String.toNat?
      let groups : List (List String) := match replaced, byLine, count with
        | some _, _, _ => words.map fun w => [w]
        | none, some k, _ =>
          let lines := ((Lines.split '\n' text).map fun l =>
            (inputWords (l.length + 2) none l.toList).1).filter fun l => !l.isEmpty
          (Tool.chunks (max 1 ((k.toNat?).getD 1)) (lines.length + 1) lines).map List.flatten
        | none, none, some k => Tool.chunks (max 1 k) (words.length + 1) words
        | none, none, none => if words.isEmpty then [] else [words]
      let groups := if groups.isEmpty && !has "r" && replaced.isNone then [[]] else groups
      let commands := groups.map fun group =>
        match replaced, group with
        | some mark, [w] => command.map fun part =>
          String.ofList (replaceAll mark.toList w.toList (part.length + 1) part.toList)
        | _, group => command ++ group
      -- The commands have nothing to read.
      let before := (← get).descriptors
      let s ← get
      let (machine, number) := s.machine.addStream (.device .null)
      set { s with machine, descriptors := (0, number) :: before.filter fun d => d.1 != 0 }
      let restore : Action Unit := modify fun s => { s with descriptors := before }
      return .exited (← afterwards (runEach c (has "t") commands 0) restore)

end EnvProfiles.Shell.Starter
