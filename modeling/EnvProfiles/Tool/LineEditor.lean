import EnvProfiles.Tool.LineScript
import EnvProfiles.Tool.Lines

/-!
# The Line Editor

Runs a script for every line of the input: the line is taken into a space, where
commands change it, and what is left of it is shown at the end. A second space
keeps what is put there from line to line.

A script can jump back, so that running it takes a bound on the number of
commands.

## Main definitions

* `LineEditor.Session`: The two spaces, the input that is left, and the output.
* `LineEditor.cycle`: Runs a script for a line.
* `Tool.sed`: Edits files by a script.
-/

namespace EnvProfiles

open LineScript

namespace LineEditor

/-- A line of the input: its text, whether it ends with a line feed, and its file. -/
structure InputLine where
  text : String
  ended : Bool
  file : String

/-- Why a script stops. -/
inductive Stop where
  /-- The next line follows. -/
  | cycle
  /-- The same line follows again, with what is left of it. -/
  | again
  | quit (status : Nat)
deriving DecidableEq

/-- The state of the editor. -/
structure Session where
  job : Job
  input : List InputLine
  line : Nat
  space : String
  /-- Whether the line ends with a line feed. -/
  ended : Bool
  hold : String
  /-- Whether what is kept ends with a line feed. -/
  holdEnded : Bool
  file : String
  /-- What follows the line: text, or the content of a file. -/
  queue : List (Except String String)
  /-- Whether a part of the line has been replaced since it was read. -/
  replaced : Bool
  lastMatcher : Option Matcher
  /-- For every command whose lines have begun, the number of the line at which they end, if it is
  known. -/
  begun : List (Nat × Option Nat)
  /-- What has been written, last piece first, and whether it lacks a line feed. -/
  written : List String
  missing : Bool
  /-- Whether the last expression was asked for when there was none. -/
  stuck : Bool
  /-- What has been written to files and whether it lacks a line feed, and what is left of those
  that are read line by line. -/
  targets : List (String × String × Bool)
  sources : List (String × List String)
  quiet : Bool
  separate : Bool
  stop : Char

namespace Session

/-- Writes text, after the line feed that may be missing. -/
def write (s : Session) (text : String) : Session :=
  { s with
    written := (if s.missing then String.singleton s.stop ++ text else text) :: s.written
    missing := false }

/-- Writes a text as a line, which may lack its line feed. -/
def writeLine (s : Session) (text : String) (ended : Bool) : Session :=
  { s.write (if ended then text.push s.stop else text) with missing := !ended }

/-- Writes a line to a file, or to the standard output if that is named as one. -/
def writeTo (s : Session) (path text : String) (ended : Bool) : Session :=
  let (before, missing) := (s.targets.lookup path).getD ("", false)
  let text := (if missing then String.singleton s.stop else "") ++
    (if ended then text.push s.stop else text)
  let isOutput := path == "/dev/stdout"
  let whole := if isOutput then "" else before ++ text
  { s with
    written := if isOutput then text :: s.written else s.written
    targets := (path, whole, !ended) :: s.targets.filter fun t => t.1 != path }

/-- Shows the space. -/
def showSpace (s : Session) : Session := s.writeLine s.space s.ended

/-- Writes what follows the line. -/
def flush (s : Session) : Session :=
  let s := s.queue.reverse.foldl (fun s item => match item with
    | .ok text => s.write text
    | .error path =>
      match s.job.read path with
      | (.ok text, job) => { s.write text with job }
      | (.error _, job) => { s.write "" with job }) s
  { s with queue := [] }

/-- Whether this is the last line, of its file if files are separate. -/
def isLast (s : Session) : Bool :=
  match s.input with
  | [] => true
  | l :: _ => s.separate && l.file != s.file

/-- Takes the next line of the input. -/
def advance (s : Session) : Option Session :=
  match s.input with
  | [] => none
  | l :: r =>
    if s.separate && l.file != s.file && s.line != 0 then none
    else some { s with
      input := r, line := s.line + 1, space := l.text, ended := l.ended, file := l.file }

end Session

/-- The expression that is meant, which is the last one if none is given. -/
def matcherOf (s : Session) (m : Option Matcher) : Option Matcher × Session :=
  match m with
  | some m => (some m, { s with lastMatcher := some m })
  | none => (s.lastMatcher, { s with stuck := s.lastMatcher.isNone })

/-- Whether an address means the line. -/
def meets (s : Session) (a : Address) : Bool × Session :=
  match a with
  | .number n => (s.line == n, s)
  | .last => (s.isLast, s)
  | .everyFrom first step =>
    (if step == 0 then s.line == first else first ≤ s.line && (s.line - first) % step == 0, s)
  | .matching m =>
    match matcherOf s m with
    | (some m, s) => ((m.find? s.space.toList.toArray 0).isSome, s)
    | (none, s) => (false, s)

/-- Whether the lines of a command that have begun go on. -/
def goesOn (s : Session) (index : Nat) (finish : Finish) (known : Option Nat) : Bool × Session :=
  let close (s : Session) : Session := { s with begun := s.begun.filter fun b => b.1 != index }
  match known with
  | some n =>
    let s := if n ≤ s.line then close s else s
    (s.line ≤ n, s)
  | none =>
    match finish with
    | .at a =>
      let (ends, s) := meets s a
      (true, if ends then close s else s)
    | _ => (true, s)

/-- Whether a command is meant for the line. -/
def isMeant (s : Session) (index : Nat) (ls : LineScript.Lines) : Bool × Session :=
  let (holds, s) := match ls.start, ls.finish with
    | none, _ => (true, s)
    | some a, none => meets s a
    | some a, some finish =>
      match s.begun.lookup index with
      | some known =>
        match goesOn s index finish known with
        | (true, s) => (true, s)
        | (false, s) => (match a with
          | .number _ => (false, s)
          | a => meets s a)
      | none =>
        match meets s a with
        | (false, s) => (false, s)
        | (true, s) =>
          let known : Option Nat := match finish with
            | .at (.number n) => some n
            | .lines n => some (s.line + n)
            | .multiple n => some (if n == 0 then s.line else (s.line / n + 1) * n)
            | _ => none
          if known.any (· ≤ s.line) then (true, s)
          else (true, { s with begun := (index, known) :: s.begun })
  (holds != ls.others, s)

/-- Text with a letter changed by what has been asked for, and what is asked for afterwards: how all
letters are changed, and how the next one is. -/
def recase (all next : Casing) (text : List Char) : List Char × Casing :=
  let change (how : Casing) (c : Char) : Char :=
    match how with
    | .upper | .upperNext => c.toUpper
    | .lower | .lowerNext => c.toLower
    | .plain => c
  match text with
  | [] => ([], next)
  | c :: r =>
    let first := if next == .plain then change all c else change next c
    (first :: r.map (change all), .plain)

/-- What a replacement comes to for a match. -/
def expand (ps : List LineScript.Piece) (f : Found) (whole : Array Char) : List Char :=
  (ps.foldl (fun (out, all, next) p =>
    let add (text : String) : List Char × Casing × Casing :=
      let (cs, next) := recase all next text.toList
      (out ++ cs, all, next)
    match p with
    | .text t => add t
    | .group n => add ((f.group? whole n).getD "")
    | .casing .upperNext => (out, all, .upperNext)
    | .casing .lowerNext => (out, all, .lowerNext)
    | .casing c => (out, c, .plain)) (([] : List Char), Casing.plain, Casing.plain)).1

/-- A text with parts replaced, and how many were: from a place on, given how many matches have been
passed and where the last one ended. The bound is the length of the text. -/
def substituteFrom (sub : Substitution) (m : Matcher) (whole : Array Char) : Nat → Nat → Nat →
    Option Nat → List Char × Nat
  | 0, start, _, _ => ((whole.extract start whole.size).toList, 0)
  | n + 1, start, count, last =>
    let rest (start : Nat) : List Char := (whole.extract start whole.size).toList
    if whole.size < start then ([], 0)
    else
      match m.find? whole start with
      | none => (rest start, 0)
      | some f =>
        let before := (whole.extract start f.start).toList
        if f.stop == f.start && last == some f.start then
          -- Nothing is found right after a match.
          let next := (whole.extract f.start (f.start + 1)).toList
          let (out, k) := substituteFrom sub m whole n (f.start + 1) count none
          (before ++ next ++ out, k)
        else
          let count := count + 1
          let chosen := sub.number ≤ count
          let put := if chosen then expand sub.replacement f whole
            else (whole.extract f.start f.stop).toList
          if chosen && !sub.all then (before ++ put ++ rest f.stop, 1)
          else
            let add := if chosen then 1 else 0
            if f.stop == f.start then
              let next := (whole.extract f.start (f.start + 1)).toList
              let (out, k) := substituteFrom sub m whole n (f.start + 1) count none
              (before ++ put ++ next ++ out, k + add)
            else
              let (out, k) := substituteFrom sub m whole n f.stop count (some f.stop)
              (before ++ put ++ out, k + add)

/-- Replaces parts of the line. -/
def substitute (s : Session) (sub : Substitution) : Session :=
  match matcherOf s sub.matcher with
  | (none, s) => s
  | (some m, s) =>
    let whole := s.space.toList.toArray
    let (out, count) := substituteFrom sub m whole (2 * whole.size + 2) 0 0 none
    if count == 0 then s
    else
      let s := { s with space := String.ofList out, replaced := true }
      let s := if sub.prints then s.showSpace else s
      match sub.target with
      | some path => s.writeTo path s.space s.ended
      | none => s

/-- A character as a listing shows it. -/
def listed (c : Char) : List Char :=
  match c with
  | '\\' => ['\\', '\\']
  | '\x07' => ['\\', 'a']
  | '\x08' => ['\\', 'b']
  | '\x0c' => ['\\', 'f']
  | '\n' => ['\\', 'n']
  | '\r' => ['\\', 'r']
  | '\t' => ['\\', 't']
  | '\x0b' => ['\\', 'v']
  | c => if 32 ≤ c.toNat && c.toNat < 127 then [c] else '\\' :: Quote.octal c

/-- A text as a listing shows it, in lines of a width. -/
def listing (width : Nat) (text : String) : String :=
  let (out, line) := text.toList.foldl (fun (out, line) c =>
    let shown := listed c
    if 0 < width && width - 1 < line.length + shown.length then (out ++ line ++ ['\\', '\n'], shown)
    else (out, line ++ shown)) (([] : List Char), ([] : List Char))
  String.ofList (out ++ line ++ ['$', '\n'])

/-- The text up to the first line feed. -/
def firstLine (text : String) : String := String.ofList (text.toList.takeWhile (· != '\n'))

/-- Whether the first line of the space ends with a line feed. -/
def endsFirst (s : Session) : Bool := s.ended || s.space.toList.contains '\n'

/-- The commands whose lines have begun before the first one. -/
def begunAtStart (script : Script) : List (Nat × Option Nat) :=
  script.commands.toList.zipIdx.filterMap fun (l, k) => match l.lines.start with
    | some (.number 0) => some (k, none)
    | _ => none

/-- Runs commands from a number on. The bound is on how many of them are run. -/
def run (script : Script) (listWidth : Nat) : Nat → Nat → Session → Session × Stop
  | 0, _, s => (s, .quit 1)
  | n + 1, k, s =>
    let giveUp (s : Session) : Session × Stop :=
      ({ s with job := s.job.complain "-e expression #1, char 0: no previous regular expression" },
        .quit 1)
    let finished (s : Session) (stop : Stop) : Session × Stop :=
      ((if s.quiet then s else s.showSpace).flush, stop)
    match script.commands[k]? with
    | none => finished s .cycle
    | some command =>
      let (meant, s) := isMeant s k command.lines
      let go (s : Session) : Session × Stop := run script listWidth n (k + 1) s
      if s.stuck then giveUp s
      else if !meant then
        match command.step with
        | .block stop => run script listWidth n stop s
        | _ => go s
      else
        let jump (name : String) (s : Session) : Session × Stop :=
          match script.labels.lookup name with
          | some place => run script listWidth n place s
          | none => finished s .cycle
        match command.step with
        | .none => go s
        | .block _ => go s
        | .append text => go { s with queue := .ok text :: s.queue }
        | .insert text => go (s.write text)
        | .change text =>
          let inside := command.lines.finish.isSome && (s.begun.lookup k).isSome &&
            !command.lines.others
          ((if inside then s else s.write text).flush, .cycle)
        | .jump name => jump name s
        | .jumpIf name =>
          if s.replaced then jump name { s with replaced := false } else go s
        | .jumpUnless name =>
          if s.replaced then go { s with replaced := false } else jump name s
        | .delete => (s.flush, .cycle)
        | .deleteFirst =>
          if s.space.toList.contains '\n' then
            let first := firstLine s.space
            ({ s with space := dropText (first.length + 1) s.space }.flush, .again)
          else (s.flush, .cycle)
        | .fileName => go (s.write (s.file ++ "\n"))
        | .take => go { s with space := s.hold, ended := s.holdEnded }
        | .takeAppending =>
          go { s with space := s.space ++ "\n" ++ s.hold, ended := s.ended || s.holdEnded }
        | .keep => go { s with hold := s.space, holdEnded := s.ended }
        | .keepAppending =>
          go { s with hold := s.hold ++ "\n" ++ s.space, holdEnded := s.ended || s.holdEnded }
        | .list width => go (s.write (listing (width.getD listWidth) s.space))
        | .next =>
          if s.input.isEmpty || s.isLast then finished s (.quit 0)
          else
            let s := (if s.quiet then s else s.showSpace).flush
            match s.advance with
            | some s => go s
            | none => (s, .quit 0)
        | .nextAppending =>
          if s.input.isEmpty || s.isLast then finished s (.quit 0)
          else
            let s := s.flush
            match s.advance with
            | some t => go { t with space := s.space ++ "\n" ++ t.space }
            | none => (s, .quit 0)
        | .print => go s.showSpace
        | .printFirst => go (s.writeLine (firstLine s.space) (endsFirst s))
        | .quit status => finished s (.quit status)
        | .leave status => (s, .quit status)
        | .readFile path => go { s with queue := .error path :: s.queue }
        | .readLine path =>
          let (lines, s) := match s.sources.lookup path with
            | some lines => (lines, s)
            | none =>
              match s.job.read path with
              | (.ok text, job) => (Lines.split '\n' text, { s with job })
              | (.error _, job) => ([], { s with job })
          let s := { s with sources := (path, lines.drop 1) :: s.sources.filter (·.1 != path) }
          match lines with
          | line :: _ => go { s with queue := .ok (line ++ "\n") :: s.queue }
          | [] => go s
        | .substitute sub =>
          let s := substitute s sub
          if s.stuck then giveUp s else go s
        | .writeFile path => go (s.writeTo path s.space s.ended)
        | .writeFirst path => go (s.writeTo path (firstLine s.space) (endsFirst s))
        | .exchange =>
          go { s with
            space := s.hold, hold := s.space, ended := s.holdEnded, holdEnded := s.ended }
        | .replace first second =>
          go { s with space := s.space.map fun c =>
            match first.idxOf? c with
            | some i => second.getD i c
            | none => c }
        | .clear => go { s with space := "" }
        | .number => go (s.write (toString s.line ++ "\n"))

/-- How many commands are run for a line before the editor is given up. -/
def commandLimit : Nat := 1000000

/-- Runs a script for each line. The bound is on how often it is run. -/
def cycles (script : Script) (listWidth : Nat) : Nat → Bool → Session → Session × Option Nat
  | 0, _, s => (s, none)
  | n + 1, again, s =>
    let next := if again then some s
      else s.advance.map fun s => { s with replaced := false }
    match next with
    | none => (s, none)
    | some s =>
      match run script listWidth commandLimit 0 s with
      | (s, .cycle) => cycles script listWidth n false s
      | (s, .again) => cycles script listWidth n true s
      | (s, .quit status) => (s, some status)

/-- The lines of a file. -/
def linesOf (stop : Char) (file text : String) : List InputLine :=
  (Lines.pieces stop text).map fun piece =>
    let body := Lines.body stop piece
    ⟨body, body.length < piece.length, file⟩

/-- The files to which a script writes, which are made in any case. -/
def targetsOf (script : Script) : List String :=
  script.commands.toList.filterMap fun l =>
    match l.step with
    | .writeFile path => some path
    | .writeFirst path => some path
    | .substitute s => s.target
    | _ => none

/-- A mistake as a message: with the part of the script and the number of characters read there. The
parts are given by the files they come from and their texts. -/
def mistakeText (parts : List (Option String × String)) (mistake : Mistake) : String :=
  let rec go (n place : Nat) : List (Option String × String) → String
    | [] => mistake.2
    | (file, text) :: r =>
      let number := if file.isNone then n + 1 else n
      if mistake.1 ≤ place + text.length || r.isEmpty then
        match file with
        | none => "-e expression #" ++ toString number ++ ", char " ++
            toString (mistake.1 - place) ++ ": " ++ mistake.2
        | some path =>
          let before := text.toList.take (mistake.1 - place - 1)
          let line := (before.filter (· == '\n')).length + 1
          "file " ++ path ++ " line " ++ toString line ++ ": " ++ mistake.2
      else go number (place + text.length + 1) r
  go 0 0 parts

end LineEditor

namespace Tool

/-- The options of `sed`. -/
def sedOptions : Options.Form :=
  ⟨"bnrzuEe:f:l:i::sVh", [("quiet", "n"), ("silent", "n"), ("regexp-extended", "E"),
    ("in-place", "i"), ("expression", "e"), ("file", "f"), ("line-length", "l"),
    ("null-data", "z"), ("zero-terminated", "z"), ("separate", "s"), ("unbuffered", "u"),
    ("posix", "posix"), ("debug", "debug"), ("sandbox", "sandbox"), ("follow-symlinks",
    "follow-symlinks"), ("binary", "b")], false⟩

/-- Says that `sed` has been called in a wrong way. -/
def sedMisuse (j : Job) : Job :=
  (j.sendTo 2 ("Usage: " ++ j.call.name ++
    " [OPTION]... {script-only-if-no-other-script} [input-file]...\n\n")).fail 1

/-- `sed`: edits files by a script. -/
def sed (j : Job) : Job :=
  match Options.read sedOptions j.call.arguments with
  | .error message => sedMisuse (j.complain message)
  | .ok (given, operands) =>
    if Options.has given "help" || Options.has given "version" then j
    else
      let gathered := given.foldl (fun (acc : Except Job (List (Option String × String) × Job)) g =>
        match acc, g with
        | .ok (parts, j), ("e", some text) => .ok (parts ++ [(none, text)], j)
        | .ok (parts, j), ("f", some path) =>
          match j.read path with
          | (.ok text, j) => .ok (parts ++ [(some path, Lines.body '\n' text)], j)
          | (.error refusal, j) =>
            .error ((j.complain ("couldn't open file " ++ path ++ ": " ++ refusal.detail)).fail 4)
        | acc, _ => acc) (.ok ([], j))
      match gathered with
      | .error j => j
      | .ok (parts, j) =>
        match parts, operands with
        | [], [] => sedMisuse j
        | [], script :: files => go j given [(none, script)] files
        | parts, files => go j given parts files
where
  /-- Does the work with the parts of the script and the files. -/
  go (j : Job) (given : List Options.Given) (parts : List (Option String × String))
      (files : List String) : Job :=
    let has := Options.has given
    let text := String.intercalate "\n" (parts.map (·.2))
    match LineScript.read ⟨has "E" || has "r"⟩ text with
    | .error mistake =>
      if mistake.2 == Matcher.wrongClass then (j.complain mistake.2).fail 4
      else (j.complain (LineEditor.mistakeText parts mistake)).fail 1
    | .ok script =>
      match LineScript.missingLabel? script with
      | some name => (j.complain ("can't find label for jump to " ++ LineScript.quoted name)).fail 4
      | none =>
        let stop := Lines.stopOf given "z"
        let inPlace := has "i"
        let width := ((Options.value? given "l").bind String.toNat?).getD 70
        let fresh (j : Job) (input : List LineEditor.InputLine) : LineEditor.Session :=
          { job := j, input, line := 0, space := "", ended := true, hold := "", file := "-"
            holdEnded := true, queue := [], replaced := false, lastMatcher := none
            begun := LineEditor.begunAtStart script, written := [], missing := false, stuck := false
            targets := [], sources := [], quiet := has "n" || script.quiet
            separate := inPlace || has "s", stop }
        let paths := if files.isEmpty then ["-"] else files
        let read (j : Job) (path : String) : Option (List LineEditor.InputLine) × Job :=
          match if inPlace then (j.disk.read j.call.base path, j) else j.read path with
          | (.ok text, j) => (some (LineEditor.linesOf stop path text), j)
          | (.error .isDirectory, j) =>
            (none, (j.complain (if inPlace then "couldn't edit " ++ path ++ ": not a regular file"
              else "read error on " ++ path ++ ": " ++ Refusal.isDirectory.detail)).fail 4)
          | (.error refusal, j) =>
            (none, (j.complain ("can't read " ++ path ++ ": " ++ refusal.detail)).fail 2)
        let bound (input : List LineEditor.InputLine) : Nat :=
          LineEditor.commandLimit + input.length
        let store (j : Job) (path text : String) : Job :=
          match j.writeFile path text with
          | .ok j => j
          | .error refusal =>
            (j.complain ("couldn't open file " ++ path ++ ": " ++ refusal.detail)).fail 4
        let finish (s : LineEditor.Session) : Job :=
          s.targets.foldl (fun j (path, text, _) =>
            if text == "" then j else store j path text) s.job
        -- The files that are written to are made or cleared before anything is read.
        let j := (LineEditor.targetsOf script).foldl (fun j path => store j path "") j
        if j.status == 4 then j
        else if inPlace && files.isEmpty then (j.complain "no input files").fail 4
        else if inPlace then
          let (s, status) := paths.foldl (fun (s, status) path =>
            if (status : Option Nat).isSome then (s, status)
            else
              match read s.job path with
              | (none, job) => ({ s with job }, status)
              | (some input, job) =>
                let start := { s with
                  job, input, line := 0, written := [], missing := false
                  begun := LineEditor.begunAtStart script }
                let (t, status) := LineEditor.cycles script width (bound input) false start
                let out := String.join t.written.reverse
                let backup := ((Options.value? given "i").filter (· != "")).map fun ending =>
                  if ending.toList.contains '*' then
                    String.join (ending.toList.map fun c =>
                      if c == '*' then path else String.singleton c)
                  else path ++ ending
                let job := match backup with
                  | none => t.job
                  | some target =>
                    match t.job.disk.read t.job.call.base path with
                    | .ok before =>
                      match t.job.writeFile target before with
                      | .ok job => job
                      | .error _ => t.job
                    | .error _ => t.job
                let job := match job.writeFile path out with
                  | .ok job => job
                  | .error refusal => (job.complain ("couldn't open file " ++ path ++ ": " ++
                      refusal.detail)).fail 4
                ({ t with job }, status)) (fresh j [], (none : Option Nat))
          (finish s).fail (status.getD 0)
        else
          let (inputs, j) := paths.foldl (fun (out, j) path =>
            -- What cannot be read as a file is the end of the work.
            if j.status == 4 then (out, j)
            else
              match read j path with
              | (some lines, j) => (out ++ [(path, lines)], j)
              | (none, j) => (out, j)) (([] : List (String × List LineEditor.InputLine)), j)
          let input := inputs.flatMap (·.2)
          if has "s" then
            let (s, status) := inputs.foldl (fun (s, status) (_, lines) =>
              if (status : Option Nat).isSome then (s, status)
              else
                LineEditor.cycles script width (bound lines) false
                  { s with input := lines, line := 0, begun := LineEditor.begunAtStart script })
                (fresh j [], none)
            ((finish s).write (String.join s.written.reverse)).fail (status.getD 0)
          else
            let (s, status) := LineEditor.cycles script width (bound input) false (fresh j input)
            ((finish s).write (String.join s.written.reverse)).fail (status.getD 0)

end Tool

end EnvProfiles
