import EnvProfiles.Shell.Starters
import EnvProfiles.Tool.Listing
import EnvProfiles.Tool.Regex

/-!
# Finding Files

Goes through directories and does something with each file that answers some
questions. What is to be done is one of the questions: showing a path is always
answered with yes, and a command that is run answers with its status.

## Main definitions

* `Find.Question`: What is asked of a file.
* `Find.read`: The questions that words stand for.
* `Find.answer`: Whether a file answers a question, and what is done with it.
* `Starter.find`: The program.
* `Starter.table`: The programs that start others.
-/

namespace EnvProfiles.Shell

namespace Find

/-- How a number is compared. -/
inductive Bound where
  | exactly (n : Nat)
  | above (n : Nat)
  | below (n : Nat)
deriving DecidableEq, Repr

/-- Whether a number is as asked for. -/
def Bound.holds (b : Bound) (n : Nat) : Bool :=
  match b with
  | exactly k => n == k
  | above k => k < n
  | below k => n < k

/-- What is asked of a file. -/
inductive Question where
  | always (answer : Bool)
  | name (pattern : String) (ignoresCase : Bool)
  | path (pattern : String) (ignoresCase : Bool)
  | linkTarget (pattern : String)
  | matching (matcher : Matcher)
  | kind (letters : List Char)
  | size (bound : Bound) (unit : Nat)
  | age (bound : Bound) (seconds : Nat)
  | links (bound : Bound)
  | empty
  | newer (time : Nat)
  | mode (sign : Option Char) (bits : Nat)
  | runnable
  | sameAs (number : Option Nat)
  | prune
  | quit
  | delete
  | print (ending : String)
  | write (format : String)
  /-- Runs a command, in the directory of the file if that is asked for. -/
  | run (command : List String) (inPlace : Bool)
  /-- Runs a command for all files at the end. -/
  | gather (number : Nat)
  | negation (q : Question)
  | both (a b : Question)
  | either (a b : Question)
  | sequence (a b : Question)

/-- What is said about the whole search. -/
structure Options where
  least : Nat := 0
  most : Option Nat := none
  /-- Whether directories come after what is in them. -/
  depthFirst : Bool := false
  follows : Bool := false
  /-- Whether something is done with files, so that they need not be shown. -/
  acts : Bool := false
  gathered : List (List String) := []

/-- Words that are left, and what has been said about the whole search. -/
structure Progress where
  rest : List String
  options : Options

/-- A reader of questions. -/
abbrev Reader (α : Type) := Progress → Except String (α × Progress)

/-- A sign in the quotes of messages. -/
def quoted (text : String) : String := "\x60" ++ text ++ "'"

/-- A number and how it is compared. -/
def bound? (text : String) : Option Bound :=
  match text.toList with
  | '+' :: r => (String.ofList r).toNat?.map .above
  | '-' :: r => (String.ofList r).toNat?.map .below
  | _ => text.toNat?.map .exactly

/-- A size, and how many octets its unit has. -/
def size? (text : String) : Option (Bound × Nat) :=
  let unit (c : Char) : Option Nat :=
    [('c', 1), ('w', 2), ('b', 512), ('k', 1024), ('M', 1048576), ('G', 1073741824)].lookup c
  match text.toList.reverse with
  | c :: r =>
    if c.isDigit then (bound? text).map fun b => (b, 512)
    else match unit c, bound? (String.ofList r.reverse) with
      | some u, some b => some (b, u)
      | _, _ => none
  | [] => none

/-- The permissions that a text asks for. -/
def mode? (text : String) : Option Question :=
  let (sign, r) := match text.toList with
    | '-' :: r => (some '-', r)
    | '/' :: r => (some '/', r)
    | r => (none, r)
  (Tool.modeOf? 0 false 0 (String.ofList r)).map fun bits => .mode sign bits

/-- The question that a word and those after it stand for. -/
def primary (disk : Disk) (base : Location) (word : String) : Reader Question := fun p =>
  let plain (question : Question) : Except String (Question × Progress) := .ok (question, p)
  let acting (question : Question) : Except String (Question × Progress) :=
    .ok (question, { p with options := { p.options with acts := true } })
  let option (change : Options → Options) : Except String (Question × Progress) :=
    .ok (.always true, { p with options := change p.options })
  let taking (make : String → Progress → Except String (Question × Progress)) :
      Except String (Question × Progress) :=
    match p.rest with
    | value :: r => make value { p with rest := r }
    | [] => .error ("missing argument to " ++ quoted word)
  let invalid (value : String) : Except String (Question × Progress) :=
    .error ("invalid argument " ++ quoted value ++ " to " ++ quoted word)
  let made (value : String) (p : Progress) : Option Question →
      Except String (Question × Progress)
    | some question => .ok (question, p)
    | none => invalid value
  let stopped (p : Progress) : Option (List String × List String) :=
    match p.rest.span (· != ";") with
    | (command, _ :: r) => some (command, r)
    | _ => none
  match word with
  | "-true" => plain (.always true)
  | "-false" => plain (.always false)
  | "-empty" => plain .empty
  | "-executable" => plain .runnable
  | "-readable" => plain (.always true)
  | "-writable" => plain (.always true)
  | "-nouser" => plain (.always false)
  | "-nogroup" => plain (.always false)
  | "-prune" => plain .prune
  | "-print" => acting (.print "\n")
  | "-print0" => acting (.print "\x00")
  | "-quit" => acting .quit
  | "-delete" =>
    .ok (.delete, { p with options := { p.options with acts := true, depthFirst := true } })
  | "-depth" => option fun o => { o with depthFirst := true }
  | "-d" => option fun o => { o with depthFirst := true }
  | "-follow" => option fun o => { o with follows := true }
  | "-xdev" => plain (.always true)
  | "-mount" => plain (.always true)
  | "-noleaf" => plain (.always true)
  | "-daystart" => plain (.always true)
  | "-name" => taking fun v p => .ok (.name v false, p)
  | "-iname" => taking fun v p => .ok (.name v true, p)
  | "-path" => taking fun v p => .ok (.path v false, p)
  | "-wholename" => taking fun v p => .ok (.path v false, p)
  | "-ipath" => taking fun v p => .ok (.path v true, p)
  | "-lname" => taking fun v p => .ok (.linkTarget v, p)
  | "-regex" => taking fun v p => match Matcher.ofText ⟨.forPaths, false, false⟩ v with
    | .ok m => .ok (.matching m, p)
    | .error message => .error message
  | "-iregex" => taking fun v p => match Matcher.ofText ⟨.forPaths, true, false⟩ v with
    | .ok m => .ok (.matching m, p)
    | .error message => .error message
  | "-type" => taking fun v p =>
    let letters := v.toList.filter (· != ',')
    match letters.find? fun c => !"bcdpfls".toList.contains c with
    | some c => .error ("Unknown argument to -type: " ++ String.singleton c)
    | none => .ok (.kind letters, p)
  | "-size" => taking fun v p => made v p ((size? v).map fun (b, u) => .size b u)
  | "-mtime" => taking fun v p => made v p ((bound? v).map fun b => .age b 86400)
  | "-atime" => taking fun v p => made v p ((bound? v).map fun b => .age b 86400)
  | "-ctime" => taking fun v p => made v p ((bound? v).map fun b => .age b 86400)
  | "-mmin" => taking fun v p => made v p ((bound? v).map fun b => .age b 60)
  | "-amin" => taking fun v p => made v p ((bound? v).map fun b => .age b 60)
  | "-cmin" => taking fun v p => made v p ((bound? v).map fun b => .age b 60)
  | "-links" => taking fun v p => made v p ((bound? v).map .links)
  | "-perm" => taking fun v p => match mode? v with
    | some question => .ok (question, p)
    | none => .error ("invalid mode " ++ quoted v)
  | "-user" => taking fun v p => .ok (.always (v == "root" || v == "0"), p)
  | "-group" => taking fun v p => .ok (.always (v == "root" || v == "0"), p)
  | "-newer" => taking fun v p => match disk.find base v with
    | .ok (_, node) => .ok (.newer node.changed, p)
    | .error refusal => .error (Quote.always v ++ ": " ++ refusal.detail)
  | "-samefile" => taking fun v p => match disk.find base v with
    | .ok (place, _) => .ok (.sameAs (disk.number? place), p)
    | .error refusal => .error (Quote.always v ++ ": " ++ refusal.detail)
  | "-maxdepth" => taking fun v p => match v.toNat? with
    | some n => .ok (.always true, { p with options := { p.options with most := some n } })
    | none => .error ("Expected a positive decimal integer argument to -maxdepth, but got " ++
        Quote.always v)
  | "-mindepth" => taking fun v p => match v.toNat? with
    | some n => .ok (.always true, { p with options := { p.options with least := n } })
    | none => .error ("Expected a positive decimal integer argument to -mindepth, but got " ++
        Quote.always v)
  | "-printf" => taking fun v p =>
    .ok (.write v, { p with options := { p.options with acts := true } })
  | "-exec" =>
    let batch := p.rest.span (· != "+")
    match stopped p, batch with
    | stop, (command, _ :: r) =>
      let whole := stop.all fun s => command.length < s.1.length
      if whole && command.getLast? == some "\x7b\x7d" then
        let gathered := p.options.gathered ++ [command.dropLast]
        .ok (.gather p.options.gathered.length, ⟨r, { p.options with acts := true, gathered }⟩)
      else
        match stop with
        | some (command, r) =>
          .ok (.run command false, ⟨r, { p.options with acts := true }⟩)
        | none => .error ("missing argument to " ++ quoted word)
    | some (command, r), _ => .ok (.run command false, ⟨r, { p.options with acts := true }⟩)
    | none, _ => .error ("missing argument to " ++ quoted word)
  | "-execdir" =>
    match stopped p with
    | some (command, r) => .ok (.run command true, ⟨r, { p.options with acts := true }⟩)
    | none => .error ("missing argument to " ++ quoted word)
  | word =>
    if "-".isPrefixOf word then .error ("unknown predicate " ++ quoted word)
    else .error ("paths must precede expression: " ++ quoted word)

mutual

/-- A question that stands by itself. -/
def single (disk : Disk) (base : Location) : Nat → Reader Question
  | 0, _ => .error "expression too complicated"
  | n + 1, p =>
    match p.rest with
    | [] => .error "expected an expression"
    | "(" :: r =>
      match alternatives disk base n { p with rest := r } with
      | .error message => .error message
      | .ok (question, q) =>
        match q.rest with
        | ")" :: r => .ok (question, { q with rest := r })
        | _ => .error ("invalid expression; I was expecting to find a ')' somewhere but did not " ++
            "see one.")
    | "!" :: r => negated disk base n { p with rest := r }
    | "-not" :: r => negated disk base n { p with rest := r }
    | word :: r => primary disk base word { p with rest := r }

/-- The opposite of a question. -/
def negated (disk : Disk) (base : Location) : Nat → Reader Question
  | 0, _ => .error "expression too complicated"
  | n + 1, p =>
    match p.rest with
    | [] => .error "expected an expression after '!'"
    | _ => match single disk base n p with
      | .ok (question, p) => .ok (.negation question, p)
      | .error message => .error message

/-- Questions that all have to be answered with yes. -/
def conjunction (disk : Disk) (base : Location) : Nat → Reader Question
  | 0, _ => .error "expression too complicated"
  | n + 1, p =>
    match single disk base n p with
    | .error message => .error message
    | .ok (a, p) =>
      let more (r : List String) : Except String (Question × Progress) :=
        match conjunction disk base n { p with rest := r } with
        | .ok (b, p) => .ok (.both a b, p)
        | .error message => .error message
      match p.rest with
      | [] => .ok (a, p)
      | "-a" :: r => more r
      | "-and" :: r => more r
      | word :: r =>
        if ["-o", "-or", ",", ")"].contains word then .ok (a, p) else more (word :: r)

/-- Questions of which one has to be answered with yes. -/
def alternatives (disk : Disk) (base : Location) : Nat → Reader Question
  | 0, _ => .error "expression too complicated"
  | n + 1, p =>
    match conjunction disk base n p with
    | .error message => .error message
    | .ok (a, p) =>
      let more (make : Question → Question) (r : List String) :
          Except String (Question × Progress) :=
        match alternatives disk base n { p with rest := r } with
        | .ok (b, p) => .ok (make b, p)
        | .error message => .error message
      match p.rest with
      | "-o" :: r => more (.either a) r
      | "-or" :: r => more (.either a) r
      | "," :: r => more (.sequence a) r
      | _ => .ok (a, p)

end

/-- The question that words stand for, and what they say about the whole search. -/
def read (disk : Disk) (base : Location) (words : List String) :
    Except String (Question × Options) :=
  if words.isEmpty then .ok (.always true, {})
  else
    match alternatives disk base (4 * words.length + 8) ⟨words, {}⟩ with
    | .error message => .error message
    | .ok (question, ⟨[], options⟩) => .ok (question, options)
    | .ok (_, ⟨word :: _, _⟩) =>
      .error (if word == ")" then "invalid expression; you have too many ')'"
        else "paths must precede expression: " ++ quoted word)

/-! ### Going through directories -/

/-- A file that is found. -/
structure Item where
  path : String
  /-- The path at which the search began. -/
  start : String
  depth : Nat
  place : Location
  node : Node

/-- What has come up during a search. -/
structure State where
  status : Nat
  /-- Whether what is in a directory is left out. -/
  pruned : Bool
  stopped : Bool
  /-- The files for which commands are run at the end. -/
  gathered : List (Nat × String)

/-- The letter for what a file is. -/
def kindLetter (node : Node) : Char :=
  match node.content with
  | .directory => 'd'
  | .link _ => 'l'
  | .device _ => 'c'
  | _ => 'f'

/-- What a letter of a format tells of a file. -/
def field (item : Item) (letter : Char) : String :=
  match letter with
  | 'p' => item.path
  | 'f' => Tool.baseName item.path
  | 'h' => Tool.dirName item.path
  | 'P' => String.ofList ((item.path.toList.drop item.start.length).dropWhile (· == '/'))
  | 'H' => item.start
  | 'd' => toString item.depth
  | 'y' => String.singleton (kindLetter item.node)
  | 's' => toString (Listing.sizeOf item.node)
  | 'm' => Tool.octalText item.node.mode
  | 'M' => Listing.modeText item.node
  | 'l' => match item.node.content with
    | .link target => target
    | _ => ""
  | 'u' => "root"
  | 'g' => "root"
  | 'U' => "0"
  | 'G' => "0"
  | '%' => "%"
  | c => String.ofList ['%', c]

/-- A format with what is known of a file. -/
def formatted (item : Item) : List Char → String
  | '%' :: c :: r => field item c ++ formatted item r
  | '\\' :: c :: r =>
    match Escape.control? c with
    | some d => String.singleton d ++ formatted item r
    | none => (if c == '0' then "\x00" else String.ofList ['\\', c]) ++ formatted item r
  | c :: r => String.singleton c ++ formatted item r
  | [] => ""

/-- A command with a path in place of the signs for it. -/
def filled (command : List String) (path : String) : List String :=
  command.map fun part =>
    String.ofList (Starter.replaceAll "\x7b\x7d".toList path.toList (part.length + 1) part.toList)

/-- Whether a file answers a question, and what is done with it. -/
def answer (c : Starter.Caller) (item : Item) : Question → State → Action (Bool × State)
  | .always a, t => return (a, t)
  | .name pattern ignoresCase, t =>
    let name := Tool.baseName item.path
    return (covers ignoresCase pattern name, t)
  | .path pattern ignoresCase, t => return (covers ignoresCase pattern item.path, t)
  | .linkTarget pattern, t =>
    match item.node.content with
    | .link target => return (covers false pattern target, t)
    | _ => return (false, t)
  | .matching m, t =>
    let cs := item.path.toList.toArray
    return ((m.startingAt cs 0).any fun f => f.stop == cs.size, t)
  | .kind letters, t => return (letters.contains (kindLetter item.node), t)
  | .size bound unit, t =>
    return (bound.holds ((Listing.sizeOf item.node + unit - 1) / unit), t)
  | .age bound seconds, t => do
    let now := (← get).machine.disk.time
    return (bound.holds ((now - item.node.changed) / 1000000000 / seconds), t)
  | .links bound, t => do
    return (bound.holds (Listing.itemAt (← get).machine.disk "" item.place item.node).links, t)
  | .empty, t => do
    match item.node.content with
    | .file octets => return (octets == "", t)
    | .directory => return (((← get).machine.disk.children item.place).isEmpty, t)
    | _ => return (false, t)
  | .newer time, t => return (time < item.node.changed, t)
  | .mode sign bits, t =>
    let mode := item.node.mode
    match sign with
    | some '-' => return (mode &&& bits == bits, t)
    | some _ => return (bits == 0 || mode &&& bits != 0, t)
    | none => return (mode == bits, t)
  | .runnable, t => return (item.node.content == .directory || Disk.isRunnable item.node, t)
  | .sameAs number, t => do
    return ((← get).machine.disk.number? item.place == number, t)
  | .prune, t => return (true, { t with pruned := true })
  | .quit, t => return (true, { t with stopped := true })
  | .delete, t => do
    let s ← get
    let disk := s.machine.disk
    if item.path == "." then return (true, t)
    if !(disk.children item.place).isEmpty then
      Starter.complain c ("cannot delete " ++ Quote.always item.path ++ ": " ++
        Refusal.notEmpty.detail)
      return (false, { t with status := 1 })
    set { s with machine := { s.machine with disk := disk.unlink item.place } }
    return (true, t)
  | .print ending, t => do
    let _ ← writeTo 1 (item.path ++ ending)
    return (true, t)
  | .write format, t => do
    let _ ← writeTo 1 (formatted item format.toList)
    return (true, t)
  | .run command inPlace, t => do
    let before := (← get).base
    let path := if inPlace then "./" ++ Tool.baseName item.path else item.path
    if inPlace then modify fun s => { s with base := item.place.dropLast }
    let leave : Action Unit := modify fun s => { s with base := before }
    afterwards (do
      match filled command path with
      | [] => return (false, t)
      | name :: arguments =>
        match ← c.launch name arguments c.environment with
        | .ok ending => return (ending == .exited 0, t)
        | .error refusal =>
          Starter.complain c (Quote.always name ++ ": " ++ refusal.detail)
          return (false, t)) leave
  | .gather number, t => return (true, { t with gathered := (number, item.path) :: t.gathered })
  | .negation q, t => do
    let (a, t) ← answer c item q t
    return (!a, t)
  | .both p q, t => do
    let (a, t) ← answer c item p t
    if a && !t.stopped then answer c item q t else return (a, t)
  | .either p q, t => do
    let (a, t) ← answer c item p t
    if a || t.stopped then return (a, t) else answer c item q t
  | .sequence p q, t => do
    let (a, t) ← answer c item p t
    if t.stopped then return (a, t) else answer c item q t
where
  /-- Whether a pattern matches a whole text. -/
  covers (ignoresCase : Bool) (pattern text : String) : Bool :=
    let lower (t : String) : List Char := if ignoresCase then (t.map Char.toLower).toList
      else t.toList
    Pattern.covers (lower pattern) (lower text)

/-- Goes through files, given by their paths and places, and through what is in them. The bound is
on the depth. -/
def visit (c : Starter.Caller) (question : Question) (o : Options) (start : String) :
    Nat → Nat → List (String × Location) → State → Action State
  | 0, _, _, t => return t
  | n + 1, depth, files, t =>
    files.foldlM (fun t (path, place) => do
      let disk := (← get).machine.disk
      let node? := if o.follows then disk.goal? place else disk.node? place
      match node? with
      | none => return t
      | some node =>
        if t.stopped then return t
        else
          let item : Item := ⟨path, start, depth, place, node⟩
          let ask (t : State) : Action State :=
            if depth < o.least || t.stopped then return t
            else do
              let (_, t) ← answer c item question t
              return t
          let descend (t : State) : Action State := do
            if node.content == .directory && o.most.all (depth < ·) && !t.pruned && !t.stopped then
              let disk := (← get).machine.disk
              visit c question o start n (depth + 1)
                ((disk.children place).map fun name =>
                  (Tool.entryPath path name, place ++ [name])) t
            else return t
          if o.depthFirst then
            let t ← descend { t with pruned := false }
            ask t
          else
            let t ← ask { t with pruned := false }
            let t ← descend t
            return { t with pruned := false }) t

end Find

/-- `find`: goes through directories. -/
def Starter.find (c : Starter.Caller) : Action Ending := do
  let switches := c.arguments.takeWhile fun a => a == "-L" || a == "-P" || a == "-H"
  let words := c.arguments.drop switches.length
  let isExpression (a : String) : Bool := "-".isPrefixOf a && a != "-" || a == "(" || a == "!"
  let paths := words.takeWhile fun a => !isExpression a
  let s ← get
  match Find.read s.machine.disk s.base (words.drop paths.length) with
  | .error message =>
    Starter.complain c message
    return .exited 1
  | .ok (question, options) =>
    let options := { options with follows := options.follows || switches.getLast? == some "-L" }
    let question := if options.acts then question else .both question (.print "\n")
    let t ← (if paths.isEmpty then ["."] else paths).foldlM (fun (t : Find.State) path => do
      let s ← get
      match s.machine.disk.findName s.base path with
      | .error refusal =>
        Starter.complain c (Quote.always path ++ ": " ++ refusal.detail)
        return { t with status := 1 }
      | .ok (place, _) =>
        Find.visit c question options path Tool.depthBound 0 [(path, place)] t)
      ⟨0, false, false, []⟩
    let status ← (options.gathered.zipIdx).foldlM (fun status (command, i) => do
      let files := (t.gathered.reverse.filter (·.1 == i)).map (·.2)
      if files.isEmpty then return status
      match command with
      | [] => return status
      | name :: arguments =>
        match ← c.launch name (arguments ++ files) c.environment with
        | .ok ending => return if ending == .exited 0 then status else 1
        | .error refusal =>
          Starter.complain c (Quote.always name ++ ": " ++ refusal.detail)
          return 1) t.status
    return .exited status

/-- The programs that start others, by their names. -/
def Starter.table : List (String × (Starter.Caller → Action Ending)) :=
  [("env", env), ("find", find), ("nice", nice), ("timeout", timeout), ("xargs", xargs),
    ("nohup", plainly ⟨"", [], true⟩ 125), ("setsid", plainly ⟨"cfw", [("wait", "w")], true⟩ 1),
    ("stdbuf", plainly ⟨"i:o:e:", [("input", "i"), ("output", "o"), ("error", "e")], true⟩ 125)]

end EnvProfiles.Shell
