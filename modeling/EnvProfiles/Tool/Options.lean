import EnvProfiles.Machine.Job
import EnvProfiles.Tool.Quote

/-!
# Options of Programs

The options among the arguments of a program: letters after a dash, of which
several may stand together, and words after two dashes, which may be shortened.
Options may follow other arguments, unless the program stops at the first one.

## Main definitions

* `Options.Form`: The options that a program knows.
* `Options.read`: The options and the other arguments, or what is wrong with them.
* `Job.withOptions`: Does the work of a program with its options read.
-/

namespace EnvProfiles

namespace Options

/-- Whether an option takes a value. -/
inductive Taking where
  | nothing
  | value
  /-- Only a value that stands next to the option belongs to it. -/
  | attached
deriving DecidableEq, Repr

/-- The options that a program knows: letters, with one colon after those that take a value and two
after those that take one next to them, and words, each with what it stands for, which is a letter
or a name with such colons. -/
structure Form where
  letters : String
  words : List (String × String) := []
  /-- Whether options end at the first argument that is none. -/
  strict : Bool := false

/-- An option, as a letter or name, and its value. -/
abbrev Given := String × Option String

/-- The letters of a form, and whether they take a value. -/
def takings : List Char → List (Char × Taking)
  | c :: ':' :: ':' :: r => (c, .attached) :: takings r
  | c :: ':' :: r => (c, .value) :: takings r
  | c :: r => (c, .nothing) :: takings r
  | [] => []

/-- What a word stands for, and whether it takes a value. -/
def wordTaking (form : Form) (target : String) : String × Taking :=
  match target.toList with
  | [c] => (target, ((takings form.letters.toList).lookup c).getD .nothing)
  | cs =>
    let name := String.ofList (cs.filter (· != ':'))
    match cs.length - name.length with
    | 0 => (name, .nothing)
    | 1 => (name, .value)
    | _ => (name, .attached)

/-- The words that every program knows. -/
def commonWords : List (String × String) := [("help", "help"), ("version", "version")]

/-- The words of a form that a shortened word may mean. -/
def candidates (form : Form) (word : String) : List (String × String) :=
  let all := form.words ++ commonWords
  match all.find? (·.1 == word) with
  | some exact => [exact]
  | none => all.filter fun w => word.isPrefixOf w.1

/-- The options that letters after a dash stand for, given the arguments that follow, of which the
value of the last letter may be one. -/
def readLetters (form : Form) : List Char → List String →
    Except String (List Given × List String)
  | [], r => .ok ([], r)
  | c :: cs, r =>
    let key := String.singleton c
    match (takings form.letters.toList).lookup c with
    | none => .error ("invalid option -- '" ++ key ++ "'")
    | some .nothing =>
      match readLetters form cs r with
      | .ok (given, r) => .ok ((key, none) :: given, r)
      | .error message => .error message
    | some .attached =>
      .ok ([(key, if cs.isEmpty then none else some (String.ofList cs))], r)
    | some .value =>
      if !cs.isEmpty then .ok ([(key, some (String.ofList cs))], r)
      else
        match r with
        | value :: r => .ok ([(key, some value)], r)
        | [] => .error ("option requires an argument -- '" ++ key ++ "'")

/-- The option that a word after two dashes stands for, given the arguments that follow. -/
def readWord (form : Form) (text : String) (r : List String) :
    Except String (Given × List String) :=
  let word := String.ofList (text.toList.takeWhile (· != '='))
  let value : Option String :=
    if word == text then none else some (String.ofList (text.toList.drop (word.length + 1)))
  let found := candidates form word
  let targets := found.map fun w => wordTaking form w.2
  match found, targets with
  | (full, _) :: _, (key, taking) :: more =>
    if more.any (· != (key, taking)) then
      .error ("option '--" ++ word ++ "' is ambiguous; possibilities:" ++
        String.join (found.map fun w => " '--" ++ w.1 ++ "'"))
    else
      match taking, value, r with
      | .nothing, some _, _ => .error ("option '--" ++ full ++ "' doesn't allow an argument")
      | .nothing, none, r => .ok ((key, none), r)
      | .attached, value, r => .ok ((key, value), r)
      | .value, some value, r => .ok ((key, some value), r)
      | .value, none, value :: r => .ok ((key, some value), r)
      | .value, none, [] => .error ("option '--" ++ full ++ "' requires an argument")
  | _, _ => .error ("unrecognized option '--" ++ text ++ "'")

/-- The options and the other arguments, with a bound on their number. -/
def readUpTo (form : Form) : Nat → List String → Except String (List Given × List String)
  | 0, arguments => .ok ([], arguments)
  | _ + 1, [] => .ok ([], [])
  | n + 1, a :: r =>
    let after (given : List Given) (r : List String) : Except String (List Given × List String) :=
      match readUpTo form n r with
      | .ok (more, others) => .ok (given ++ more, others)
      | .error message => .error message
    if a == "--" then .ok ([], r)
    else if "--".isPrefixOf a then
      match readWord form (String.ofList (a.toList.drop 2)) r with
      | .ok (given, r) => after [given] r
      | .error message => .error message
    else if "-".isPrefixOf a && a != "-" then
      match readLetters form (a.toList.drop 1) r with
      | .ok (given, r) => after given r
      | .error message => .error message
    else if form.strict then .ok ([], a :: r)
    else
      match readUpTo form n r with
      | .ok (given, others) => .ok (given, a :: others)
      | .error message => .error message

/-- The options and the other arguments, or what is wrong with them. -/
def read (form : Form) (arguments : List String) : Except String (List Given × List String) :=
  readUpTo form arguments.length arguments

/-- Whether an option is given. -/
def has (given : List Given) (key : String) : Bool := given.any (·.1 == key)

/-- The value of an option, which is the last one given. -/
def value? (given : List Given) (key : String) : Option String :=
  (given.filter (·.1 == key)).getLast?.bind (·.2)

/-- The last one given of some options. -/
def last? (given : List Given) (keys : List String) : Option String :=
  (given.filter fun g => keys.contains g.1).getLast?.map (·.1)

end Options

namespace Job

/-- Says that a call is wrong, and where to look for help. -/
def misuse (j : Job) (text : String) (status : Nat) : Job :=
  (((j.complain text).sendTo 2
    ("Try '" ++ j.call.name ++ " --help' for more information.\n"))).fail status

/-- The choice that a text stands for, which may be the start of its name. -/
def choice? (valid : List String) (text : String) : Option String :=
  if valid.contains text then some text
  else
    match valid.filter fun v => text.isPrefixOf v with
    | [v] => some v
    | _ => none

/-- Says that the value of an option is none of its choices. -/
def wrongChoice (j : Job) (option value : String) (valid : List String) (status : Nat) : Job :=
  let why := if valid.any fun v => value.isPrefixOf v then "ambiguous" else "invalid"
  j.misuse (why ++ " argument " ++ Quote.always value ++ " for " ++ Quote.always ("--" ++ option) ++
    "\nValid arguments are:" ++ String.join (valid.map fun v => "\n  - " ++ Quote.always v)) status

/-- Does the work of a program with its options read. -/
def withOptions (j : Job) (status : Nat) (form : Options.Form)
    (work : Job → List Options.Given → List String → Job) : Job :=
  match Options.read form j.call.arguments with
  | .error message => j.misuse message status
  | .ok (given, others) =>
    if Options.has given "help" || Options.has given "version" then j else work j given others

/-- Says that arguments are missing, or the one after which they are. -/
def missingOperand (j : Job) (others : List String) (status : Nat) : Job :=
  match others.getLast? with
  | none => j.misuse "missing operand" status
  | some last => j.misuse ("missing operand after " ++ Quote.always last) status

/-- Says that there is an argument too many. -/
def extraOperand (j : Job) (argument : String) (status : Nat) : Job :=
  j.misuse ("extra operand " ++ Quote.always argument) status

/-- A path as messages show it, where a colon follows. -/
def shownPath (path : String) : String :=
  if path.toList.contains ':' then Quote.always path else Quote.ifNeeded path

/-- Says why something about a file could not be done. -/
def refuse (j : Job) (path : String) (refusal : Refusal) (status : Nat) : Job :=
  (j.complain (shownPath path ++ ": " ++ refusal.detail)).fail status

/-- Does something with the octets of each of some files, or of the standard input if there are
none. -/
def forEachInput (j : Job) (paths : List String) (work : Job → String → String → Job) : Job :=
  j.forEach (if paths.isEmpty then ["-"] else paths) fun j path =>
    match j.read path with
    | (.ok text, j) => work j path text
    | (.error refusal, j) => j.refuse path refusal 1

end Job

end EnvProfiles
