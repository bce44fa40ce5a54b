import EnvProfiles.Cli.Form

/-!
# Reading a Command Line

Sorts the words of a command line into options, flags and words. An option that
takes a value finds it in the same word, after an equals sign or after its
letter, or else in the next word. What an option or a word brings is settled only
when the next one begins: until then a value may be missing, and only then it is
checked.

After two hyphens, and after the first word of a command line within the command
line, every word stands for itself.

## Main definitions

* `Matches`: What has been found.
* `Scan`: What has been found and what is not settled yet.
* `Scan.take`: Takes in one word.
* `Scan.run`: Takes in words up to the name of a command.
-/

namespace EnvProfiles.Cli

/-- What has been found among the words. -/
structure Matches where
  /-- The values of options, in the order in which they were given. -/
  values : List (String × String)
  flags : List String
  words : List String
deriving DecidableEq, Repr

namespace Matches

/-- Nothing has been found. -/
def none : Matches := ⟨[], [], []⟩

/-- The value of an option. -/
def value? (m : Matches) (name : String) : Option String := m.values.lookup name

/-- The values of an option that may be given several times. -/
def all (m : Matches) (name : String) : List String :=
  (m.values.filter fun v => v.1 == name).map (·.2)

/-- Whether a flag was given. -/
def has (m : Matches) (name : String) : Bool := m.flags.contains name

end Matches

/-- What was begun and is not settled. -/
inductive Pending where
  /-- An option that waits for its value. -/
  | waiting (option : OptionForm)
  /-- An option with its value. -/
  | option (option : OptionForm) (value : String)
  /-- A word, and what it must be. -/
  | word (check : Check) (word : String)
deriving DecidableEq, Repr

/-- What has been found, what is not settled yet, and whether all further words stand for
themselves. -/
structure Scan where
  found : Matches
  pending : Option Pending
  trailing : Bool
deriving DecidableEq, Repr

namespace Scan

/-- Nothing has been read. -/
def start : Scan := ⟨.none, none, false⟩

/-- Adds the value of an option, which may be given once or more often. -/
def addValue (s : Scan) (option : OptionForm) (value : String) : Except UsageFault Scan :=
  let added := { s with found.values := s.found.values ++ [(option.name, value)] }
  match option.kind with
  | .value check =>
    -- That the option is given twice is noticed before the value is looked at.
    if (s.found.value? option.name).isSome then .error .argumentConflict
    else (check.run value).map fun _ => added
  | _ => .ok added

/-- Settles what was begun. -/
def settle (s : Scan) : Except UsageFault Scan :=
  let rest := { s with pending := none }
  match s.pending with
  | none => .ok s
  | some (.waiting _) => .error .invalidValue
  | some (.option option value) => rest.addValue option value
  | some (.word check word) =>
    (check.run word).map fun _ => { rest with found.words := s.found.words ++ [word] }

/-- Whether an option waits for its value. -/
def isWaiting (s : Scan) : Bool :=
  match s.pending with
  | some (.waiting _) => true
  | _ => false

/-- How many words stand for themselves so far. -/
def wordCount (s : Scan) : Nat :=
  s.found.words.length + match s.pending with
    | some (.word _ _) => 1
    | _ => 0

/-- Takes in a word that stands for itself. -/
def takeWord (form : CommandForm) (s : Scan) (word : String) : Except UsageFault Scan :=
  if form.rest then do
    let s ← s.settle
    return { s with found.words := s.found.words ++ [word], trailing := true }
  else
    match form.places[s.wordCount]? with
    | some check => do
      let s ← s.settle
      return { s with pending := some (.word check word) }
    | none =>
      -- After two hyphens the name of a command is only a word too many.
      if form.commands.isEmpty || (s.trailing && (form.command? word).isSome) then
        .error .unknownArgument
      else .error .invalidSubcommand

/-- Takes in a word that is no option: the value of the option that waits for one, or a word that
stands for itself. -/
def takeValue (form : CommandForm) (s : Scan) (word : String) : Except UsageFault Scan :=
  match s.pending with
  | some (.waiting option) => .ok { s with pending := some (.option option word) }
  | _ => takeWord form s word

/-- Takes in an option that takes no value. -/
def takeFlag (s : Scan) (option : OptionForm) : Except UsageFault Scan := do
  let s ← s.settle
  match option.kind with
  | .help => .error .displayHelp
  | .version => .error .displayVersion
  | _ =>
    -- A flag that is given twice is refused like an option.
    if s.found.has option.name then .error .argumentConflict
    else return { s with found.flags := s.found.flags ++ [option.name] }

/-- Whether an option takes a value. -/
def takesValue (option : OptionForm) : Bool :=
  match option.kind with
  | .value _ => true
  | .values => true
  | _ => false

/-- Takes in an option that takes a value, which may be attached to it. -/
def takeOption (s : Scan) (option : OptionForm) (attached : Option String) :
    Except UsageFault Scan := do
  let s ← s.settle
  match attached with
  | some value => s.addValue option value
  | none => return { s with pending := some (.waiting option) }

/-- Takes in a word that begins with two hyphens, given what follows them. -/
def takeLong (form : CommandForm) (s : Scan) (word : String) (cs : List Char) :
    Except UsageFault Scan :=
  let name := String.ofList (cs.takeWhile (· != '='))
  let attached := match cs.dropWhile (· != '=') with
    | _ :: value => some (String.ofList value)
    | [] => none
  match form.long? name with
  | some option =>
    if takesValue option then takeOption s option attached
    else if attached.isSome then .error .tooManyValues
    else takeFlag s option
  | none => if form.rest then takeValue form s word else .error .unknownArgument

/-- Takes in letters after a hyphen, one option after the other. The letters after one that takes a
value are its value. -/
def takeLetters (form : CommandForm) : List Char → Scan → Except UsageFault Scan
  | [], s => .ok s
  | c :: r, s =>
    match form.short? c with
    | none => .error .unknownArgument
    | some option =>
      if takesValue option then
        takeOption s option <| match r with
          | [] => none
          | '=' :: value => some (String.ofList value)
          | value => some (String.ofList value)
      else
        match takeFlag s option with
        | .ok s => takeLetters form r s
        | .error fault => .error fault

/-- Takes in a word that begins with a hyphen, given what follows it. -/
def takeShort (form : CommandForm) (s : Scan) (word : String) (cs : List Char) :
    Except UsageFault Scan :=
  -- A letter that is no option shows that the word begins a command line of its own.
  if form.rest && !cs.all (fun c => (form.short? c).isSome) then takeValue form s word
  else takeLetters form cs s

/-- Takes in one word. -/
def take (form : CommandForm) (s : Scan) (word : String) : Except UsageFault Scan :=
  if s.trailing then takeWord form s word
  else
    match word.toList with
    | ['-', '-'] => .ok { s with trailing := true }
    | '-' :: '-' :: cs => takeLong form s word cs
    | '-' :: c :: cs => takeShort form s word (c :: cs)
    | _ => takeValue form s word

/-- Takes in words up to the name of a command, which is returned with the words after it. -/
def run (form : CommandForm) :
    List String → Scan → Except UsageFault (Scan × Option (String × List String))
  | [], s => .ok (s, none)
  | word :: words, s =>
    -- The word that an option waits for is its value, even if it names a command.
    match if s.trailing || s.isWaiting then none else form.command? word with
    | some command => .ok (s, some (command, words))
    | none =>
      match take form s word with
      | .ok s => run form words s
      | .error fault => .error fault

end Scan

end EnvProfiles.Cli
