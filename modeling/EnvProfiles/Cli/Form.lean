/-!
# Forms of Commands

What the words on a command line may be: options with a long name and perhaps a
letter, words that stand for themselves, and the names of commands with forms of
their own.

## Main definitions

* `UsageFault`: Why the words do not have the form of a command.
* `OptionForm`: An option, and what it takes.
* `CommandForm`: What a command may be given.
-/

namespace EnvProfiles.Cli

/-- Why words do not have the form of a command, or that help was asked for instead of one. -/
inductive UsageFault where
  | unknownArgument
  | invalidSubcommand
  | argumentConflict
  | invalidValue
  | valueValidation
  | missingRequiredArgument
  | tooManyValues
  | displayHelp
  | displayVersion
deriving DecidableEq, Repr

/-- The number that the program ends with: zero if help was asked for. -/
def UsageFault.exitCode : UsageFault → Nat
  | displayHelp => 0
  | displayVersion => 0
  | _ => 2

/-- What the value of an option or a word must be. -/
inductive Check where
  | anything
  /-- A path, which is not empty. -/
  | path
  /-- A level of logging: a whole number from zero to six, perhaps with a sign. -/
  | level
deriving DecidableEq, Repr

/-- The number that digits with an optional sign denote. -/
def signedNat? (cs : List Char) : Option Nat :=
  let (negative, ds) := match cs with
    | '+' :: r => (false, r)
    | '-' :: r => (true, r)
    | _ => (false, cs)
  let n := ds.foldl (fun n d => n * 10 + (d.toNat - '0'.toNat)) 0
  if ds.isEmpty || !ds.all Char.isDigit || (negative && n != 0) then none else some n

/-- The level that a value denotes. -/
def level? (value : String) : Option Nat :=
  (signedNat? value.toList).bind fun n => if n ≤ 6 then some n else none

/-- Whether a value is what it must be. -/
def Check.run : Check → String → Except UsageFault Unit
  | anything, _ => .ok ()
  | path, value => if value == "" then .error .invalidValue else .ok ()
  | level, value => if (level? value).isSome then .ok () else .error .valueValidation

/-- What an option takes and does. -/
inductive OptionKind where
  /-- A value; the option may be given once. -/
  | value (check : Check)
  /-- A value; the option may be given again and again. -/
  | values
  /-- Nothing; the option may be given once. -/
  | flag
  | help
  | version
deriving DecidableEq, Repr

/-- An option with its long name and its letter. -/
structure OptionForm where
  name : String
  letter : Option Char
  kind : OptionKind
deriving DecidableEq, Repr

/-- What a command may be given. -/
structure CommandForm where
  options : List OptionForm
  /-- The words that must be given, in their order. -/
  places : List Check
  /-- Whether the first word that is no option begins a command line of its own, which takes in
  all words after it. -/
  rest : Bool
  /-- The names of commands with forms of their own, with the name that each stands for. -/
  commands : List (String × String)
deriving DecidableEq, Repr

namespace CommandForm

/-- The option of a long name. -/
def long? (form : CommandForm) (name : String) : Option OptionForm :=
  form.options.find? fun o => o.name == name

/-- The option of a letter. -/
def short? (form : CommandForm) (letter : Char) : Option OptionForm :=
  form.options.find? fun o => o.letter == some letter

/-- The command that a word names. -/
def command? (form : CommandForm) (word : String) : Option String := form.commands.lookup word

end CommandForm

end EnvProfiles.Cli
