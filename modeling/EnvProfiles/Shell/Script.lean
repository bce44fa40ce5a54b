/-!
# Shell Scripts

What the text of a script says before anything in it is replaced. A word is a
list of parts, because only a part knows whether it stood in quotes: what stands
in quotes stays one piece, and what does not is cut and taken for a pattern once
parameters have been replaced.

## Main definitions

* `Shell.Part`, `Shell.Word`: Words before anything in them is replaced.
* `Shell.Redirection`: Where a command reads from and writes to.
* `Shell.Command`: A command.
-/

namespace EnvProfiles.Shell

/-- When a word takes part in the value of a parameter, and how. -/
inductive Choice where
  /-- The word stands for a value that is missing. -/
  | fallback
  /-- The word stands for a value that is missing, and is kept as the value. -/
  | assigned
  /-- A value that is missing ends the script. -/
  | demanded
  /-- The word replaces a value that is there. -/
  | replacement
deriving DecidableEq, Repr

/-- What is made of the value of a parameter. -/
inductive Operation where
  | value
  | length
  /-- The value or a word; `orEmpty` tells whether an empty value is missing. -/
  | choose (choice : Choice) (orEmpty : Bool)
  /-- The value without what a pattern matches at an end of it. -/
  | trim (atEnd longest : Bool)
  /-- Nothing that makes sense, which is found out when it is asked for. -/
  | malformed
deriving DecidableEq, Repr

/-- What a redirection does. -/
inductive Direction where
  | read
  | write
  /-- Writes to a file that is not to exist yet, if scripts ask for such care; this one overrules
  it. -/
  | overwrite
  | append
  | readWrite
  /-- The descriptor becomes a second name for another one. -/
  | duplicate (reading : Bool)
  /-- What is read stands in the script itself. -/
  | document (number : Nat)
deriving DecidableEq, Repr

mutual

/-- A part of a word. -/
inductive Part where
  | text (content : String) (quoted : Bool)
  | parameter (name : String) (operation : Operation) (word : List Part) (quoted : Bool)
  /-- What a command writes, without the line feeds at its end. -/
  | output (body : Command) (quoted : Bool)
  /-- The value of an expression. -/
  | arithmetic (expression : List Part) (quoted : Bool)

/-- A descriptor and what it is made to refer to. -/
inductive Redirection where
  | mk (descriptor : Nat) (direction : Direction) (target : List Part)

/-- A choice of patterns, and the command that belongs to it. -/
inductive Clause where
  | mk (patterns : List (List Part)) (body : Command)

/-- A command. -/
inductive Command where
  | nothing
  /-- Assignments, the words of a call, and redirections, on a line of the script. -/
  | simple (line : Nat) (assignments : List (String × List Part)) (words : List (List Part))
      (redirections : List Redirection)
  /-- A command with redirections around it. -/
  | redirected (line : Nat) (body : Command) (redirections : List Redirection)
  /-- A command whose changes to variables are lost. -/
  | subshell (line : Nat) (body : Command) (redirections : List Redirection)
  /-- A command that nothing waits for. -/
  | background (line : Nat) (body : Command) (redirections : List Redirection)
  | sequence (first second : Command)
  /-- The second command is run if the first one succeeds. -/
  | both (first second : Command)
  /-- The second command is run if the first one fails. -/
  | either (first second : Command)
  /-- Every command reads what the one before it writes. -/
  | pipe (commands : List Command) (background : Bool)
  | negation (body : Command)
  | branch (condition yes no : Command)
  /-- A command that is repeated while a condition holds, or until it does. -/
  | repeated (untilHolds : Bool) (condition body : Command)
  /-- A command for every word of a list. -/
  | each (line : Nat) (name : String) (items : List (List Part)) (body : Command)
  /-- The command of the first clause that matches a word. -/
  | cases (line : Nat) (subject : List Part) (clauses : List Clause)
  /-- Gives a name to a command. -/
  | function (line : Nat) (name : String) (body : Command)

end

/-- A word before anything in it is replaced. -/
abbrev Word := List Part

/-- A text without quotes. -/
def Word.ofText (text : String) : Word := [.text text false]

/-- The text at the start of a word that stands without quotes. -/
def Word.bareText : Word → String
  | .text content false :: r => content ++ bareText r
  | _ => ""

/-- Whether every part of a word is text without quotes. -/
def Word.isBare : Word → Bool
  | [] => true
  | .text _ false :: r => isBare r
  | _ => false

/-- The commands of the shell whose mistakes end a script. No function can have their names. -/
def specialBuiltins : List String :=
  [".", ":", "break", "continue", "eval", "exec", "exit", "export", "local", "readonly", "return",
    "set", "shift", "times", "trap", "unset"]

def isNameStart (c : Char) : Bool := c.isAlpha || c == '_'

def isNameChar (c : Char) : Bool := c.isAlphanum || c == '_'

/-- Whether a text is the name of a variable. -/
def isName (cs : List Char) : Bool :=
  match cs with
  | c :: r => isNameStart c && r.all isNameChar
  | [] => false

/-- Whether a word begins with a name and an equals sign. -/
def Word.isAssignment (word : Word) : Bool :=
  let cs := word.bareText.toList
  isName (cs.takeWhile (· != '=')) && cs.contains '='

end EnvProfiles.Shell
