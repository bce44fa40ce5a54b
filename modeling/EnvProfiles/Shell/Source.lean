import EnvProfiles.Shell.Script

/-!
# The Text of a Script

A script is read character by character, and what is read of it decides how the
rest is to be read: a word may be an alias, whose text takes its place, and a
line may announce documents that follow it.

A backslash before a line feed joins two lines, and neither of them is ever
seen except in places where all characters stand for themselves.

## Main definitions

* `Shell.Token`: What a script is made of.
* `Shell.Source`: A script that is being read.
* `Shell.Reader`: Reads something, or finds a mistake.
* `Shell.next?`, `Shell.look?`: The next character, which is read or only looked at.
-/

namespace EnvProfiles.Shell

/-- What a script is made of, between blanks. -/
inductive Token where
  | fileEnd
  | lineEnd
  /-- A sign that separates or joins commands. -/
  | sign (text : String)
  /-- A word with a meaning of its own. -/
  | keyword (text : String)
  | word (parts : Word)
  | redirection (descriptor : Nat) (direction : Direction)

/-- A document that a line has announced. -/
structure Announced where
  number : Nat
  /-- The line that ends the document. -/
  last : String
  /-- Whether tabs at the start of a line are left out. -/
  indented : Bool
  /-- Whether the document is taken as it is. -/
  literal : Bool

/-- A script that is being read. -/
structure Source where
  rest : List Char
  /-- The number of the line. -/
  line : Nat
  aliases : List (String × String)
  /-- The aliases whose text is being read, with the length of what follows that text. -/
  busy : List (String × Nat)
  announced : List Announced
  documents : List (Nat × Word)
  /-- The number of the next document. -/
  next : Nat
  /-- A token that is to be read once more. -/
  again : Option Token
  /-- The last word that has been read. -/
  lastWord : Word
  /-- Whether the text of a document is being read. -/
  inDocument : Bool

/-- Reads something from a script. A mistake is told in words. -/
abbrev Reader := ExceptT String (StateM Source)

/-- A text without joined lines at its start, and how many there were. -/
def joinLines : Nat → List Char → Nat × List Char
  | n, '\\' :: '\n' :: r => joinLines (n + 1) r
  | n, cs => (n, cs)

/-- Joins the lines that are to be joined at the place that is read next. -/
def Source.join (s : Source) : Source :=
  let (n, rest) := joinLines 0 s.rest
  { s with rest, line := s.line + n }

/-- The next character, which is only looked at. -/
def look? : Reader (Option Char) := do
  modify Source.join
  return (← get).rest.head?

/-- Reads the next character as it stands. -/
def nextAsIs? : Reader (Option Char) := do
  let s ← get
  match s.rest with
  | [] => return none
  | c :: rest =>
    set { s with rest, line := if c == '\n' then s.line + 1 else s.line }
    return some c

/-- Reads the next character. -/
def next? : Reader (Option Char) := do
  modify Source.join
  nextAsIs?

/-- Reads the next character if it is the one that is asked for. -/
def accept (c : Char) : Reader Bool := do
  if (← look?) == some c then
    let _ ← next?
    return true
  return false

/-- Reads characters as they stand as long as they satisfy a condition. -/
def takeAsIs (p : Char → Bool) : Reader (List Char) := do
  let s ← get
  let taken := s.rest.takeWhile p
  set { s with rest := s.rest.dropWhile p, line := s.line + taken.count '\n' }
  return taken

/-- The characters at the start of a text that satisfy a condition, the number of lines that are
joined among them, and what follows. -/
def takeJoined (p : Char → Bool) : List Char → Nat → List Char × Nat × List Char
  | '\\' :: '\n' :: r, n => takeJoined p r (n + 1)
  | c :: r, n =>
    if p c then
      let (taken, n, rest) := takeJoined p r n
      (c :: taken, n, rest)
    else ([], n, c :: r)
  | [], n => ([], n, [])

/-- Reads characters as long as they satisfy a condition. -/
def takeChars (p : Char → Bool) : Reader (List Char) := do
  let s ← get
  let (taken, n, rest) := takeJoined p s.rest 0
  set { s with rest, line := s.line + n + taken.count '\n' }
  return taken

/-- Ends the reading with a mistake. -/
def mistake {α : Type} (text : String) : Reader α := throw ("Syntax error: " ++ text)

/-- The words that have a meaning of their own. -/
def keywords : List String :=
  ["!", "case", "do", "done", "elif", "else", "esac", "fi", "for", "if", "in", "then", "until",
    "while", "\x7b", "\x7d"]

/-- A token as messages show it. -/
def Token.shown : Token → String
  | fileEnd => "end of file"
  | lineEnd => "newline"
  | sign text => "\"" ++ text ++ "\""
  | keyword text => "\"" ++ text ++ "\""
  | word _ => "word"
  | redirection _ _ => "redirection"

/-- Whether a list of commands is over at a token. -/
def Token.closes : Token → Bool
  | fileEnd => true
  | sign text => [")", ";;"].contains text
  | keyword text => ["do", "done", "elif", "else", "esac", "fi", "then", "\x7d"].contains text
  | _ => false

/-- Whether a token is a certain sign. -/
def Token.isSign (text : String) : Token → Bool
  | sign other => other == text
  | _ => false

/-- Whether a token is a certain word with a meaning of its own. -/
def Token.isKeyword (text : String) : Token → Bool
  | keyword other => other == text
  | _ => false

/-- A mistake: a token that does not belong where it stands, and the one that does. -/
def unexpected {α : Type} (found : Token) (wanted : Option Token) : Reader α :=
  let more := match wanted with
    | some token => " (expecting " ++ token.shown ++ ")"
    | none => ""
  mistake (found.shown ++ " unexpected" ++ more)

/-- Sees to it that a token is read once more. -/
def putBack (token : Token) : Reader Unit := modify fun s => { s with again := some token }

end EnvProfiles.Shell
