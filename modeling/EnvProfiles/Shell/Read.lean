import EnvProfiles.Shell.Source

/-!
# Reading Scripts

From the text of a script to its commands. A line is read as a whole and run
before the next one is read, so a mistake in a line does not keep the lines
before it from being run.

Every function that can call itself takes a bound on its depth first, and the
length of the text is enough for it.

## Main definitions

* `Shell.readParts`: Reads the parts of a word.
* `Shell.readList`: Reads commands up to a word or sign that ends them.
* `Shell.readLine`: Reads the commands of the next line of a script.
-/

namespace EnvProfiles.Shell

/-! ### Characters -/

/-- Where a part of a word stands, which decides what ends it and what is special in it. -/
inductive Place where
  | free
  | quoted
  /-- In a document that a command reads. -/
  | document
  /-- In braces, which may stand in quotes themselves. -/
  | braced (quoted : Bool)
  /-- In an expression, within so many parentheses. -/
  | expression (depth : Nat)
deriving DecidableEq, Repr

/-- Whether what stands at a place is quoted. -/
def Place.isQuoted : Place → Bool
  | free => false
  | braced q => q
  | _ => true

def isBlank (c : Char) : Bool := c == ' ' || c == '\t'

/-- Whether a character ends a word. -/
def endsWord (c : Char) : Bool := isBlank c || c == '\n' || "|&;<>()".toList.contains c

/-- Whether a character names a parameter by itself. -/
def isSpecial (c : Char) : Bool := c.isDigit || "@*#?$!-".toList.contains c

/-- Whether a character stands for itself at a place. -/
def isOrdinary (place : Place) (c : Char) : Bool :=
  if c == '\\' || c == '$' || c == '\x60' then false
  else
    match place with
    | .free => c != '"' && c != '\'' && !endsWord c
    | .quoted => c != '"'
    | .document => true
    | .braced q => c != '"' && c != '}' && (q || c != '\'')
    | .expression _ => c != '(' && c != ')'

/-- Whether a backslash at a place takes the meaning from a character. -/
def isEscapable (place : Place) (c : Char) : Bool :=
  match place with
  | .free => true
  | .braced false => true
  | .braced true => "$\x60\\\"\x7d".toList.contains c
  | .document => "$\x60\\".toList.contains c
  | _ => "$\x60\\\"".toList.contains c

/-- The mistake of a script or a document that ends within a word. -/
def unterminated (place : Place) (inDocument : Bool) : String :=
  match place with
  | .expression _ => "Missing '))'"
  | .braced false => "Missing '\x7d'"
  | _ => if inDocument then "Missing '\x7d'" else "Unterminated quoted string"

/-- How a word takes part in the value of a parameter, told by a sign. -/
def choiceOf? : Char → Option Choice
  | '-' => some .fallback
  | '=' => some .assigned
  | '?' => some .demanded
  | '+' => some .replacement
  | _ => none

/-- Reads what a backslash stands before. -/
def readEscape (place : Place) : Reader Part := do
  let _ ← nextAsIs?
  match ← nextAsIs? with
  | none => return .text "\\" true
  | some c =>
    if isEscapable place c then return .text (String.singleton c) true
    return .text (String.ofList ['\\', c]) true

/-- Reads what stands between single quotes. -/
def readLiteral : Reader Part := do
  let _ ← nextAsIs?
  let content ← takeAsIs (· != '\'')
  match ← nextAsIs? with
  | some _ => return .text (String.ofList content) true
  | none => mistake "Unterminated quoted string"

/-- The text between backquotes, given what follows the first one, the number of lines in it, and
what follows the second one. -/
def backquoted (quoted : Bool) : List Char → Option (List Char × List Char)
  | [] => none
  | '\x60' :: r => some ([], r)
  | '\\' :: '\n' :: r => backquoted quoted r
  | '\\' :: c :: r =>
    let kept := if "\\\x60$".toList.contains c || (quoted && c == '"') then [c] else ['\\', c]
    (backquoted quoted r).map fun (text, r) => (kept ++ text, r)
  | c :: r => (backquoted quoted r).map fun (text, r) => (c :: text, r)

/-- The name of a parameter in braces and whether its length is asked for, up to the sign that
follows. Nothing, if there is no such name. -/
def readBracedName : Reader (Option (String × Bool)) := do
  match ← look? with
  | none => return none
  | some c =>
    if isNameStart c then return some (String.ofList (← takeChars isNameChar), false)
    else if c.isDigit then return some (String.ofList (← takeChars Char.isDigit), false)
    else if c == '}' then return none
    else
      let _ ← next?
      if c == '#' then
        match ← look? with
        | none => return some ("#", false)
        | some d =>
          if isNameChar d then
            if d.isDigit then return some (String.ofList (← takeChars Char.isDigit), true)
            return some (String.ofList (← takeChars isNameChar), true)
          let before ← get
          let _ ← next?
          if d == '}' || (← look?) != some '}' then
            set before
            return some ("#", false)
          return if isSpecial d then some (String.singleton d, true) else none
      else return if isSpecial c then some (String.singleton c, false) else none

/-- Reads the signs that tell what is made of the value of a parameter. A character that is no such
sign is lost. There is no operation if the braces are closed right after a colon. -/
def readOperation : Reader (Option Operation) := do
  let malformed : Reader (Option Operation) := do
    let _ ← nextAsIs?
    return some .malformed
  match ← look? with
  | some ':' =>
    let _ ← next?
    match ← look? with
    | some '}' =>
      let _ ← next?
      return none
    | some c =>
      if let some choice := choiceOf? c then
        let _ ← next?
        return some (.choose choice true)
      else malformed
    | none => return some .malformed
  | some '%' =>
    let _ ← next?
    return some (.trim true (← accept '%'))
  | some '#' =>
    let _ ← next?
    return some (.trim false (← accept '#'))
  | some c =>
    if let some choice := choiceOf? c then
      let _ ← next?
      return some (.choose choice false)
    else malformed
  | none => return some .malformed

/-- The line that ends a document and whether it has quotes, from the word that announces it. -/
def readDelimiter : Nat → Reader (String × Bool)
  | 0 => return ("", false)
  | n + 1 => do
    match ← look? with
    | none => return ("", false)
    | some c =>
      if endsWord c then return ("", false)
      let before ← get
      let _ ← nextAsIs?
      let (piece, quoted) ←
        if c == '\'' then
          set before
          match ← readLiteral with
          | .text content _ => pure (content, true)
          | _ => pure ("", true)
        else if c == '"' then do
          let content ← takeAsIs (· != '"')
          match ← nextAsIs? with
          | some _ => pure (String.ofList content, true)
          | none => mistake "Unterminated quoted string"
        else if c == '\\' then
          match ← nextAsIs? with
          | some d => pure (String.singleton d, true)
          | none => pure ("\\", true)
        else pure (String.singleton c, false)
      let (rest, more) ← readDelimiter n
      return (piece ++ rest, quoted || more)

/-- Whether a line is joined with the next one. -/
def isContinued (line : List Char) : Bool :=
  (line.reverse.takeWhile (· == '\\')).length % 2 == 1

/-- The lines of a text up to the one that ends a document, and what follows that one. -/
def documentLines (a : Announced) : Nat → Bool → List Char → List Char × List Char
  | 0, _, cs => ([], cs)
  | _ + 1, _, [] => ([], [])
  | n + 1, joined, cs =>
    let cs := if a.indented && !joined then cs.dropWhile (· == '\t') else cs
    let line := cs.takeWhile (· != '\n')
    let r := (cs.dropWhile (· != '\n')).drop 1
    if !joined && String.ofList line == a.last then ([], r)
    else
      let (more, rest) := documentLines a n (!a.literal && isContinued line) r
      (line ++ (if line.length < cs.length then ['\n'] else []) ++ more, rest)

/-! ### Words and commands -/

mutual

/-- Reads the parts of a word up to where the word ends. -/
def readParts : Nat → Place → Reader Word
  | 0, _ => mistake "word too long"
  | n + 1, place => do
    let quoted := place.isQuoted
    match ← look? with
    | none =>
      if place = .free || place = .document then return []
      mistake (unterminated place (← get).inDocument)
    | some c =>
      if isOrdinary place c then
        let taken ← takeChars (isOrdinary place)
        return .text (String.ofList taken) quoted :: (← readParts n place)
      match c with
      | '\\' =>
        let part ← readEscape place
        return part :: (← readParts n place)
      | '\'' =>
        let part ← readLiteral
        return part :: (← readParts n place)
      | '"' =>
        let _ ← next?
        if place = .quoted then return []
        let inner ← readParts n .quoted
        return .text "" true :: inner ++ (← readParts n place)
      | '\x60' =>
        let _ ← next?
        let s ← get
        match backquoted quoted s.rest with
        | none => mistake "EOF in backquote substitution"
        | some (text, rest) =>
          let lines := (s.rest.take (s.rest.length - rest.length)).count '\n'
          let body ← readInner n text
          modify fun t => { t with rest, line := s.line + lines }
          return .output body quoted :: (← readParts n place)
      | '$' =>
        let _ ← next?
        let (parts, isLast) ← readExpansion n quoted
        let rest ← readParts n place
        return if isLast then parts else parts ++ rest
      | '(' =>
        match place with
        | .expression depth =>
          let _ ← next?
          return .text "(" true :: (← readParts n (.expression (depth + 1)))
        | _ => return []
      | ')' =>
        match place with
        | .expression 0 =>
          let _ ← next?
          if ← accept ')' then return []
          return .text ")" true :: (← readParts n place)
        | .expression (depth + 1) =>
          let _ ← next?
          return .text ")" true :: (← readParts n (.expression depth))
        | _ => return []
      | '}' =>
        let _ ← next?
        return []
      | _ => return []

/-- Reads what follows a dollar sign. The flag tells whether the rest of the word is lost. -/
def readExpansion : Nat → Bool → Reader (List Part × Bool)
  | 0, _ => mistake "word too long"
  | n + 1, quoted => do
    let one (part : Part) : Reader (List Part × Bool) := return ([part], false)
    match ← look? with
    | some '(' =>
      let _ ← next?
      if ← accept '(' then one (.arithmetic (← readParts n (.expression 0)) quoted)
      else
        let s ← get
        set { s with announced := [], again := none, inDocument := false }
        let body ← readList n 2
        let closing ← readToken n false false false
        if !closing.isSign ")" then unexpected closing (some (.sign ")"))
        modify fun t => { t with
          announced := s.announced, again := none, inDocument := s.inDocument }
        one (.output body quoted)
    | some '{' =>
      let _ ← next?
      match ← readBracedName with
      | none => one (.parameter "" .malformed (← readParts n (.braced quoted)) quoted)
      | some (name, true) =>
        let operation := if (← look?) == some '}' then Operation.length else .malformed
        one (.parameter name operation (← readParts n (.braced quoted)) quoted)
      | some (name, false) =>
        if ← accept '}' then one (.parameter name .value [] quoted)
        else
          match ← readOperation with
          | none =>
            -- The brace that comes next ends the whole word.
            return (.parameter name .value [] quoted :: (← readParts n (.braced quoted)), true)
          | some operation =>
            let inner := match operation with
              | .trim _ _ => .braced false
              | _ => .braced quoted
            one (.parameter name operation (← readParts n inner) quoted)
    | some c =>
      if isNameStart c then
        one (.parameter (String.ofList (← takeChars isNameChar)) .value [] quoted)
      else if isSpecial c then
        let _ ← next?
        one (.parameter (String.singleton c) .value [] quoted)
      else one (.text "$" quoted)
    | none => one (.text "$" quoted)

/-- Reads commands from a text of their own. -/
def readInner : Nat → List Char → Reader Command
  | 0, _ => mistake "command too long"
  | n + 1, text => do
    let s ← get
    set { s with rest := text, announced := [], again := none, inDocument := false }
    let body ← readList n 2
    modify fun t => { t with announced := s.announced, again := none, inDocument := s.inDocument }
    return body

/-- Reads the documents that were announced. -/
def readDocuments : Nat → Reader Unit
  | 0 => return
  | n + 1 => do
    let s ← get
    match s.announced with
    | [] => return
    | a :: announced =>
      let (body, rest) := documentLines a (s.rest.length + 1) false s.rest
      let lines := (s.rest.take (s.rest.length - rest.length)).count '\n'
      let word ←
        if a.literal then pure [.text (String.ofList body) true]
        else do
          set { s with rest := body, announced := [], again := none, inDocument := true }
          tryCatch (readParts n .document) fun message => do
            -- A document that ends too early is noticed after its last line.
            modify fun t => { t with line := if t.rest.isEmpty then s.line + lines else t.line }
            throw message
      modify fun t => { t with
        rest, line := s.line + lines, announced, again := none, inDocument := s.inDocument
        documents := (a.number, word) :: t.documents }
      readDocuments n

/-- Reads the next token as it stands. -/
def readSign : Nat → Reader Token
  | 0 => mistake "command too long"
  | n + 1 => do
    match ← look? with
    | none => return .fileEnd
    | some c =>
      if isBlank c then
        let _ ← next?
        readSign n
      else if c == '#' then
        let _ ← takeAsIs (· != '\n')
        readSign n
      else if c == '\n' then
        let _ ← next?
        return .lineEnd
      else if c == '&' || c == '|' || c == ';' then
        let _ ← next?
        if ← accept c then return .sign (String.ofList [c, c])
        return .sign (String.singleton c)
      else if c == '(' || c == ')' then
        let _ ← next?
        return .sign (String.singleton c)
      else if c == '<' || c == '>' then readDirection c none
      else
        let parts ← readParts n .free
        modify fun s => { s with lastWord := parts }
        match parts, ← look? with
        | [.text digit false], some d =>
          -- A digit right before an arrow is a descriptor.
          match digit.toList with
          | [digit] =>
            if digit.isDigit && (d == '<' || d == '>') then
              readDirection d (some (digit.toNat - '0'.toNat))
            else return .word parts
          | _ => return .word parts
        | _, _ => return .word parts
where
  readDirection (c : Char) (descriptor : Option Nat) : Reader Token := do
    let _ ← next?
    if c == '>' then
      let direction ←
        if ← accept '>' then pure Direction.append
        else if ← accept '|' then pure .overwrite
        else if ← accept '&' then pure (.duplicate false)
        else pure .write
      return .redirection (descriptor.getD 1) direction
    else
      let direction ←
        if ← accept '<' then do
          let indented ← accept '-'
          modify fun s => { s with announced :=
            ⟨s.next, "", indented, false⟩ :: s.announced, next := s.next + 1 }
          pure (.document ((← get).next - 1))
        else if ← accept '&' then pure (.duplicate true)
        else if ← accept '>' then pure .readWrite
        else pure Direction.read
      return .redirection (descriptor.getD 0) direction

/-- Reads the next token: past line ends, and with words for what they mean at the start of a
command, if so asked. -/
def readToken : Nat → Bool → Bool → Bool → Reader Token
  | 0, _, _, _ => mistake "command too long"
  | n + 1, lines, meanings, aliases => do
    let s ← get
    let token ← match s.again with
      | some token =>
        set { s with again := none }
        pure token
      | none => readSign n
    match token with
    | .lineEnd =>
      if lines then
        readDocuments n
        readToken n lines meanings aliases
      else return token
    | .word [.text text false] =>
      if meanings && keywords.contains text then return .keyword text
      if aliases then
        let s ← get
        let busy := s.busy.filter fun b => s.rest.length > b.2
        match s.aliases.lookup text with
        | some value =>
          if busy.any (·.1 == text) then return token
          set { s with
            rest := value.toList ++ s.rest
            busy := (text, s.rest.length) :: busy }
          readToken n lines meanings aliases
        | none => return token
      else return token
    | token => return token

/-- Reads what a redirection refers to. -/
def readTarget : Nat → Nat → Direction → Reader Redirection
  | 0, _, _ => mistake "command too long"
  | n + 1, descriptor, direction => do
    match direction with
    | .document _ =>
      let _ ← takeChars isBlank
      match ← look? with
      | none => unexpected .fileEnd none
      | some c =>
        if endsWord c then
          let token ← readSign n
          unexpected token none
        let bound := (← get).rest.length + 1
        let (last, literal) ← readDelimiter bound
        -- A digit right before an arrow is a descriptor.
        if !literal && last.length == 1 && last.toList.all Char.isDigit &&
            ((← look?).any fun d => d == '<' || d == '>') then
          unexpected (.redirection 0 .read) none
        modify fun s => { s with lastWord := [.text last literal] }
        -- Documents follow in the order in which they are announced.
        modify fun s => match s.announced with
          | a :: announced => { s with announced := announced ++ [{ a with last, literal }] }
          | [] => s
        return .mk descriptor direction []
    | _ =>
      match ← readToken n false false false with
      | .word parts => return .mk descriptor direction parts
      | token => unexpected token none

/-- Reads redirections as long as there are any. -/
def readRedirections : Nat → Reader (List Redirection)
  | 0 => return []
  | n + 1 => do
    match ← readToken n false true true with
    | .redirection descriptor direction =>
      let redirection ← readTarget n descriptor direction
      return redirection :: (← readRedirections n)
    | token =>
      putBack token
      return []

/-- Reads commands. The kind tells how a list ends: a line of a script (1) ends with the line, and a
list that may be empty (2) or not (0) ends with a token that closes it. -/
def readList : Nat → Nat → Reader Command
  | 0, _ => mistake "command too long"
  | n + 1, kind => readMore n kind none

/-- Reads commands after those that have been read. -/
def readMore : Nat → Nat → Option Command → Reader Command
  | 0, _, _ => mistake "command too long"
  | n + 1, kind, before => do
    let token ← readToken n (kind != 1) true true
    match token with
    | .lineEnd =>
      readDocuments n
      return before.getD .nothing
    | .fileEnd =>
      readDocuments n
      putBack .fileEnd
      return before.getD .nothing
    | _ =>
      putBack token
      if (kind == 2 || (kind == 0 && before.isSome)) && token.closes then
        return before.getD .nothing
      let line := (← get).line
      let body ← readChain n none
      let ending ← readToken n false false false
      let next : Command :=
        if ending.isSign "&" then
          match body with
          | .pipe commands _ => .pipe commands true
          | .redirected line body redirections => .background line body redirections
          | .subshell line body redirections =>
            .background line (.subshell line body []) redirections
          | body => .background line body []
        else body
      let soFar := match before with
        | none => next
        | some first => .sequence first next
      match ending with
      | .fileEnd =>
        readDocuments n
        putBack .fileEnd
        return soFar
      | .lineEnd =>
        putBack .lineEnd
        readMore n kind (some soFar)
      | _ =>
        if ending.isSign ";" || ending.isSign "&" then readMore n kind (some soFar)
        else if kind == 1 then unexpected ending none
        else
          putBack ending
          return soFar

/-- Reads commands of which each is run or not by how the ones before it ended. -/
def readChain : Nat → Option (Bool × Command) → Reader Command
  | 0, _ => mistake "command too long"
  | n + 1, before => do
    let next ← readPipe n before.isSome
    let soFar := match before with
      | none => next
      | some (true, first) => .both first next
      | some (false, first) => .either first next
    let token ← readToken n false false false
    if token.isSign "&&" then readChain n (some (true, soFar))
    else if token.isSign "||" then readChain n (some (false, soFar))
    else
      putBack token
      return soFar

/-- Reads commands between bars. -/
def readPipe : Nat → Bool → Reader Command
  | 0, _ => mistake "command too long"
  | n + 1, lines => do
    let token ← readToken n lines lines lines
    let negated := token.isKeyword "!"
    let first ←
      if negated then readCommand n false true
      else do
        putBack token
        readCommand n false false
    let rest ← readPiped n
    let body := if rest.isEmpty then first else .pipe (first :: rest) false
    return if negated then .negation body else body

/-- Reads the commands after bars. -/
def readPiped : Nat → Reader (List Command)
  | 0 => return []
  | n + 1 => do
    let token ← readToken n false false false
    if token.isSign "|" then
      let next ← readCommand n true true
      return next :: (← readPiped n)
    putBack token
    return []

/-- Reads one command; the flags tell whether line ends may come first, and whether words are to be
taken for what they mean. -/
def readCommand : Nat → Bool → Bool → Reader Command
  | 0, _, _ => mistake "command too long"
  | n + 1, lines, meanings => do
    let line := (← get).line
    let token ← readToken n lines meanings meanings
    let closed (body : Command) (last : Token) : Reader Command := do
      let found ← readToken n false false false
      let same := match found, last with
        | .keyword a, .keyword b => a == b
        | .sign a, .sign b => a == b
        | _, _ => false
      if !same then unexpected found (some last)
      let redirections ← readRedirections n
      if redirections.isEmpty then return body
      match body with
      | .subshell line body _ => return .subshell line body redirections
      | body => return .redirected line body redirections
    match token with
    | .keyword "if" =>
      let body ← readBranch n
      closed body (.keyword "fi")
    | .keyword "while" =>
      let body ← readRepeated n false
      closed body (.keyword "done")
    | .keyword "until" =>
      let body ← readRepeated n true
      closed body (.keyword "done")
    | .keyword "for" =>
      let body ← readEach n
      closed body (.keyword "done")
    | .keyword "case" =>
      let subject ← match ← readToken n false false false with
        | .word parts => pure parts
        | found => unexpected found (some (.word []))
      let found ← readToken n true true true
      if !found.isKeyword "in" then unexpected found (some (.keyword "in"))
      let clauses ← readClauses n
      let redirections ← readRedirections n
      let body := Command.cases line subject clauses
      return if redirections.isEmpty then body else .redirected line body redirections
    | .keyword "\x7b" =>
      let body ← readList n 0
      closed body (.keyword "\x7d")
    | .sign "(" =>
      let body ← readList n 0
      closed (.subshell line body []) (.sign ")")
    | .word _ =>
      putBack token
      let line := (← get).line
      readSimple n line true [] [] []
    | .redirection _ _ =>
      putBack token
      let line := (← get).line
      readSimple n line true [] [] []
    | token => unexpected token none

/-- Reads a branch from its condition on. -/
def readBranch : Nat → Reader Command
  | 0 => mistake "command too long"
  | n + 1 => do
    let condition ← readList n 0
    let found ← readToken n false false false
    if !found.isKeyword "then" then unexpected found (some (.keyword "then"))
    let yes ← readList n 0
    let token ← readToken n false false false
    match token with
    | .keyword "elif" => return .branch condition yes (← readBranch n)
    | .keyword "else" => return .branch condition yes (← readList n 0)
    | token =>
      putBack token
      return .branch condition yes .nothing

/-- Reads a loop from its condition on. -/
def readRepeated : Nat → Bool → Reader Command
  | 0, _ => mistake "command too long"
  | n + 1, untilHolds => do
    let condition ← readList n 0
    let found ← readToken n false false false
    if !found.isKeyword "do" then unexpected found (some (.keyword "do"))
    return .repeated untilHolds condition (← readList n 0)

/-- Reads a loop over words from its variable on. -/
def readEach : Nat → Reader Command
  | 0 => mistake "command too long"
  | n + 1 => do
    let line := (← get).line
    let name ← match ← readToken n false false false with
      | .word [.text name false] =>
        if isName name.toList then pure name else mistake "Bad for loop variable"
      | _ => mistake "Bad for loop variable"
    let token ← readToken n true true true
    let items ←
      if token.isKeyword "in" then do
        let (items, ending) ← readItems n
        match ending with
        | .lineEnd => pure items
        | ending => if ending.isSign ";" then pure items else unexpected ending none
      else do
        if !token.isSign ";" then putBack token
        pure [[.parameter "@" .value [] true]]
    let found ← readToken n true true true
    if !found.isKeyword "do" then unexpected found (some (.keyword "do"))
    return .each line name items (← readList n 0)

/-- Reads words up to a token that is none. -/
def readItems : Nat → Reader (List Word × Token)
  | 0 => return ([], .fileEnd)
  | n + 1 => do
    match ← readToken n false false false with
    | .word parts =>
      let (more, ending) ← readItems n
      return (parts :: more, ending)
    | .lineEnd =>
      readDocuments n
      return ([], .lineEnd)
    | ending => return ([], ending)

/-- Reads patterns with the commands that belong to them. -/
def readClauses : Nat → Reader (List Clause)
  | 0 => mistake "command too long"
  | n + 1 => do
    let token ← readToken n true true false
    if token.isKeyword "esac" then return []
    let token ← if token.isSign "(" then readToken n false false false else pure token
    let (patterns, ending) ← readPatterns n token
    if !ending.isSign ")" then unexpected ending (some (.sign ")"))
    let body ← readList n 2
    let token ← readToken n true true false
    if token.isKeyword "esac" then return [.mk patterns body]
    if !token.isSign ";;" then unexpected token (some (.sign ";;"))
    return .mk patterns body :: (← readClauses n)

/-- Reads patterns between bars, of which the first has been read, and the token after them. -/
def readPatterns : Nat → Token → Reader (List Word × Token)
  | 0, _ => mistake "command too long"
  | n + 1, first => do
    -- Any token may stand for a pattern, and the pattern is the last word in any case.
    let pattern ← match first with
      | .word parts => pure parts
      | .keyword text => pure [.text text false]
      | _ => pure (← get).lastWord
    let token ← readToken n false false false
    if token.isSign "|" then
      let first ← readToken n false false false
      let (more, ending) ← readPatterns n first
      return (pattern :: more, ending)
    return ([pattern], token)

/-- Reads the rest of a simple command, given what has been read of it. The flag tells whether
assignments may still come. -/
def readSimple : Nat → Nat → Bool → List (String × Word) → List Word → List Redirection →
    Reader Command
  | 0, _, _, _, _, _ => mistake "command too long"
  | n + 1, line, start, assignments, words, redirections => do
    let token ← readToken n false false start
    match token with
    | .word parts =>
      if start && Word.isAssignment parts then
        readSimple n line true (assignments ++ [splitAssignment parts]) words redirections
      else readSimple n line false assignments (words ++ [parts]) redirections
    | .redirection descriptor direction =>
      let redirection ← readTarget n descriptor direction
      readSimple n line start assignments words (redirections ++ [redirection])
    | token =>
      if token.isSign "(" && words.length == 1 && assignments.isEmpty && redirections.isEmpty then
        let closing ← readToken n false false false
        if !closing.isSign ")" then unexpected closing (some (.sign ")"))
        match words with
        | [[.text name false]] =>
          if !isName name.toList || specialBuiltins.contains name then mistake "Bad function name"
          let line := (← get).line
          return .function line name (← readCommand n true true)
        | _ => mistake "Bad function name"
      putBack token
      return .simple line assignments words redirections
where
  /-- The name and the value of an assignment. -/
  splitAssignment : Word → String × Word
    | .text content quoted :: r =>
      let name := content.toList.takeWhile (· != '=')
      if name.length < content.length then
        (String.ofList name, .text (String.ofList (content.toList.drop (name.length + 1))) quoted
          :: r)
      else
        let (more, value) := splitAssignment r
        (content ++ more, value)
    | r => ("", r)

end

/-- What the next line of a script is. -/
inductive Line where
  | command (command : Command) (rest : Source)
  | last
  | malformed (message : String) (line : Nat)

/-- Reads the commands of the next line of a script. -/
def readLine (source : Source) : Line :=
  let bound := 8 * source.rest.length + 1000
  match (readList bound 1).run { source with again := none, announced := [] } with
  | (.ok command, rest) =>
    match rest.again, command with
    | some .fileEnd, .nothing => if rest.rest.isEmpty then .last else .command command rest
    | _, _ => .command command rest
  | (.error message, rest) => .malformed message rest.line

end EnvProfiles.Shell
