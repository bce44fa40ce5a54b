import EnvProfiles.Tool.Regex
import EnvProfiles.Tool.Translate

/-!
# Scripts of the Line Editor

A script for the editor that works line by line: commands, each with addresses
that tell for which lines it is meant. Blocks and labels are turned into numbers
of commands, so that a script is a row of commands and a jump is a number.

A mistake is told with the number of characters that had been read when it was
noticed.

## Main definitions

* `LineScript.Address`: Which line is meant.
* `LineScript.Step`: What a command does.
* `LineScript.read`: Reads a script.
-/

namespace EnvProfiles.LineScript

/-- Which line is meant. -/
inductive Address where
  | number (line : Nat)
  | last
  /-- Lines that match; no expression stands for the one used last. -/
  | matching (matcher : Option Matcher)
  | everyFrom (first step : Nat)

/-- Where the lines end that are meant. -/
inductive Finish where
  | at (address : Address)
  /-- So many lines after the first one. -/
  | lines (count : Nat)
  /-- The next line whose number is a multiple. -/
  | multiple (count : Nat)

/-- The lines that a command is meant for. -/
structure Lines where
  start : Option Address
  finish : Option Finish
  /-- Whether the other lines are meant. -/
  others : Bool

/-- How letters are changed. -/
inductive Casing where
  | upper
  | lower
  | upperNext
  | lowerNext
  | plain
deriving DecidableEq, Repr

/-- A piece of a replacement. -/
inductive Piece where
  | text (text : String)
  /-- What a group has matched. -/
  | group (number : Nat)
  | casing (casing : Casing)
deriving DecidableEq, Repr

/-- How parts of a line are replaced. -/
structure Substitution where
  matcher : Option Matcher
  replacement : List Piece
  /-- Whether all parts are replaced, from a number on. -/
  all : Bool
  number : Nat
  prints : Bool
  target : Option String

/-- What a command does. -/
inductive Step where
  | none
  /-- Goes on after a block unless the line is meant. -/
  | block (stop : Nat)
  | append (text : String)
  | insert (text : String)
  | change (text : String)
  | jump (label : String)
  | jumpIf (label : String)
  | jumpUnless (label : String)
  | delete
  | deleteFirst
  | fileName
  | take
  | takeAppending
  | keep
  | keepAppending
  | list (width : Option Nat)
  | next
  | nextAppending
  | print
  | printFirst
  | quit (status : Nat)
  | leave (status : Nat)
  | readFile (path : String)
  | readLine (path : String)
  | substitute (s : Substitution)
  | writeFile (path : String)
  | writeFirst (path : String)
  | exchange
  | replace (first second : List Char)
  | clear
  | number

/-- A command. -/
structure Line where
  lines : Lines
  step : Step

/-- A script that has been read. -/
structure Script where
  commands : Array Line
  labels : List (String × Nat)
  /-- Whether lines are only shown if they are asked for. -/
  quiet : Bool

/-- A mistake, and how many characters had been read. -/
abbrev Mistake := Nat × String

/-- What is left of a script, and how many characters have been read. -/
structure Cursor where
  rest : List Char
  read : Nat

namespace Cursor

def skip (c : Cursor) (n : Nat) : Cursor :=
  ⟨c.rest.drop n, c.read + min n c.rest.length⟩

/-- Skips characters of a kind. -/
def skipWhile (c : Cursor) (p : Char → Bool) : Cursor := c.skip (c.rest.takeWhile p).length

/-- The number at this place. -/
def number (c : Cursor) : Option Nat × Cursor :=
  let ds := c.rest.takeWhile Char.isDigit
  ((String.ofList ds).toNat?, c.skip ds.length)

/-- How many characters have been read once the next one is. -/
def after (c : Cursor) : Nat := c.read + if c.rest.isEmpty then 0 else 1

end Cursor

/-- A sign in the quotes of messages. -/
def quoted (text : String) : String := "\x60" ++ text ++ "'"

def isBlank (c : Char) : Bool := c == ' ' || c == '\t'

def isSpace (c : Char) : Bool := c == ' ' || ('\t' ≤ c && c ≤ '\r')

/-- What stands in brackets, up to the one that closes them. The flag tells whether that may be a
member. The bound is the length of the text. -/
def bracketed : Nat → Bool → List Char → Option (List Char)
  | 0, _, _ => none
  | n + 1, first, cs =>
    match cs with
    | [] => none
    | '\n' :: _ => none
    | ']' :: r => if first then (bracketed n false r).map (']' :: ·) else some [']']
    | '[' :: k :: r =>
      if k == ':' || k == '.' || k == '=' then
        match Regex.inner? k r with
        | some (name, r) =>
          (bracketed n false r).map fun t => '[' :: k :: name ++ [k, ']'] ++ t
        | none => none
      else (bracketed n false (k :: r)).map ('[' :: ·)
    | c :: r => (bracketed n false r).map (c :: ·)

/-- The text up to a sign that no backslash stands before. In an expression, a backslash and a
letter stand for a line feed, and what is in brackets is no sign. The bound is the length of the
rest. -/
def delimited (sign : Char) (isRegex : Bool) : Nat → Cursor → Option (List Char × Cursor)
  | 0, _ => none
  | n + 1, c =>
    let after (cs : List Char) (k : Nat) : Option (List Char × Cursor) :=
      (delimited sign isRegex n (c.skip k)).map fun (t, c) => (cs ++ t, c)
    match c.rest with
    | [] => none
    | d :: _ =>
      if d == sign then some ([], c.skip 1)
      else if d == '\n' && isRegex then none
      else if d == '\\' then
        match c.rest with
        | _ :: e :: _ =>
          if e == sign then after (if isRegex && e == 'n' then ['\n'] else [e]) 2
          else if e == 'n' && isRegex then after ['\n'] 2
          else after ['\\', e] 2
        | _ => none
      else if d == '[' && isRegex then
        let opening := if (c.rest.drop 1).head? == some '^' then ['[', '^'] else ['[']
        match bracketed (c.rest.length + 1) true (c.rest.drop opening.length) with
        | some t => after (opening ++ t) (opening.length + t.length)
        | none => none
      else after [d] 1

/-- The character that a letter after a backslash stands for in an expression or a replacement, and
how many characters that takes. -/
def escape? (cs : List Char) : Option (Char × Nat) :=
  let numeral (base width : Nat) (isDigit : Char → Bool) (r : List Char) : Option (Char × Nat) :=
    let ds := (r.take width).takeWhile isDigit
    if ds.isEmpty then none else some (Escape.octet (Escape.value base ds), ds.length + 1)
  match cs with
  | 'a' :: _ => some ('\x07', 1)
  | 'f' :: _ => some ('\x0c', 1)
  | 'n' :: _ => some ('\n', 1)
  | 'r' :: _ => some ('\r', 1)
  | 't' :: _ => some ('\t', 1)
  | 'v' :: _ => some ('\x0b', 1)
  | 'c' :: c :: _ => some (Char.ofNat (c.toUpper.toNat ^^^ 64), 2)
  | 'd' :: r => numeral 10 3 Char.isDigit r
  | 'o' :: r => numeral 8 3 Escape.isOctal r
  | 'x' :: r => numeral 16 2 Escape.isHex r
  | _ => none

/-- An expression with characters in place of what stands for them. -/
def normalized : Nat → List Char → List Char
  | 0, _ => []
  | _ + 1, [] => []
  | n + 1, '\\' :: r =>
    match escape? r with
    | some (c, k) =>
      -- A sign that is written by its number stands for itself.
      let signs := "*.[]\x5e$\\/+?(){}|".toList
      (if signs.contains c then ['\\', c] else [c]) ++ normalized n (r.drop k)
    | none =>
      match r with
      | c :: r => '\\' :: c :: normalized n r
      | [] => ['\\']
  | n + 1, c :: r => c :: normalized n r

/-- The pieces of a replacement. -/
def pieces : Nat → List Char → List Piece
  | 0, _ => []
  | _ + 1, [] => []
  | n + 1, '&' :: r => .group 0 :: pieces n r
  | n + 1, '\\' :: c :: r =>
    if c.isDigit then .group (c.toNat - '0'.toNat) :: pieces n r
    else
      match c with
      | 'U' => .casing .upper :: pieces n r
      | 'L' => .casing .lower :: pieces n r
      | 'u' => .casing .upperNext :: pieces n r
      | 'l' => .casing .lowerNext :: pieces n r
      | 'E' => .casing .plain :: pieces n r
      | _ =>
        match escape? (c :: r) with
        | some (d, k) => .text (String.singleton d) :: pieces n ((c :: r).drop k)
        | none => .text (String.singleton c) :: pieces n r
  | n + 1, c :: r => .text (String.singleton c) :: pieces n r

/-- How scripts are written. -/
structure Style where
  extended : Bool

/-- An expression, or none if it is empty. -/
def matcher (style : Style) (text : List Char) (ignoresCase byLine : Bool) (read : Nat) :
    Except Mistake (Option Matcher) :=
  if text.isEmpty then
    if ignoresCase || byLine then .error (read, "cannot specify modifiers on empty regexp")
    else .ok none
  else
    let dialect : Regex.Dialect := if style.extended then .strictExtended else .strictBasic
    match Matcher.ofText ⟨dialect, ignoresCase, byLine⟩
      (String.ofList (normalized (text.length + 1) text)) with
    | .ok m => if m.looksWrong then .error (read, Matcher.wrongClass) else .ok (some m)
    | .error message => .error (read, message)

/-- The flags after an expression that is an address. -/
def addressFlags : Nat → Cursor → Bool × Bool × Cursor
  | 0, c => (false, false, c)
  | n + 1, c =>
    match c.rest with
    | 'I' :: _ =>
      let (_, m, c) := addressFlags n (c.skip 1)
      (true, m, c)
    | 'M' :: _ =>
      let (i, _, c) := addressFlags n (c.skip 1)
      (i, true, c)
    | _ => (false, false, c)

/-- An address. -/
def address (style : Style) (c : Cursor) : Except Mistake (Option Address × Cursor) :=
  let regex (sign : Char) (c : Cursor) : Except Mistake (Option Address × Cursor) :=
    match delimited sign true (c.rest.length + 1) c with
    | none => .error (c.read + c.rest.length, "unterminated address regex")
    | some (text, c) => do
      let (ignoresCase, byLine, c) := addressFlags (c.rest.length + 1) c
      let m ← matcher style text ignoresCase byLine c.read
      return (some (.matching m), c)
  match c.rest with
  | '/' :: _ => regex '/' (c.skip 1)
  | '\\' :: sign :: _ => regex sign (c.skip 2)
  | '\\' :: [] => .error (c.read + 1, "unterminated address regex")
  | '$' :: _ => .ok (some .last, c.skip 1)
  | _ =>
    match c.number with
    | (some n, c) =>
      let d := c.skipWhile isBlank
      match d.rest with
      | '~' :: _ =>
        match (d.skip 1).number with
        | (some (step + 1), d) => .ok (some (.everyFrom n (step + 1)), d)
        | (_, d) => .ok (some (.number n), d)
      | _ => .ok (some (.number n), c)
    | (none, c) => .ok (none, c)

/-- A first address. What tells where lines end can only stand there if it tells nothing. -/
def firstAddress (style : Style) (c : Cursor) : Except Mistake (Option Address × Cursor) :=
  match c.rest with
  | sign :: _ =>
    if sign == '+' || sign == '~' then
      match (c.skip 1).number with
      | (some (_ + 1), d) => .error (d.read, "invalid usage of +N or ~N as first address")
      | (_, d) => .ok (none, d)
    else address style c
  | [] => address style c

/-- The lines that the next command is meant for. -/
def lines (style : Style) (c : Cursor) : Except Mistake (Lines × Cursor) := do
  let (start, c) ← firstAddress style c
  let (finish, c) ← (do
    if start.isNone then return (none, c)
    let d := c.skipWhile isBlank
    match d.rest with
    | ',' :: _ =>
      let d := (d.skip 1).skipWhile isBlank
      match d.rest with
      | '+' :: _ =>
        let (n, d) := (d.skip 1).number
        return (some (Finish.lines (n.getD 0)), d)
      | '~' :: _ =>
        let (n, d) := (d.skip 1).number
        return (some (Finish.multiple (n.getD 0)), d)
      | _ =>
        match ← address style d with
        | (some a, d) => return (some (Finish.at a), d)
        | (none, d) => throw (d.after, "unexpected " ++ quoted ",")
    | _ => return (none, c) : Except Mistake (Option Finish × Cursor))
  match start, finish with
  | some (.number 0), some (.at (.matching _)) => pure ()
  | some (.number 0), _ => throw (c.after, "invalid usage of line address 0")
  | _, _ => pure ()
  let c := c.skipWhile isSpace
  match c.rest with
  | '!' :: _ =>
    let c := (c.skip 1).skipWhile isBlank
    if c.rest.head? == some '!' then throw (c.after, "multiple " ++ quoted "!" ++ "s")
    return (⟨start, finish, true⟩, c)
  | _ => return (⟨start, finish, false⟩, c)

/-- The text of a command that adds lines, from its first character on: up to a line feed that no
backslash stands before. -/
def addedText : Nat → Cursor → List Char × Cursor
  | 0, c => ([], c)
  | n + 1, c =>
    match c.rest with
    | [] => ([], c)
    | '\n' :: _ => ([], c.skip 1)
    | '\\' :: d :: r =>
      -- Some letters after a backslash stand for characters.
      match escape? (d :: r) with
      | some (e, k) =>
        let (t, c) := addedText n (c.skip (k + 1))
        (e :: t, c)
      | none =>
        let (t, c) := addedText n (c.skip 2)
        (d :: t, c)
    | '\\' :: [] => ([], c.skip 1)
    | d :: _ =>
      let (t, c) := addedText n (c.skip 1)
      (d :: t, c)

/-- The text of a command that adds lines, which ends with a line feed unless there is none at all.
Blanks at its start count if a backslash stands before them. -/
def textArgument (c : Cursor) : Except Mistake (String × Cursor) :=
  let c := c.skipWhile isBlank
  let missing : Except Mistake (String × Cursor) :=
    .error (c.read, "expected \\ after " ++ quoted "a" ++ ", " ++ quoted "c" ++ " or " ++
      quoted "i")
  let found (c : Cursor) : Except Mistake (String × Cursor) :=
    let (t, c) := addedText (c.rest.length + 1) c
    .ok (String.ofList t ++ "\n", c)
  match c.rest with
  | [] => missing
  | '\\' :: _ =>
    let d := (c.skip 1).skipWhile isBlank
    match d.rest with
    | '\n' :: _ =>
      let d := d.skip 1
      if d.rest.isEmpty then .error (d.read, "incomplete command") else found d
    | _ => if (c.skip 1).rest.isEmpty then .ok ("", d) else found (c.skip 1)
  | _ => found c

/-- The text up to the end of the line. -/
def restOfLine (c : Cursor) : String × Cursor :=
  let c := c.skipWhile isBlank
  let t := c.rest.takeWhile (· != '\n')
  (String.ofList t, c.skip (t.length + 1))

/-- The end of a command: blanks and a sign that ends it. -/
def endOfCommand (c : Cursor) : Except Mistake Cursor :=
  let c := c.skipWhile isBlank
  match c.rest with
  | [] => .ok c
  | d :: _ =>
    if d == '\n' || d == ';' then .ok (c.skip 1)
    else if d == '}' || d == '#' then .ok c
    else .error (c.after, "extra characters after command")

/-- A label. -/
def label (c : Cursor) : String × Cursor :=
  let c := c.skipWhile isBlank
  let t := c.rest.takeWhile fun d => !isSpace d && d != ';' && d != '\x7d'
  (String.ofList t, c.skip t.length)

/-- The flags of a substitution, for which the last expression and its flags are kept. -/
structure Flags where
  all : Bool := false
  number : Option Nat := none
  prints : Bool := false
  ignoresCase : Bool := false
  byLine : Bool := false
  target : Option String := none

/-- The flags after a substitution. The bound is the length of the rest. -/
def flags : Nat → Flags → Cursor → Except Mistake (Flags × Cursor)
  | 0, f, c => .ok (f, c)
  | n + 1, f, c =>
    let several (what : String) : Except Mistake (Flags × Cursor) :=
      .error (c.after, "multiple " ++ what ++ " options to " ++ quoted "s" ++ " command")
    match c.rest with
    | [] => .ok (f, c)
    | d :: _ =>
      if d.isDigit then
        match c.number with
        | (some 0, e) =>
          .error (e.read, "number option to " ++ quoted "s" ++ " command may not be zero")
        | (k, e) => if f.number.isSome then several "number" else flags n { f with number := k } e
      else
        match d with
        | 'i' | 'I' => flags n { f with ignoresCase := true } (c.skip 1)
        | 'm' | 'M' => flags n { f with byLine := true } (c.skip 1)
        | 'e' => flags n f (c.skip 1)
        | 'g' => if f.all then several (quoted "g") else flags n { f with all := true } (c.skip 1)
        | 'p' => if f.prints then several (quoted "p")
          else flags n { f with prints := true } (c.skip 1)
        | 'w' =>
          let (path, c) := restOfLine (c.skip 1)
          if path == "" then .error (c.read, "missing filename in r/R/w/W commands")
          else .ok ({ f with target := some path }, c)
        | '\n' | ';' => .ok (f, c.skip 1)
        | '}' | '#' => .ok (f, c)
        | d => if isSpace d then flags n f (c.skip 1)
          else .error (c.after, "unknown option to " ++ quoted "s")

/-- A substitution, after its letter. -/
def substitution (style : Style) (c : Cursor) : Except Mistake (Substitution × Cursor) := do
  let unterminated {α : Type} : Except Mistake α :=
    .error (c.read + c.rest.length, "unterminated " ++ quoted "s" ++ " command")
  match c.rest with
  | [] => unterminated
  | sign :: _ =>
    if sign == '\n' || sign == '\\' then unterminated
    match delimited sign true (c.rest.length + 1) (c.skip 1) with
    | none => unterminated
    | some (regex, d) =>
      match delimited sign false (d.rest.length + 1) d with
      | none => unterminated
      | some (text, d) =>
        let (f, d) ← flags (d.rest.length + 1) {} d
        let m ← matcher style regex f.ignoresCase f.byLine d.read
        let replacement := pieces (text.length + 1) text
        let highest := replacement.foldl (fun n p => match p with
          | .group k => max n k
          | _ => n) 0
        if m.any fun m => m.groups < highest then
          throw (d.read, "invalid reference \\" ++ toString highest ++ " on " ++ quoted "s" ++
            " command's RHS")
        return (⟨m, replacement, f.all, f.number.getD 1, f.prints, f.target⟩, d)

/-- The characters of a command that replaces single ones. -/
def plainChars (sign : Char) : List Char → Option (List Char)
  | '\\' :: '\\' :: r => (plainChars sign r).map ('\\' :: ·)
  | '\\' :: c :: r =>
    match escape? [c] with
    | some (d, _) => (plainChars sign r).map (d :: ·)
    | none => if c == sign then (plainChars sign r).map (c :: ·) else none
  | c :: r => (plainChars sign r).map (c :: ·)
  | [] => some []

/-- The characters that a command replaces, after its letter. -/
def replacement (c : Cursor) : Except Mistake (Step × Cursor) :=
  let unterminated : Except Mistake (Step × Cursor) :=
    .error (c.read + c.rest.length, "unterminated " ++ quoted "y" ++ " command")
  match c.rest with
  | [] => unterminated
  | sign :: _ =>
    match delimited sign false (c.rest.length + 1) (c.skip 1) with
    | none => unterminated
    | some (first, d) =>
      match delimited sign false (d.rest.length + 1) d with
      | none => unterminated
      | some (second, d) =>
        match plainChars sign first, plainChars sign second with
        | some a, some b =>
          if a.length != b.length then
            .error (d.read, "strings for " ++ quoted "y" ++ " command are different lengths")
          else
            match endOfCommand d with
            | .ok d => .ok (.replace a b, d)
            | .error e => .error e
        | _, _ => .error (d.read, "\\ followed by an unknown letter in " ++ quoted "y")

/-- What reading has come to: the commands, where blocks have been opened, and the labels. -/
structure Progress where
  commands : Array Line
  opened : List Nat
  labels : List (String × Nat)

/-- The commands that take nothing but their letter. -/
def simpleStep? (letter : Char) : Option Step :=
  match letter with
  | 'd' => some .delete
  | 'D' => some .deleteFirst
  | 'F' => some .fileName
  | 'g' => some .take
  | 'G' => some .takeAppending
  | 'h' => some .keep
  | 'H' => some .keepAppending
  | 'n' => some .next
  | 'N' => some .nextAppending
  | 'p' => some .print
  | 'P' => some .printFirst
  | 'x' => some .exchange
  | 'z' => some .clear
  | '=' => some .number
  | _ => none

/-- Whether a text names a version of the editor that is newer than this one. -/
def isNewer (version : String) : Bool :=
  if version == "" then false
  else
    match ((splitAt '.' version.toList).map String.ofList).mapM String.toNat? with
    | none => true
    | some numbers => [4, 9] < numbers

/-- The step of a command and what follows it, given its letter. -/
def step (style : Style) (ls : Lines) (letter : Char) (c : Cursor) :
    Except Mistake (Step × Cursor) := do
  let path (make : String → Step) : Except Mistake (Step × Cursor) :=
    let (path, d) := restOfLine c
    if path == "" then .error (c.read, "missing filename in r/R/w/W commands")
    else .ok (make path, d)
  let jump (make : String → Step) : Except Mistake (Step × Cursor) := do
    let (name, d) := label c
    let d ← endOfCommand d
    return (make name, d)
  let status (make : Nat → Step) : Except Mistake (Step × Cursor) := do
    if ls.finish.isSome then throw (c.read, "command only uses one address")
    let (n, d) := (c.skipWhile isBlank).number
    let d ← endOfCommand d
    return (make (n.getD 0), d)
  match simpleStep? letter with
  | some s =>
    let d ← endOfCommand c
    return (s, d)
  | none =>
    match letter with
    | 'a' => (textArgument c).map fun (t, d) => (.append t, d)
    | 'i' => (textArgument c).map fun (t, d) => (.insert t, d)
    | 'c' => (textArgument c).map fun (t, d) => (.change t, d)
    | 'b' => jump .jump
    | 't' => jump .jumpIf
    | 'T' => jump .jumpUnless
    | 'l' => do
      let (n, d) := (c.skipWhile isBlank).number
      let d ← endOfCommand d
      return (.list n, d)
    | 'q' => status .quit
    | 'Q' => status .leave
    | 'v' => do
      let (version, d) := label c
      if isNewer version then throw (d.read, "expected newer version of sed")
      let d ← endOfCommand d
      return (.none, d)
    | 'r' => path .readFile
    | 'R' => path .readLine
    | 'w' => path .writeFile
    | 'W' => path .writeFirst
    | 's' => (substitution style c).map fun (s, d) => (.substitute s, d)
    | 'y' => replacement c
    | letter => throw (c.read, "unknown command: " ++ quoted (String.singleton letter))

/-- Reads commands up to the end. The bound is the length of the text. -/
def commands (style : Style) : Nat → Progress → Cursor → Except Mistake Progress
  | 0, p, _ => .ok p
  | n + 1, p, c => do
    let c := c.skipWhile fun d => isSpace d || d == ';'
    if c.rest.isEmpty then return p
    else
      let (ls, c) ← lines style c
      match c.rest with
      | [] => throw (c.read, "missing command")
      | letter :: _ =>
        let after := c.skip 1
        match letter with
        | '#' =>
          if ls.start.isSome then throw (after.read, "comments don't accept any addresses")
          commands style n p (after.skipWhile (· != '\n'))
        | ':' =>
          if ls.start.isSome then throw (after.read, ": doesn't want any addresses")
          let (name, d) := label after
          if name == "" then throw (d.read, "\":\" lacks a label")
          commands style n { p with labels := (name, p.commands.size) :: p.labels } d
        | '{' =>
          commands style n
            { p with commands := p.commands.push ⟨ls, .block 0⟩, opened := p.commands.size ::
                p.opened } after
        | '}' =>
          match p.opened with
          | [] => throw (after.read, "unexpected " ++ quoted "\x7d")
          | k :: opened =>
            if ls.start.isSome then
              throw (after.read, quoted "\x7d" ++ " doesn't want any addresses")
            let close (l : Line) : Line := { l with step := .block p.commands.size }
            let d ← endOfCommand after
            commands style n { p with commands := p.commands.modify k close, opened } d
        | letter =>
          let (s, d) ← step style ls letter after
          commands style n { p with commands := p.commands.push ⟨ls, s⟩ } d

/-- Reads a script. -/
def read (style : Style) (text : String) : Except Mistake Script :=
  let cs := text.toList
  let quiet := ['#', 'n'].isPrefixOf cs
  match commands style (cs.length + 1) ⟨#[], [], []⟩ ⟨cs, 0⟩ with
  | .error e => .error e
  | .ok p =>
    if !p.opened.isEmpty then .error (0, "unmatched " ++ quoted "\x7b")
    else .ok ⟨p.commands, p.labels, quiet⟩

/-- The labels that are jumped to and are not there. -/
def missingLabel? (s : Script) : Option String :=
  s.commands.toList.findSome? fun l =>
    let check (name : String) : Option String :=
      if name == "" || (s.labels.lookup name).isSome then none else some name
    match l.step with
    | .jump name => check name
    | .jumpIf name => check name
    | .jumpUnless name => check name
    | _ => none

end EnvProfiles.LineScript
