/-!
# Places in a YAML Text

What the reader of YAML looks at: the characters that are left, and where the
first of them stands. Columns decide the structure of a YAML text, so every
step keeps the line and the column up to date. Columns count characters, while
the distance from the beginning of the text is counted in the octets that the
characters take. A line break is one of five characters or the pair of carriage
return and line feed, and is passed in one step.

## Main definitions

* `isBreak`, `isBlank`: The two kinds of white space.
* `Cursor`: The characters that are left and their place.
* `octets`: How many octets some characters take.
* `Cursor.advance`, `Cursor.skipBreak`: One step within a line, and one to the
  next line.
* `isAllowed`: Whether a YAML text may hold a character.
-/

namespace EnvProfiles.Yaml

/-- Whether a character ends a line. -/
def isBreak (c : Char) : Bool :=
  c == '\n' || c == '\r' || c == '\u0085' || c == '\u2028' || c == '\u2029'

/-- Whether a character is white space within a line. -/
def isBlank (c : Char) : Bool := c == ' ' || c == '\t'

/-- Whether a character may stand in the name of an anchor, a handle or a directive. -/
def isWordChar (c : Char) : Bool := c.isAlphanum || c == '_' || c == '-'

/-- Whether a YAML text may hold a character. -/
def isAllowed (c : Char) : Bool :=
  let n := c.toNat
  n == 0x09 || n == 0x0A || n == 0x0D || (0x20 ≤ n && n ≤ 0x7E) || n == 0x85 ||
    (0xA0 ≤ n && n ≤ 0xD7FF) || (0xE000 ≤ n && n ≤ 0xFFFD) || 0x10000 ≤ n

/-- How many octets some characters take. -/
def octets (cs : List Char) : Nat := cs.foldl (fun n c => n + c.utf8Size) 0

/-- The characters that are left, and where the first of them stands. -/
structure Cursor where
  rest : List Char
  /-- How many octets come before it. -/
  index : Nat
  line : Nat
  column : Nat

namespace Cursor

/-- The place before the first character of a text. -/
def start (text : List Char) : Cursor := ⟨text, 0, 0, 0⟩

/-- Whether a test holds of the next character; at the end of the text it fails. -/
def next (c : Cursor) (test : Char → Bool) : Bool :=
  match c.rest with
  | x :: _ => test x
  | [] => false

/-- Whether a test holds of the character after the next one. -/
def second (c : Cursor) (test : Char → Bool) : Bool :=
  match c.rest with
  | _ :: x :: _ => test x
  | _ => false

/-- Whether the characters from `n` on begin with white space or have come to an end. -/
def blankAt (c : Cursor) (n : Nat) : Bool :=
  match c.rest.drop n with
  | x :: _ => isBlank x || isBreak x
  | [] => true

/-- Whether nothing is left. -/
def atEnd (c : Cursor) : Bool := c.rest.isEmpty

/-- Whether a line break comes next. -/
def atBreak (c : Cursor) : Bool := c.next isBreak

/-- Whether a blank comes next. -/
def atBlank (c : Cursor) : Bool := c.next isBlank

/-- Whether the text begins with three given characters in the first column, set off by white
space: the form of the marks that begin and end a document. -/
def atMark (c : Cursor) (x : Char) : Bool :=
  c.column == 0 && c.rest.take 3 == [x, x, x] && c.blankAt 3

/-- Whether a mark that begins or ends a document comes next. -/
def atDocumentMark (c : Cursor) : Bool := c.atMark '-' || c.atMark '.'

/-- One step over a character within a line. -/
def advance (c : Cursor) : Cursor :=
  { c with
    rest := c.rest.tail
    index := c.index + octets (c.rest.take 1)
    column := c.column + 1 }

/-- Several steps within a line. -/
def advanceBy (c : Cursor) (n : Nat) : Cursor :=
  { c with
    rest := c.rest.drop n
    index := c.index + octets (c.rest.take n)
    column := c.column + n }

/-- One step over a line break; anywhere else it does nothing. -/
def skipBreak (c : Cursor) : Cursor :=
  match c.rest with
  | '\r' :: '\n' :: r => ⟨r, c.index + 2, c.line + 1, 0⟩
  | x :: r => if isBreak x then ⟨r, c.index + x.utf8Size, c.line + 1, 0⟩ else c
  | [] => c

/-- What a line break contributes to a scalar: a line feed, unless it is one of the separators of
lines and paragraphs, which stand for themselves. -/
def breakText (c : Cursor) : List Char :=
  match c.rest with
  | x :: _ =>
    if x == '\u2028' || x == '\u2029' then [x] else if isBreak x then ['\n'] else []
  | [] => []

/-- The characters up to the first that fails a test, and the place of that one. -/
def takeWhile (c : Cursor) (test : Char → Bool) : List Char × Cursor :=
  let word := c.rest.takeWhile test
  (word, c.advanceBy word.length)

/-- Passes the characters up to the first that fails a test. -/
def skipWhile (c : Cursor) (test : Char → Bool) : Cursor := (c.takeWhile test).2

/-- Passes what is left of a line, the break not included. -/
def skipLine (c : Cursor) : Cursor := c.skipWhile fun x => !isBreak x

/-- How many steps are enough for a walk over what is left. -/
def steps (c : Cursor) : Nat := c.rest.length + 1

end Cursor

end EnvProfiles.Yaml
