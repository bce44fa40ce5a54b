/-!
# Space between the Parts of a TOML Text

Blanks, comments and line breaks. A line ends in a line feed, which a carriage
return may precede; a carriage return stands nowhere else.

## Main definitions

* `skipBlanks`: Passes blanks.
* `endOfLine?`: Passes what may stand at the end of a line.
* `skipLines?`: Passes blanks, comments and line breaks.
* `dropSpace`: Passes blanks and line breaks.
-/

namespace EnvProfiles.TomlReader

/-- Whether a character is white space within a line. -/
def isBlank (c : Char) : Bool := c == ' ' || c == '\t'

/-- Whether a character may stand in a comment or a text as it is. -/
def isVisible (c : Char) : Bool := c == '\t' || (0x20 ≤ c.toNat && c.toNat != 0x7F)

/-- Passes blanks. -/
def skipBlanks (cs : List Char) : List Char := cs.dropWhile isBlank

/-- Passes a comment, if one comes next. -/
def comment? : List Char → Option (List Char)
  | '#' :: r =>
    let rest := r.dropWhile isVisible
    match rest with
    | [] => some rest
    | '\n' :: _ => some rest
    | '\r' :: '\n' :: _ => some rest
    | _ => none
  | cs => some cs

/-- Passes a line break, if one comes next. -/
def lineBreak? : List Char → Option (List Char)
  | '\n' :: r => some r
  | '\r' :: '\n' :: r => some r
  | _ => none

/-- Passes blanks, a comment, and the line break that must follow unless the text ends. -/
def endOfLine? (cs : List Char) : Option (List Char) := do
  let cs ← comment? (skipBlanks cs)
  if cs.isEmpty then return cs else lineBreak? cs

/-- Passes blanks, comments and line breaks; the first argument bounds how many lines. -/
def skipLines? : Nat → List Char → Option (List Char)
  | 0, _ => none
  | n + 1, cs => do
    let cs ← comment? (skipBlanks cs)
    match lineBreak? cs with
    | some r => skipLines? n r
    | none => return cs

/-- Passes blanks and line breaks. -/
def dropSpace : List Char → List Char
  | ' ' :: r => dropSpace r
  | '\t' :: r => dropSpace r
  | '\n' :: r => dropSpace r
  | '\r' :: '\n' :: r => dropSpace r
  | cs => cs

end EnvProfiles.TomlReader
