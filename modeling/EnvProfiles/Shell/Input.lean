import EnvProfiles.Shell.Fields
import EnvProfiles.Shell.Parameters

/-!
# Reading Lines

The command of the shell that reads a line into variables. A line is cut into as
many fields as there are variables, and the last variable gets what is left, with
the characters between fields that are in it.

## Main definitions

* `Shell.takeLine`: A line at the start of a text.
* `Shell.lineFields`: The fields of a line.
* `Shell.readBuiltin`: Reads a line into variables.
-/

namespace EnvProfiles.Shell

/-- A line: its characters, of which those after a backslash are taken as they are, how many octets
it takes, and whether it is ended by a line feed. -/
structure InputLine where
  cells : List Cell
  count : Nat
  ended : Bool

/-- A line at the start of a text. -/
def takeLine (raw : Bool) : List Char → InputLine
  | [] => ⟨[], 0, false⟩
  | '\n' :: _ => ⟨[], 1, true⟩
  | '\\' :: r =>
    if raw then
      let line := takeLine raw r
      { line with cells := .char '\\' true true :: line.cells, count := line.count + 1 }
    else
      match r with
      | [] => ⟨[], 1, false⟩
      | '\n' :: r =>
        let line := takeLine raw r
        { line with count := line.count + 2 }
      | c :: r =>
        let line := takeLine raw r
        { line with cells := .char c true false :: line.cells, count := line.count + 2 }
  | c :: r =>
    let line := takeLine raw r
    { line with
      cells := if c == '\x00' then line.cells else .char c true true :: line.cells
      count := line.count + 1 }

/-- Whether a cell can stand between two fields. -/
def isSeparator (separators : List Char) : Cell → Bool
  | .char c _ true => separators.contains c
  | _ => false

/-- Whether a cell is white space that can stand between two fields. -/
def isSpaceSeparator (separators : List Char) (cell : Cell) : Bool :=
  isSeparator separators cell &&
    (match cell with
      | .char c _ _ => c == ' ' || c == '\t' || c == '\n'
      | _ => false)

/-- What is left of a line after a field and what ends it. -/
def afterField (separators : List Char) (cells : List Cell) : List Cell × List Cell :=
  let field := cells.takeWhile fun c => !isSeparator separators c
  let r := (cells.drop field.length).dropWhile (isSpaceSeparator separators)
  let spaced := r.length < (cells.drop field.length).length
  match r with
  | c :: rest =>
    if isSeparator separators c then (field, rest.dropWhile (isSpaceSeparator separators))
    else (field, if spaced then r else cells.drop field.length)
  | [] => (field, [])

/-- The last field: all that is left, without white space at its end, and without what ends it if it
is a single field. -/
def lastField (separators : List Char) (cells : List Cell) : List Cell :=
  let (field, rest) := afterField separators cells
  if rest.isEmpty then field
  else (cells.reverse.dropWhile (isSpaceSeparator separators)).reverse

/-- So many fields of a line. -/
def lineFields (separators : List Char) : Nat → List Cell → List (List Cell)
  | 0, _ => []
  | 1, cells => [lastField separators cells]
  | n + 1, cells =>
    let (field, rest) := afterField separators cells
    field :: lineFields separators n rest

/-- Reads a line into variables. -/
def readBuiltin : Builtin := fun arguments => do
  let (options, names) ← readOptions ['r'] ['p'] (arguments.length + 1) arguments
  if names.isEmpty then fail "arg count"
  -- A prompt is shown on a terminal only.
  let input ← match ← stream? 0 with
    | none => pure none
    | some number =>
      match (← get).machine.available number with
      | .ok text => pure (some (number, text))
      | .error _ => pure none
  let line := match input with
    | some (_, text) => takeLine (options.any (·.1 == 'r')) text.toList
    | none => ⟨[], 0, false⟩
  match input with
  | some (number, _) =>
    modify fun s => { s with machine := s.machine.consume number line.count }
  | none => pure ()
  let separators := (← get).separators
  let cells := line.cells.dropWhile (isSpaceSeparator separators)
  let values := lineFields separators names.length cells
  for (name, i) in names.zipIdx do
    let name := nameOf name
    checkName name
    assign name (joined (values[i]?.getD []))
  return (if line.ended then 0 else 1, "")

end EnvProfiles.Shell
