import EnvProfiles.Machine.Disk
import EnvProfiles.Shell.Pattern

/-!
# Fields

What a word comes to once everything in it has been replaced: a row of cells,
which know whether they stood in quotes and whether they come from the value of
a parameter. Only what comes from a value is cut into fields, and only what did
not stand in quotes is taken for a pattern of paths.

## Main definitions

* `Cell`: What a word comes to, piece by piece.
* `fields`: The fields that cells are cut into.
* `Field.paths`: The texts that a field comes to, which are paths if it is a pattern.
* `joined`, `patternOf`: The text and the pattern of cells that are not cut.
-/

namespace EnvProfiles.Shell

/-- What a word comes to, piece by piece. -/
inductive Cell where
  /-- A character; `active` tells whether it may be part of a pattern, and `loose` whether it may
  stand between two fields. -/
  | char (c : Char) (active loose : Bool)
  /-- Quotes, which make a field even if nothing stands in them. -/
  | quotes
  /-- What stands before and after belongs to different fields. -/
  | boundary
  /-- What stands before and after comes from different values. -/
  | seam
deriving DecidableEq, Repr

/-- The cells of a text that is not cut. -/
def solidCells (active : Bool) (text : String) : List Cell :=
  text.toList.map fun c => .char c active false

/-- The cells of a value that is cut. -/
def looseCells (text : String) : List Cell :=
  (text.toList.map fun c => .char c true true) ++ [.seam]

/-- A field: its characters, of which some may be part of a pattern. -/
abbrev Field := List (Char × Bool)

/-- Where the cutting of cells has got to. -/
structure Cutting where
  /-- The fields that are complete, last one first. -/
  complete : List Field
  /-- The characters of the field that has been begun, last one first. -/
  current : Option Field
  /-- What may be skipped: white space, and one character that is none. -/
  skipsSpace : Bool
  skipsOther : Bool
  /-- Whether the last cut belongs to no value. -/
  afterBoundary : Bool
deriving Repr

namespace Cutting

/-- Ends the field that has been begun, or an empty one. -/
def cut (k : Cutting) : Cutting :=
  { k with complete := (k.current.getD []) :: k.complete, current := none }

/-- Goes on with a cell, given the characters at which values are cut. -/
def step (separators : List Char) (k : Cutting) : Cell → Cutting
  | .quotes => { k with
      current := some (k.current.getD []), skipsSpace := false, skipsOther := false
      afterBoundary := false }
  | .boundary => { k.cut with skipsSpace := false, skipsOther := false, afterBoundary := true }
  | .seam => { k with skipsSpace := false, skipsOther := false }
  | .char c active loose =>
    let isSpace := c == ' ' || c == '\t' || c == '\n' || c == '\x00'
    -- A null character stands between the values of a list.
    if loose && (separators.contains c || c == '\x00') then
      if isSpace then
        if k.skipsSpace || (k.current.isNone && !k.afterBoundary) then k
        else { k.cut with skipsSpace := true, skipsOther := true, afterBoundary := false }
      else if k.skipsOther then { k with skipsOther := false }
      else { k.cut with skipsSpace := true, skipsOther := false, afterBoundary := false }
    else
      { k with
        current := some ((c, active) :: k.current.getD []), skipsSpace := false
        skipsOther := false, afterBoundary := false }

end Cutting

/-- The fields that cells are cut into. -/
def fields (separators : List Char) (cells : List Cell) : List Field :=
  let k := cells.foldl (Cutting.step separators) ⟨[], none, false, false, false⟩
  let k := if k.current.isSome || k.afterBoundary then k.cut else k
  (k.complete.map List.reverse).reverse

/-- The text of cells that are not cut. -/
def joined (cells : List Cell) : String :=
  String.ofList (cells.filterMap fun
    | .char c _ _ => some c
    | .boundary => some ' '
    | _ => none)

/-- A pattern in which characters that may be no part of a pattern have a backslash. -/
def escaped (field : Field) : List Char :=
  field.flatMap fun (c, active) => if active then [c] else ['\\', c]

/-- The pattern of cells that are not cut. -/
def patternOf (cells : List Cell) : List Char :=
  escaped (cells.filterMap fun
    | .char c active _ => some (c, active)
    | .boundary => some (' ', false)
    | _ => none)

/-! ### Patterns of paths -/

/-- The parts of a pattern of paths between its slashes. -/
def pathParts : List Char → List (List Char)
  | [] => [[]]
  | '\\' :: '/' :: r => [] :: pathParts r
  | '/' :: r => [] :: pathParts r
  | '\\' :: c :: r =>
    match pathParts r with
    | p :: ps => ('\\' :: c :: p) :: ps
    | [] => [['\\', c]]
  | c :: r =>
    match pathParts r with
    | p :: ps => (c :: p) :: ps
    | [] => [[c]]

/-- The names in a directory that match a pattern. Names that begin with a dot have to be asked
for. -/
def namesMatching (disk : Disk) (base : Location) (directory : String) (pattern : List Char) :
    List String :=
  match disk.find base (if directory == "" then "." else directory) with
  | .ok (place, ⟨.directory, _, _⟩) =>
    let asksForDot := (pattern.dropWhile (· == '\\')).head? == some '.'
    let items := Pattern.ofChars pattern
    (["." , ".."] ++ disk.children place).filter fun name =>
      (asksForDot || !".".isPrefixOf name) && Pattern.matchItems items name.toList
  | _ => []

/-- The paths that begin with a text and go on as parts of a pattern say. -/
def pathsFrom (disk : Disk) (base : Location) (start : String) : List (List Char) → List String
  | [] => []
  | part :: rest =>
    if !(part :: rest).any Pattern.isPattern then
      let path := start ++ String.intercalate "/" ((part :: rest).map fun p =>
        String.ofList (Pattern.plain p))
      if (disk.findName base path).isOk then [path] else []
    else if Pattern.isPattern part then
      let paths := (namesMatching disk base start part).map (start ++ ·)
      if rest.isEmpty then paths
      else paths.flatMap fun path => pathsFrom disk base (path ++ "/") rest
    else pathsFrom disk base (start ++ String.ofList (Pattern.plain part) ++ "/") rest

/-- The text of a field. -/
def Field.text (field : Field) : String := String.ofList (field.map (·.1))

/-- The texts that a field comes to: the paths that match it in ascending order, or its own text if
there are none. -/
def Field.paths (disk : Disk) (base : Location) (field : Field) : List String :=
  if !field.any fun (c, active) => active && "*?[".toList.contains c then [field.text]
  else
    match (pathsFrom disk base "" (pathParts (escaped field))).mergeSort fun a b => a ≤ b with
    | [] => [field.text]
    | paths => paths

end EnvProfiles.Shell
