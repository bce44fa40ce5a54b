import EnvProfiles.Text.Blank

/-!
# Paths

Paths are texts, and are kept as they were given because messages show them.
The parts of a path are the stretches between its slashes. A part that is empty
or a single dot names nothing, except for a dot at the very start.

## Main definitions

* `Path.parts`: The stretches between the slashes.
* `Path.parent?`: The path without its last part.
* `Path.fileName?`: The last part, if it names a file.
* `Path.join`: A path below another.
-/

namespace EnvProfiles

namespace Path

/-- The stretches of a path between its slashes. -/
def parts (path : String) : List String := (splitAt '/' path.toList).map String.ofList

/-- Whether a path begins at the root. -/
def isAbsolute (path : String) : Bool := path.toList.head? == some '/'

/-- Whether a part that comes after others, or first where `leading` is set, names something. -/
def names (leading : Bool) (part : String) : Bool := part != "" && (part != "." || leading)

/-- The parts up to the last one that names something, given as they are and last part first. -/
def trimParts : List String → List String
  | [] => []
  | [p] => if names true p then [p] else []
  | p :: r => if names false p then p :: r else trimParts r

/-- The parts of a path, last part first, up to the last one that names something. -/
def significant (path : String) : List String := trimParts (parts path).reverse

/-- The path without its last part; there is none for a path that has no part. -/
def parent? (path : String) : Option String :=
  match significant path with
  | [] => none
  | _ :: r =>
    match trimParts r with
    | [] => some (if isAbsolute path then "/" else "")
    | kept => some (String.intercalate "/" kept.reverse)

/-- The last part of a path, unless it names a directory by its place alone. -/
def fileName? (path : String) : Option String :=
  match significant path with
  | [] => none
  | p :: _ => if p == "." || p == ".." then none else some p

/-- A path below another one; an absolute path stands alone. -/
def join (path below : String) : String :=
  if isAbsolute below || path == "" then below
  else if path.toList.getLast? == some '/' then path ++ below
  else path ++ "/" ++ below

end Path

end EnvProfiles
