import EnvProfiles.Files.Path

/-!
# Ways Through Directories

How the names of a path lead from one place to another. A name leads into a
directory and nowhere else; a link on the way leads to where its own path leads.
What is found at a place is a parameter here, so that any set of files can be
gone through.

## Main definitions

* `Location`: The names that lead to something from the root.
* `Refusal`: Why the system refuses an operation.
* `Waypoint`: What matters about a place on the way to another one.
* `Terrain`: What is found where.
* `Terrain.along`: The place that the names of a path lead to.
-/

namespace EnvProfiles

/-- The names that lead to a file or directory from the root. -/
abbrev Location := List String

/-- Why the system refuses an operation. -/
inductive Refusal where
  | absent
  | present
  | notDirectory
  | isDirectory
  | nameTooLong
  | nullCharacter
  | notText
  | denied
  | notEmpty
  | tooManyLinks
  | invalid
  /-- A file that may be run, and is no program. -/
  | noProgram
  | noSpace
  | badDescriptor
deriving DecidableEq, Repr

/-- The words of the system for a refusal. -/
def Refusal.detail : Refusal → String
  | denied => "Permission denied"
  | notEmpty => "Directory not empty"
  | tooManyLinks => "Too many levels of symbolic links"
  | invalid => "Invalid argument"
  | noProgram => "Exec format error"
  | noSpace => "No space left on device"
  | badDescriptor => "Bad file descriptor"
  | absent => "No such file or directory"
  | present => "File exists"
  | notDirectory => "Not a directory"
  | isDirectory => "Is a directory"
  | nameTooLong => "File name too long"
  | nullCharacter => "file name contained an unexpected NUL byte"
  | notText => "stream did not contain valid UTF-8"

/-- What matters about a place on the way to another one. -/
inductive Waypoint where
  | absent
  | directory
  | link (target : String)
  | other
deriving DecidableEq, Repr

/-- What is found where, and how many octets a name has. -/
structure Terrain where
  found : Location → Waypoint
  size : String → Nat

namespace Terrain

/-- How many octets the name of a file may have. -/
def nameLimit : Nat := 255

/-- How many octets a path may have. -/
def pathLimit : Nat := 4095

/-- How many links a path may lead through. -/
def linkLimit : Nat := 40

/-- The names that a path follows. -/
def names (path : String) : List String := (Path.parts path).filter (· != "")

/-- Whether a path ends with a slash. -/
def endsWithSlash (path : String) : Bool := path.toList.getLast? == some '/'

/-- The names that a path follows, where a slash at its end demands a directory. -/
def demandedNames (path : String) : List String :=
  names path ++ if endsWithSlash path then ["."] else []

/-- One step from a place, which must be a directory, to a name within it. -/
def step (t : Terrain) (place : Location) (name : String) :
    Except Refusal Location :=
  match t.found place with
  | .absent => .error .absent
  | .directory =>
    if name == "." then .ok place
    else if name == ".." then .ok place.dropLast
    else if nameLimit < t.size name then .error .nameTooLong
    else .ok (place ++ [name])
  | _ => .error .notDirectory

/-- Follows names from a place up to the first link, and returns the names that are left there. -/
def advance (t : Terrain) (place : Location) :
    List String → Except Refusal (Location × List String)
  | [] => .ok (place, [])
  | name :: r =>
    match t.step place name with
    | .error refusal => .error refusal
    | .ok place =>
      match t.found place with
      | .link _ => .ok (place, r)
      | _ => advance t place r

/-- Follows names from a place on, and links as long as the bound allows. A link at the very end is
followed if `last` is set. -/
def follow (t : Terrain) (last : Bool) :
    Nat → Location → List String → Except Refusal Location
  | 0, _, _ => .error .tooManyLinks
  | n + 1, place, names =>
    match t.advance place names with
    | .error refusal => .error refusal
    | .ok (place, r) =>
      match t.found place with
      | .link target =>
        if r.isEmpty && !last then .ok place
        else
          follow t last n (if Path.isAbsolute target then [] else place.dropLast)
            (Terrain.names target ++ r)
      | _ => .ok place

/-- The place that names lead to along a path, which begins at a place if it does not begin at the
root. -/
def along (t : Terrain) (last : Bool) (base : Location) (path : String)
    (names : List String) : Except Refusal Location :=
  if path == "" then .error .absent
  else if path.toList.contains '\x00' then .error .nullCharacter
  else if pathLimit < t.size path then .error .nameTooLong
  else t.follow last (linkLimit + 1) (if Path.isAbsolute path then [] else base) names

end Terrain

end EnvProfiles
