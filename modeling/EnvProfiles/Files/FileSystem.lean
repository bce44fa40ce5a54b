import EnvProfiles.Files.Terrain
import EnvProfiles.Text.Octets

/-!
# Files and Directories

A file system as a set of places with what is found there: a directory, a file
with a text or with octets that are none, a database file, or a link to another
path. A place is the list of the names that lead to it from the root. The root
itself and the directory in which the program runs always exist.

One file may have several places. What is written to it at one of them is found
at all of them, and it stays until the last of them is taken away.

Each operation takes a path as the system does: it enters every directory that
the path names, follows links, and refuses a path that leads through a file, a
name that is too long, or a null character. What is refused has no effect.

## Main definitions

* `FileSystem`: What is found where.
* `FileSystem.sameFile`: Whether two places are names of one file.
* `FileSystem.put`, `FileSystem.drop`: Change what is found at a place.
* `FileSystem.locate`, `FileSystem.locateName`: The place that a path leads to,
  with and without following a link at its end.
* `FileSystem.makeDirectory`, `FileSystem.makeDirectories`: Create directories.
* `FileSystem.write`, `FileSystem.read`: Replace and return the text of a file.
* `FileSystem.remove`: Removes a file.
* `FileSystem.list`: The names in a directory.
-/

namespace EnvProfiles

/-- What is found at a place. -/
inductive Entry where
  | directory
  | text (content : String)
  /-- A file whose octets are no text. -/
  | octets (content : List Char)
  /-- A database file, with its rows. Its content is no text. -/
  | database (rows : List (String × String))
  /-- Another path, which is followed wherever a path leads here. -/
  | link (target : String)
deriving DecidableEq, Repr

/-- What is found where, and the directory at which paths begin. Permissions that differ from the
usual ones are not looked at here, and are kept for the programs of the machine. -/
structure FileSystem where
  /-- Each file and directory with the places where it is found. What was changed last comes first. -/
  nodes : List (List Location × Entry)
  workplace : Location
  modes : List (Location × Nat) := []
deriving Repr

namespace FileSystem

/-- A file system in which everything is found at one place. -/
def ofPlaces (places : List (Location × Entry)) (workplace : Location) : FileSystem :=
  ⟨places.map fun (place, entry) => ([place], entry), workplace, []⟩

/-- A file system that holds the directory in which the program runs and nothing else. -/
def fresh : FileSystem := ofPlaces [(["work"], .directory), (["tmp"], .directory)] ["work"]

/-- What is found at a place, with all places where it is found. -/
def node? (fs : FileSystem) (place : Location) : Option (List Location × Entry) :=
  if place.isEmpty then none else fs.nodes.find? fun node => node.1.contains place

/-- What is found at a place. -/
def entry? (fs : FileSystem) (place : Location) : Option Entry :=
  if place.isEmpty then some .directory else (fs.node? place).map (·.2)

/-- The places of what is found at a place, or this place alone if nothing is found there. -/
def places (fs : FileSystem) (place : Location) : List Location :=
  match fs.node? place with
  | some node => node.1
  | none => [place]

/-- Whether two places are names of one file. -/
def sameFile (fs : FileSystem) (place other : Location) : Bool := fs.places place == fs.places other

/-- Replaces what is found at a place. If it is a file, it is replaced under all its names. -/
def put (fs : FileSystem) (place : Location) (entry : Entry) : FileSystem :=
  { fs with
    nodes := ((fs.places place).filter (fs.sameFile place), entry) ::
      fs.nodes.eraseP fun node => node.1.contains place }

/-- Takes away what is found at a place. A file stays under its other names. -/
def drop (fs : FileSystem) (place : Location) : FileSystem :=
  { fs with
    nodes := (fs.nodes.map fun (places, entry) => (places.filter (· != place), entry)).filter
      fun node => !node.1.isEmpty
    modes := fs.modes.filter fun e => e.1 != place }

/-- What is found where on the way to a place. -/
def terrain (fs : FileSystem) : Terrain where
  found place :=
    match fs.entry? place with
    | none => .absent
    | some .directory => .directory
    | some (.link target) => .link target
    | some _ => .other
  size := String.utf8ByteSize

/-- The place that names lead to along a path. -/
def follow (fs : FileSystem) (last : Bool) (path : String) (names : List String) :
    Except Refusal Location :=
  fs.terrain.along last fs.workplace path names

/-- The place that a path leads to, where nothing need be found. -/
def locate (fs : FileSystem) (path : String) : Except Refusal Location :=
  fs.follow true path (Terrain.demandedNames path)

/-- The place that a path names, which may be a link. -/
def locateName (fs : FileSystem) (path : String) : Except Refusal Location :=
  fs.follow false path (Terrain.demandedNames path)

/-- What is found at the end of a path. -/
def find (fs : FileSystem) (path : String) : Except Refusal Entry :=
  match fs.locate path with
  | .error refusal => .error refusal
  | .ok place =>
    match fs.entry? place with
    | some entry => .ok entry
    | none => .error .absent

/-- Whether a path leads to something. -/
def contains (fs : FileSystem) (path : String) : Bool :=
  match fs.find path with
  | .ok _ => true
  | .error _ => false

/-- Whether a path leads to a directory. -/
def isDirectory (fs : FileSystem) (path : String) : Bool :=
  match fs.find path with
  | .ok .directory => true
  | _ => false

/-- Whether a path leads to a regular file. -/
def isFile (fs : FileSystem) (path : String) : Bool :=
  match fs.find path with
  | .ok .directory => false
  | .ok _ => true
  | .error _ => false

/-- The text of a file. -/
def read (fs : FileSystem) (path : String) : Except Refusal String :=
  match fs.find path with
  | .error refusal => .error refusal
  | .ok .directory => .error .isDirectory
  | .ok (.link _) => .error .tooManyLinks
  | .ok (.octets _) => .error .notText
  | .ok (.database _) => .error .notText
  | .ok (.text content) => .ok content

/-- Creates a directory in one that exists. -/
def makeDirectory (fs : FileSystem) (path : String) : Except Refusal FileSystem :=
  match fs.follow false path (Terrain.names path) with
  | .error refusal => .error refusal
  | .ok place =>
    match fs.entry? place with
    | some _ => .error .present
    | none => .ok (fs.put place .directory)

/-- Creates a directory unless there is one. -/
def ensureDirectory (fs : FileSystem) (path : String) : Except Refusal FileSystem :=
  match fs.makeDirectory path with
  | .ok fs => .ok fs
  | .error refusal => if fs.isDirectory path then .ok fs else .error refusal

/-- Creates a directory and those above it that are missing. The outcome holds the file system in
either case, since directories above it may have been made before the last one is refused. -/
def makeDirectoriesWithin : Nat → FileSystem → String → Except Refusal Unit × FileSystem
  | 0, fs, _ => (.error .absent, fs)
  | n + 1, fs, path =>
    if path == "" then (.ok (), fs)
    else
      match fs.makeDirectory path with
      | .ok fs => (.ok (), fs)
      | .error refusal =>
        if refusal != .absent then
          if fs.isDirectory path then (.ok (), fs) else (.error refusal, fs)
        else
          match Path.parent? path with
          | none => (.error refusal, fs)
          | some above =>
            match makeDirectoriesWithin n fs above with
            | (.error refusal, fs) => (.error refusal, fs)
            | (.ok (), fs) =>
              match fs.ensureDirectory path with
              | .ok fs => (.ok (), fs)
              | .error refusal => (.error refusal, fs)

/-- Creates a directory and those above it that are missing. -/
def makeDirectories (fs : FileSystem) (path : String) : Except Refusal Unit × FileSystem :=
  makeDirectoriesWithin (path.length + 1) fs path

/-- Replaces the text of a file, which is created if it is missing. -/
def write (fs : FileSystem) (path content : String) : Except Refusal FileSystem :=
  match fs.locate path with
  | .error refusal => .error refusal
  | .ok place =>
    match fs.entry? place with
    | some .directory => .error .isDirectory
    | _ => .ok (fs.put place (.text content))

/-- Adds text at the end of a file, which is created if it is missing. -/
def append (fs : FileSystem) (path content : String) : Except Refusal FileSystem :=
  match fs.locate path with
  | .error refusal => .error refusal
  | .ok place =>
    match fs.entry? place with
    | some .directory => .error .isDirectory
    | some (.text before) => .ok (fs.put place (.text (before ++ content)))
    | some (.octets before) => .ok (fs.put place (.octets (before ++ octetsOf content)))
    | some (.database _) => .ok fs
    | _ => .ok (fs.put place (.text content))

/-- Removes a file or a link. -/
def remove (fs : FileSystem) (path : String) : Except Refusal FileSystem :=
  match fs.locateName path with
  | .error refusal => .error refusal
  | .ok place =>
    match fs.entry? place with
    | none => .error .absent
    | some .directory => .error .isDirectory
    | some _ => .ok (fs.drop place)

/-- The last name of a place below a directory, if the place is directly below it. -/
def childName? (directory place : Location) : Option String :=
  match place.getLast? with
  | some name => if place.dropLast == directory then some name else none
  | none => none

/-- All that is found, place by place. -/
def found (fs : FileSystem) : List (Location × Entry) :=
  fs.nodes.flatMap fun (places, entry) => places.map fun place => (place, entry)

/-- What is found in a directory, in ascending order of the names. -/
def children (fs : FileSystem) (directory : Location) : List (String × Entry) :=
  (fs.found.filterMap fun (place, entry) =>
    (childName? directory place).map fun name => (name, entry)).mergeSort fun a b => a.1 ≤ b.1

/-- What is found in the directory that a path leads to. -/
def list (fs : FileSystem) (path : String) : Except Refusal (List (String × Entry)) :=
  match fs.locate path with
  | .error refusal => .error refusal
  | .ok place =>
    match fs.entry? place with
    | none => .error .absent
    | some .directory => .ok (fs.children place)
    | some _ => .error .notDirectory

/-- Puts a file where it is wanted, with the directories above it; a path that ends with a slash
asks for a directory. What cannot be done is left undone. -/
def provide (fs : FileSystem) (path content : String) : FileSystem :=
  if Terrain.endsWithSlash path then (fs.makeDirectories path).2
  else
    let fs := (fs.makeDirectories ((Path.parent? path).getD "")).2
    match fs.write path content with
    | .ok fs => fs
    | .error _ => fs

end FileSystem

end EnvProfiles
