import EnvProfiles.Files.FileSystem

/-!
# Disks

The file system as the programs of the machine see it: names that lead to nodes,
and nodes with a content, permissions and the time of their last change. Two
names may lead to the same node, and a node may be a link to another path, which
is followed wherever a path leads through it.

All text here is a text of octets: a name or a content has a character below 256
for every octet.

## Main definitions

* `Disk`: Names and nodes.
* `Disk.locate`, `Disk.locateName`: The place that a path leads to, with and
  without following a link at its end.
* `Disk.make`, `Disk.unlink`, `Disk.rename`: Change what names lead to.
-/

namespace EnvProfiles

/-- A file of the system that is not on any disk. -/
inductive Device where
  /-- Swallows what is written, and has nothing to read. -/
  | null
  /-- Never ends, and holds null characters. -/
  | zero
  /-- Never ends, and holds octets of all kinds. -/
  | noise
  /-- Has no room for anything. -/
  | full
  /-- A terminal that is not there. -/
  | terminal
  /-- A descriptor of the program that opens it. -/
  | descriptor (number : Nat)
deriving DecidableEq, Repr

/-- The octets that a device has, or as many as anybody reads if it never ends. -/
def Device.octets : Device → String
  | .zero => String.ofList (List.replicate 131072 '\x00')
  | .noise => String.ofList ((List.range 131072).map fun n => Char.ofNat ((n * 167 + 13) % 256))
  | _ => ""

/-- What is found at a node. -/
inductive Content where
  | directory
  | file (octets : String)
  | link (target : String)
  /-- A program that belongs to the machine. -/
  | program (name : String)
  | device (device : Device)
deriving DecidableEq, Repr

/-- A file or directory, whatever its names are. -/
structure Node where
  content : Content
  /-- Who may do what: twelve bits. -/
  mode : Nat
  /-- When the content was last changed, in nanoseconds. -/
  changed : Nat
deriving DecidableEq, Repr

/-- Names that lead to numbers, and the nodes of these numbers. -/
structure Disk where
  names : List (Location × Nat)
  nodes : List (Nat × Node)
  /-- The number of the next node. -/
  next : Nat
  /-- The present, in nanoseconds. -/
  time : Nat
deriving Repr

namespace Disk

/-- The node of the root, which has no name. -/
def root : Node := ⟨.directory, 0o755, 0⟩

/-- The number of the node at a place. -/
def number? (d : Disk) (place : Location) : Option Nat := d.names.lookup place

/-- The node at a place. -/
def node? (d : Disk) (place : Location) : Option Node :=
  if place.isEmpty then some root else (d.number? place).bind fun n => d.nodes.lookup n

/-- What is found at a place. -/
def content? (d : Disk) (place : Location) : Option Content := (d.node? place).map (·.content)

/-- The disk at a later time. -/
def tick (d : Disk) : Disk := { d with time := d.time + 1000000 }

/-- Replaces the node of a number. -/
def setNode (d : Disk) (number : Nat) (node : Node) : Disk :=
  { d with nodes := (number, node) :: d.nodes.filter fun e => e.1 != number }

/-- Replaces the content of a node, as of now. -/
def setContent (d : Disk) (number : Nat) (content : Content) : Disk :=
  let d := d.tick
  match d.nodes.lookup number with
  | some node => d.setNode number { node with content, changed := d.time }
  | none => d

/-- Changes the permissions of what is found at a place. -/
def setMode (d : Disk) (place : Location) (mode : Nat) : Disk :=
  match d.number? place with
  | none => d
  | some n =>
    match d.nodes.lookup n with
    | some node => d.setNode n { node with mode }
    | none => d

/-- Says when what is found at a place was last changed. -/
def setChanged (d : Disk) (place : Location) (changed : Nat) : Disk :=
  match d.number? place with
  | none => d
  | some n =>
    match d.nodes.lookup n with
    | some node => d.setNode n { node with changed }
    | none => d

/-! ### Paths -/

/-- What is found where on the way to a place. -/
def terrain (d : Disk) : Terrain where
  found place :=
    match d.content? place with
    | none => .absent
    | some .directory => .directory
    | some (.link target) => .link target
    | some _ => .other
  size := String.length

/-- The place that names lead to along a path. -/
def follow (d : Disk) (last : Bool) (base : Location) (path : String) (names : List String) :
    Except Refusal Location :=
  d.terrain.along last base path names

/-- The node that a link at a place leads to, or the node at the place. -/
def goal? (d : Disk) (place : Location) : Option Node :=
  match d.terrain.follow true Terrain.linkLimit place.dropLast (place.drop (place.length - 1)) with
  | .ok goal => (d.node? goal).orElse fun _ => d.node? place
  | .error _ => d.node? place

/-- The place that a path leads to, where nothing need be found. -/
def locate (d : Disk) (base : Location) (path : String) : Except Refusal Location :=
  d.follow true base path (Terrain.demandedNames path)

/-- The place that a path names, which may be a link. -/
def locateName (d : Disk) (base : Location) (path : String) : Except Refusal Location :=
  d.follow false base path (Terrain.demandedNames path)

/-- The place and the node at the end of a path. -/
def find (d : Disk) (base : Location) (path : String) : Except Refusal (Location × Node) :=
  match d.locate base path with
  | .error refusal => .error refusal
  | .ok place =>
    match d.node? place with
    | some node => .ok (place, node)
    | none => .error .absent

/-- The place and the node that a path names, which may be a link. -/
def findName (d : Disk) (base : Location) (path : String) : Except Refusal (Location × Node) :=
  match d.locateName base path with
  | .error refusal => .error refusal
  | .ok place =>
    match d.node? place with
    | some node => .ok (place, node)
    | none => .error .absent

/-- Whether a path leads to a directory. -/
def isDirectory (d : Disk) (base : Location) (path : String) : Bool :=
  match d.find base path with
  | .ok (_, node) => node.content == .directory
  | .error _ => false

/-- Whether a path leads to something. -/
def contains (d : Disk) (base : Location) (path : String) : Bool := (d.find base path).isOk

/-! ### Changes -/

/-- Gives a name to a new node. -/
def make (d : Disk) (place : Location) (content : Content) (mode : Nat) : Disk :=
  let d := d.tick
  { d with
    names := d.names.filter (fun e => e.1 != place) ++ [(place, d.next)]
    nodes := (d.next, ⟨content, mode, d.time⟩) :: d.nodes
    next := d.next + 1 }

/-- Gives one more name to a node. -/
def addName (d : Disk) (place : Location) (number : Nat) : Disk :=
  { d with names := d.names.filter (fun e => e.1 != place) ++ [(place, number)] }

/-- Takes a name away. -/
def unlink (d : Disk) (place : Location) : Disk :=
  { d with names := d.names.filter fun e => e.1 != place }

/-- How many names lead to a node. -/
def nameCount (d : Disk) (number : Nat) : Nat := (d.names.filter fun e => e.2 == number).length

/-- The names in a directory, in ascending order. -/
def children (d : Disk) (directory : Location) : List String :=
  (d.names.filterMap fun e => FileSystem.childName? directory e.1).mergeSort fun a b => a ≤ b

/-- Whether a place lies below another one. -/
def isBelow (above place : Location) : Bool :=
  above.length < place.length && above.isPrefixOf place

/-- Takes all names away that lie at or below a place. -/
def unlinkAll (d : Disk) (place : Location) : Disk :=
  { d with names := d.names.filter fun e => !place.isPrefixOf e.1 }

/-- Gives another name to what is found at a place, and to all below it. -/
def rename (d : Disk) (source target : Location) : Disk :=
  let d := d.unlinkAll target
  { d with names := d.names.map fun (place, n) =>
      if source.isPrefixOf place then (target ++ place.drop source.length, n) else (place, n) }

/-- Makes a directory at a path. -/
def makeDirectory (d : Disk) (base : Location) (path : String) (mode : Nat) :
    Except Refusal Disk :=
  match d.follow false base path (Terrain.names path) with
  | .error refusal => .error refusal
  | .ok place =>
    match d.node? place with
    | some _ => .error .present
    | none =>
      -- The directory above must be one.
      match d.content? place.dropLast with
      | some .directory => .ok (d.make place .directory mode)
      | some _ => .error .notDirectory
      | none => .error .absent

/-- The octets of a file at a path. -/
def read (d : Disk) (base : Location) (path : String) : Except Refusal String :=
  match d.find base path with
  | .error refusal => .error refusal
  | .ok (_, node) =>
    match node.content with
    | .file octets => .ok octets
    | .directory => .error .isDirectory
    | .program _ => .ok "\x7fELF"
    | .link _ => .error .tooManyLinks
    | .device .terminal => .error .absent
    | .device d => .ok d.octets

/-- Replaces the octets of a file at a path, which is made if it is missing. -/
def write (d : Disk) (base : Location) (path octets : String) (mode : Nat) : Except Refusal Disk :=
  match d.locate base path with
  | .error refusal => .error refusal
  | .ok place =>
    match d.number? place, d.content? place with
    | _, some .directory => .error .isDirectory
    | _, some (.device _) => .ok d
    | some n, some _ => .ok (d.setContent n (.file octets))
    | _, _ =>
      if d.content? place.dropLast == some .directory then .ok (d.make place (.file octets) mode)
      else .error .absent

/-- Whether a file may be run. -/
def isRunnable (node : Node) : Bool :=
  match node.content with
  | .file _ => node.mode &&& 0o111 != 0
  | .program _ => true
  | _ => false

end Disk

end EnvProfiles
