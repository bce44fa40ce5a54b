import EnvProfiles.Machine.Stream
import EnvProfiles.Text.Octets

/-!
# Files and Disks

The same files seen from two sides: as texts and databases by this library, and
as nodes with octets by the programs of the machine. A machine has more files
than those of the user: its programs and devices, which stay where they are.

The octets of a database file are not those that a database would have, but they
begin like these, and its rows can be read back from them. So programs can copy
and move a database, and one that changes it makes it something else.

## Main definitions

* `Disk.ofFiles`: The disk of a machine with some files on it.
* `Disk.toFiles`: The files that are on a disk.
-/

namespace EnvProfiles

/-- A text as a text of octets. -/
def octetText (text : String) : String := String.ofList (octetsOf text)

/-- The text of octets, with replacements. -/
def readableText (octets : String) : String := readable octets.toList

namespace Disk

/-! ### Databases -/

/-- How a database file begins. -/
def databaseStart : String := "SQLite format 3\x00"

/-- How many octets a small database file has. -/
def databaseSize : Nat := 12288

/-- A text of octets after its length. -/
def measured (text : String) : List Char :=
  let octets := octetsOf text
  Nat.toDigits 10 octets.length ++ ':' :: octets

/-- The octets of a database file. -/
def databaseOctets (rows : List (String × String)) : String :=
  let body := databaseStart.toList ++
    rows.flatMap (fun (key, value) => measured key ++ measured value) ++ ['.']
  let size := (body.length / databaseSize + 1) * databaseSize
  String.ofList (body ++ List.replicate (size - body.length) '\x00')

/-- A text after its length, and what follows. -/
def unmeasured? (cs : List Char) : Option (String × List Char) :=
  let digits := cs.takeWhile Char.isDigit
  let n := digits.foldl (fun n d => n * 10 + (d.toNat - '0'.toNat)) 0
  match cs.drop digits.length with
  | ':' :: r =>
    if digits.isEmpty || r.length < n then none
    else (textOf? (r.take n)).map fun text => (text, r.drop n)
  | _ => none

/-- Rows up to the sign that ends them. The bound is the length of the text. -/
def rows? : Nat → List Char → Option (List (String × String))
  | 0, _ => none
  | n + 1, cs =>
    match cs with
    | '.' :: r => if r.all (· == '\x00') then some [] else none
    | cs =>
      match unmeasured? cs with
      | none => none
      | some (key, r) =>
        match unmeasured? r with
        | none => none
        | some (value, r) => (rows? n r).map ((key, value) :: ·)

/-- The rows that can be read back from the octets of a database file. -/
def databaseRows? (octets : String) : Option (List (String × String)) :=
  if databaseStart.isPrefixOf octets then
    rows? (octets.length + 1) (octets.toList.drop databaseStart.length)
  else none

/-! ### From files -/

/-- The permissions of a directory about which nothing is known. -/
def directoryMode : Nat := 0o755

/-- The permissions of a file about which nothing is known. -/
def fileMode : Nat := 0o644

/-- The permissions of a link, which mean nothing. -/
def linkMode : Nat := 0o777

/-- The users of a machine. -/
def users : String :=
  "root:x:0:0:root:/root:/bin/sh\nnobody:x:65534:65534:nobody:/nonexistent:/usr/sbin/nologin\n"

/-- The groups of a machine. -/
def userGroups : String := "root:x:0:\nnogroup:x:65534:\n"

/-- The directories, links, devices and files of a machine. -/
def skeleton : List (Location × Content) :=
  [(["usr"], .directory), (["usr", "bin"], .directory), (["bin"], .link "usr/bin"),
    (["etc"], .directory), (["etc", "passwd"], .file users), (["etc", "group"], .file userGroups),
    (["etc", "hostname"], .file "localhost\n"), (["root"], .directory), (["home"], .directory),
    (["var"], .directory), (["var", "tmp"], .directory), (["proc"], .directory),
    (["dev"], .directory), (["dev", "null"], .device .null), (["dev", "zero"], .device .zero),
    (["dev", "random"], .device .noise), (["dev", "urandom"], .device .noise),
    (["dev", "full"], .device .full), (["dev", "tty"], .device .terminal),
    (["dev", "stdin"], .device (.descriptor 0)), (["dev", "stdout"], .device (.descriptor 1)),
    (["dev", "stderr"], .device (.descriptor 2)), (["dev", "fd"], .directory)] ++
  (List.range 10).map fun n => (["dev", "fd", toString n], .device (.descriptor n))

/-- The disk of a machine with some programs and nothing else on it. -/
def bare (programs : List String) : Disk :=
  let entries := skeleton ++ programs.map fun name => (["usr", "bin", name], .program name)
  let node (content : Content) : Node := ⟨content, match content with
    | .device _ => 0o666
    | .file _ => 0o644
    | _ => 0o755, 1700000000000000000⟩
  { names := entries.zipIdx.map fun (e, n) => (e.1, n)
    nodes := entries.zipIdx.map fun (e, n) => (n, node e.2)
    next := entries.length
    time := 1750000000000000000 }

/-- The content of an entry, and its permissions. -/
def ofEntry : Entry → Content × Nat
  | .directory => (.directory, directoryMode)
  | .text content => (.file (octetText content), fileMode)
  | .octets content => (.file (String.ofList content), fileMode)
  | .database rows => (.file (databaseOctets rows), fileMode)
  | .link target => (.link (octetText target), linkMode)

/-- Puts a file on a disk, with all its names. -/
def makeNamed (d : Disk) (places : List Location) (entry : Entry) : Disk :=
  let (content, mode) := ofEntry entry
  match places with
  | [] => d
  | place :: others =>
    others.foldl (fun made other => made.addName other d.next) (d.make place content mode)

/-- The disk of a machine with some programs and files on it. -/
def ofFiles (programs : List String) (fs : FileSystem) : Disk :=
  let named (place : Location) : Location := place.map octetText
  let d := fs.nodes.reverse.foldl (fun d (places, entry) =>
    d.makeNamed (places.map named) entry) (bare programs)
  fs.modes.foldl (fun d (place, mode) => d.setMode (named place) mode) d

/-! ### To files -/

/-- The entry of octets. -/
def toEntry (octets : String) : Entry :=
  match databaseRows? octets with
  | some rows => .database rows
  | none =>
    match textOf? octets.toList with
    | some text => .text text
    | none => .octets octets.toList

/-- Whether something at a place is not of the user. -/
def isGiven (place : Location) (content : Content) : Bool :=
  match content with
  | .program _ => place.dropLast == ["usr", "bin"]
  | .device _ => true
  | content => skeleton.contains (place, content)

/-- The entry of a node, and its permissions if they are not the usual ones. -/
def entryOf (node : Node) : Option Entry × Option Nat :=
  let unusual (usual : Nat) : Option Nat := if node.mode == usual then none else some node.mode
  match node.content with
  | .directory => (some .directory, unusual directoryMode)
  | .file octets => (some (toEntry octets), unusual fileMode)
  | .program _ => (some (.octets "\x7fELF".toList), some node.mode)
  | .device _ => (none, none)
  | .link target => (some (.link (readableText target)), none)

/-- Brings the places of one node together, where it is met first. -/
def gather : List (Nat × Location × Entry) → List (Nat × List Location × Entry)
  | [] => []
  | (n, place, entry) :: r =>
    let rest := gather r
    let others := ((rest.lookup n).map (·.1)).getD []
    (n, place :: others, entry) :: rest.filter fun e => e.1 != n

/-- The files of the user that are on a disk. -/
def toFiles (d : Disk) (workplace : Location) : FileSystem :=
  let own := d.names.filterMap fun (place, n) =>
    match d.nodes.lookup n with
    | some node =>
      if isGiven place node.content then none
      else some (n, place.map readableText, entryOf node)
    | none => none
  let named := own.filterMap fun (n, place, entry, _) => entry.map fun e => (n, place, e)
  { nodes := (gather named.reverse).map fun (_, places, entry) => (places, entry)
    workplace
    modes := own.filterMap fun (_, place, _, mode) => mode.map fun m => (place, m) }

end Disk

end EnvProfiles
