import EnvProfiles.Machine.Disk

/-!
# Streams

What programs read from and write to: pipes, files that have been opened, and
devices. A stream that several programs share has one place at which it goes on,
whichever of them reads or writes next.

## Main definitions

* `Stream`: Something to read from or write to.
* `Machine`: The disk, the streams, and the time.
* `Machine.available`, `Machine.consume`: What can be read from a stream, and reading it.
* `Machine.write`: Writes to a stream.
* `Machine.openFile`: Opens a file.
-/

namespace EnvProfiles

/-- Something to read from or write to. -/
inductive Stream where
  /-- A pipe, with what is left to be read from it. -/
  | source (rest : String)
  /-- A pipe, with what has been written to it, last piece first, and how much that is. -/
  | sink (pieces : List String) (size : Nat)
  /-- A file that has been opened, and where reading and writing goes on. -/
  | file (number : Nat) (place : Nat) (readable writable appending : Bool)
  | device (device : Device)
deriving Repr

/-- How a file is opened. -/
structure Opening where
  readable : Bool
  writable : Bool
  /-- Whether a file is made that is missing. -/
  creates : Bool
  /-- Whether what is in the file is dropped. -/
  clears : Bool
  appending : Bool
  /-- Whether the file must be missing. -/
  exclusive : Bool
deriving DecidableEq, Repr

namespace Opening

def reading : Opening := ⟨true, false, false, false, false, false⟩

def writing : Opening := ⟨false, true, true, true, false, false⟩

def adding : Opening := ⟨false, true, true, false, true, false⟩

def both : Opening := ⟨true, true, true, false, false, false⟩

end Opening

/-- The disk, the streams by their numbers, and what is counted. -/
structure Machine where
  disk : Disk
  streams : Array Stream
  /-- How long programs have slept, in milliseconds. -/
  clock : Nat
  /-- When programs are stopped, if that is to happen. -/
  deadline : Option Nat
  /-- The number of the next program. -/
  process : Nat
deriving Repr

namespace Machine

/-- How much a pipe takes before it is given up that nobody reads from it. -/
def sinkLimit : Nat := 300000

/-- Adds a stream. -/
def addStream (m : Machine) (stream : Stream) : Machine × Nat :=
  ({ m with streams := m.streams.push stream }, m.streams.size)

/-- Replaces a stream. -/
def setStream (m : Machine) (number : Nat) (stream : Stream) : Machine :=
  { m with streams := m.streams.setIfInBounds number stream }

/-- The octets of an open file. -/
def fileOctets (m : Machine) (number : Nat) : String :=
  match m.disk.nodes.lookup number with
  | some ⟨.file octets, _, _⟩ => octets
  | some ⟨.program _, _, _⟩ => "\x7fELF"
  | _ => ""

/-- What is left of a text after some octets. -/
def dropOctets (n : Nat) (text : String) : String :=
  if n == 0 then text else String.ofList (text.toList.drop n)

/-- What can be read from a stream. -/
def available (m : Machine) (number : Nat) : Except Refusal String :=
  match m.streams[number]? with
  | some (.source rest) => .ok rest
  | some (.file node place true _ _) =>
    match m.disk.nodes.lookup node with
    | some ⟨.directory, _, _⟩ => .error .isDirectory
    | _ => .ok (dropOctets place (m.fileOctets node))
  | some (.device d) => .ok d.octets
  | _ => .error .badDescriptor

/-- Reads octets from a stream, which are not seen any more. -/
def consume (m : Machine) (number count : Nat) : Machine :=
  match m.streams[number]? with
  | some (.source rest) => m.setStream number (.source (dropOctets count rest))
  | some (.file node place r w a) => m.setStream number (.file node (place + count) r w a)
  | _ => m

/-- Whether a program can go back to what it has read from a stream. -/
def isSeekable (m : Machine) (number : Nat) : Bool :=
  match m.streams[number]? with
  | some (.file _ _ _ _ _) => true
  | _ => false

/-- A text with a part of it replaced, and with null characters before that part if it is too
short. -/
def overlay (text : String) (place : Nat) (part : String) : String :=
  if place == text.length then text ++ part
  else
    let cs := text.toList
    String.ofList (cs.take place ++ List.replicate (place - cs.length) '\x00' ++ part.toList ++
      cs.drop (place + part.length))

/-- Writes to a stream. -/
def write (m : Machine) (number : Nat) (text : String) : Except Refusal Machine :=
  match m.streams[number]? with
  | some (.sink pieces size) =>
    .ok (m.setStream number (.sink (text :: pieces) (size + text.length)))
  | some (.file node place r true appending) =>
    let before := m.fileOctets node
    let place := if appending then before.length else place
    let m := { m with disk := m.disk.setContent node (.file (overlay before place text)) }
    .ok (m.setStream number (.file node (place + text.length) r true appending))
  | some (.device .full) => if text == "" then .ok m else .error .noSpace
  | some (.device _) => .ok m
  | _ => .error .badDescriptor

/-- Whether more has been written to a pipe than anybody will read. -/
def isOverfull (m : Machine) (number : Nat) : Bool :=
  match m.streams[number]? with
  | some (.sink _ size) => sinkLimit < size
  | _ => false

/-- What has been written to a pipe. -/
def written (m : Machine) (number : Nat) : String :=
  match m.streams[number]? with
  | some (.sink pieces _) => String.join pieces.reverse
  | _ => ""

/-- Opens a file. -/
def openFile (m : Machine) (base : Location) (path : String) (how : Opening) (mode : Nat) :
    Except Refusal (Machine × Stream) :=
  match m.disk.locate base path with
  | .error .absent =>
    -- A slash at the end asks for a directory, which cannot be made this way.
    let missing := how.creates && Terrain.endsWithSlash path &&
      (m.disk.follow true base path (Terrain.names path)).isOk
    .error (if missing then .isDirectory else .absent)
  | .error refusal => .error refusal
  | .ok place =>
    match m.disk.node? place, m.disk.number? place with
    | some node, some number =>
      if how.exclusive then .error .present
      else
        let stream : Stream := .file number 0 how.readable how.writable how.appending
        match node.content with
        | .directory => if how.writable then .error .isDirectory else .ok (m, stream)
        | .device .terminal => .error .absent
        | .device d => .ok (m, .device d)
        | .link _ => .error .tooManyLinks
        | _ =>
          if how.clears then
            .ok ({ m with disk := m.disk.setContent number (.file "") }, stream)
          else .ok (m, stream)
    | some _, none => if how.writable then .error .isDirectory else .error .isDirectory
    | none, _ =>
      if !how.creates then .error .absent
      else
        match m.disk.content? place.dropLast with
        | some .directory =>
          let disk := m.disk.make place (.file "") mode
          .ok ({ m with disk },
            .file m.disk.next 0 how.readable how.writable how.appending)
        | some _ => .error .notDirectory
        | none => .error .absent

end Machine

end EnvProfiles
