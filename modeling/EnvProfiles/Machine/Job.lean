import EnvProfiles.Machine.Stream

/-!
# Jobs

A program at work that starts no other program: how it was called, the disk, what
is left of its standard input, and what it has written so far. What it writes to
its standard output may be kept back until its end, or until it has to say
something about a failure.

## Main definitions

* `Call`: How a program is called.
* `Job`: A program at work.
* `Job.write`, `Job.send`, `Job.complain`: Write something.
* `Job.finished`: The job at its end, with everything written.
-/

namespace EnvProfiles

/-- How a program is called. -/
structure Call where
  /-- The name it is called by. -/
  name : String
  arguments : List String
  environment : List (String × String)
  /-- The directory at which paths begin. -/
  base : Location
  /-- The permissions that new files do not get. -/
  mask : Nat
  /-- The number of the program. -/
  process : Nat
deriving Repr

/-- A program at work. -/
structure Job where
  call : Call
  disk : Disk
  /-- What can be read from the standard input, unless it is closed. -/
  input : Except Refusal String
  /-- Whether what has been read can be given back. -/
  seekable : Bool
  /-- What has been written to which descriptor, last piece first. -/
  sent : List (Nat × String)
  /-- What is kept back, last piece first. -/
  kept : List String
  status : Nat
  /-- How long the program has slept, in milliseconds. -/
  elapsed : Nat
deriving Repr

namespace Job

/-- Writes to the standard output at the end of the job. -/
def write (j : Job) (text : String) : Job := { j with kept := text :: j.kept }

/-- Writes out what has been kept back. -/
def flush (j : Job) : Job :=
  if j.kept.isEmpty then j
  else { j with sent := (1, String.join j.kept.reverse) :: j.sent, kept := [] }

/-- Writes to a descriptor at once. -/
def sendTo (j : Job) (descriptor : Nat) (text : String) : Job :=
  { j with sent := (descriptor, text) :: j.sent }

/-- Writes to the standard output at once. -/
def send (j : Job) (text : String) : Job := j.flush.sendTo 1 text

/-- Says something about a failure, after what has been kept back. -/
def complain (j : Job) (text : String) : Job :=
  j.flush.sendTo 2 (j.call.name ++ ": " ++ text ++ "\n")

/-- The job with a status, unless it has a greater one already. -/
def fail (j : Job) (status : Nat) : Job := { j with status := max j.status status }

/-- The job at its end, with everything written. -/
def finished (j : Job) : Job := j.flush

/-- The value of a variable of the environment. -/
def valueOf? (j : Job) (name : String) : Option String := j.call.environment.lookup name

/-- Reads all of the standard input. -/
def takeInput (j : Job) : Except Refusal String × Job :=
  (j.input, { j with input := j.input.map fun _ => "" })

/-- The octets of a file, or of the standard input if its path is a dash or the device for it. -/
def read (j : Job) (path : String) : Except Refusal String × Job :=
  if path == "-" then j.takeInput
  else
    match j.disk.find j.call.base path with
    | .error refusal => (.error refusal, j)
    | .ok (_, node) =>
      match node.content with
      | .device (.descriptor 0) => j.takeInput
      | _ => (j.disk.read j.call.base path, j)

/-- The permissions of a new file. -/
def fileMode (j : Job) : Nat := 0o666 &&& (0o777 - j.call.mask)

/-- The permissions of a new directory. -/
def directoryMode (j : Job) : Nat := 0o777 &&& (0o777 - j.call.mask)

/-- Replaces the octets of a file. A descriptor that is opened by its path is written to. -/
def writeFile (j : Job) (path octets : String) : Except Refusal Job :=
  match j.disk.find j.call.base path with
  | .ok (_, ⟨.device (.descriptor n), _, _⟩) => .ok (j.sendTo n octets)
  | .ok (_, ⟨.device .terminal, _, _⟩) => .error .absent
  | .ok (_, ⟨.device .full, _, _⟩) => if octets == "" then .ok j else .error .noSpace
  | _ =>
    match j.disk.write j.call.base path octets j.fileMode with
    | .ok disk => .ok { j with disk }
    | .error refusal => .error refusal

/-- Does something for each of some items, one after the other. -/
def forEach {α : Type} (j : Job) (items : List α) (act : Job → α → Job) : Job := items.foldl act j

end Job

end EnvProfiles
