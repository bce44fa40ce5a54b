import EnvProfiles.Files.FileSystem
import EnvProfiles.Store.DatabaseName
import EnvProfiles.Store.Table
import EnvProfiles.Text.Escape

/-!
# Databases

A table that is kept in a file. Opening a database makes the directories above
its file, makes the file if there is none, and reads the table from it; every
change is written back, so closing a database loses nothing. The file may be
changed by others while the database is open, so it is looked at again before
each operation.

Three files may stand beside that of a database. A journal makes a change
undoable and is gone when the change is complete; one that is found is left over
from a change that was not, and is removed. A log takes up changes until the
database is closed. If one is found, it is used, with an index of its own; the
last to close the database removes both.

## Main definitions

* `Database`: An open database.
* `Database.openAt`: Opens the database of a path.
* `Database.observe`: Looks at the file of a database again.
* `Database.commit`, `Database.close`: Write the table back and leave the file.
-/

namespace EnvProfiles

/-- Where the table of a database is kept. -/
inductive Keeping where
  | memory (writable shared : Bool)
  | file (place : Location) (access : FileAccess)
deriving DecidableEq, Repr

/-- What the file of a database was found to be. -/
inductive Condition where
  /-- It holds the table. -/
  | sound
  /-- It is gone; its table can still be read. -/
  | gone
  /-- It holds no table. -/
  | empty
  /-- It cannot be used. -/
  | spoiled (detail : String)
deriving DecidableEq, Repr

/-- An open database: the path it was opened with, its table, and what is known of its file. -/
structure Database where
  path : String
  keeping : Keeping
  table : Table
  condition : Condition
  /-- Whether the table was changed and not written back since. -/
  changed : Bool
  /-- Whether changes go to a log. -/
  logging : Bool
deriving DecidableEq, Repr

namespace Database

/-- A table that is kept in memory. -/
def volatile (path : String) (writable shared : Bool) : Database :=
  ⟨path, .memory writable shared, .empty, .sound, false, false⟩

/-- A database that is kept nowhere. -/
def inMemory : Database := volatile ":memory:" true false

/-- How many bytes the whole path of a database may have; more is needed for the names of the files
that go with it. -/
def pathLimit : Nat := 504

/-- What is added to the name of a database for the file that makes a change undoable. -/
def journalSuffix : String := "-journal"

/-- What is added to the name of a database for the file that takes up changes. -/
def logSuffix : String := "-wal"

/-- What is added to the name of a database for the index of its log. -/
def indexSuffix : String := "-shm"

/-- The place beside another whose name is longer by a suffix. -/
def beside (place : Location) (suffix : String) : Location :=
  place.dropLast ++ [place.getLast?.getD "" ++ suffix]

/-- How many links the path of a database may lead through. -/
def linkLimit : Nat := 200

/-- Takes names as they are written, up to the first link. The outcome is the place before it, its
target and the names that are left, or the place at the end. -/
def untilLink (fs : FileSystem) (place : Location) :
    List String → Location × Option (String × List String)
  | [] => (place, none)
  | "." :: r => untilLink fs place r
  | ".." :: r => untilLink fs place.dropLast r
  | name :: r =>
    match fs.entry? (place ++ [name]) with
    | some (.link target) => (place, some (target, r))
    | _ => untilLink fs (place ++ [name]) r

/-- The place that names lead to when they are taken as they are written, apart from links, without
looking at what else is there. -/
def placeFrom (fs : FileSystem) : Nat → Location → List String → Option Location
  | 0, _, _ => none
  | n + 1, place, names =>
    match untilLink fs place names with
    | (place, none) => some place
    | (place, some (target, r)) =>
      placeFrom fs n (if Path.isAbsolute target then [] else place) (Terrain.names target ++ r)

/-- The place that a path names when it is taken as it is written, apart from links. -/
def placeOf (fs : FileSystem) (path : String) : Option Location :=
  placeFrom fs (linkLimit + 1) (if Path.isAbsolute path then [] else fs.workplace)
    (Terrain.names path)

/-- How many bytes the path of a place has. -/
def placeSize (place : Location) : Nat :=
  place.foldl (fun size name => size + name.utf8ByteSize + 1) 0

/-- Whether what is found beside a database counts: an empty file does not. -/
def counts : Option Entry → Bool
  | none => false
  | some (.text content) => content != ""
  | some _ => true

/-- Whether a journal was left by a change that was not completed. -/
def isHot (journal : Option Entry) : Bool :=
  match journal with
  | some (.text content) => content != "" && content.toList.head? != some '\x00'
  | some (.octets content) => content.head? != some '\x00'
  | entry => counts entry

/-- Removes a file beside a database. -/
def dropFile (fs : FileSystem) (place : Location) : FileSystem :=
  if fs.entry? place == some .directory then fs else fs.drop place

/-- A file in the form of the log and its index, which is no text. -/
def binary : Entry := .octets ['\xff']

/-- Uses the log that stands beside a database, if there is one and it can be used. -/
def useLog (db : Database) (place : Location) (access : FileAccess) (fs : FileSystem) :
    Database × FileSystem :=
  let log := fs.entry? (beside place logSuffix)
  if !counts log then (db, fs)
  else if access.locking = .none || log == some .directory then
    ({ db with condition := .spoiled "unable to open database file" }, fs)
  else
    let db := { db with logging := true }
    let index := beside place indexSuffix
    if access.locking = .shared then
      -- An index that is the same file as the database is written over it.
      if fs.sameFile index place then
        ({ db with condition := .spoiled "file is not a database" }, fs.put index binary)
      else (db, fs.put index binary)
    else (db, fs)

/-- Looks at a file that holds no table. -/
def observeEmpty (db : Database) (place : Location) (access : FileAccess) (fs : FileSystem) :
    Database × FileSystem :=
  let db := { db with condition := .empty }
  if access.immutable then (db, fs)
  else
    let journal := beside place journalSuffix
    let log := beside place logSuffix
    let fs := if access.writable && counts (fs.entry? journal) then dropFile fs journal else fs
    if !counts (fs.entry? log) then (db, fs)
    else if fs.entry? log == some .directory then
      ({ db with condition := .spoiled "disk I/O error" }, fs)
    else (db, fs.drop log)

/-- Looks at what stands beside a file that is not empty. -/
def observeBeside (db : Database) (place : Location) (access : FileAccess) (fs : FileSystem) :
    Database × FileSystem :=
  let place' := beside place journalSuffix
  let journal := fs.entry? place'
  if access.immutable then (db, fs)
  else if journal == some .directory then
    ({ db with condition := .spoiled "disk I/O error" }, fs)
  else if isHot journal && !access.writable then
    ({ db with condition := .spoiled "attempt to write a readonly database" }, fs)
  else db.useLog place access (if isHot journal then fs.drop place' else fs)

/-- Looks at the file of a database again, and at the files beside it. While there is a log, it
alone tells whether anything has changed. -/
def observe (db : Database) (fs : FileSystem) : Database × FileSystem :=
  match db.keeping, db.logging with
  | .memory _ _, _ => (db, fs)
  | .file _ _, true => (db, fs)
  | .file place access, false =>
    match fs.entry? place with
    | none => ({ db with condition := .gone }, fs)
    | some (.link _) => ({ db with condition := .gone }, fs)
    | some .directory => ({ db with condition := .spoiled "disk I/O error" }, fs)
    | some (.database rows) =>
      { db with table := ⟨rows⟩, condition := .sound }.observeBeside place access fs
    | some (.text content) =>
      -- A single octet may have been written for technical reasons, and counts as none.
      if content.utf8ByteSize ≤ 1 then db.observeEmpty place access fs
      else { db with condition := .spoiled "file is not a database" }.observeBeside place access fs
    | some (.octets content) =>
      if content.length ≤ 1 then db.observeEmpty place access fs
      else { db with condition := .spoiled "file is not a database" }.observeBeside place access fs

/-- Makes the table in a file that holds none. -/
def fill (db : Database) (place : Location) (access : FileAccess) (fs : FileSystem) :
    Except StoreFault Database × FileSystem :=
  let journal := beside place journalSuffix
  let name := journal.getLast?.getD ""
  if !access.mayWrite then (.error (.refused "attempt to write a readonly database"), fs)
  -- The first change needs a journal.
  else if Terrain.nameLimit < name.utf8ByteSize || fs.entry? journal == some .directory then
    (.error (.refused "unable to open database file"), fs)
  else
    (.ok { db with table := .empty, condition := .sound },
      (fs.drop journal).put place (.database []))

/-- Opens what is found at a place. A file is created if there is none. -/
def openFound (fs : FileSystem) (path : String) (place : Location) (access : FileAccess) :
    Except StoreFault Database × FileSystem :=
  let unopenable := (.error (.unopenable path "unable to open database file"), fs)
  let name := place.getLast?.getD ""
  let start (fs : FileSystem) : Except StoreFault Database × FileSystem :=
    let (db, fs) := Database.observe ⟨path, .file place access, .empty, .gone, false, false⟩ fs
    match db.condition with
    | .sound => (.ok db, fs)
    | .spoiled detail => (.error (.refused detail), fs)
    | _ => db.fill place access fs
  match fs.entry? place with
  | some .directory => unopenable
  | some _ => start fs
  | none =>
    if access.create && name.utf8ByteSize ≤ Terrain.nameLimit &&
        fs.entry? place.dropLast == some .directory then
      start (fs.put place (.text ""))
    else unopenable

/-- Whether the file is missing whose permissions a new file is to get. -/
def lacksSample (fs : FileSystem) (access : FileAccess) : Bool :=
  match access.modeOf with
  | some sample => !fs.contains sample
  | none => false

/-- Opens the file of a database at a place. The file whose permissions it is to get is demanded even
if it need not be created. -/
def openFile (fs : FileSystem) (path : String) (place : Location) (access : FileAccess) :
    Except StoreFault Database × FileSystem :=
  if pathLimit < placeSize place then
    (.error (.unopenable path "unable to open database file"), fs)
  else if lacksSample fs access then (.error (.unopenable path "disk I/O error"), fs)
  else openFound fs path place access

/-- Opens the database that a name stands for. -/
def openNamed (fs : FileSystem) (path : String) : Except StoreFault Database × FileSystem :=
  match DatabaseName.ofText path with
  | .malformed detail => (.error (.unopenable path detail), fs)
  | .file name access =>
    match placeOf fs name with
    | some place => openFile fs path place access
    | none => (.error (.unopenable path "unable to open database file"), fs)
  | .memory writable shared =>
    if writable then (.ok (volatile path writable shared), fs)
    else (.error (.refused "attempt to write a readonly database"), fs)

/-- Opens the database of a path, after the directories above it have been made. -/
def openAt (fs : FileSystem) (path : String) : Except Fault Database × FileSystem :=
  let above := (Path.parent? path).getD ""
  match fs.makeDirectories above with
  | (.error refusal, fs) => (.error (.files (.refused above refusal.detail)), fs)
  | (.ok (), fs) =>
    match openNamed fs path with
    | (.ok db, fs) => (.ok db, fs)
    | (.error fault, fs) => (.error (.store fault), fs)

/-- Opens a database once more while it is open. A table in memory may be shared. -/
def openAgain (db : Database) (fs : FileSystem) : Except Fault Database × FileSystem :=
  match db.keeping with
  | .memory _ true => (.ok db, fs)
  | _ => openAt fs db.path

/-- The database once its table has been written back to its file. -/
def commit (db : Database) (fs : FileSystem) : Database × FileSystem :=
  match db.changed, db.keeping with
  | true, .file place _ =>
    let fs := fs.put place (.database db.table.rows)
    let fs :=
      if db.logging then fs.put (beside place logSuffix) binary
      else dropFile fs (beside place journalSuffix)
    ({ db with changed := false }, fs)
  | _, _ => ({ db with changed := false }, fs)

/-- The files after a database has been closed that nobody else has open. -/
def close (db : Database) (fs : FileSystem) : FileSystem :=
  match db.keeping with
  | .file place access =>
    if db.logging && access.writable then
      (fs.drop (beside place logSuffix)).drop (beside place indexSuffix)
    else fs
  | .memory _ _ => fs

/-- What an open database shows of itself. -/
def description (db : Database) : String :=
  "SqliteStore \x7b path: " ++ Escape.quote db.path ++ ", .. \x7d"

/-- The table, unless the file of the database cannot be read. -/
def readable? (db : Database) : Except StoreFault Table :=
  match db.condition with
  | .sound => .ok db.table
  | .gone => .ok db.table
  | .empty => .error (.refused "no such table: kv")
  | .spoiled detail => .error (.refused detail)

/-- Whether the database was opened in order to change its table. -/
def mayWrite (db : Database) : Bool :=
  match db.keeping with
  | .memory writable _ => writable
  | .file _ access => access.mayWrite

/-- Changes the table, unless the database does not allow it. -/
def update (db : Database) (change : Table → Table) : Except StoreFault Database := do
  let table ← db.readable?
  -- What is written to a file that is gone would be lost.
  if db.mayWrite && db.condition = .sound then
    return { db with table := change table, changed := true }
  else throw (.refused "attempt to write a readonly database")

/-- Removes a key. To remove one that is absent is no change, but demands the same right. -/
def delete (db : Database) (key : String) : Except StoreFault Database := do
  let table ← db.readable?
  if db.mayWrite && (table.select key).isNone then return db
  else db.update fun t => t.delete key

/-- Moves the text of a key to another key. What is not there cannot be moved, and to move a key to
itself is no change. -/
def rename (db : Database) (key newKey : String) : Except StoreFault Database := do
  let table ← db.readable?
  let moved ← KeyStore.rename table key newKey
  if key = newKey then return db else db.update fun _ => moved

instance : KeyStore Database where
  get? db key := db.readable?.map fun t => t.select key
  set db key value := db.update fun t => t.replace key value
  delete := delete
  rename := rename
  keys db := db.readable?.bind KeyStore.keys
  entries db := db.readable?.bind KeyStore.entries
  finite db := by
    cases hr : db.readable? with
    | error fault => exact ⟨[], fun _ _ h => nomatch h⟩
    | ok t =>
      obtain ⟨known, hknown⟩ := KeyStore.finite t
      exact ⟨known, fun key text h => hknown key text h⟩

end Database

end EnvProfiles
