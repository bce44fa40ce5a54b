import EnvProfiles.Settings.Effective
import EnvProfiles.Store.Database

/-!
# How Commands End

What a command leaves behind: the code it ends with or the fault that ended it,
what was printed until then, and the files. All three are there in either case,
since a command that fails may have printed something and changed files before.

## Main definitions

* `Completion`: What a command leaves behind.
* `Command.withStore`: What a command comes to that needs the store.
* `Command.showStore`, `Command.changeStore`: What one comes to that reads or
  changes the store and does nothing else.
-/

namespace EnvProfiles

/-- What a command leaves behind. -/
structure Completion where
  /-- The code that the command ends with, or the fault that ended it. -/
  outcome : Except Fault Nat
  output : String
  /-- What the programs that were started have complained about. -/
  complaints : String
  files : FileSystem

namespace Completion

/-- A command that a fault has ended before anything was printed. -/
def failed (fault : Fault) (files : FileSystem) : Completion := ⟨.error fault, "", "", files⟩

/-- A command that has done its work. -/
def done (output : String) (files : FileSystem) : Completion := ⟨.ok 0, output, "", files⟩

/-- A command that has printed something unless a fault has ended it. -/
def ofOutput (output : Except Fault String) (files : FileSystem) : Completion :=
  match output with
  | .ok text => done text files
  | .error fault => failed fault files

end Completion

namespace Command

/-- What a command comes to that needs the store, which is opened first and closed afterwards. The
command leaves a database behind, of which what was changed is written back. -/
def withStore (settings : Settings) (home : String) (fs : FileSystem)
    (act : Database → FileSystem → Database × Completion) : Completion :=
  match Database.openAt fs (settings.storePath home) with
  | (.error fault, fs) => .failed fault fs
  | (.ok db, fs) =>
    let (db, c) := act db fs
    let (db, fs) := db.commit c.files
    { c with files := db.close fs }

/-- What a command comes to that only reads the store. -/
def showStore (db : Database) (output : Except Fault String) (fs : FileSystem) :
    Database × Completion :=
  (db, .ofOutput output fs)

/-- What a command comes to that changes the store and prints nothing. -/
def changeStore (before : Database) (after : Except Fault Database) (fs : FileSystem) :
    Database × Completion :=
  match after with
  | .ok db => (db, .done "" fs)
  | .error fault => (before, .failed fault fs)

end Command

end EnvProfiles
