import EnvProfiles.Files.FileSystem
import EnvProfiles.Settings.Basic
import EnvProfiles.Store.Basic

/-!
# Profiles as Files

Writing every stored text to a file of its own, and reading such files back. The
name of a file is the key with a dot and an extension. Nothing is written unless
every key can name a file within the directory.

Files are read in the order of their names. A file that cannot be read ends the
command, and what was stored before it stays stored.

## Main definitions

* `Command.namesFile`: Whether a key can name a file within a directory.
* `Command.exportAll`: Writes every stored text to a file.
* `Command.importAll`: Stores the text of every file in a directory.
-/

namespace EnvProfiles

namespace Command

/-- Whether a key can name a file within a directory. -/
def namesFile (key : String) : Bool :=
  key != "" && key != "." && key != ".." && !key.toList.contains '/'

/-- The fault that the system refuses an operation on a path. -/
def refused (path : String) (refusal : Refusal) : Fault := .files (.refused path refusal.detail)

/-- Writes texts to files one after the other, up to the first that is refused. -/
def writeAll (settings : ExportSettings) (outdir : String) :
    List (String × String) → FileSystem → Except Fault Unit × FileSystem
  | [], fs => (.ok (), fs)
  | (key, text) :: r, fs =>
    let path := Path.join outdir (settings.fileName key)
    match fs.write path text with
    | .ok fs => writeAll settings outdir r fs
    | .error refusal => (.error (refused path refusal), fs)

/-- Writes every stored text to a file in a directory, which is made if it is missing. The outcome
is how many files were written. -/
def exportAll {σ : Type} [KeyStore σ] (store : σ) (outdir : String) (settings : ExportSettings)
    (fs : FileSystem) : Except Fault Nat × FileSystem :=
  match KeyStore.entries store with
  | .error fault => (.error (.store fault), fs)
  | .ok entries =>
    -- All keys are looked at before anything is written.
    match entries.find? fun e => !namesFile e.1 with
    | some (key, _) => (.error (.files (.invalidName key)), fs)
    | none =>
      match fs.makeDirectories outdir with
      | (.error refusal, fs) => (.error (refused outdir refusal), fs)
      | (.ok (), fs) =>
        match writeAll settings outdir entries fs with
        | (.error fault, fs) => (.error fault, fs)
        | (.ok (), fs) => (.ok entries.length, fs)

/-- What is printed after an export. -/
def exported (outdir : String) : String := "Data exported to " ++ outdir ++ "\n"

/-- What is printed when a file has been stored. -/
def imported (key : String) : String := "Imported entry: " ++ key ++ "\n"

/-- What a run of imports has come to: the fault that ended it or the keys that were stored, the
store, and what was printed. -/
structure Import (σ : Type) where
  outcome : Except Fault (List String)
  store : σ
  output : String

/-- Stores the texts of files one after the other, up to the first that cannot be read or stored. -/
def readAll {σ : Type} [KeyStore σ] (settings : ExportSettings) (dir : String) (fs : FileSystem) :
    List String → σ → Import σ
  | [], store => ⟨.ok [], store, ""⟩
  | file :: r, store =>
    let path := Path.join dir file
    match fs.read path with
    | .error refusal => ⟨.error (refused path refusal), store, ""⟩
    | .ok text =>
      let key := settings.keyFor file
      match KeyStore.set store key text with
      | .error fault => ⟨.error (.store fault), store, ""⟩
      | .ok store =>
        let rest := readAll settings dir fs r store
        ⟨rest.outcome.map (key :: ·), rest.store, imported key ++ rest.output⟩

/-- The names of the regular files in a directory, ascending. -/
def regularFiles (entries : List (String × Entry)) : List String :=
  entries.filterMap fun (name, entry) =>
    match entry with
    | .directory => none
    | .link _ => none
    | _ => some name

/-- Stores the text of every regular file in a directory under the key that its name tells. -/
def importAll {σ : Type} [KeyStore σ] (store : σ) (dir : String) (settings : ExportSettings)
    (fs : FileSystem) : Import σ :=
  if !fs.isDirectory dir then ⟨.error (.files (.notFound dir)), store, ""⟩
  else
    match fs.list dir with
    | .error refusal => ⟨.error (refused dir refusal), store, ""⟩
    | .ok entries => readAll settings dir fs (regularFiles entries) store

end Command

end EnvProfiles
